import UserAccounts.Proofs.Store.Surroundings

/-!
# Runs that differ in failures

Two runs of a program may get different failures from the store where everything else is the same.
`Program.Alike` relates programs that cannot be told apart by anything but what failures say: they
make the same calls and agree in the end, whichever failures their calls have.

* `Layer.applyAll_blind` — layers hand failures on and otherwise take no notice of them;
* `Memory.serve_erased` — the store in memory does the same whichever failures it is set up with;
* `Surroundings.run_alike` — so programs that are alike agree when they run on stores that are set
  up with different failures.
-/

namespace UserAccounts

/-- Two outcomes that are the same success, or failures that are alike. -/
inductive Agree {ε α : Type} (alike : ε → ε → Prop) : Except ε α → Except ε α → Prop
  | ok (a : α) : Agree alike (.ok a) (.ok a)
  | error {e e' : ε} (h : alike e e') : Agree alike (.error e) (.error e')

namespace Agree

variable {ε α : Type} {alike : ε → ε → Prop}

theorem refl (h : ∀ e, alike e e) (outcome : Except ε α) : Agree alike outcome outcome := by
  cases outcome with
  | ok a => exact .ok a
  | error e => exact .error (h e)

end Agree

/-- Two answers of a store that are the same but for what a failure says. -/
abbrev SameButFailure {α : Type} : Except StoreError α → Except StoreError α → Prop :=
  Agree fun _ _ => True

/-- Two answers to an effect that are the same but for what the failure of a call says. -/
def Effect.SameAnswer : (e : Effect) → e.Answer → e.Answer → Prop
  | .store _ => SameButFailure
  | _ => Eq

/-! ## Programs that are alike -/

namespace Program

variable {α β γ δ : Type}

/-- Two programs that ask for the same, except for what they report, as long as their answers are
the same but for what failures say, and whose results are related in the end. -/
inductive Alike (post : α → β → Prop) : Program α → Program β → Prop
  | done {a : α} {b : β} (h : post a b) : Alike post (.done a) (.done b)
  | shared {e : Effect} {next : e.Answer → Program α} {next' : e.Answer → Program β}
      (rest : ∀ answer answer', e.SameAnswer answer answer' →
        Alike post (next answer) (next' answer')) :
      Alike post (.perform e next) (.perform e next')
  | report {event event' : Event} {next : Unit → Program α} {next' : Unit → Program β}
      (rest : Alike post (next ()) (next' ())) :
      Alike post (.perform (.report event) next) (.perform (.report event') next')

variable {post : α → β → Prop} {post' : γ → δ → Prop} {p : Program α} {q : Program β}

theorem Alike.bind {f : α → Program γ} {g : β → Program δ} (h : Alike post p q)
    (hfg : ∀ a b, post a b → Alike post' (f a) (g b)) : Alike post' (p.bind f) (q.bind g) := by
  induction h with
  | done h => exact hfg _ _ h
  | shared rest ih => exact .shared ih
  | report rest ih => exact .report ih

/-- A program that never calls the store comes to the same in both runs. -/
theorem Quiet.alike_bind {f : α → Program γ} {g : α → Program δ} (hp : p.Quiet)
    (hfg : ∀ a, Alike post' (f a) (g a)) : Alike post' (p.bind f) (p.bind g) := by
  induction p with
  | done a => exact hfg a
  | perform e next ih =>
    obtain ⟨he, hnext⟩ := hp
    cases e with
    | store c => cases he
    | _ =>
      refine .shared fun answer answer' hsame => ?_
      cases hsame
      exact ih answer (hnext answer)

theorem Quiet.alike {p : Program α} (hp : p.Quiet) : Alike Eq p p := by
  have h : Alike Eq (p.bind .done) (p.bind .done) := hp.alike_bind fun a => .done rfl
  rwa [bind_done] at h

theorem Alike.duringRequest (h : Alike post p q) (id : RequestId) :
    Alike post (p.duringRequest id) (q.duringRequest id) := by
  induction h with
  | done h => exact .done h
  | @shared e next next' rest ih =>
    cases e with
    | currentRequest => exact ih (some id) (some id) rfl
    | _ => exact .shared ih
  | report rest ih => exact .report ih

/-- Programs that are alike take the same time. -/
theorem Alike.timed {clock : Clock} (hclock : clock.Quiet) (h : Alike post p q) :
    Alike (fun x y => post x.1 y.1 ∧ x.2 = y.2) (p.timed clock) (q.timed clock) := by
  simp only [Program.timed, bind_eq, pure_eq_done]
  refine (hclock .universal).alike_bind fun start => .shared fun started _ hstarted => ?_
  cases hstarted
  refine h.bind fun a b hab => .shared fun finished _ hfinished => ?_
  cases hfinished
  exact (hclock .universal).alike_bind fun stop => .done ⟨hab, rfl⟩

end Program

/-! ## Stores -/

/-- A store whose calls are the same work whatever failures say. -/
def Store.Blind (store : Store) : Prop :=
  ∀ c, Program.Alike SameButFailure (store.call c) (store.call c)

theorem Store.direct_blind (database user : String) : (Store.direct database user).Blind :=
  fun _ => .shared fun _ _ hsame => .done hsame

namespace Layer

/-- A layer counts failures or reports them, and hands on what it gets. -/
theorem apply_blind {layer : Layer} (hl : layer.Quiet) {store : Store} (hstore : store.Blind) :
    (layer.apply store).Blind := by
  intro c
  cases layer with
  | metered recorder =>
    have hmeasured : Program.Alike SameButFailure
        (Store.measured recorder c (store.call c)) (Store.measured recorder c (store.call c)) := by
      refine .shared fun started _ hstarted => ?_
      cases hstarted
      refine (hstore c).bind fun answer answer' hanswer => .shared fun finished _ hfinished => ?_
      cases hfinished
      refine .shared fun _ _ _ => ?_
      cases hanswer with
      | ok reply => exact .done (.ok reply)
      | error h => exact .shared fun _ _ _ => .done (.error h)
    cases c with
    | rollback tx => exact .shared fun _ _ _ => hmeasured
    | _ => exact hmeasured
  | logged clock =>
    refine ((hstore c).timed hl.2.2).bind ?_
    rintro ⟨answer, timing⟩ ⟨answer', _⟩ ⟨hanswer, rfl⟩
    refine .report ?_
    cases hanswer with
    | ok reply => exact .done (.ok reply)
    | error h => exact .report (.done (.error h))

theorem applyAll_blind {layers : List Layer} (hl : ∀ layer ∈ layers, layer.Quiet) {store : Store}
    (hstore : store.Blind) : (applyAll layers store).Blind := by
  refine applyAll_induction hstore ?_
  intro layer hlayer wrapped hwrapped
  exact apply_blind (hl layer hlayer) hwrapped

end Layer

/-! ## The store in memory -/

/-- What a script says about a statement, whatever the failure. -/
def Scripted.erased : Scripted → Scripted
  | .fail _ => .fail .deadlineExceeded
  | answer => answer

/-- The two ways to go on with a call, if the answers are the same but for what a failure says. -/
inductive Reception.Same {c : Call} : Reception c → Reception c → Prop
  | answered {answer answer' : c.Answer} (h : SameButFailure answer answer') :
      Same (.answered answer) (.answered answer')
  | waiting (until_ : Instant) (inTime : Bool) :
      Same (.waiting until_ inTime) (.waiting until_ inTime)

namespace Memory

/-- The store with one and the same failure in place of all that it was set up with. -/
def erased (m : Memory) : Memory :=
  { m with
    script := m.script.map fun entry => (entry.1, entry.2.erased)
    failures := m.failures.map fun entry => (entry.1, .deadlineExceeded) }

variable (m : Memory)

theorem scripted?_erased (query : String) :
    m.erased.scripted? query = (m.scripted? query).map Scripted.erased := by
  unfold scripted? erased
  rw [List.find?_map, Option.map_map, Option.map_map]
  rfl

theorem failureOf?_erased (operation : Operation) :
    m.erased.failureOf? operation =
      (m.failureOf? operation).map fun _ => .deadlineExceeded := by
  unfold failureOf? erased
  induction m.failures with
  | nil => rfl
  | cons entry rest ih =>
    obtain ⟨kind, e⟩ := entry
    simp only [List.map_cons, List.lookup_cons]
    cases operation == kind with
    | true => rfl
    | false => exact ih

/-- Two results of an operation, each with the store afterwards: the second goes with the first on a
store from which failures are erased. -/
def Erases {A : Type} (same : A → A → Prop) (x y : A × Memory) : Prop :=
  same x.1 y.1 ∧ y.2 = x.2.erased

theorem Erases.ite {A : Type} {same : A → A → Prop} {p : Prop} [Decidable p]
    {x x' y y' : A × Memory} (htrue : Erases same x y) (hfalse : Erases same x' y') :
    Erases same (if p then x else x') (if p then y else y') := by
  by_cases h : p
  · rw [if_pos h, if_pos h]
    exact htrue
  · rw [if_neg h, if_neg h]
    exact hfalse

theorem Erases.answered {c : Call} {x y : c.Answer × Memory} (h : Erases SameButFailure x y) :
    Erases Reception.Same (.answered x.1, x.2) (.answered y.1, y.2) :=
  ⟨.answered h.1, h.2⟩

/-- What is handed out unless it is too late or is made to fail, and what that leaves behind. -/
theorem handedOut_erases {R : Type} (operation : Operation) (now : Instant) (deadline : Deadline)
    {reply : R} {kept kept' : Memory} (hkept : kept' = kept.erased) :
    Erases SameButFailure
      (if deadline.isExpired now then (.error .deadlineExceeded, m)
        else match m.failureOf? operation with
          | some e => (.error e, m)
          | none => (.ok reply, kept))
      (if deadline.isExpired now then (.error .deadlineExceeded, m.erased)
        else match m.erased.failureOf? operation with
          | some e => (.error e, m.erased)
          | none => (.ok reply, kept')) := by
  rw [failureOf?_erased]
  refine .ite ⟨.error trivial, rfl⟩ ?_
  cases m.failureOf? operation with
  | some e => exact ⟨.error trivial, rfl⟩
  | none => exact ⟨.ok reply, hkept⟩

theorem handOut_erased (now : Instant) (deadline : Deadline) (query : String) :
    Erases SameButFailure (m.handOut now deadline query) (m.erased.handOut now deadline query) :=
  m.handedOut_erases .prepare now deadline rfl

theorem handOutTransaction_erased (now : Instant) (deadline : Deadline) :
    Erases SameButFailure (m.handOutTransaction now deadline)
      (m.erased.handOutTransaction now deadline) :=
  m.handedOut_erases .begin now deadline rfl

theorem unlessFailing_erased (operation : Operation) :
    SameButFailure (m.unlessFailing operation) (m.erased.unlessFailing operation) := by
  unfold unlessFailing
  rw [failureOf?_erased]
  cases m.failureOf? operation with
  | some e => exact .error trivial
  | none => exact .ok ()

theorem delay_same {c : Call} (now : Instant) (deadline : Deadline) (latency : Option Span) :
    Reception.Same (c := c) (delay now deadline latency) (delay now deadline latency) := by
  cases latency <;> exact .waiting _ _

theorem startRun_erased {c : Call} {refused : c.Answer} (now : Instant) (s : Statement)
    (deadline : Deadline) :
    Reception.Same (m.startRun refused now s deadline)
      (m.erased.startRun refused now s deadline) := by
  unfold startRun
  by_cases hclosed : m.closed.contains s.key = true
  · rw [if_pos hclosed, if_pos (show m.erased.closed.contains s.key = true from hclosed)]
    exact .answered (.refl (fun _ => trivial) refused)
  · rw [if_neg hclosed, if_neg (show ¬ m.erased.closed.contains s.key = true from hclosed)]
    exact delay_same now deadline m.latency

/-- A call is received in the same way whichever failures the store was set up with. -/
theorem receive_erased (now : Instant) (c : Call) :
    Erases Reception.Same (m.receive now c) (m.erased.receive now c) := by
  cases c with
  | prepare within deadline query =>
    cases within with
    | none =>
      exact Erases.answered (c := .prepare none deadline query)
        (handOut_erased _ now deadline query)
    | some tx =>
      refine .ite (p := m.isDone tx = true) ⟨.answered (.error trivial), rfl⟩ ?_
      exact Erases.answered (c := .prepare (some tx) deadline query)
        (handOut_erased _ now deadline query)
  | begin deadline options =>
    exact Erases.answered (c := .begin deadline options) (handOutTransaction_erased _ now deadline)
  | exec s deadline args => exact ⟨startRun_erased _ now s deadline, rfl⟩
  | queryRow s deadline args => exact ⟨startRun_erased _ now s deadline, rfl⟩
  | queryRows s deadline args => exact ⟨startRun_erased _ now s deadline, rfl⟩
  | close s => exact ⟨.answered (unlessFailing_erased _ .close), rfl⟩
  | commit tx =>
    refine .ite (p := m.isDone tx = true) ⟨.answered (.error trivial), rfl⟩ ?_
    exact ⟨delay_same now _ m.commitLatency, rfl⟩
  | rollback tx =>
    refine .ite (p := m.isDone tx = true) ⟨.answered (.error trivial), rfl⟩ ?_
    exact ⟨.answered (unlessFailing_erased _ .rollback), rfl⟩

/-- What a script answers to a statement that runs, whichever failures are in it. -/
theorem runScript_erased (now : Instant) (deadline : Deadline) (query : String) :
    SameButFailure (m.runScript now deadline query) (m.erased.runScript now deadline query) := by
  unfold runScript
  rw [scripted?_erased]
  by_cases hexpired : deadline.isExpired now = true
  · rw [if_pos hexpired, if_pos hexpired]
    exact .error trivial
  · rw [if_neg hexpired, if_neg hexpired]
    rcases m.scripted? query with _ | (rows | count | e)
    · exact .ok _
    · exact .ok _
    · exact .ok _
    · exact .error trivial

theorem keepWrite_erased (s : Statement) (write : Observed) :
    m.erased.keepWrite s write = (m.keepWrite s write).erased := by
  unfold keepWrite
  cases s.within <;> rfl

/-- What a statement yields when it runs, and what it leaves behind. -/
theorem runScript_erases {R : Type} (now : Instant) (deadline : Deadline) (query : String)
    {reply : Option Scripted → R} {kept kept' : Memory} (hkept : kept' = kept.erased) :
    Erases SameButFailure
      (match m.runScript now deadline query with
        | .error e => (.error e, m)
        | .ok answer => (.ok (reply answer), kept))
      (match m.erased.runScript now deadline query with
        | .error e => (.error e, m.erased)
        | .ok answer => (.ok (reply answer), kept')) := by
  have hrun := m.runScript_erased now deadline query
  generalize m.runScript now deadline query = outcome at hrun ⊢
  generalize m.erased.runScript now deadline query = outcome' at hrun ⊢
  cases hrun with
  | ok answer => exact ⟨.ok _, hkept⟩
  | error h => exact ⟨.error trivial, rfl⟩

/-- A call that has waited is answered in the same way whichever failures the store was set up
with. -/
theorem settle_erased (now : Instant) (inTime : Bool) (c : Call) :
    Erases SameButFailure (m.settle now inTime c) (m.erased.settle now inTime c) := by
  cases c with
  | exec s deadline args =>
    refine .ite (p := (!inTime) = true) ⟨.error trivial, rfl⟩ ?_
    exact m.runScript_erases now deadline s.query (m.keepWrite_erased s _)
  | queryRow s deadline args =>
    refine .ite (p := (!inTime) = true) ⟨.error trivial, rfl⟩ ?_
    exact m.runScript_erases now deadline s.query rfl
  | queryRows s deadline args =>
    refine .ite (p := (!inTime) = true) ⟨.error trivial, rfl⟩ ?_
    exact m.runScript_erases now deadline s.query rfl
  | commit tx =>
    refine .ite (p := (!inTime || (m.deadlineOf tx).isExpired now) = true) ⟨.error trivial, rfl⟩ ?_
    rw [failureOf?_erased]
    cases m.failureOf? .commit with
    | some e => exact ⟨.error trivial, rfl⟩
    | none =>
      have htransactions : m.erased.transactions = m.transactions := rfl
      dsimp only [Option.map]
      rw [htransactions]
      cases m.transactions[tx.key]? with
      | none => exact ⟨.error trivial, rfl⟩
      | some t => exact ⟨.ok (), rfl⟩
  | _ => exact ⟨.error trivial, rfl⟩

/-- The store in memory serves a call in the same way and at the same time whichever failures it was
set up with. -/
theorem serve_erased (now : Instant) (c : Call) :
    SameButFailure (m.serve now c).1 (m.erased.serve now c).1 ∧
      (m.erased.serve now c).2.1 = (m.serve now c).2.1.erased ∧
      (m.erased.serve now c).2.2 = (m.serve now c).2.2 := by
  obtain ⟨hreception, hstore⟩ := m.receive_erased now c
  unfold serve
  generalize m.receive now c = received at hreception hstore ⊢
  generalize m.erased.receive now c = received' at hreception hstore ⊢
  obtain ⟨reception, m₁⟩ := received
  obtain ⟨reception', m₁'⟩ := received'
  dsimp only at hreception hstore
  subst hstore
  cases hreception with
  | answered h => exact ⟨h, rfl, rfl⟩
  | waiting until_ inTime =>
    obtain ⟨hanswer, hsettled⟩ := m₁.settle_erased until_ inTime c
    exact ⟨hanswer, hsettled, rfl⟩

end Memory

namespace SameButFailure

variable {α : Type} {x y z : Except StoreError α}

theorem symm (h : SameButFailure x y) : SameButFailure y x := by
  cases h with
  | ok a => exact .ok a
  | error _ => exact .error trivial

theorem trans (hxy : SameButFailure x y) (hyz : SameButFailure y z) : SameButFailure x z := by
  cases hxy with
  | ok a => exact hyz
  | error _ =>
    cases hyz with
    | error _ => exact .error trivial

end SameButFailure

/-- Stores that are set up alike but for failures serve a call alike but for its failure, at the
same time, and go on to be alike. -/
theorem Memory.serve_same {m m' : Memory} (h : m.erased = m'.erased) (now : Instant) (c : Call) :
    SameButFailure (m.serve now c).1 (m'.serve now c).1 ∧
      (m.serve now c).2.1.erased = (m'.serve now c).2.1.erased ∧
      (m.serve now c).2.2 = (m'.serve now c).2.2 := by
  obtain ⟨hanswer, hstore, htime⟩ := m.serve_erased now c
  obtain ⟨hanswer', hstore', htime'⟩ := m'.serve_erased now c
  rw [← h] at hanswer' hstore' htime'
  exact ⟨hanswer.trans hanswer'.symm, hstore.symm.trans hstore', htime.symm.trans htime'⟩

theorem Surroundings.step_store {τ : Type} (w : Surroundings τ) (s : Memory × τ) (c : Call) :
    w.machine.step s (.store c) =
      ((s.1.serve (w.now s.2) c).1, (s.1.serve (w.now s.2) c).2.1,
        w.arrive s.2 (s.1.serve (w.now s.2) c).2.2) := rfl

/-- Programs that are alike agree in the end when they run in the same surroundings, on stores that
are set up alike but for failures. -/
theorem Surroundings.run_alike {τ α β : Type} (w : Surroundings τ) {post : α → β → Prop}
    {p : Program α} {q : Program β} (h : p.Alike post q) {m m' : Memory}
    (hm : m.erased = m'.erased) (t : τ) :
    post (p.run w.machine (m, t)).1 (q.run w.machine (m', t)).1 ∧
      (p.run w.machine (m, t)).2.1.erased = (q.run w.machine (m', t)).2.1.erased ∧
      (p.run w.machine (m, t)).2.2 = (q.run w.machine (m', t)).2.2 := by
  -- By induction on the programs: each step keeps the stores alike and the surroundings the same.
  induction h generalizing m m' t with
  | done h => exact ⟨h, hm, rfl⟩
  | @shared e next next' rest ih =>
    cases e with
    | store c =>
      obtain ⟨hanswer, hstore, htime⟩ := Memory.serve_same hm (w.now t) c
      rw [Program.run_perform, Program.run_perform, w.step_store, w.step_store, ← htime]
      exact ih _ _ hanswer hstore _
    | _ => exact ih _ _ rfl hm _
  | report rest ih => exact ih hm t

end UserAccounts
