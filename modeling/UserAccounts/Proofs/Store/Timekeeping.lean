import UserAccounts.Proofs.Store.Ledger
import UserAccounts.Proofs.Store.Roster
import UserAccounts.Proofs.Store.Transparency

/-!
# Time at work on the store in memory

Most of what a program asks for takes no time. `Program.Finishes` says when and how a program ends
that starts at some time with some store in memory: it follows the calls to the store and the time
that they take, and leaves open what else is answered. Whatever is put in between that takes no time
makes no difference (`Annotates.finishes`), and every run in a world ends as it says
(`Program.Finishes.run`).

Of the store in memory, the `Timetable` is the part that decides how long calls take, next to its
`Roster` and its `Ledger`; `Memory.serve_timetable` says what a call does to it. A call that goes by
a deadline is answered by then, whatever its answer is (`Memory.serve_le`).
-/

namespace UserAccounts

/-! ## Instants -/

namespace Instant

variable {t : Instant} {j k : Nat}

theorem le_antisymm {a b : Instant} (hab : a ≤ b) (hba : b ≤ a) : a = b := by
  cases a
  cases b
  exact congrArg Instant.mk (Nat.le_antisymm hab hba)

theorem after_ofMillis_zero (t : Instant) : t.after (.ofMillis 0) = t := by
  simp only [after, Span.ofMillis, Nat.zero_mul, Nat.add_zero]

theorem after_after_ofMillis (t : Instant) (j k : Nat) :
    (t.after (.ofMillis j)).after (.ofMillis k) = t.after (.ofMillis (j + k)) := by
  simp only [after, Span.ofMillis, Nat.add_mul, Nat.add_assoc]

theorem after_ofMillis_lt : t.after (.ofMillis j) < t.after (.ofMillis k) ↔ j < k := by
  simp only [lt_def, after, Span.ofMillis, Span.millisecond]
  omega

theorem le_after (t : Instant) (d : Span) : t ≤ t.after d :=
  le_def.mpr (Nat.le_add_right _ _)

end Instant

/-! ## Programs in time -/

/-- An effect that is not about the store and takes no time. -/
def Effect.Instantaneous : Effect → Prop
  | .store _ | .wait .. => False
  | _ => True

theorem Effect.Instantaneous.isCall_eq {e : Effect} (he : e.Instantaneous) : e.isCall = false := by
  cases e with
  | store => exact he.elim
  | _ => rfl

/-- A clock whose readings take no time. -/
def Clock.Prompt (clock : Clock) : Prop := ∀ zone, (clock.read zone).Only Effect.Instantaneous

/-- Identifiers that are made in no time. -/
def Identifiers.Prompt (ids : Identifiers) : Prop := ids.next.Only Effect.Instantaneous

/-- A layer that takes no time on its own account. -/
def Layer.Prompt (layer : Layer) : Prop := layer.Asides Effect.Instantaneous

theorem Clock.Prompt.quiet {clock : Clock} (h : clock.Prompt) : clock.Quiet :=
  fun zone => (h zone).mono fun _ he => he.isCall_eq

theorem Identifiers.Prompt.quiet {ids : Identifiers} (h : ids.Prompt) : ids.Quiet :=
  Program.Only.mono h fun _ he => he.isCall_eq

theorem Clock.wall_prompt : Clock.wall.Prompt := fun _ => ⟨trivial, fun _ => trivial⟩

theorem Identifiers.fresh_prompt : Identifiers.fresh.Prompt := ⟨trivial, fun _ => trivial⟩

theorem Layer.metered_prompt (recorder : Recorder) : (Layer.metered recorder).Prompt :=
  ⟨trivial, fun _ => trivial⟩

theorem Layer.logged_prompt {clock : Clock} (h : clock.Prompt) : (Layer.logged clock).Prompt :=
  ⟨trivial, fun _ => trivial, h⟩

namespace Program

variable {α β : Type} {post : α → Instant → Memory → Prop} {now : Instant} {m : Memory}

/-- Starting at some time and with some store in memory, a program ends with a result, at a time and
with a store that meet a postcondition, whatever is answered to what is neither about the store nor
about the time. -/
def Finishes (post : α → Instant → Memory → Prop) : Program α → Instant → Memory → Prop
  | .done a, now, m => post a now m
  | .perform (.store c) next, now, m =>
    (next (m.serve now c).1).Finishes post (m.serve now c).2.2 (m.serve now c).2.1
  | .perform .now next, now, m => (next now).Finishes post now m
  | .perform (.wait deadline d) next, now, m =>
    (next (deadline.await now (now.after d)).2).Finishes post (deadline.await now (now.after d)).1 m
  | .perform _ next, now, m => ∀ answer, (next answer).Finishes post now m

@[simp] theorem finishes_done {a : α} : (done a).Finishes post now m ↔ post a now m := Iff.rfl

@[simp] theorem finishes_store {c : Call} {next : c.Answer → Program α} :
    (perform (.store c) next).Finishes post now m ↔
      (next (m.serve now c).1).Finishes post (m.serve now c).2.2 (m.serve now c).2.1 := Iff.rfl

@[simp] theorem finishes_now {next : Instant → Program α} :
    (perform .now next).Finishes post now m ↔ (next now).Finishes post now m := Iff.rfl

@[simp] theorem finishes_report {event : Event} {next : Unit → Program α} :
    (perform (.report event) next).Finishes post now m ↔
      ∀ answer, (next answer).Finishes post now m := Iff.rfl

theorem Finishes.bind {post : β → Instant → Memory → Prop} {p : Program α} {f : α → Program β}
    (h : p.Finishes (fun a now' m' => (f a).Finishes post now' m') now m) :
    (p.bind f).Finishes post now m := by
  induction p generalizing now m with
  | done a => exact h
  | perform e next ih =>
    cases e with
    | store | now | wait => exact ih _ h
    | _ => exact fun answer => ih answer (h answer)

/-- What takes no time leaves everything as it is. -/
theorem Only.finishes {p : Program α} (hp : p.Only Effect.Instantaneous)
    (hpost : ∀ a, post a now m) : p.Finishes post now m := by
  induction p with
  | done a => exact hpost a
  | perform e next ih =>
    cases e with
    | store | wait => exact hp.1.elim
    | now => exact ih now (hp.2 now)
    | _ => exact fun answer => ih answer (hp.2 answer)

theorem Only.finishes_bind {post : β → Instant → Memory → Prop} {p : Program α}
    {f : α → Program β} (hp : p.Only Effect.Instantaneous)
    (hf : ∀ a, (f a).Finishes post now m) : (p.bind f).Finishes post now m :=
  (hp.finishes hf).bind

end Program

/-- What is put in between and takes no time makes no difference to how a program ends. -/
theorem Annotates.finishes {α : Type} {post : α → Instant → Memory → Prop} {p q : Program α}
    (h : Annotates Effect.Instantaneous p q) {now : Instant} {m : Memory}
    (hp : p.Finishes post now m) : q.Finishes post now m := by
  induction h generalizing now m with
  | done a => exact hp
  | @shared e next next' rest ih =>
    cases e with
    | store | now | wait => exact ih _ hp
    | _ => exact fun answer => ih answer (hp answer)
  | @aside p e next' he rest ih =>
    cases e with
    | store | wait => exact he.elim
    | now => exact ih now hp
    | _ => exact fun answer => ih answer hp

namespace World

/-- What takes no time leaves the time and the store of a world as they are. -/
theorem step_of_instantaneous (w : World Memory) {e : Effect} (he : e.Instantaneous) :
    (w.step .memory e).2.now = w.now ∧ (w.step .memory e).2.store = w.store := by
  cases e with
  | store | wait => exact he.elim
  | observe recorder o =>
    show (w.keep recorder o).now = w.now ∧ (w.keep recorder o).store = w.store
    unfold keep
    split
    · exact ⟨rfl, rfl⟩
    · exact ⟨rfl, rfl⟩
    · split <;> exact ⟨rfl, rfl⟩
  | freshRequest =>
    obtain ⟨drawn, hdrawn⟩ := w.step_freshRequest .memory
    rw [hdrawn]
    exact ⟨rfl, rfl⟩
  | _ => exact ⟨rfl, rfl⟩

end World

/-- As a program ends at some time with some store, it ends when it is run in a world with that time
and that store. -/
theorem Program.Finishes.run {α : Type} {post : α → Instant → Memory → Prop} {p : Program α}
    {w : World Memory} (h : p.Finishes post w.now w.store) :
    post (p.run (World.machine .memory) w).1 (p.run (World.machine .memory) w).2.now
      (p.run (World.machine .memory) w).2.store := by
  induction p generalizing w with
  | done a => exact h
  | perform e next ih =>
    refine ih _ ?_
    -- Calls, readings of the time and waits are followed; what is left takes no time.
    have hrest (he : e.Instantaneous)
        (hnext : ∀ answer, (next answer).Finishes post w.now w.store) :
        (next (w.step .memory e).1).Finishes post (w.step .memory e).2.now
          (w.step .memory e).2.store := by
      obtain ⟨hnow, hstore⟩ := w.step_of_instantaneous he
      rw [hnow, hstore]
      exact hnext _
    cases e with
    | store | now | wait => exact h
    | _ => exact hrest trivial h

/-! ## The timetable -/

/-- What decides how long calls take in memory. -/
structure Timetable where
  latency : Option Span
  commitLatency : Option Span
  /-- The deadlines of the transactions, by key. -/
  deadlines : List Deadline

namespace Timetable

/-- The timetable after a call. -/
def after (s : Timetable) : Call → Verdict → Timetable
  | .begin deadline _, .ok _ => { s with deadlines := s.deadlines ++ [deadline] }
  | _, _ => s

/-- The timetables before and after a call that is received. -/
def Received (s : Timetable) {c : Call} : Reception c → Timetable → Prop
  | .answered answer, s' => s' = s.after c (c.verdict answer)
  | .waiting _ _, s' => ∀ v, s' = s.after c v

variable {s s' : Timetable} {c : Call}

theorem received_delay (h : ∀ v, s' = s.after c v) (now : Instant) (deadline : Deadline)
    (latency : Option Span) : s.Received (Memory.delay (c := c) now deadline latency) s' := by
  unfold Memory.delay
  split <;> exact h

theorem prefix_after (s : Timetable) (c : Call) (v : Verdict) :
    s.deadlines <+: (s.after c v).deadlines := by
  cases c with
  | begin => cases v <;> simp [after]
  | _ => exact List.prefix_refl _

end Timetable

/-- The timetable of a store. -/
def Memory.timetable (m : Memory) : Timetable :=
  ⟨m.latency, m.commitLatency, m.transactions.map (·.deadline)⟩

/-- That a transaction has a certain deadline. -/
def Memory.TransactionDue (m : Memory) (tx : Transaction) (due : Instant) : Prop :=
  m.timetable.deadlines[tx.key]? = some ⟨some due⟩

namespace Memory

variable {m : Memory} {now due : Instant}

theorem TransactionDue.getElem?_eq {tx : Transaction} (h : m.TransactionDue tx due) :
    ∃ t, m.transactions[tx.key]? = some t ∧ t.deadline = ⟨some due⟩ := by
  simpa only [TransactionDue, timetable, List.getElem?_map, Option.map_eq_some_iff] using h

theorem TransactionDue.deadlineOf_eq {tx : Transaction} (h : m.TransactionDue tx due) :
    m.deadlineOf tx = ⟨some due⟩ := by
  obtain ⟨t, ht, hdue⟩ := h.getElem?_eq
  simp only [deadlineOf, ht, hdue]

theorem TransactionDue.of_timetable_eq {m' : Memory} {tx : Transaction}
    (h : m.TransactionDue tx due) (heq : m'.timetable = m.timetable) :
    m'.TransactionDue tx due := by
  unfold TransactionDue
  rw [heq]
  exact h

/-- No transaction changes its deadline. -/
theorem timetable_modifyTransaction (key : Nat) (f : OpenTransaction → OpenTransaction)
    (h : ∀ t, (f t).deadline = t.deadline) :
    (m.modifyTransaction key f).timetable = m.timetable := by
  simp only [timetable, modifyTransaction, map_modify (g := id) h, List.modify_id]

/-- Running a statement does not change the timetable. -/
theorem timetable_after_of_run {c : Call} {d : Deadline} (hc : c.runDeadline? = some d)
    (s : Timetable) (v : Verdict) : s = s.after c v := by
  cases c with
  | exec | queryRow | queryRows => rfl
  | _ => cases hc

/-- A call changes the timetable when it is received. -/
theorem receive_timetable (m : Memory) (now : Instant) (c : Call) :
    m.timetable.Received (m.receive now c).1 (m.receive now c).2.timetable := by
  have hreceived := m.receive_received now c
  -- The record of calls does not show in the timetable.
  show { m with calls := m.calls ++ [c.observed] }.timetable.Received _ _
  generalize { m with calls := m.calls ++ [c.observed] } = r, (m.receive now c).1 = reception,
    (m.receive now c).2 = m' at *
  cases hreceived with
  | prepared | unprepared | notBegun | closed | notCommitting | notRolledBack => rfl
  | begun d options =>
    simp [Timetable.Received, timetable, Timetable.after, Call.verdict, Except.map]
  | notRun hc e => exact timetable_after_of_run hc _ _
  | running hc => exact Timetable.received_delay (timetable_after_of_run hc _) _ _ _
  | @committing tx hopen =>
    rw [timetable_modifyTransaction tx.key (fun t => { t with done := true }) fun _ => rfl]
    exact Timetable.received_delay (fun _ => rfl) _ _ _
  | @rolledBack tx hopen answer => exact timetable_modifyTransaction tx.key _ fun _ => rfl

/-- A call that has waited changes nothing more. -/
theorem settle_timetable (m : Memory) (now : Instant) (inTime : Bool) (c : Call) :
    (m.settle now inTime c).2.timetable = m.timetable := by
  have hsettled := m.settle_settled now inTime c
  generalize (m.settle now inTime c).1 = answer, (m.settle now inTime c).2 = m' at *
  cases hsettled with
  | failed | readRow | readRows => rfl
  | written s d args affected =>
    unfold keepWrite
    split
    · exact timetable_modifyTransaction _ _ fun _ => rfl
    · rfl
  | committed tx t ht => exact timetable_modifyTransaction _ _ fun _ => rfl

/-- What a call does to the timetable. -/
theorem serve_timetable (m : Memory) (now : Instant) (c : Call) :
    (m.serve now c).2.1.timetable = m.timetable.after c (c.verdict (m.serve now c).1) := by
  have hreceived := m.receive_timetable now c
  unfold serve
  generalize m.receive now c = received at hreceived
  obtain ⟨reception, r⟩ := received
  cases reception with
  | answered answer => exact hreceived
  | waiting until_ inTime => exact (r.settle_timetable until_ inTime c).trans (hreceived _)

theorem serve_transactionDue {tx : Transaction} (h : m.TransactionDue tx due) (c : Call) :
    (m.serve now c).2.1.TransactionDue tx due := by
  obtain ⟨more, hmore⟩ := m.timetable.prefix_after c (c.verdict (m.serve now c).1)
  rw [← serve_timetable] at hmore
  unfold TransactionDue at h ⊢
  rw [← hmore]
  exact (List.getElem?_append_left (List.getElem?_eq_some_iff.mp h).1).trans h

/-! ## Calls that go by a deadline -/

/-- That a call goes by a deadline. Only calls that run statements and commits do take time. -/
def CallDue (m : Memory) (due : Instant) : Call → Prop
  | .exec _ d _ | .queryRow _ d _ | .queryRows _ d _ => d = ⟨some due⟩
  | .commit tx => m.TransactionDue tx due
  | _ => True

/-- What has to wait is not due after some time. -/
def NotAfter {c : Call} (due : Instant) : Reception c → Prop
  | .answered _ => True
  | .waiting until_ _ => until_ ≤ due

theorem notAfter_delay {c : Call} (hnow : now ≤ due) (latency : Option Span) :
    NotAfter due (delay (c := c) now ⟨some due⟩ latency) := by
  cases latency with
  | none => exact hnow
  | some latency =>
    show (Deadline.await ⟨some due⟩ now (now.after latency)).1 ≤ due
    simp only [Deadline.await]
    split
    · exact hnow
    · split
      · assumption
      · split
        · exact hnow
        · exact Nat.le_refl _

theorem notAfter_receive (hnow : now ≤ due) {c : Call} (hc : m.CallDue due c) :
    NotAfter due (m.receive now c).1 := by
  have hreceived := m.receive_received now c
  have hrecorded : { m with calls := m.calls ++ [c.observed] }.CallDue due c := hc
  generalize { m with calls := m.calls ++ [c.observed] } = r, (m.receive now c).1 = reception,
    (m.receive now c).2 = m' at *
  cases hreceived with
  | @running c d hrun =>
    have hd : d = ⟨some due⟩ := by
      cases c with
      | exec | queryRow | queryRows => exact (Option.some.inj hrun).symm.trans hrecorded
      | _ => cases hrun
    rw [hd]
    exact notAfter_delay hnow _
  | @committing tx hopen =>
    have hdue : r.TransactionDue tx due := hrecorded
    rw [hdue.deadlineOf_eq]
    exact notAfter_delay hnow _
  | _ => trivial

/-- A call that goes by a deadline is answered by then. -/
theorem serve_le (hnow : now ≤ due) {c : Call} (hc : m.CallDue due c) :
    (m.serve now c).2.2 ≤ due := by
  have hreceived := notAfter_receive hnow hc
  unfold serve
  generalize m.receive now c = received at hreceived
  obtain ⟨reception, r⟩ := received
  cases reception with
  | answered answer => exact hnow
  | waiting until_ inTime => exact hreceived

end Memory

end UserAccounts
