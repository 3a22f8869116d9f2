import UserAccounts.Proofs.Store.LifeCycle
import UserAccounts.Proofs.Store.Serving

/-!
# Refusals of the store in memory

Of all that the store in memory keeps, its `Roster` is the part that decides which calls fail. A
call changes it as `Roster.after` says (`Memory.serve_roster`), so the store always knows which
transactions have ended and which statements were closed. It does not make use of all of that:
running a statement, it does not ask whether the transaction has ended, and closing one, it does not
ask whether it was closed before. It goes by the rule `LifeCycle.noticed?` (`Memory.goesBy`).
-/

namespace UserAccounts

/-! ## The rule of the store in memory -/

namespace LifeCycle

/-- Whether a call against the life cycle is let pass by the store in memory. -/
def overlooks (l : LifeCycle) : Call → Bool
  | .exec s _ _ | .queryRow s _ _ | .queryRows s _ _ => l.ended && s.key ∉ l.closed
  | .close s => s.key ∈ l.closed
  | .prepare .. | .begin .. | .commit _ | .rollback _ => false

/-- Why a call is refused by the store in memory, if it is. -/
def noticed? (l : LifeCycle) (c : Call) : Option StoreError :=
  if l.overlooks c then none else l.refusal? c

/-- Whether none of some calls is overlooked. -/
def heeds (tx : Transaction) : LifeCycle → List Call → Bool
  | _, [] => true
  | l, c :: rest => !l.overlooks c && heeds tx (l.after tx c) rest

variable {l : LifeCycle} {tx : Transaction}

theorem noticed?_close (s : Statement) : l.noticed? (.close s) = none := by
  by_cases hclosed : s.key ∈ l.closed <;> simp [noticed?, overlooks, refusal?, hclosed]

/-- Only a closed statement is not run. -/
theorem noticed?_of_run {c : Call} {s : Statement} (hoverlooks : l.overlooks c =
      (l.ended && s.key ∉ l.closed)) (hrefusal : l.refusal? c = l.unusable? s.key) :
    l.noticed? c = if s.key ∈ l.closed then some .statementClosed else none := by
  rw [noticed?, hoverlooks, hrefusal, unusable?, late?]
  by_cases hclosed : s.key ∈ l.closed <;> cases l.ended <;> simp [hclosed]

/-- Only calls against the life cycle are overlooked. -/
theorem refusal?_of_overlooks {c : Call} (h : l.overlooks c = true) :
    ∃ e, l.refusal? c = some e := by
  cases c with
  | exec s | queryRow s | queryRows s =>
    obtain ⟨hended, hopen⟩ := Bool.and_eq_true_iff.mp h
    exact ⟨_, unusable?_eq_some.mpr (.inr ⟨of_decide_eq_true hopen, hended, rfl⟩)⟩
  | close s => exact ⟨_, refusal?_close_eq_some.mpr ⟨of_decide_eq_true h, rfl⟩⟩
  | prepare | begin | commit | rollback => cases h

theorem verdict_eq_iff {c : Call} {key : Nat} :
    l.verdict noticed? key c = l.verdict refusal? key c ↔ l.overlooks c = false := by
  cases hc : l.overlooks c with
  | false => simp [verdict, noticed?, hc]
  | true =>
    obtain ⟨e, he⟩ := refusal?_of_overlooks hc
    simp [verdict, noticed?, hc, he]

/-- The store in memory goes by the life cycle as long as it overlooks nothing, and no longer. -/
theorem verdicts_eq_iff {calls : List Call} {key : Nat} :
    l.verdicts noticed? tx key calls = l.verdicts refusal? tx key calls ↔
      l.heeds tx calls = true := by
  induction calls generalizing l key with
  | nil => exact iff_of_true rfl rfl
  | cons c rest ih =>
    simp only [verdicts, List.cons.injEq, heeds, Bool.and_eq_true, Bool.not_eq_true',
      verdict_eq_iff]
    refine and_congr_right fun hc => ?_
    rw [verdict_eq_iff.mpr hc]
    exact ih

end LifeCycle

/-! ## The roster -/

/-- What decides which calls fail in memory. -/
structure Roster where
  /-- Which transactions have ended, by key. -/
  ended : List Bool
  closed : List Nat
  statements : Nat
  script : List (String × Scripted)
  failures : List (Operation × StoreError)

/-- The roster after a call. -/
def Roster.after (s : Roster) : Call → Verdict → Roster
  | .prepare .., v => { s with statements := v.next s.statements }
  | .begin .., .ok _ => { s with ended := s.ended ++ [false] }
  | .close statement, _ => { s with closed := statement.key :: s.closed }
  | .commit tx, _ | .rollback tx, _ => { s with ended := s.ended.modify tx.key fun _ => true }
  | _, _ => s

theorem Roster.after_statements (s : Roster) (c : Call) (answer : c.Answer) :
    (s.after c (c.verdict answer)).statements = (c.verdict answer).next s.statements := by
  cases c <;> cases answer <;> rfl

theorem Roster.after_script (s : Roster) (c : Call) (v : Verdict) :
    (s.after c v).script = s.script ∧ (s.after c v).failures = s.failures := by
  cases c with
  | begin => cases v <;> exact ⟨rfl, rfl⟩
  | _ => exact ⟨rfl, rfl⟩

/-- The rosters before and after a call that is received. -/
def Roster.Received (s : Roster) {c : Call} : Reception c → Roster → Prop
  | .answered answer, s' => s' = s.after c (c.verdict answer)
  | .waiting _ _, s' => ∀ v, s' = s.after c v

namespace Memory

/-- The roster of a store. -/
def roster (m : Memory) : Roster :=
  ⟨m.transactions.map (·.done), m.closed, m.statements, m.script, m.failures⟩

variable {m : Memory} {now : Instant}

theorem roster_modifyTransaction (key : Nat) (f : OpenTransaction → OpenTransaction)
    (g : Bool → Bool) (h : ∀ t, (f t).done = g t.done) :
    (m.modifyTransaction key f).roster =
      { m.roster with ended := m.roster.ended.modify key g } := by
  simp only [roster, modifyTransaction, map_modify h]

/-- A change to the writes of a transaction does not show. -/
theorem roster_of_pending (key : Nat) (f : OpenTransaction → OpenTransaction)
    (h : ∀ t, (f t).done = t.done) : (m.modifyTransaction key f).roster = m.roster := by
  rw [roster_modifyTransaction key f id h, List.modify_id]

/-- Ending what has ended changes nothing. -/
theorem roster_of_isDone {tx : Transaction} (h : m.isDone tx = true) :
    m.roster.ended.modify tx.key (fun _ => true) = m.roster.ended := by
  apply List.ext_getElem?
  intro i
  rw [List.getElem?_modify]
  by_cases hi : tx.key = i
  · subst hi
    unfold isDone at h
    cases ht : m.transactions[tx.key]? with
    | none => simp [roster, ht]
    | some t =>
      rw [ht] at h
      simp [roster, ht, show t.done = true from h]
  · simp [hi]

theorem delay_roster {c : Call} {s s' : Roster} (h : ∀ v, s' = s.after c v)
    (deadline : Deadline) (latency : Option Span) :
    s.Received (delay (c := c) now deadline latency) s' := by
  unfold delay
  split <;> exact h

/-- Running a statement does not change the roster. -/
theorem roster_after_of_run {c : Call} {d : Deadline} (hc : c.runDeadline? = some d) (s : Roster)
    (v : Verdict) : s = s.after c v := by
  cases c with
  | exec | queryRow | queryRows => rfl
  | _ => cases hc

/-- A call changes the roster when it is received. -/
theorem receive_roster (m : Memory) (now : Instant) (c : Call) :
    m.roster.Received (m.receive now c).1 (m.receive now c).2.roster := by
  have hreceived := m.receive_received now c
  -- The record of calls does not show in the roster.
  show { m with calls := m.calls ++ [c.observed] }.roster.Received _ _
  generalize { m with calls := m.calls ++ [c.observed] } = r, (m.receive now c).1 = reception,
    (m.receive now c).2 = m' at *
  cases hreceived with
  | prepared | unprepared | notBegun | closed => rfl
  | begun d options => simp [Roster.Received, roster, Roster.after, Call.verdict, Except.map]
  | notRun hc e => exact roster_after_of_run hc _ _
  | running hc => exact delay_roster (roster_after_of_run hc _) _ _
  | notCommitting hdone e | notRolledBack hdone e =>
    simp only [Roster.Received, Roster.after, roster_of_isDone hdone]
  | @committing tx hopen =>
    -- The transaction is marked as ended before the commit takes its time.
    rw [roster_modifyTransaction tx.key (fun t => { t with done := true }) (fun _ => true)
      fun _ => rfl]
    exact delay_roster (fun _ => rfl) _ _
  | @rolledBack tx hopen answer =>
    exact roster_modifyTransaction tx.key _ (fun _ => true) fun _ => rfl

/-- A call that has waited changes nothing more. -/
theorem settle_roster (m : Memory) (now : Instant) (inTime : Bool) (c : Call) :
    (m.settle now inTime c).2.roster = m.roster := by
  have hsettled := m.settle_settled now inTime c
  generalize (m.settle now inTime c).1 = answer, (m.settle now inTime c).2 = m' at *
  cases hsettled with
  | failed | readRow | readRows => rfl
  | written s d args affected =>
    unfold keepWrite
    split
    · exact roster_of_pending _ _ fun _ => rfl
    · rfl
  | committed tx t ht => exact roster_of_pending _ _ fun _ => rfl

/-- What a call does to the roster. -/
theorem serve_roster (m : Memory) (now : Instant) (c : Call) :
    (m.serve now c).2.1.roster = m.roster.after c (c.verdict (m.serve now c).1) := by
  have hreceived := m.receive_roster now c
  unfold serve
  generalize m.receive now c = received at hreceived
  obtain ⟨reception, r⟩ := received
  cases reception with
  | answered answer => exact hreceived
  | waiting until_ inTime => exact (r.settle_roster until_ inTime c).trans (hreceived _)

theorem isDone_eq_false_iff {tx : Transaction} :
    m.isDone tx = false ↔ m.roster.ended[tx.key]? = some false := by
  unfold isDone roster
  rw [List.getElem?_map]
  cases m.transactions[tx.key]? <;> simp

/-! ## Following the life cycle -/

/-- The failure that the script has for a call, if any. -/
def scriptedFailure? (m : Memory) : Call → Option StoreError
  | .prepare .. => m.failureOf? .prepare
  | .begin .. => m.failureOf? .begin
  | .exec s _ _ | .queryRow s _ _ | .queryRows s _ _ =>
    match m.scripted? s.query with
    | some (.fail e) => some e
    | _ => none
  | .close _ => m.failureOf? .close
  | .commit _ => m.failureOf? .commit
  | .rollback _ => m.failureOf? .rollback

/-- No call changes the script. -/
theorem scriptedFailure?_of_roster {m m' : Memory} {c : Call} {v : Verdict}
    (h : m'.roster = m.roster.after c v) : m'.scriptedFailure? = m.scriptedFailure? := by
  have hscript : m'.script = m.script :=
    (congrArg Roster.script h).trans (m.roster.after_script c v).1
  have hfailures : m'.failures = m.failures :=
    (congrArg Roster.failures h).trans (m.roster.after_script c v).2
  funext call
  simp only [scriptedFailure?, failureOf?, scripted?, hscript, hfailures]

/-- A store that knows of a transaction, and of closed statements, what the life cycle says. -/
structure Follows (tx : Transaction) (l : LifeCycle) (m : Memory) : Prop where
  ended : m.roster.ended[tx.key]? = some l.ended
  closed : ∀ key, key ∈ m.closed ↔ key ∈ l.closed

variable {tx : Transaction} {l : LifeCycle}

theorem Follows.isDone_eq (h : Follows tx l m) : m.isDone tx = l.ended := by
  have hended := h.ended
  simp only [roster, List.getElem?_map, Option.map_eq_some_iff] at hended
  obtain ⟨t, ht, hdone⟩ := hended
  simp only [isDone, ht, hdone]

theorem Follows.isDone_of_late (h : Follows tx l m) {e : StoreError} (hlate : l.late? = some e) :
    (∀ calls, { m with calls }.isDone tx = true) ∧ e = .transactionDone := by
  obtain ⟨hended, rfl⟩ := LifeCycle.late?_eq_some.mp hlate
  exact ⟨fun _ => h.isDone_eq.trans hended, rfl⟩

theorem Follows.isDone_of_not_late (h : Follows tx l m) (hlate : l.late? = none)
    (calls : List Observed) : { m with calls }.isDone tx = false :=
  h.isDone_eq.trans (LifeCycle.late?_eq_none.mp hlate)

/-- With the roster after a call, the store knows what the life cycle says after it. -/
theorem Follows.step (h : Follows tx l m) {c : Call} {v : Verdict} {m' : Memory}
    (hroster : m'.roster = m.roster.after c v) : Follows tx (l.after tx c) m' := by
  have hclosed : m'.closed = (m.roster.after c v).closed := congrArg Roster.closed hroster
  have hended : m'.roster.ended = (m.roster.after c v).ended :=
    congrArg Roster.ended hroster
  cases c with
  | prepare | exec | queryRow | queryRows =>
    exact ⟨hended ▸ h.ended, hclosed ▸ h.closed⟩
  | begin d options =>
    cases v with
    | error e => exact ⟨hended ▸ h.ended, hclosed ▸ h.closed⟩
    | ok reply =>
      refine ⟨?_, hclosed ▸ h.closed⟩
      rw [hended]
      exact (List.getElem?_append_left (List.getElem?_eq_some_iff.mp h.ended).1).trans h.ended
  | close s =>
    refine ⟨hended ▸ h.ended, fun key => ?_⟩
    rw [hclosed]
    show key ∈ s.key :: m.closed ↔ key ∈ s.key :: l.closed
    rw [List.mem_cons, List.mem_cons, h.closed]
  | commit t | rollback t =>
    refine ⟨?_, hclosed ▸ h.closed⟩
    rw [hended]
    show (m.roster.ended.modify t.key fun _ => true)[tx.key]? = some (l.ended || t == tx)
    by_cases ht : t = tx
    · subst ht
      simp [h.ended]
    · have hkey : t.key ≠ tx.key := fun heq => ht (by cases t; cases tx; cases heq; rfl)
      simp [List.getElem?_modify_ne _ _ hkey, h.ended, ht]

/-! ## Answers -/

/-- That a failure of a call is due to its deadline or to the script. -/
def Excused (m : Memory) (c : Call) (e : StoreError) : Prop :=
  e = .deadlineExceeded ∨ m.scriptedFailure? c = some e

theorem excused_handOut (within : Option Transaction) {deadline : Deadline} {query : String}
    {e : StoreError} (h : (m.handOut now deadline query).1 = .error e) :
    m.Excused (.prepare within deadline query) e := by
  unfold handOut at h
  split at h
  · cases h
    exact .inl rfl
  · split at h
    · rename_i hfailure
      cases h
      exact .inr hfailure
    · cases h

theorem of_unlessFailing {operation : Operation} {e : StoreError}
    (h : m.unlessFailing operation = .error e) : m.failureOf? operation = some e := by
  unfold unlessFailing at h
  split at h
  · rename_i hfailure
    cases h
    exact hfailure
  · cases h

theorem of_runScript {deadline : Deadline} {query : String} {e : StoreError}
    (h : m.runScript now deadline query = .error e) :
    e = .deadlineExceeded ∨ m.scripted? query = some (.fail e) := by
  unfold runScript at h
  split at h
  · cases h
    exact .inl rfl
  · split at h
    · rename_i hfail
      cases h
      exact .inr hfail
    · cases h

/-- A call that has waited fails for no other reason, but for a commit of what was never begun. -/
theorem excused_settle {inTime : Bool} {c : Call} {e : StoreError}
    (hc : ∀ t, c = .commit t → m.transactions[t.key]? ≠ none)
    (h : (m.settle now inTime c).1 = .error e) : m.Excused c e := by
  cases c with
  | prepare | begin | close | rollback =>
    cases h
    exact .inl rfl
  | exec s deadline args | queryRow s deadline args | queryRows s deadline args =>
    simp only [settle] at h
    split at h
    · cases h
      exact .inl rfl
    · split at h
      · rename_i hrun
        cases h
        exact (of_runScript hrun).imp id fun hfail => by simp only [scriptedFailure?, hfail]
      · cases h
  | commit t =>
    simp only [settle] at h
    split at h
    · cases h
      exact .inl rfl
    · split at h
      · rename_i hfailure
        cases h
        exact .inr hfailure
      · split at h
        · exact absurd ‹_› (hc t rfl)
        · cases h

/-- What the store notices it refuses. -/
theorem Follows.serve_refused (h : Follows tx l m) {c : Call} (hc : c.Concerns tx) {e : StoreError}
    (hnoticed : l.noticed? c = some e) : (m.serve now c).1 = .error e := by
  cases c with
  | begin d options => cases hc
  | prepare within d query =>
    obtain rfl : within = some tx := hc
    obtain ⟨hdone, rfl⟩ := h.isDone_of_late hnoticed
    simp only [serve, receive, hdone, if_true]
  | exec s d args | queryRow s d args | queryRows s d args =>
    rw [LifeCycle.noticed?_of_run rfl rfl] at hnoticed
    split at hnoticed
    · rename_i hmem
      cases hnoticed
      have hclosed : m.closed.contains s.key = true :=
        List.contains_iff_mem.mpr ((h.closed _).mpr hmem)
      simp only [serve, receive, startRun, hclosed, if_true]
    · cases hnoticed
  | close s =>
    rw [LifeCycle.noticed?_close] at hnoticed
    cases hnoticed
  | commit t | rollback t =>
    obtain rfl : t = tx := hc
    obtain ⟨hdone, rfl⟩ := h.isDone_of_late hnoticed
    simp only [serve, receive, hdone, if_true]

/-- That a call which is received is not refused on the store's own account. -/
def Unrefused (m : Memory) {c : Call} : Reception c → Prop
  | .answered answer => ∀ e, answer = .error e → m.Excused c e
  | .waiting _ _ => True

theorem unrefused_delay {c : Call} (deadline : Deadline) (latency : Option Span) :
    m.Unrefused (delay (c := c) now deadline latency) := by
  unfold delay
  split <;> trivial

theorem unrefused_startRun {s : Statement} (hs : s.key ∉ m.closed) {c : Call} (refused : c.Answer)
    (deadline : Deadline) : m.Unrefused (m.startRun refused now s deadline) := by
  have hclosed : m.closed.contains s.key = false := by
    rw [List.contains_eq_mem, decide_eq_false hs]
  simp only [startRun, hclosed, Bool.false_eq_true, if_false]
  exact unrefused_delay deadline m.latency

theorem Follows.unrefused_receive (h : Follows tx l m) (now : Instant) {c : Call}
    (hc : c.Concerns tx) (hnoticed : l.noticed? c = none) : m.Unrefused (m.receive now c).1 := by
  cases c with
  | begin d options => cases hc
  | prepare within d query =>
    obtain rfl : within = some tx := hc
    simp only [receive, h.isDone_of_not_late hnoticed, Bool.false_eq_true, if_false]
    intro e he
    have hexcused := excused_handOut (some tx) he
    exact hexcused
  | exec s d args | queryRow s d args | queryRows s d args =>
    have hopen : s.key ∉ m.closed := by
      rw [LifeCycle.noticed?_of_run rfl rfl] at hnoticed
      rw [h.closed]
      exact fun hmem => by simp [hmem] at hnoticed
    exact unrefused_startRun (m := { m with calls := m.calls ++ [_] }) hopen _ d
  | close s => exact fun e he => .inr (of_unlessFailing he)
  | commit t =>
    obtain rfl : t = tx := hc
    simp only [receive, h.isDone_of_not_late hnoticed, Bool.false_eq_true, if_false]
    exact unrefused_delay _ _
  | rollback t =>
    obtain rfl : t = tx := hc
    simp only [receive, h.isDone_of_not_late hnoticed, Bool.false_eq_true, if_false]
    exact fun e he => .inr (of_unlessFailing he)

/-- What the store does not notice fails for other reasons only. -/
theorem Follows.serve_passed (h : Follows tx l m) {c : Call} (hc : c.Concerns tx)
    (hnoticed : l.noticed? c = none) {e : StoreError} (he : (m.serve now c).1 = .error e) :
    m.Excused c e := by
  have hroster := m.receive_roster now c
  have hunrefused := h.unrefused_receive now hc hnoticed
  unfold serve at he
  generalize m.receive now c = received at *
  obtain ⟨reception, r⟩ := received
  cases reception with
  | answered answer => exact hunrefused e he
  | waiting until_ inTime =>
    have hr : Follows tx (l.after tx c) r := h.step (hroster (.ok none))
    -- The store still has the transaction, so that it can be committed.
    have hbegun : ∀ t, c = .commit t → r.transactions[t.key]? ≠ none := by
      rintro t rfl hnone
      obtain rfl : t = tx := hc
      have hended := hr.ended
      simp [roster, hnone] at hended
    have hexcused := excused_settle hbegun he
    unfold Excused at hexcused ⊢
    rwa [scriptedFailure?_of_roster (hroster (.ok none))] at hexcused

theorem of_handOut {deadline : Deadline} {query : String} {p : Prepared}
    (h : (m.handOut now deadline query).1 = .ok p) : ⟨m.statements, query⟩ = p := by
  unfold handOut at h
  split at h
  · cases h
  · split at h
    · cases h
    · cases h
      rfl

/-- What is handed out gets the next key. -/
theorem Follows.serve_wanted (h : Follows tx l m) {c : Call} (hc : c.Concerns tx)
    (hnoticed : l.noticed? c = none) {reply : c.Reply} (hreply : (m.serve now c).1 = .ok reply) :
    c.verdict (.ok reply) = .ok (c.wanted? m.statements) := by
  cases c with
  | begin d options => cases hc
  | prepare within d query =>
    obtain rfl : within = some tx := hc
    simp only [serve, receive, h.isDone_of_not_late hnoticed, Bool.false_eq_true, if_false]
      at hreply
    obtain rfl := of_handOut hreply
    rfl
  | exec | queryRow | queryRows | close | commit | rollback => rfl

theorem of_handOutTransaction {deadline : Deadline} {tx : Transaction}
    (h : (m.handOutTransaction now deadline).1 = .ok tx) : ⟨m.transactions.length⟩ = tx := by
  unfold handOutTransaction at h
  split at h
  · cases h
  · split at h
    · cases h
    · cases h
      rfl

/-- A transaction that is handed out begins its life with nothing said about it. -/
theorem follows_begin {deadline : Deadline} {options : BeginOptions}
    (h : (m.serve now (.begin deadline options)).1 = .ok tx) :
    let begun := (m.serve now (.begin deadline options)).2.1
    Follows tx ⟨false, m.closed⟩ begun ∧ begun.statements = m.statements ∧
      begun.scriptedFailure? = m.scriptedFailure? := by
  have hanswer := h
  simp only [serve, receive] at hanswer
  have hkey := of_handOutTransaction hanswer
  obtain rfl : ⟨m.transactions.length⟩ = tx := hkey
  have hroster := m.serve_roster now (.begin deadline options)
  rw [h] at hroster
  have hended := congrArg Roster.ended hroster
  have hclosed := congrArg Roster.closed hroster
  refine ⟨⟨?_, fun key => ?_⟩, congrArg Roster.statements hroster,
    scriptedFailure?_of_roster hroster⟩
  · rw [hended]
    simp [Roster.after, Call.verdict, Except.map, roster]
  · show key ∈ (m.serve now (.begin deadline options)).2.1.roster.closed ↔ _
    rw [hclosed]
    rfl

/-- The store in memory goes by what it notices. -/
theorem goesBy (tx : Transaction) (script : Call → Option StoreError) :
    Backend.memory.GoesBy LifeCycle.noticed? tx
      (fun c => c.Concerns tx ∧ ∀ e, script c = some e → e.isRefusal = false)
      (fun l key m => Follows tx l m ∧ m.statements = key ∧ m.scriptedFailure? = script) := by
  rintro l key m now c ⟨h, rfl, rfl⟩ ⟨hc, hscript⟩
  intro served hanswer
  have hroster := m.serve_roster now c
  have hverdict : c.verdict (m.serve now c).1 = l.verdict LifeCycle.noticed? m.statements c := by
    unfold LifeCycle.verdict
    cases hnoticed : l.noticed? c with
    | some e => simp [h.serve_refused hc hnoticed]
    | none =>
      cases hserved : (m.serve now c).1 with
      | ok reply => exact h.serve_wanted hc hnoticed hserved
      | error e =>
        -- Neither the deadline nor the script has made the call fail, so nothing has.
        have hrefusal := hanswer e hserved
        rcases h.serve_passed hc hnoticed hserved with rfl | hfailure
        · cases hrefusal
        · rw [hscript e hfailure] at hrefusal
          cases hrefusal
  refine ⟨hverdict, h.step hroster, ?_, scriptedFailure?_of_roster hroster⟩
  rw [← hverdict]
  exact (congrArg Roster.statements hroster).trans (m.roster.after_statements c _)

end Memory

end UserAccounts
