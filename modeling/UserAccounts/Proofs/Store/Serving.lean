import Mathlib
import UserAccounts.Store.Memory

/-!
# What calls do to the store in memory

A call is recorded, and then the store does one of the things that `Memory.Received` lists. If the
call has to wait for its answer, the store does one of those that `Memory.Settled` lists when the
time has come. What is true of every call is shown from these two lists: what becomes of committed
writes, which calls are refused, and how long they take.
-/

namespace UserAccounts

/-- What is kept of the elements of a list changes along with one of them. -/
theorem map_modify {α β : Type} {l : List α} {view : α → β} {f : α → α} {g : β → β}
    (h : ∀ a, view (f a) = g (view a)) (i : Nat) :
    (l.modify i f).map view = (l.map view).modify i g := by
  apply List.ext_getElem?
  intro j
  simp only [List.getElem?_map, List.getElem?_modify]
  by_cases hj : i = j
  · simp [hj, Function.comp_def, h]
  · simp [hj]

/-- The deadline of a call that runs a statement. -/
def Call.runDeadline? : Call → Option Deadline
  | .exec _ d _ | .queryRow _ d _ | .queryRows _ d _ => some d
  | _ => none

namespace Memory

/-- What the store does with a call that it has recorded: what comes of the call at first, and what
the store is after that. -/
inductive Received (m : Memory) (now : Instant) : (c : Call) → Reception c → Memory → Prop
  | prepared (within : Option Transaction) (d : Deadline) (query : String) :
      Received m now (.prepare within d query) (.answered (.ok ⟨m.statements, query⟩))
        { m with statements := m.statements + 1 }
  | unprepared (within : Option Transaction) (d : Deadline) (query : String) (e : StoreError) :
      Received m now (.prepare within d query) (.answered (.error e)) m
  | begun (d : Deadline) (options : BeginOptions) :
      Received m now (.begin d options) (.answered (.ok ⟨m.transactions.length⟩))
        { m with
          begun := m.begun ++ [options]
          transactions := m.transactions ++ [⟨d, [], false⟩] }
  | notBegun (d : Deadline) (options : BeginOptions) (e : StoreError) :
      Received m now (.begin d options) (.answered (.error e))
        { m with begun := m.begun ++ [options] }
  /-- A statement that was closed is not run. -/
  | notRun {c : Call} {d : Deadline} (hc : c.runDeadline? = some d) (e : StoreError) :
      Received m now c (.answered (.error e)) m
  | running {c : Call} {d : Deadline} (hc : c.runDeadline? = some d) :
      Received m now c (delay now d m.latency) m
  | closed (s : Statement) (answer : Except StoreError Unit) :
      Received m now (.close s) (.answered answer) { m with closed := s.key :: m.closed }
  /-- A transaction that has ended does not end again. -/
  | notCommitting {tx : Transaction} (hdone : m.isDone tx = true) (e : StoreError) :
      Received m now (.commit tx) (.answered (.error e)) m
  | committing {tx : Transaction} (hopen : m.isDone tx = false) :
      Received m now (.commit tx) (delay now (m.deadlineOf tx) m.commitLatency)
        (m.modifyTransaction tx.key fun t => { t with done := true })
  | notRolledBack {tx : Transaction} (hdone : m.isDone tx = true) (e : StoreError) :
      Received m now (.rollback tx) (.answered (.error e)) m
  | rolledBack {tx : Transaction} (hopen : m.isDone tx = false) (answer : Except StoreError Unit) :
      Received m now (.rollback tx) (.answered answer)
        (m.modifyTransaction tx.key fun t => { t with done := true, pending := [] })

/-- What the store does when a call has waited: what it answers, and what the store is after
that. -/
inductive Settled (m : Memory) : (c : Call) → c.Answer → Memory → Prop
  | failed (c : Call) (e : StoreError) : Settled m c (.error e) m
  | written (s : Statement) (d : Deadline) (args : List SqlValue) (affected : Nat) :
      Settled m (.exec s d args) (.ok affected) (m.keepWrite s (.exec s.query args))
  | readRow (s : Statement) (d : Deadline) (args : List SqlValue) (row : Option Row) :
      Settled m (.queryRow s d args) (.ok row) m
  | readRows (s : Statement) (d : Deadline) (args : List SqlValue) (rows : List Row) :
      Settled m (.queryRows s d args) (.ok rows) m
  | committed (tx : Transaction) (t : OpenTransaction) (ht : m.transactions[tx.key]? = some t) :
      Settled m (.commit tx) (.ok ())
        ({ m with committed := m.committed ++ t.pending }.modifyTransaction tx.key
          fun t => { t with pending := [] })

variable {m : Memory} {now : Instant}

theorem deadlineOf_modifyTransaction (key : Nat) {f : OpenTransaction → OpenTransaction}
    (h : ∀ t, (f t).deadline = t.deadline) (tx : Transaction) :
    (m.modifyTransaction key f).deadlineOf tx = m.deadlineOf tx := by
  unfold deadlineOf modifyTransaction
  rw [List.getElem?_modify]
  cases m.transactions[tx.key]? with
  | none => rfl
  | some t =>
    by_cases hkey : key = tx.key
    · simp [hkey, h]
    · simp [hkey]

theorem received_handOut (within : Option Transaction) (d : Deadline) (query : String) :
    m.Received now (.prepare within d query) (.answered (m.handOut now d query).1)
      (m.handOut now d query).2 := by
  unfold handOut
  split
  · exact .unprepared within d query _
  · split
    · exact .unprepared within d query _
    · exact .prepared within d query

theorem received_startRun {c : Call} {s : Statement} {d : Deadline}
    (hc : c.runDeadline? = some d) (e : StoreError) :
    m.Received now c (m.startRun (.error e) now s d) m := by
  unfold startRun
  split
  · exact .notRun hc e
  · exact .running hc

/-- What the store does with a call. -/
theorem receive_received (m : Memory) (now : Instant) (c : Call) :
    { m with calls := m.calls ++ [c.observed] }.Received now c (m.receive now c).1
      (m.receive now c).2 := by
  unfold receive
  generalize { m with calls := m.calls ++ [c.observed] } = r
  cases c with
  | prepare within d query =>
    cases within with
    | none => exact received_handOut none d query
    | some tx =>
      dsimp only
      split
      · exact .unprepared _ d query _
      · exact received_handOut (some tx) d query
  | begin d options =>
    simp only [handOutTransaction]
    split
    · exact .notBegun d options _
    · split
      · exact .notBegun d options _
      · exact .begun d options
  | exec s d args | queryRow s d args | queryRows s d args => exact received_startRun rfl _
  | close s => exact .closed s _
  | commit tx =>
    dsimp only
    split
    · rename_i hdone
      exact .notCommitting hdone _
    · rename_i hopen
      have hsame := deadlineOf_modifyTransaction (m := r) tx.key
        (f := fun t => { t with done := true }) (fun _ => rfl) tx
      rw [hsame]
      exact .committing (Bool.eq_false_iff.mpr hopen)
  | rollback tx =>
    dsimp only
    split
    · rename_i hdone
      exact .notRolledBack hdone _
    · rename_i hopen
      exact .rolledBack (Bool.eq_false_iff.mpr hopen) _

/-- What the store does when a call has waited. -/
theorem settle_settled (m : Memory) (now : Instant) (inTime : Bool) (c : Call) :
    m.Settled c (m.settle now inTime c).1 (m.settle now inTime c).2 := by
  cases c with
  | exec s d args =>
    simp only [settle]
    split
    · exact .failed _ _
    · split
      · exact .failed _ _
      · exact .written s d args _
  | queryRow s d args =>
    simp only [settle]
    split
    · exact .failed _ _
    · split
      · exact .failed _ _
      · exact .readRow s d args _
  | queryRows s d args =>
    simp only [settle]
    split
    · exact .failed _ _
    · split
      · exact .failed _ _
      · exact .readRows s d args _
  | commit tx =>
    simp only [settle]
    split
    · exact .failed _ _
    · split
      · exact .failed _ _
      · split
        · exact .failed _ _
        · rename_i t ht
          exact .committed tx t ht
  | prepare | begin | close | rollback => exact .failed _ _

end Memory

end UserAccounts
