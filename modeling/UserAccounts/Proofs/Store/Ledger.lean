import UserAccounts.Proofs.Store.Serving

/-!
# The ledger of the store in memory

Of all that the store in memory keeps, the `Ledger` is the part that decides over committed writes:
the committed log, and the writes that each transaction still keeps to itself. `Ledger.Moved` says
what a call does to it, and `Memory.receive_moved` and `Memory.settle_moved` that the store does
just that: a call moves the ledger at the moment when it is answered, and leaves it alone while it
waits.
-/

namespace UserAccounts

/-- The committed writes, and those that transactions keep to themselves. -/
structure Ledger where
  committed : List Observed
  /-- The writes of each transaction, by key. -/
  pending : List (List Observed)

/-- The ledger of a store. -/
def Memory.ledger (m : Memory) : Ledger := ⟨m.committed, m.transactions.map (·.pending)⟩

/-- Whether a call can change what is committed. -/
def Call.writes : Call → Bool
  | .exec .. | .commit _ => true
  | _ => false

/-- Whether a call does something by succeeding. -/
def Call.isEffective : Call → Bool
  | .prepare .. | .begin .. | .exec .. | .commit _ => true
  | _ => false

namespace Ledger

/-- The ledger with one more write: with its transaction, or among what is committed. -/
def write (l : Ledger) (s : Statement) (x : Observed) : Ledger :=
  match s.within with
  | some tx => { l with pending := l.pending.modify tx.key (· ++ [x]) }
  | none => { l with committed := l.committed ++ [x] }

/-- What the writes of a transaction are after it ended. -/
def clear (l : Ledger) (tx : Transaction) : Ledger :=
  { l with pending := l.pending.modify tx.key fun _ => [] }

/-- The ledgers before and after a call that is answered. -/
inductive Moved (l : Ledger) : (c : Call) → c.Answer → Ledger → Prop
  | prepared (within : Option Transaction) (d : Deadline) (query : String) (key : Nat) :
      l.Moved (.prepare within d query) (.ok ⟨key, query⟩) l
  | begun (d : Deadline) (options : BeginOptions) :
      l.Moved (.begin d options) (.ok ⟨l.pending.length⟩) { l with pending := l.pending ++ [[]] }
  | written (s : Statement) (d : Deadline) (args : List SqlValue) (affected : Nat) :
      l.Moved (.exec s d args) (.ok affected) (l.write s (.exec s.query args))
  | committed (tx : Transaction) (writes : List Observed) (h : l.pending[tx.key]? = some writes) :
      l.Moved (.commit tx) (.ok ()) { l.clear tx with committed := l.committed ++ writes }
  | rolledBack (tx : Transaction) (answer : Except StoreError Unit) :
      l.Moved (.rollback tx) answer (l.clear tx)
  | unmoved (c : Call) (answer : c.Answer) (h : c.isEffective = true → answer.isOk = false) :
      l.Moved c answer l

/-- Calls that cannot change what is committed do not. -/
theorem Moved.committed_eq {l l' : Ledger} {c : Call} {answer : c.Answer}
    (h : l.Moved c answer l') (hc : c.writes = false) : l'.committed = l.committed := by
  cases h with
  | written s d args affected => cases hc
  | committed tx writes h => cases hc
  | _ => rfl

/-- The ledgers before and after a call that is received. -/
def Received (l : Ledger) {c : Call} : Reception c → Ledger → Prop
  | .answered answer, l' => l.Moved c answer l'
  | .waiting _ _, l' => l' = l

end Ledger

namespace Memory

variable {m m' : Memory} {now : Instant}

/-- Marking a transaction in a way that leaves its writes alone leaves the ledger alone. -/
theorem ledger_modifyTransaction (key : Nat) (f : OpenTransaction → OpenTransaction)
    (g : List Observed → List Observed) (h : ∀ t, (f t).pending = g t.pending) :
    (m.modifyTransaction key f).ledger =
      { m.ledger with pending := m.ledger.pending.modify key g } := by
  simp only [ledger, modifyTransaction, map_modify h]

/-- Waiting leaves the ledger alone. -/
theorem received_delay {c : Call} (l : Ledger) (deadline : Deadline) (latency : Option Span) :
    l.Received (delay (c := c) now deadline latency) l := by
  unfold delay
  split <;> rfl

/-- A call moves the ledger when it is received if it is answered at once, and only then. -/
theorem receive_moved (m : Memory) (now : Instant) (c : Call) :
    m.ledger.Received (m.receive now c).1 (m.receive now c).2.ledger := by
  have hreceived := m.receive_received now c
  -- The record of calls does not show in the ledger.
  show { m with calls := m.calls ++ [c.observed] }.ledger.Received _ _
  generalize { m with calls := m.calls ++ [c.observed] } = r, (m.receive now c).1 = reception,
    (m.receive now c).2 = m' at *
  cases hreceived with
  | prepared within d query => exact .prepared within d query _
  | begun d options =>
    have hbegun : r.ledger.Moved (.begin d options) _ _ := .begun d options
    simpa [ledger, Ledger.Received] using hbegun
  | running hc => exact received_delay _ _ _
  | @committing tx hopen =>
    rw [ledger_modifyTransaction tx.key (fun t => { t with done := true }) id fun _ => rfl,
      List.modify_id]
    exact received_delay _ _ _
  | @rolledBack tx hopen answer =>
    rw [ledger_modifyTransaction tx.key (fun t => { t with done := true, pending := [] })
      (fun _ => []) fun _ => rfl]
    exact .rolledBack tx answer
  | unprepared | notBegun | notRun | notCommitting => exact .unmoved _ _ fun _ => rfl
  | closed | notRolledBack => exact .unmoved _ _ nofun

theorem ledger_keepWrite (s : Statement) (x : Observed) :
    (m.keepWrite s x).ledger = m.ledger.write s x := by
  unfold keepWrite Ledger.write
  cases s.within with
  | none => rfl
  | some tx => exact ledger_modifyTransaction tx.key _ _ fun _ => rfl

/-- A call that has waited moves the ledger when it is answered. -/
theorem settle_moved (m : Memory) (now : Instant) (inTime : Bool) (c : Call) :
    m.ledger.Moved c (m.settle now inTime c).1 (m.settle now inTime c).2.ledger := by
  have hsettled := m.settle_settled now inTime c
  generalize (m.settle now inTime c).1 = answer, (m.settle now inTime c).2 = m' at *
  cases hsettled with
  | failed c e => exact .unmoved _ _ fun _ => rfl
  | written s d args affected =>
    rw [ledger_keepWrite]
    exact .written s d args affected
  | readRow | readRows => exact .unmoved _ _ nofun
  | committed tx t ht =>
    -- What was pending moves over to the committed log, and nothing is pending any more.
    rw [ledger_modifyTransaction tx.key (fun t => { t with pending := [] }) (fun _ => [])
      fun _ => rfl]
    exact .committed tx t.pending (by simp [ledger, ht])

/-- A call that is served from beginning to end moves the ledger once. -/
theorem serve_moved (m : Memory) (now : Instant) (c : Call) :
    m.ledger.Moved c (m.serve now c).1 (m.serve now c).2.1.ledger := by
  have hreceived := m.receive_moved now c
  unfold serve
  generalize m.receive now c = received at hreceived
  obtain ⟨reception, m'⟩ := received
  cases reception with
  | answered answer => exact hreceived
  | waiting until_ inTime =>
    have hsame : m'.ledger = m.ledger := hreceived
    rw [← hsame]
    exact m'.settle_moved until_ inTime c

end Memory

end UserAccounts
