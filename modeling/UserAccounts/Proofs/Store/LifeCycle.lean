import Mathlib
import UserAccounts.World

/-!
# The life of a transaction and of its statements

The rules by which a store refuses calls on a transaction and on the statements that were prepared
in it, as a small machine of its own (`LifeCycle`). It knows whether the transaction has ended and
which statements were closed, and it learns this from the calls alone, whatever came of them:

* the first call to commit or to roll back ends the transaction (`LifeCycle.run_ended`);
* after that, calls on the transaction are refused, and so are its statements unless they are
  refused for being closed;
* a statement that was closed (`LifeCycle.mem_closed_run`) is refused for that, with its transaction
  ended or not.

`Backend.after` is a store after some calls, which may be about other transactions as well. A store
may refuse calls by another rule than `LifeCycle.refusal?`: `Backend.GoesBy` says for one call that
it goes by a given rule, and `GoesBy.verdicts_eq` draws from it what it makes of all calls together.
-/

namespace UserAccounts

/-- A call with the time at which it is made. -/
abbrev TimedCall := Instant × Call

/-- Whether a call is about a transaction or about a statement that was prepared in it. -/
def Call.Concerns (tx : Transaction) : Call → Prop
  | .prepare within _ _ => within = some tx
  | .begin .. => False
  | .exec s _ _ | .queryRow s _ _ | .queryRows s _ _ | .close s => s.within = some tx
  | .commit t | .rollback t => t = tx

instance (tx : Transaction) (c : Call) : Decidable (c.Concerns tx) :=
  match c with
  | .prepare within _ _ => inferInstanceAs (Decidable (within = some tx))
  | .begin .. => inferInstanceAs (Decidable False)
  | .exec s _ _ | .queryRow s _ _ | .queryRows s _ _ | .close s =>
    inferInstanceAs (Decidable (s.within = some tx))
  | .commit t | .rollback t => inferInstanceAs (Decidable (t = tx))

/-- Whether a failure says that a call came too late in the life of what it is about. -/
def StoreError.isRefusal : StoreError → Bool
  | .transactionDone | .statementClosed => true
  | _ => false

/-- What is known of a transaction and of the statements of a store. -/
structure LifeCycle where
  /-- Whether the transaction was asked to commit or to roll back. -/
  ended : Bool
  /-- The keys of the statements that were asked to close. -/
  closed : List Nat
  deriving DecidableEq

namespace LifeCycle

/-- What is known after one more call. -/
def after (tx : Transaction) (l : LifeCycle) : Call → LifeCycle
  | .commit t | .rollback t => { l with ended := l.ended || t == tx }
  | .close s => { l with closed := s.key :: l.closed }
  | _ => l

/-- What is known after some calls. -/
def run (tx : Transaction) (l : LifeCycle) (past : List TimedCall) : LifeCycle :=
  past.foldl (fun l x => l.after tx x.2) l

/-- Why the transaction itself is refused, if it is. -/
def late? (l : LifeCycle) : Option StoreError :=
  if l.ended then some .transactionDone else none

/-- Why running a statement of the transaction is refused, if it is. -/
def unusable? (l : LifeCycle) (key : Nat) : Option StoreError :=
  if key ∈ l.closed then some .statementClosed else l.late?

/-- Why a call on the transaction or on one of its statements is refused, if it is. -/
def refusal? (l : LifeCycle) : Call → Option StoreError
  | .begin .. => none
  | .prepare .. | .commit _ | .rollback _ => l.late?
  | .exec s _ _ | .queryRow s _ _ | .queryRows s _ _ => l.unusable? s.key
  | .close s => if s.key ∈ l.closed then some .statementClosed else none

theorem late?_eq_none {l : LifeCycle} : l.late? = none ↔ l.ended = false := by
  unfold late?
  cases l.ended <;> simp

theorem late?_eq_some {l : LifeCycle} {e : StoreError} :
    l.late? = some e ↔ l.ended = true ∧ .transactionDone = e := by
  unfold late?
  cases l.ended <;> simp

theorem unusable?_eq_some {l : LifeCycle} {key : Nat} {e : StoreError} :
    l.unusable? key = some e ↔ key ∈ l.closed ∧ .statementClosed = e ∨
      key ∉ l.closed ∧ l.ended = true ∧ .transactionDone = e := by
  unfold unusable?
  split_ifs with hclosed
  · simp [hclosed]
  · simp [hclosed, late?_eq_some]

theorem refusal?_close_eq_none {l : LifeCycle} {s : Statement} :
    l.refusal? (.close s) = none ↔ s.key ∉ l.closed := by
  simp [refusal?]

theorem refusal?_close_eq_some {l : LifeCycle} {s : Statement} {e : StoreError} :
    l.refusal? (.close s) = some e ↔ s.key ∈ l.closed ∧ .statementClosed = e := by
  simp [refusal?]

variable {tx : Transaction}

/-- What has ended stays ended. -/
theorem ended_after {l : LifeCycle} (h : l.ended = true) (c : Call) :
    (l.after tx c).ended = true := by
  cases c <;> simp [after, h]

theorem run_append (l : LifeCycle) (past : List TimedCall) (x : TimedCall) :
    l.run tx (past ++ [x]) = (l.run tx past).after tx x.2 := by
  simp [run]

/-- The transaction has ended once a call was to commit it or to roll it back. -/
theorem run_ended (l : LifeCycle) (past : List TimedCall) :
    (l.run tx past).ended = true ↔
      l.ended = true ∨ ∃ x ∈ past, x.2 = .commit tx ∨ x.2 = .rollback tx := by
  induction past using List.reverseRecOn with
  | nil => simp [run]
  | append_singleton past x ih =>
    rw [run_append]
    obtain ⟨now, c⟩ := x
    cases c <;> simp [after, ih, or_assoc, or_and_right, exists_or]

/-- A statement is closed once a call was to close it. -/
theorem mem_closed_run (l : LifeCycle) (past : List TimedCall) (key : Nat) :
    key ∈ (l.run tx past).closed ↔
      key ∈ l.closed ∨ ∃ x ∈ past, ∃ s, x.2 = .close s ∧ s.key = key := by
  induction past using List.reverseRecOn with
  | nil => simp [run]
  | append_singleton past x ih =>
    rw [run_append]
    obtain ⟨now, c⟩ := x
    cases c with
    | close s =>
      have hlast : (∃ x ∈ past ++ [(now, Call.close s)], ∃ t, x.2 = .close t ∧ t.key = key) ↔
          (∃ x ∈ past, ∃ t, x.2 = .close t ∧ t.key = key) ∨ s.key = key := by
        simp [or_and_right, exists_or]
      show key ∈ s.key :: (run tx l past).closed ↔ _
      rw [hlast, List.mem_cons, ih, eq_comm (a := key)]
      exact or_rotate
    | _ => simp [after, ih, or_and_right, exists_or]

end LifeCycle

namespace Backend

variable {β : Type} (backend : Backend β)

/-- What a store is after some calls. -/
def after (s : β) (past : List TimedCall) : β :=
  past.foldl (fun s x => (backend.serve s x.1 x.2).state) s

theorem after_append (s : β) (past : List TimedCall) (x : TimedCall) :
    backend.after s (past ++ [x]) = (backend.serve (backend.after s past) x.1 x.2).state := by
  simp [after]

/-- What one call preserves is true after all calls. -/
theorem after_induction {P : LifeCycle → β → Prop} {tx : Transaction} {l : LifeCycle} {s : β}
    (hstart : P l s)
    (hstep : ∀ l s now c, P l s → P (l.after tx c) (backend.serve s now c).state)
    (past : List TimedCall) : P (l.run tx past) (backend.after s past) := by
  induction past using List.reverseRecOn with
  | nil => exact hstart
  | append_singleton past x ih =>
    rw [LifeCycle.run_append, after_append]
    exact hstep _ _ _ _ ih

end Backend

/-! ## Rules -/

/-- What is made of a call: a failure, or the statement that is handed out for it, if any. -/
abbrev Verdict := Except StoreError (Option Prepared)

/-- The next key for a statement after a verdict. -/
def Verdict.next (key : Nat) : Verdict → Nat
  | .ok (some p) => p.key + 1
  | _ => key

namespace Call

/-- What an answer makes of a call. -/
def verdict : (c : Call) → c.Answer → Verdict
  | .prepare .., answer => answer.map some
  | .begin .., answer => answer.map fun _ => none
  | .exec .., answer => answer.map fun _ => none
  | .queryRow .., answer => answer.map fun _ => none
  | .queryRows .., answer => answer.map fun _ => none
  | .close _, answer => answer.map fun _ => none
  | .commit _, answer => answer.map fun _ => none
  | .rollback _, answer => answer.map fun _ => none

/-- The statement that a call asks for, under the key that it would get. -/
def wanted? (key : Nat) : Call → Option Prepared
  | .prepare _ _ query => some ⟨key, query⟩
  | _ => none

@[simp] theorem verdict_error (c : Call) (e : StoreError) : c.verdict (.error e) = .error e := by
  cases c <;> rfl

theorem verdict_eq_error {c : Call} {answer : c.Answer} {e : StoreError} :
    c.verdict answer = .error e ↔ answer = .error e := by
  cases answer with
  | error cause => simp
  | ok reply => cases c <;> simp [verdict, Except.map]

end Call

namespace LifeCycle

/-- A rule by which calls are refused. -/
abbrev Rule := LifeCycle → Call → Option StoreError

/-- What a rule makes of a call. -/
def verdict (rule : Rule) (l : LifeCycle) (key : Nat) (c : Call) : Verdict :=
  match rule l c with
  | some e => .error e
  | none => .ok (c.wanted? key)

/-- What a rule makes of calls, one after the other, if statements get their keys in order. -/
def verdicts (rule : Rule) (tx : Transaction) : LifeCycle → Nat → List Call → List Verdict
  | _, _, [] => []
  | l, key, c :: rest =>
    let v := l.verdict rule key c
    v :: verdicts rule tx (l.after tx c) (v.next key) rest

end LifeCycle

namespace Backend

variable {β : Type} (backend : Backend β)

/-- What a store makes of calls, one after the other. -/
def verdicts : β → List TimedCall → List Verdict
  | _, [] => []
  | s, (now, c) :: rest =>
    let served := backend.serve s now c
    c.verdict served.answer :: verdicts served.state rest

/-- That nothing but refusals makes any of the calls fail. -/
def Undisturbed (s : β) (calls : List TimedCall) : Prop :=
  ∀ e, .error e ∈ backend.verdicts s calls → e.isRefusal = true

/-- A store that follows a life cycle goes by a rule with every usual call that does not fail for
another reason, and it still follows the life cycle after it. -/
def GoesBy (rule : LifeCycle.Rule) (tx : Transaction) (usual : Call → Prop)
    (follows : LifeCycle → Nat → β → Prop) : Prop :=
  ∀ l key s now c, follows l key s → usual c →
    let served := backend.serve s now c
    (∀ e, served.answer = .error e → e.isRefusal = true) →
      let v := l.verdict rule key c
      c.verdict served.answer = v ∧ follows (l.after tx c) (v.next key) served.state

variable {backend}

/-- What is true of one call holds of all calls together. -/
theorem GoesBy.verdicts_eq {rule : LifeCycle.Rule} {tx : Transaction} {usual : Call → Prop}
    {follows : LifeCycle → Nat → β → Prop} (h : backend.GoesBy rule tx usual follows)
    {l : LifeCycle} {key : Nat} {s : β} (hs : follows l key s) {calls : List TimedCall}
    (husual : ∀ x ∈ calls, usual x.2) (hcalm : backend.Undisturbed s calls) :
    backend.verdicts s calls = l.verdicts rule tx key (calls.map (·.2)) := by
  -- Store and life cycle go on side by side, and so does the next key of each.
  induction calls generalizing l key s with
  | nil => rfl
  | cons x rest ih =>
    obtain ⟨now, c⟩ := x
    have hanswer : ∀ e, (backend.serve s now c).answer = .error e → e.isRefusal = true := by
      intro e he
      exact hcalm e (by simp [verdicts, Call.verdict_eq_error.mpr he])
    obtain ⟨hverdict, hnext⟩ := h l key s now c hs (husual _ List.mem_cons_self) hanswer
    have hrest := ih hnext (fun x hx => husual x (List.mem_cons_of_mem _ hx)) fun e he =>
      hcalm e (List.mem_cons_of_mem _ he)
    simp only [verdicts, List.map_cons, LifeCycle.verdicts, hverdict, hrest]

end Backend

end UserAccounts
