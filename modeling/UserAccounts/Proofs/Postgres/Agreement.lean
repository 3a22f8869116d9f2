import UserAccounts.Proofs.Postgres.LifeCycle
import UserAccounts.Proofs.Store.Roster

/-!
# The two stores side by side

The store on a database and the store in memory are given the same calls on a transaction and its
statements. As long as nothing but refusals makes calls fail, the one goes by the life cycle
(`PgStore.goesBy`) and the other by what it notices of it (`Memory.goesBy`). The two stores give
other keys to their transactions and statements; what a rule makes of calls does not depend on them
(`LifeCycle.Mirrors.verdicts_eq`). So both accept and refuse the same calls with the same errors,
and hand out the same statements, as long as the store in memory overlooks nothing (`stores_agree`).
What it overlooks it accepts, and a write that comes too late is lost (`memory_accepts_late_calls`).
-/

namespace UserAccounts

open Postgres

variable {γ : Type}

namespace PgStore

section Going

variable {client : Client γ} {s : PgStore γ} {now : Instant} {tx : Transaction} {session : Nat}
  {deadline : Deadline} {l : LifeCycle}

theorem statements_handOut {query : String} {p : Passed γ Unit} {prepared : Prepared}
    (h : (handOut query p).answer = .ok prepared) :
    prepared = ⟨p.store.statements, query⟩ ∧
      (handOut query p).store.statements = p.store.statements + 1 := by
  unfold handOut at h ⊢
  split at h
  · cases h
    exact ⟨rfl, rfl⟩
  · cases h

/-- What is handed out gets the next key. -/
theorem Follows.serve_wanted (h : Follows tx session deadline l s) {c : Call} (hc : c.Concerns tx)
    (hrefusal : l.refusal? c = none) {reply : c.Reply}
    (hreply : (serve client s now c).answer = .ok reply) :
    c.verdict (.ok reply) = .ok (c.wanted? s.statements) ∧
      (serve client s now c).state.statements = (c.verdict (.ok reply)).next s.statements := by
  cases c with
  | begin d options => cases hc
  | prepare within d query =>
    obtain rfl : within = some tx := hc
    simp only [serve, h.target?_of_not_late hrefusal] at hreply ⊢
    obtain ⟨rfl, hnext⟩ := statements_handOut hreply
    exact ⟨rfl, hnext⟩
  | exec statement d args | queryRow statement d args | queryRows statement d args =>
    simp only [serve, h.targetOf?_of_usable hc hrefusal]
    exact ⟨rfl, rfl⟩
  | close statement =>
    have hclosed := LifeCycle.refusal?_close_eq_none.mp hrefusal
    simp only [serve, h.contains_closed, hclosed, decide_false, Bool.false_eq_true, if_false]
    exact ⟨rfl, rfl⟩
  | commit t | rollback t =>
    obtain rfl : t = tx := hc
    simp only [serve, h.live?_of_not_late hrefusal]
    exact ⟨rfl, rfl⟩

/-- The store on a database goes by the life cycle. -/
theorem goesBy (client : Client γ) (tx : Transaction) (session : Nat) (deadline : Deadline) :
    (backend client).GoesBy LifeCycle.refusal? tx (·.Concerns tx)
      (fun l key s => Follows tx session deadline l s ∧ s.statements = key) := by
  rintro l key s now c ⟨h, rfl⟩ hc served hanswer
  have hstep : Follows tx session deadline (l.after tx c) served.state := h.step now c
  unfold LifeCycle.verdict
  cases hrefusal : l.refusal? c with
  | some e =>
    have hserved : served = refuse s now c e := h.serve_refused hc hrefusal
    rw [hserved] at hstep ⊢
    exact ⟨c.verdict_error e, hstep, rfl⟩
  | none =>
    cases hreply : served.answer with
    | ok reply =>
      obtain ⟨hverdict, hnext⟩ := h.serve_wanted hc hrefusal hreply
      rw [hverdict] at hnext
      exact ⟨hverdict, hstep, hnext⟩
    | error e =>
      -- The call fails for another reason than being refused.
      have hmishap : e.isRefusal = false := h.mishap hc hrefusal hreply
      rw [hanswer e hreply] at hmishap
      cases hmishap

end Going

theorem begin_statements (client : Client γ) (s : PgStore γ) (now : Instant) (deadline : Deadline)
    (options : BeginOptions) :
    (begin client s now deadline options).store.statements = s.statements := by
  unfold begin
  dsimp only
  split
  · rename_i session _
    obtain ⟨c, hstore⟩ :=
      configure_store client (pass client s now deadline .begin connectionFailed).store
        (pass client s now deadline .begin connectionFailed).finished deadline session options
    have hstatements := congrArg PgStore.statements hstore
    unfold handOutTransaction
    split <;> exact hstatements
  · rfl

/-- A client for which all goes well. -/
def obliging : Client Unit where
  serve s now _ r :=
    ⟨some (match r with
      | .prepare .. | .commit _ | .rollback _ => .ok ()
      | .run .. => .ok ⟨[], [], 1⟩
      | .begin => .ok 7), s, now⟩
  abandon s _ _ := s

/-- A store on a database with which all goes well. -/
def smooth : Backend (PgStore Unit) := backend obliging

/-- A store that was used before: one transaction has ended, and one of two statements was
closed. -/
def used : PgStore Unit := ⟨"accounts", "accounts", (), [⟨5, .none, true⟩], 2, [1]⟩

end PgStore

/-! ## The same calls in another place -/

/-- A statement of another transaction, the statements of which are numbered from a key on. -/
def Statement.placed (tx : Transaction) (first : Nat) (s : Statement) : Statement :=
  ⟨first + s.key, s.query, s.within.map fun _ => tx⟩

/-- The same call on another transaction, the statements of which are numbered from a key on. -/
def Call.placed (tx : Transaction) (first : Nat) : Call → Call
  | .prepare within deadline query => .prepare (within.map fun _ => tx) deadline query
  | .begin deadline options => .begin deadline options
  | .exec s deadline args => .exec (s.placed tx first) deadline args
  | .queryRow s deadline args => .queryRow (s.placed tx first) deadline args
  | .queryRows s deadline args => .queryRows (s.placed tx first) deadline args
  | .close s => .close (s.placed tx first)
  | .commit _ => .commit tx
  | .rollback _ => .rollback tx

namespace Verdict

/-- A verdict on statements that are numbered from a key on. -/
def placed (first : Nat) : Verdict → Verdict
  | .ok (some p) => .ok (some ⟨first + p.key, p.query⟩)
  | v => v

/-- A verdict with statements counted from a key on. -/
def counted (first : Nat) : Verdict → Verdict
  | .ok (some p) => .ok (some ⟨p.key - first, p.query⟩)
  | v => v

theorem counted_placed (first : Nat) (v : Verdict) : (v.placed first).counted first = v := by
  rcases v with e | _ | p
  · rfl
  · rfl
  · simp [placed, counted]

theorem next_placed (first key : Nat) (v : Verdict) :
    (v.placed first).next (first + key) = first + v.next key := by
  rcases v with e | _ | p
  · rfl
  · rfl
  · exact Nat.add_assoc first p.key 1

end Verdict

namespace LifeCycle

variable {tx tx' : Transaction} {first : Nat} {l l' : LifeCycle}

/-- A life cycle in another place says the same. -/
structure Mirrors (first : Nat) (l l' : LifeCycle) : Prop where
  ended : l'.ended = l.ended
  closed : ∀ key, first + key ∈ l'.closed ↔ key ∈ l.closed

theorem Mirrors.refusal?_eq (h : Mirrors first l l') (c : Call) :
    l'.refusal? (c.placed tx' first) = l.refusal? c := by
  cases c <;> simp [Call.placed, refusal?, unusable?, late?, Statement.placed, h.ended, h.closed]

theorem Mirrors.noticed?_eq (h : Mirrors first l l') (c : Call) :
    l'.noticed? (c.placed tx' first) = l.noticed? c := by
  have hoverlooks : l'.overlooks (c.placed tx' first) = l.overlooks c := by
    cases c <;> simp [Call.placed, overlooks, Statement.placed, h.ended, h.closed]
  rw [noticed?, noticed?, hoverlooks, h.refusal?_eq]

theorem Mirrors.after (h : Mirrors first l l') {c : Call} (hc : c.Concerns tx) :
    Mirrors first (l.after tx c) (l'.after tx' (c.placed tx' first)) := by
  cases c with
  | begin d options => cases hc
  | commit t | rollback t =>
    obtain rfl : t = tx := hc
    exact ⟨by simp [LifeCycle.after, Call.placed], h.closed⟩
  | close s =>
    refine ⟨h.ended, fun key => ?_⟩
    simp [LifeCycle.after, Call.placed, Statement.placed, h.closed]
  | prepare | exec | queryRow | queryRows => exact h

/-- A rule that says the same in another place comes to the same there. -/
theorem Mirrors.verdicts_eq {rule : Rule} (hrule : ∀ {l l' : LifeCycle}, Mirrors first l l' →
      ∀ c, rule l' (c.placed tx' first) = rule l c)
    (h : Mirrors first l l') {calls : List Call} (hcalls : ∀ c ∈ calls, c.Concerns tx) (key : Nat) :
    l'.verdicts rule tx' (first + key) (calls.map (·.placed tx' first)) =
      (l.verdicts rule tx key calls).map (·.placed first) := by
  induction calls generalizing l l' key with
  | nil => rfl
  | cons c rest ih =>
    obtain ⟨hc, hrest⟩ := List.forall_mem_cons.mp hcalls
    have hverdict : l'.verdict rule (first + key) (c.placed tx' first) =
        (l.verdict rule key c).placed first := by
      unfold verdict
      rw [hrule h c]
      cases rule l c with
      | some e => rfl
      | none => cases c <;> rfl
    simp only [verdicts, List.map_cons, hverdict, Verdict.next_placed]
    rw [ih (h.after hc) hrest]

end LifeCycle

/-! ## The same calls for both -/

theorem Call.Concerns.placed {t : Transaction} {c : Call} (hc : c.Concerns t) (tx : Transaction)
    (first : Nat) : (c.placed tx first).Concerns tx := by
  cases c with
  | begin => cases hc
  | commit | rollback => rfl
  | prepare within | exec s | queryRow s | queryRows s | close s =>
    have hwithin : _ = some t := hc
    simp [Call.placed, Statement.placed, Concerns, hwithin]

theorem Memory.scriptedFailure?_placed (m : Memory) (tx : Transaction) (first : Nat) (c : Call) :
    m.scriptedFailure? (c.placed tx first) = m.scriptedFailure? c := by
  cases c <;> rfl

/-- At its beginning every transaction is like the first one. -/
theorem LifeCycle.mirrors_begin {first : Nat} {closed : List Nat}
    (h : ∀ key ∈ closed, key < first) : Mirrors first ⟨false, []⟩ ⟨false, closed⟩ := by
  refine ⟨rfl, fun key => iff_of_false (fun hmem => ?_) List.not_mem_nil⟩
  exact absurd (h _ hmem) (Nat.not_lt.mpr (Nat.le_add_right first key))

/-- A store that goes by a rule comes to what the rule makes of the calls on the first transaction
of all, whichever its own transaction is. -/
theorem Backend.GoesBy.counted_eq {β : Type} {backend : Backend β} {rule : LifeCycle.Rule}
    {tx : Transaction} {usual : Call → Prop} {follows : LifeCycle → Nat → β → Prop}
    (h : backend.GoesBy rule tx usual follows) {first : Nat}
    (hrule : ∀ {l l' : LifeCycle}, l.Mirrors first l' → ∀ c, rule l' (c.placed tx first) = rule l c)
    {closed : List Nat} (hclosed : ∀ key ∈ closed, key < first) {s : β}
    (hs : follows ⟨false, closed⟩ first s) {calls : List Call}
    (hconcerns : ∀ c ∈ calls, c.Concerns ⟨0⟩) (husual : ∀ c ∈ calls, usual (c.placed tx first))
    {xs : List TimedCall} (hxs : xs.map (·.2) = calls.map (·.placed tx first))
    (hcalm : backend.Undisturbed s xs) :
    (backend.verdicts s xs).map (·.counted first) =
      LifeCycle.verdicts rule ⟨0⟩ ⟨false, []⟩ 0 calls := by
  have husual' : ∀ x ∈ xs, usual x.2 := by
    intro x hx
    have hmem : x.2 ∈ calls.map (·.placed tx first) := hxs ▸ List.mem_map_of_mem hx
    obtain ⟨c, hc, heq⟩ := List.mem_map.mp hmem
    exact heq ▸ husual c hc
  -- The store's own keys are what the rule is asked about; it says the same of those from zero on.
  have hplaced := (LifeCycle.mirrors_begin hclosed).verdicts_eq hrule hconcerns 0
  rw [Nat.add_zero] at hplaced
  rw [h.verdicts_eq hs husual' hcalm, hxs, hplaced, List.map_map]
  simp [Function.comp_def, Verdict.counted_placed]

/-- A transaction is begun in both stores, whatever they were used for before; they have closed none
but statements that they had handed out. Both are given the same calls on the transaction and its
statements, each at times of its own; here they are written as calls on the first transaction of a
new store. Nothing but refusals makes calls fail, and the script has no refusals of its own. Then
the store on a database goes by the life cycle, the store in memory by what it notices of it, and
both come to the same if and only if it overlooks nothing. -/
theorem stores_agree {m : Memory} {client : Client γ} {s : PgStore γ} {now now' : Instant}
    {deadline deadline' : Deadline} {options options' : BeginOptions} {tx tx' : Transaction}
    (hm : (Backend.memory.serve m now (.begin deadline options)).answer = .ok tx)
    (hs : ((PgStore.backend client).serve s now' (.begin deadline' options')).answer = .ok tx')
    (hmclosed : ∀ key ∈ m.closed, key < m.statements)
    (hsclosed : ∀ key ∈ s.closed, key < s.statements)
    {calls : List Call} (hconcerns : ∀ c ∈ calls, c.Concerns ⟨0⟩)
    (hscript : ∀ c ∈ calls, ∀ e, m.scriptedFailure? c = some e → e.isRefusal = false)
    {xs ys : List TimedCall} (hxs : xs.map (·.2) = calls.map (·.placed tx m.statements))
    (hys : ys.map (·.2) = calls.map (·.placed tx' s.statements)) :
    let memory := (Backend.memory.serve m now (.begin deadline options)).state
    let database := ((PgStore.backend client).serve s now' (.begin deadline' options')).state
    Backend.memory.Undisturbed memory xs → (PgStore.backend client).Undisturbed database ys →
      let life : LifeCycle := ⟨false, []⟩
      let mine := (Backend.memory.verdicts memory xs).map (·.counted m.statements)
      let yours := ((PgStore.backend client).verdicts database ys).map (·.counted s.statements)
      yours = life.verdicts LifeCycle.refusal? ⟨0⟩ 0 calls ∧
        mine = life.verdicts LifeCycle.noticed? ⟨0⟩ 0 calls ∧
        (mine = yours ↔ life.heeds ⟨0⟩ calls = true) := by
  intro memory database hmemory hdatabase life mine yours
  have hmine : mine = life.verdicts LifeCycle.noticed? ⟨0⟩ 0 calls := by
    refine (Memory.goesBy tx m.scriptedFailure?).counted_eq (fun h => h.noticed?_eq) hmclosed
      (Memory.follows_begin hm) hconcerns (fun c hc => ⟨(hconcerns c hc).placed tx _, ?_⟩) hxs
      hmemory
    rw [m.scriptedFailure?_placed]
    exact hscript c hc
  have hyours : yours = life.verdicts LifeCycle.refusal? ⟨0⟩ 0 calls := by
    obtain ⟨session, hbegun⟩ := PgStore.follows_begin hs
    exact (PgStore.goesBy client tx' session deadline').counted_eq (fun h => h.refusal?_eq) hsclosed
      ⟨hbegun, PgStore.begin_statements client s now' deadline' options'⟩ hconcerns
      (fun c hc => (hconcerns c hc).placed tx' _) hys hdatabase
  refine ⟨hyours, hmine, ?_⟩
  rw [hmine, hyours]
  exact LifeCycle.verdicts_eq_iff

/-- Calls on a transaction and its statements, all at the same time. -/
def atOnce (tx : Transaction) (first : Nat) (calls : List Call) : List TimedCall :=
  calls.map fun c => (⟨1⟩, c.placed tx first)

theorem map_atOnce (tx : Transaction) (first : Nat) (calls : List Call) :
    (atOnce tx first calls).map (·.2) = calls.map (·.placed tx first) :=
  List.map_map

/-- A write that is committed; then everything is tried once more, and the statement closed. -/
def tried : List Call :=
  [.prepare (some ⟨0⟩) .none "INSERT", .exec PgStore.onlyStatement .none [], .commit ⟨0⟩,
    .commit ⟨0⟩, .rollback ⟨0⟩, .prepare (some ⟨0⟩) .none "INSERT", .close PgStore.onlyStatement,
    .exec PgStore.onlyStatement .none []]

/-- A new store in memory and a store on a database that was used before refuse what is tried too
late, with the same errors. -/
theorem stores_agree_of_tried :
    let memory := (Backend.memory.serve .empty ⟨0⟩ (.begin .none ⟨none⟩)).state
    let database := (PgStore.smooth.serve .used ⟨0⟩ (.begin .none ⟨none⟩)).state
    (Backend.memory.verdicts memory (atOnce ⟨0⟩ 0 tried)).map (·.counted 0) =
        (PgStore.smooth.verdicts database (atOnce ⟨1⟩ 2 tried)).map (·.counted 2) ∧
      PgStore.smooth.verdicts database (atOnce ⟨1⟩ 2 tried) =
        [.ok (some ⟨2, "INSERT"⟩), .ok none, .ok none, .error .transactionDone,
          .error .transactionDone, .error .transactionDone, .ok none, .error .statementClosed] := by
  intro memory database
  have hmemory : Backend.memory.verdicts memory (atOnce ⟨0⟩ 0 tried) =
      [.ok (some ⟨0, "INSERT"⟩), .ok none, .ok none, .error .transactionDone,
        .error .transactionDone, .error .transactionDone, .ok none, .error .statementClosed] := by
    decide +kernel
  have hdatabase : PgStore.smooth.verdicts database (atOnce ⟨1⟩ 2 tried) =
      [.ok (some ⟨2, "INSERT"⟩), .ok none, .ok none, .error .transactionDone,
        .error .transactionDone, .error .transactionDone, .ok none, .error .statementClosed] := by
    decide +kernel
  have hcalm (p : Prepared) : ∀ e, .error e ∈ ([.ok (some p), .ok none, .ok none,
      .error .transactionDone, .error .transactionDone, .error .transactionDone, .ok none,
      .error .statementClosed] : List Verdict) → e.isRefusal = true := by
    intro e he
    simp only [List.mem_cons, Except.error.injEq, reduceCtorEq, List.not_mem_nil, or_false,
      false_or, or_self_left] at he
    rcases he with rfl | rfl <;> rfl
  have hmcalm : Backend.memory.Undisturbed memory (atOnce ⟨0⟩ 0 tried) := by
    unfold Backend.Undisturbed
    rw [hmemory]
    exact hcalm _
  have hdcalm : PgStore.smooth.Undisturbed database (atOnce ⟨1⟩ 2 tried) := by
    unfold Backend.Undisturbed
    rw [hdatabase]
    exact hcalm _
  have hm : (Backend.memory.serve .empty ⟨0⟩ (.begin .none ⟨none⟩)).answer = .ok ⟨0⟩ := rfl
  have hs : (PgStore.smooth.serve .used ⟨0⟩ (.begin .none ⟨none⟩)).answer = .ok ⟨1⟩ := rfl
  have hscript : ∀ c, Memory.empty.scriptedFailure? c = none := by
    intro c
    cases c <;> rfl
  have hconcerns : ∀ c ∈ tried, c.Concerns ⟨0⟩ := by
    decide
  obtain ⟨-, -, hagree⟩ := stores_agree hm hs (by decide) (by decide) hconcerns
    (fun c _ e he => by rw [hscript c] at he; cases he)
    (map_atOnce ⟨0⟩ 0 tried) (map_atOnce ⟨1⟩ 2 tried) hmcalm hdcalm
  exact ⟨hagree.mpr (by decide), hdatabase⟩

/-- Two writes with the same statement, and the transaction is committed in between. -/
def lateWrite : List Call :=
  [.prepare (some ⟨0⟩) .none "INSERT", .exec PgStore.onlyStatement .none [.int 1], .commit ⟨0⟩,
    .exec PgStore.onlyStatement .none [.int 2]]

/-- A statement that is closed twice. -/
def closedTwice : List Call :=
  [.prepare (some ⟨0⟩) .none "INSERT", .close PgStore.onlyStatement,
    .close PgStore.onlyStatement]

/-- The store in memory acknowledges a write after the commit, which is never committed, and a
second close; the store on a database refuses both. -/
theorem memory_accepts_late_calls :
    let memory := (Backend.memory.serve .empty ⟨0⟩ (.begin .none ⟨none⟩)).state
    let database := (PgStore.smooth.serve .used ⟨0⟩ (.begin .none ⟨none⟩)).state
    Backend.memory.verdicts memory (atOnce ⟨0⟩ 0 lateWrite) =
        [.ok (some ⟨0, "INSERT"⟩), .ok none, .ok none, .ok none] ∧
      (Backend.memory.after memory (atOnce ⟨0⟩ 0 lateWrite)).committed =
        [.exec "INSERT" [.int 1]] ∧
      PgStore.smooth.verdicts database (atOnce ⟨1⟩ 2 lateWrite) =
        [.ok (some ⟨2, "INSERT"⟩), .ok none, .ok none, .error .transactionDone] ∧
      Backend.memory.verdicts memory (atOnce ⟨0⟩ 0 closedTwice) =
        [.ok (some ⟨0, "INSERT"⟩), .ok none, .ok none] ∧
      PgStore.smooth.verdicts database (atOnce ⟨1⟩ 2 closedTwice) =
        [.ok (some ⟨2, "INSERT"⟩), .ok none, .error .statementClosed] := by
  decide +kernel

end UserAccounts
