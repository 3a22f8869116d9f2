import UserAccounts.Proofs.Store.Crowd
import UserAccounts.Proofs.Store.Roster

/-!
# What is committed

However the calls of several programs to one store in memory are mixed, the committed log can be
read off the history of their calls (`committedBy`): a write outside of transactions adds itself, a
commit adds what was written within its transaction before, and nothing else adds anything.

The store keeps the writes of every transaction apart, and it does not always discard them when they
are lost: a commit that fails leaves them where they are. What matters is that the store keeps exact
accounts of those transactions that can still be committed (`Accounts`), and that only those are.

* `Accounts.step` — what an effect does to the accounts;
* `Crowd.Reachable.booked` — every crowd that can come about has exact accounts;
* `Crowd.Reachable.committed_exactly` — the committed log, and what never gets into it.
-/

namespace UserAccounts

/-! ## Reading a history -/

namespace Answered

/-- The transaction that was begun. -/
def begun? : Answered → Option Transaction
  | ⟨.store (.begin ..), .ok tx⟩ => some tx
  | _ => none

/-- The write that was made, if it was made within that transaction, or outside of any. -/
def written? (within : Option Transaction) : Answered → Option Observed
  | ⟨.store (.exec s _ args), .ok _⟩ =>
    if s.within = within then some (.exec s.query args) else none
  | _ => none

end Answered

/-- What was written within a transaction since it was begun, in order. -/
def writesWithin (tx : Transaction) (past : List Answered) : List Observed :=
  (past.dropWhile fun x => x.begun? ≠ some tx).filterMap (·.written? (some tx))

/-- What an effect adds to the committed log, given what was answered before. -/
def Answered.adds (past : List Answered) (x : Answered) : List Observed :=
  (x.written? none).toList ++ x.commit?.toList.flatMap (writesWithin · past)

/-- What a list of effects adds to the committed log, given what was answered before. -/
def committedAfter (past : List Answered) : List Answered → List Observed
  | [] => []
  | x :: later => x.adds past ++ committedAfter (past ++ [x]) later

/-- The committed log that a history amounts to. -/
def committedBy (history : List Answered) : List Observed := committedAfter [] history

/-- The transactions that were committed with success, in order. -/
def commitsOf (history : List Answered) : List Transaction := history.filterMap Answered.commit?

section History

variable {past history : List Answered} {x : Answered} {tx : Transaction}

theorem committedAfter_append (past history : List Answered) (x : Answered) :
    committedAfter past (history ++ [x]) =
      committedAfter past history ++ x.adds (past ++ history) := by
  induction history generalizing past with
  | nil => simp [committedAfter]
  | cons y history ih =>
    simp only [List.cons_append, committedAfter, ih, List.append_assoc, List.nil_append]

theorem committedBy_append (history : List Answered) (x : Answered) :
    committedBy (history ++ [x]) = committedBy history ++ x.adds history :=
  committedAfter_append [] history x

theorem commitsOf_append (history : List Answered) (x : Answered) :
    commitsOf (history ++ [x]) = commitsOf history ++ x.commit?.toList := by
  rw [commitsOf, Crowd.filterMap_append_singleton]
  rfl

/-- Once a transaction was begun, each write within it counts. -/
theorem writesWithin_append (h : ∃ y ∈ past, y.begun? = some tx) (x : Answered) :
    writesWithin tx (past ++ [x]) = writesWithin tx past ++ (x.written? (some tx)).toList := by
  obtain ⟨y, hy, hbegun⟩ := h
  have hsome : (past.dropWhile fun x => x.begun? ≠ some tx) ≠ [] := by
    intro hnil
    have hall := List.dropWhile_eq_nil_iff.mp hnil y hy
    exact of_decide_eq_true hall hbegun
  have hkept : ((past ++ [x]).dropWhile fun x => x.begun? ≠ some tx) =
      (past.dropWhile fun x => x.begun? ≠ some tx) ++ [x] := by
    rw [List.dropWhile_append, if_neg (by simpa using hsome)]
  rw [writesWithin, hkept, Crowd.filterMap_append_singleton]
  rfl

/-- A transaction begins without writes. -/
theorem writesWithin_of_begun (hnew : ∀ y ∈ past, y.begun? ≠ some tx) (hx : x.begun? = some tx) :
    writesWithin tx (past ++ [x]) = [] := by
  have hnone : (past.dropWhile fun x => x.begun? ≠ some tx) = [] :=
    List.dropWhile_eq_nil_iff.mpr fun y hy => decide_eq_true (hnew y hy)
  have hkept : ((past ++ [x]).dropWhile fun x => x.begun? ≠ some tx) = [x] := by
    rw [List.dropWhile_append, if_pos (by rw [hnone]; rfl),
      List.dropWhile_cons_of_neg (by simp [hx])]
  have hwrites : x.written? (some tx) = none := by
    obtain ⟨e, a⟩ := x
    cases e with
    | store c =>
      cases c with
      | begin d options => rfl
      | _ => cases hx
    | _ => cases hx
  rw [writesWithin, hkept, List.filterMap_cons_none hwrites, List.filterMap_nil]

/-- A write within one transaction is no write outside of transactions or within another, and no
beginning or end of a transaction. -/
theorem Answered.of_written? {within : Option Transaction} {write : Observed}
    (h : x.written? within = some write) :
    x.begun? = none ∧ x.commit? = none ∧ ∀ other, other ≠ within → x.written? other = none := by
  obtain ⟨e, a⟩ := x
  cases e with
  | store c =>
    cases c with
    | exec s d args =>
      cases a with
      | error e => cases h
      | ok affected =>
        have hs : s.within = within := by
          by_contra hne
          have hnone : (if s.within = within then some (Observed.exec s.query args) else none) =
              none := if_neg hne
          cases hnone.symm.trans h
        exact ⟨rfl, rfl, fun other hne => if_neg (hs ▸ Ne.symm hne)⟩
    | _ => cases h
  | _ => cases h

/-- The history without what was written within a transaction. -/
def without (tx : Transaction) (history : List Answered) : List Answered :=
  history.filter fun x => (x.written? (some tx)).isNone

theorem writesWithin_without {tx' : Transaction} (hne : tx' ≠ tx) (history : List Answered) :
    writesWithin tx' (without tx history) = writesWithin tx' history := by
  have hne' : some tx' ≠ some tx := fun heq => hne (Option.some.inj heq)
  unfold writesWithin without
  induction history with
  | nil => rfl
  | cons x history ih =>
    cases hx : x.written? (some tx) with
    | some write =>
      obtain ⟨hbegun, -, -⟩ := Answered.of_written? hx
      rw [List.filter_cons_of_neg (by simp [hx]), List.dropWhile_cons_of_pos (by simp [hbegun]), ih]
    | none =>
      rw [List.filter_cons_of_pos (by simp [hx])]
      by_cases hbegun : x.begun? = some tx'
      · rw [List.dropWhile_cons_of_neg (by simp [hbegun]),
          List.dropWhile_cons_of_neg (by simp [hbegun]), List.filterMap_cons, List.filterMap_cons,
          List.filterMap_filter]
        have hsame : (fun y : Answered => if (y.written? (some tx)).isNone then
            y.written? (some tx') else none) = fun y => y.written? (some tx') := by
          funext y
          cases hy : y.written? (some tx) with
          | none => rfl
          | some write => exact ((Answered.of_written? hy).2.2 _ hne').symm
        rw [hsame]
      · rw [List.dropWhile_cons_of_pos (by simp [hbegun]),
          List.dropWhile_cons_of_pos (by simp [hbegun]), ih]

/-- What was written within a transaction that was not committed does not count. -/
theorem committedBy_without (h : tx ∉ commitsOf history) :
    committedBy (without tx history) = committedBy history := by
  induction history using List.reverseRecOn with
  | nil => rfl
  | append_singleton history x ih =>
    rw [commitsOf_append, List.mem_append, Option.mem_toList, not_or] at h
    obtain ⟨hhistory, hcommit⟩ := h
    rw [committedBy_append, ← ih hhistory]
    unfold without
    rw [List.filter_append]
    cases hx : x.written? (some tx) with
    | some write =>
      obtain ⟨-, hcommit, hother⟩ := Answered.of_written? hx
      rw [List.filter_singleton, hx]
      simp [Answered.adds, hcommit, hother none nofun]
    | none =>
      rw [List.filter_singleton, hx]
      show committedBy (without tx history ++ [x]) = committedBy (without tx history) ++ _
      rw [committedBy_append]
      congr 1
      unfold Answered.adds
      cases hcommits : x.commit? with
      | none => rfl
      | some tx' =>
        have hne : tx' ≠ tx := by
          rintro rfl
          exact hcommit hcommits
        simp [writesWithin_without hne]

end History

/-! ## Exact accounts -/

/-- A ledger in agreement with a history, as far as it matters for the transactions that can still
be committed. -/
structure Accounts (live : Transaction → Prop) (l : Ledger) (history : List Answered) : Prop where
  committed : l.committed = committedBy history
  known : ∀ tx, (∃ x ∈ history, x.begun? = some tx) → tx.key < l.pending.length
  begun : ∀ tx, live tx → ∃ x ∈ history, x.begun? = some tx
  pending : ∀ tx, live tx → l.pending[tx.key]? = some (writesWithin tx history)
  uncommitted : ∀ tx, live tx → tx ∉ commitsOf history
  commits_begun : ∀ tx ∈ commitsOf history, ∃ x ∈ history, x.begun? = some tx
  nodup : (commitsOf history).Nodup

/-- Which transactions can still be committed after an effect, given which could be before it. -/
structure Survive (live live' : Transaction → Prop) (l l' : Ledger) (x : Answered) : Prop where
  of_live : ∀ tx, live' tx → live tx ∨ x.begun? = some tx
  of_commit : ∀ tx, x.commit? = some tx → live tx ∧ ¬ live' tx
  of_rollback : ∀ tx a, x = ⟨.store (.rollback tx), a⟩ → l' = l ∨ ¬ live' tx

/-- What fails, or has no effect by succeeding, leaves no trace in the accounts. -/
theorem Answered.plain_of_unmoved {c : Call} {a : c.Answer}
    (h : c.isEffective = true → a.isOk = false) :
    begun? ⟨.store c, a⟩ = none ∧ (∀ within, written? within ⟨.store c, a⟩ = none) ∧
      commit? ⟨.store c, a⟩ = none := by
  cases c with
  | begin | exec | commit =>
    cases a with
    | error e => exact ⟨rfl, fun _ => rfl, rfl⟩
    | ok reply => cases h rfl
  | _ => exact ⟨rfl, fun _ => rfl, rfl⟩

namespace Ledger

variable {l l' : Ledger} {x : Answered} {tx : Transaction}

/-- Writing within a transaction adds to what it has pending, and to no other's. -/
theorem write_pending {s : Statement} {write : Observed} (h : s.within ≠ some tx) :
    (l.write s write).pending[tx.key]? = l.pending[tx.key]? := by
  unfold Ledger.write
  cases hs : s.within with
  | none => rfl
  | some tx' =>
    refine List.getElem?_modify_ne _ _ fun hkey => h ?_
    rw [hs]
    exact congrArg some (congrArg Transaction.mk hkey)

theorem write_pending_self {s : Statement} {write : Observed} (h : s.within = some tx) :
    (l.write s write).pending[tx.key]? = l.pending[tx.key]?.map (· ++ [write]) := by
  unfold Ledger.write
  rw [h]
  exact List.getElem?_modify_eq _ _ _

/-- What another transaction has pending does not end with one. -/
theorem clear_pending {tx' : Transaction} (h : tx' ≠ tx) :
    (l.clear tx').pending[tx.key]? = l.pending[tx.key]? :=
  List.getElem?_modify_ne _ _ fun hkey => h (congrArg Transaction.mk hkey)

/-- Transactions are numbered in the order in which they are begun. -/
theorem MovedBy.begun (h : l.MovedBy x l') (hx : x.begun? = some tx) :
    tx.key = l.pending.length ∧ l'.pending = l.pending ++ [[]] := by
  obtain ⟨e, a⟩ := x
  cases e with
  | store c =>
    cases h with
    | begun d options =>
      cases hx
      exact ⟨rfl, rfl⟩
    | unmoved _ _ hplain =>
      rw [(Answered.plain_of_unmoved hplain).1] at hx
      cases hx
    | _ => cases hx
  | _ => cases hx

theorem MovedBy.length_le (h : l.MovedBy x l') : l.pending.length ≤ l'.pending.length := by
  obtain ⟨e, a⟩ := x
  cases e with
  | store c =>
    cases h with
    | begun d options => simp
    | written s d args affected =>
      unfold write
      cases s.within with
      | none => exact Nat.le_refl _
      | some tx => simp
    | committed tx writes h => simp [clear]
    | rolledBack tx answer => simp [clear]
    | prepared | unmoved => exact Nat.le_refl _
  | _ => exact (congrArg (·.pending.length) (show l' = l from h)).ge

/-- An effect adds to the committed log what it is said to add, if the ledger knows the writes of
the transaction that it commits. -/
theorem MovedBy.committed (h : l.MovedBy x l') {past : List Answered}
    (hwrites : ∀ tx, x.commit? = some tx → l.pending[tx.key]? = some (writesWithin tx past)) :
    l'.committed = l.committed ++ x.adds past := by
  obtain ⟨e, a⟩ := x
  cases e with
  | store c =>
    cases h with
    | written s d args affected =>
      unfold write
      cases hs : s.within with
      | none => simp [Answered.adds, Answered.written?, Answered.commit?, hs]
      | some tx => simp [Answered.adds, Answered.written?, Answered.commit?, hs]
    | committed tx writes hpending =>
      obtain rfl := Option.some.inj (hpending.symm.trans (hwrites tx rfl))
      simp [Answered.adds, Answered.written?, Answered.commit?]
    | unmoved _ _ hplain =>
      obtain ⟨-, hwritten, hcommit⟩ := Answered.plain_of_unmoved hplain
      simp [Answered.adds, hwritten, hcommit]
    | prepared | begun | rolledBack => exact (List.append_nil _).symm
  | _ =>
    rw [show l' = l from h]
    exact (List.append_nil _).symm

/-- What a transaction has pending grows by what is written within it, unless the transaction ends.
-/
theorem MovedBy.pending (h : l.MovedBy x l') {writes : List Observed}
    (hpending : l.pending[tx.key]? = some writes) (hcommit : x.commit? ≠ some tx)
    (hrollback : ∀ a, x = ⟨.store (.rollback tx), a⟩ → l' = l) :
    l'.pending[tx.key]? = some (writes ++ (x.written? (some tx)).toList) := by
  have hsame (hl : l'.pending[tx.key]? = l.pending[tx.key]?) (hx : x.written? (some tx) = none) :
      l'.pending[tx.key]? = some (writes ++ (x.written? (some tx)).toList) := by
    rw [hl, hx, hpending, Option.toList_none, List.append_nil]
  obtain ⟨e, a⟩ := x
  cases e with
  | store c =>
    cases h with
    | prepared within d query key => exact hsame rfl rfl
    | begun d options =>
      exact hsame (List.getElem?_append_left (List.getElem?_eq_some_iff.mp hpending).1) rfl
    | written s d args affected =>
      by_cases hs : s.within = some tx
      · rw [write_pending_self hs, hpending]
        simp [Answered.written?, hs]
      · exact hsame (write_pending hs) (if_neg hs)
    | committed tx' writes' h =>
      exact hsame (clear_pending fun heq => hcommit (congrArg some heq)) rfl
    | rolledBack tx' answer =>
      by_cases heq : tx' = tx
      · subst heq
        exact hsame (by rw [hrollback _ rfl]) rfl
      · exact hsame (clear_pending heq) rfl
    | unmoved _ _ hplain => exact hsame rfl ((Answered.plain_of_unmoved hplain).2.1 _)
  | _ => exact hsame (by rw [show l' = l from h]) rfl

end Ledger

namespace Accounts

variable {live live' : Transaction → Prop} {l l' : Ledger} {history : List Answered} {x : Answered}

theorem of_empty {live : Transaction → Prop} (h : ∀ tx, ¬ live tx) : Accounts live ⟨[], []⟩ [] where
  committed := rfl
  known _ hx := by simp at hx
  begun tx hlive := absurd hlive (h tx)
  pending tx hlive := absurd hlive (h tx)
  uncommitted _ _ := List.not_mem_nil
  commits_begun _ hx := nomatch hx
  nodup := .nil

/-- The accounts depend on nothing but which transactions can still be committed. -/
theorem mono (h : Accounts live l history) (hlive : ∀ tx, live' tx → live tx) :
    Accounts live' l history :=
  { h with
    begun := fun tx htx => h.begun tx (hlive tx htx)
    pending := fun tx htx => h.pending tx (hlive tx htx)
    uncommitted := fun tx htx => h.uncommitted tx (hlive tx htx) }

/-- Exact accounts stay exact. -/
theorem step (h : Accounts live l history) (moved : l.MovedBy x l')
    (hlive : Survive live live' l l' x) : Accounts live' l' (history ++ [x]) := by
  have hnew {tx : Transaction} (hx : x.begun? = some tx) :
      ∀ y ∈ history, y.begun? ≠ some tx := by
    intro y hy hbegun
    have hkey := h.known tx ⟨y, hy, hbegun⟩
    have hnext := (moved.begun hx).1
    omega
  have hgrown {tx : Transaction} (hbegun : ∃ y ∈ history, y.begun? = some tx) :
      ∃ y ∈ history ++ [x], y.begun? = some tx := by
    obtain ⟨y, hy, hbegun⟩ := hbegun
    exact ⟨y, List.mem_append_left _ hy, hbegun⟩
  have hbegun (tx : Transaction) (htx : live' tx) : ∃ y ∈ history ++ [x], y.begun? = some tx := by
    rcases hlive.of_live tx htx with hold | hx
    · exact hgrown (h.begun tx hold)
    · exact ⟨x, List.mem_append_right _ (List.mem_singleton.mpr rfl), hx⟩
  constructor
  case committed =>
    rw [committedBy_append, moved.committed fun tx hx => h.pending tx (hlive.of_commit tx hx).1,
      h.committed]
  case known =>
    rintro tx ⟨y, hy, hbegun⟩
    rcases List.mem_append.mp hy with hy | hy
    · exact (h.known tx ⟨y, hy, hbegun⟩).trans_le moved.length_le
    · rw [List.mem_singleton.mp hy] at hbegun
      obtain ⟨hkey, hpending⟩ := moved.begun hbegun
      rw [hkey, hpending]
      simp
  case begun => exact hbegun
  case pending =>
    intro tx htx
    rcases hlive.of_live tx htx with hold | hx
    · rw [writesWithin_append (h.begun tx hold)]
      refine moved.pending (h.pending tx hold) (fun hx => (hlive.of_commit tx hx).2 htx) ?_
      exact fun a hx => (hlive.of_rollback tx a hx).resolve_right (not_not_intro htx)
    · obtain ⟨hkey, hpending⟩ := moved.begun hx
      rw [writesWithin_of_begun (hnew hx) hx, hkey, hpending]
      simp
  case uncommitted =>
    intro tx htx hmem
    rw [commitsOf_append, List.mem_append, Option.mem_toList] at hmem
    rcases hmem with hmem | hx
    · rcases hlive.of_live tx htx with hold | hbegun
      · exact h.uncommitted tx hold hmem
      · obtain ⟨y, hy, hearlier⟩ := h.commits_begun tx hmem
        exact hnew hbegun y hy hearlier
    · exact (hlive.of_commit tx hx).2 htx
  case commits_begun =>
    intro tx hmem
    rw [commitsOf_append, List.mem_append, Option.mem_toList] at hmem
    rcases hmem with hmem | hx
    · exact hgrown (h.commits_begun tx hmem)
    · exact hgrown (h.begun tx (hlive.of_commit tx hx).1)
  case nodup =>
    rw [commitsOf_append, List.nodup_append]
    refine ⟨h.nodup, ?_, ?_⟩
    · cases x.commit? <;> simp
    · intro tx hmem tx' hx heq
      rw [Option.mem_toList] at hx
      exact h.uncommitted tx (heq ▸ (hlive.of_commit tx' hx).1) hmem

end Accounts

/-! ## Which transactions have ended -/

namespace Roster

variable {s : Roster} {c : Call} {v : Verdict} {key : Nat}

/-- A transaction that has ended does not begin again. -/
theorem after_ended (h : s.ended[key]? = some true) : (s.after c v).ended[key]? = some true := by
  cases c with
  | begin d options =>
    cases v with
    | error e => exact h
    | ok reply =>
      exact (List.getElem?_append_left (List.getElem?_eq_some_iff.mp h).1).trans h
  | commit tx | rollback tx =>
    show (s.ended.modify tx.key fun _ => true)[key]? = some true
    rw [List.getElem?_modify, h]
    split <;> rfl
  | _ => exact h

/-- A transaction that is open after a call was open before it, or is the one that was begun. -/
theorem open_of_after (h : (s.after c v).ended[key]? = some false) :
    s.ended[key]? = some false ∨
      (key = s.ended.length ∧ ∃ d options reply, c = .begin d options ∧ v = .ok reply) := by
  cases c with
  | begin d options =>
    cases v with
    | error e => exact .inl h
    | ok reply =>
      rcases lt_trichotomy key s.ended.length with hlt | heq | hgt
      · exact .inl ((List.getElem?_append_left hlt).symm.trans h)
      · exact .inr ⟨heq, d, options, reply, rfl, rfl⟩
      · have hnone : (s.ended ++ [false])[key]? = none :=
          List.getElem?_eq_none (by simpa using hgt)
        cases hnone.symm.trans h
  | commit tx | rollback tx =>
    have hmodified : (s.ended.modify tx.key fun _ => true)[key]? = some false := h
    rcases eq_or_ne tx.key key with rfl | hne
    · rw [List.getElem?_modify_eq] at hmodified
      obtain ⟨b, -, hb⟩ := Option.map_eq_some_iff.mp hmodified
      cases hb
    · rw [List.getElem?_modify_ne _ _ hne] at hmodified
      exact .inl hmodified
  | _ => exact .inl h

/-- A commit and a rollback end their transaction. -/
theorem not_open_after {tx : Transaction} (h : c = .commit tx ∨ c = .rollback tx) :
    (s.after c v).ended[tx.key]? ≠ some false := by
  have hmodified : (s.ended.modify tx.key fun _ => true)[tx.key]? ≠ some false := by
    rw [List.getElem?_modify_eq]
    cases s.ended[tx.key]? <;> simp
  rcases h with rfl | rfl <;> exact hmodified

end Roster

namespace Memory

variable {m m' : Memory} {now : Instant} {tx : Transaction}

theorem length_pending (m : Memory) : m.ledger.pending.length = m.roster.ended.length := by
  simp [ledger, roster]

/-- A commit is taken up if the transaction is open, and refused at once otherwise. -/
theorem receive_commit_of_answered {a : (Call.commit tx).Answer}
    (h : m.receive now (.commit tx) = (.answered a, m')) : a = .error .transactionDone := by
  simp only [receive] at h
  split at h
  · cases h
    rfl
  · have hwaits := congrArg Prod.fst h
    unfold delay at hwaits
    split at hwaits <;> cases hwaits

theorem receive_commit_of_waiting {until_ : Instant} {inTime : Bool}
    (h : m.receive now (.commit tx) = (.waiting until_ inTime, m')) : m.isDone tx = false := by
  simp only [receive] at h
  split at h
  · cases h
  · rename_i hopen
    exact Bool.eq_false_of_not_eq_true hopen

/-- Rolling back what has ended does nothing. -/
theorem receive_rollback_of_isDone (now : Instant) (h : m.isDone tx = true) :
    (m.receive now (.rollback tx)).2.ledger = m.ledger := by
  have hdone : { m with calls := m.calls ++ [(Call.rollback tx).observed] }.isDone tx = true := h
  simp only [receive, hdone, if_true]
  rfl

end Memory

/-! ## In a crowd -/

/-- The call that the store has received and not answered yet. -/
def Party.awaits? {α : Type} : Party α → Option Call
  | .ready _ => none
  | .waiting call _ _ _ => some call

namespace Crowd

variable {α : Type} {joins : Program α → Prop} {source : Source} {c c' : Crowd α}
  {tx : Transaction}

/-- The effects answered so far, in order. -/
def answered (c : Crowd α) : List Answered := c.history.map (·.2)

/-- The call of a program that the store has received and not answered yet. -/
def awaited (c : Crowd α) (i : Nat) : Option Call := c.parties[i]?.bind Party.awaits?

/-- A transaction that can still be committed: it is open, or its commit is under way. -/
def Live (c : Crowd α) (tx : Transaction) : Prop :=
  c.memory.isDone tx = false ∨ ∃ i, c.awaited i = some (.commit tx)

/-- A commit under way is the only one of its transaction, which has ended by it. -/
structure Orderly (c : Crowd α) : Prop where
  ended : ∀ i tx, c.awaited i = some (.commit tx) → c.memory.roster.ended[tx.key]? = some true
  once : ∀ i j tx, c.awaited i = some (.commit tx) → c.awaited j = some (.commit tx) → i = j

/-- What a step comes to for the transactions that can still be committed. -/
inductive Turn (c c' : Crowd α) : Prop
  | idle (answered : c'.answered = c.answered) (ledger : c'.memory.ledger = c.memory.ledger)
      (live : ∀ tx, c'.Live tx → c.Live tx)
  | answered (x : Answered) (answered : c'.answered = c.answered ++ [x])
      (moved : c.memory.ledger.MovedBy x c'.memory.ledger)
      (survive : Survive c.Live c'.Live c.memory.ledger c'.memory.ledger x)

theorem awaited_set {i j : Nat} {party : Party α} (hi : i < c.parties.length) :
    (c.parties.set i party)[j]?.bind Party.awaits? =
      if i = j then party.awaits? else c.awaited j := by
  rw [List.getElem?_set]
  by_cases heq : i = j
  · rw [if_pos heq, if_pos heq, if_pos hi]
    rfl
  · rw [if_neg heq, if_neg heq]
    rfl

/-- A program that awaits no answer may go on without anybody noticing. -/
theorem awaited_set_ready {i j : Nat} {p q : Program α} (hi : c.parties[i]? = some (.ready p)) :
    (c.parties.set i (.ready q))[j]?.bind Party.awaits? = c.awaited j := by
  rw [awaited_set (List.getElem?_eq_some_iff.mp hi).1]
  split
  · rename_i heq
    rw [awaited, ← heq, hi]
    rfl
  · rfl

theorem awaited_join (p : Program α) (j : Nat) :
    (c.parties ++ [Party.ready p])[j]?.bind Party.awaits? = c.awaited j := by
  rcases lt_or_ge j c.parties.length with hlt | hge
  · rw [List.getElem?_append_left hlt]
    rfl
  · rw [List.getElem?_append_right hge, awaited, List.getElem?_eq_none hge, List.getElem?_singleton]
    split <;> rfl

theorem Orderly.of_eq (h : c.Orderly) (hended : c'.memory.roster.ended = c.memory.roster.ended)
    (hawaited : ∀ i, c'.awaited i = c.awaited i) : c'.Orderly where
  ended i tx hi := by
    rw [hended]
    exact h.ended i tx (hawaited i ▸ hi)
  once i j tx hi hj := h.once i j tx (hawaited i ▸ hi) (hawaited j ▸ hj)

theorem Live.of_eq (h : c'.Live tx) (hended : c'.memory.roster.ended = c.memory.roster.ended)
    (hawaited : ∀ i, c'.awaited i = c.awaited i) : c.Live tx := by
  rcases h with hopen | ⟨i, hi⟩
  · rw [Memory.isDone_eq_false_iff, hended, ← Memory.isDone_eq_false_iff] at hopen
    exact .inl hopen
  · exact .inr ⟨i, hawaited i ▸ hi⟩

/-- A transaction that has ended and whose commit is not under way cannot be committed. -/
theorem not_live (hended : c.memory.roster.ended[tx.key]? ≠ some false)
    (hawaited : ∀ i, c.awaited i ≠ some (.commit tx)) : ¬ c.Live tx := by
  rintro (hopen | ⟨i, hi⟩)
  · exact hended (Memory.isDone_eq_false_iff.mp hopen)
  · exact hawaited i hi

theorem answered_answer (i : Nat) (e : Effect) (a : e.Answer) (next : e.Answer → Program α)
    (memory : Memory) : (c.answer i e a next memory).answered = c.answered ++ [⟨e, a⟩] := by
  simp [answered, answer]

/-- A call that is answered at once. -/
theorem turn_answerAtOnce (hc : c.Orderly) {i : Nat} {call : Call}
    {next : call.Answer → Program α} {a : call.Answer} {memory : Memory}
    (asks : c.parties[i]? = some (.ready (.perform (.store call) next)))
    (received : c.memory.receive c.now call = (.answered a, memory)) :
    let c' := c.answer i (.store call) a next memory
    Turn c c' ∧ c'.Orderly ∧
      ∀ tx, call = .rollback tx → c.memory.isDone tx = false → ¬ c'.Live tx := by
  intro c'
  have hroster : memory.roster = c.memory.roster.after call (call.verdict a) := by
    have h := c.memory.receive_roster c.now call
    rw [received] at h
    exact h
  have hmoved : c.memory.ledger.Moved call a memory.ledger := by
    have h := c.memory.receive_moved c.now call
    rw [received] at h
    exact h
  have hawaited (j : Nat) : c'.awaited j = c.awaited j := awaited_set_ready asks
  have hended : memory.roster.ended = (c.memory.roster.after call (call.verdict a)).ended :=
    congrArg Roster.ended hroster
  -- Nobody can be committing a transaction that is open.
  have hover (tx : Transaction) (hcall : call = .rollback tx)
      (hopen : c.memory.isDone tx = false) : ¬ c'.Live tx := by
    refine not_live (hended ▸ Roster.not_open_after (.inr hcall)) fun j hj => ?_
    cases (hc.ended j tx (hawaited j ▸ hj)).symm.trans (Memory.isDone_eq_false_iff.mp hopen)
  refine ⟨.answered ⟨.store call, a⟩ (answered_answer ..) hmoved ⟨?_, ?_, ?_⟩, ⟨?_, ?_⟩, hover⟩
  · rintro tx (hopen | ⟨j, hj⟩)
    · rw [Memory.isDone_eq_false_iff] at hopen
      rcases Roster.open_of_after (hended ▸ hopen) with hold | ⟨hkey, d, options, reply, hcall, hv⟩
      · exact .inl (.inl (Memory.isDone_eq_false_iff.mpr hold))
      · -- The transaction is the one that the store has just begun.
        subst hcall
        cases a with
        | error e => cases hv
        | ok begun =>
          have hbegun : begun.key = c.memory.ledger.pending.length :=
            (Ledger.MovedBy.begun (x := ⟨.store (.begin d options), .ok begun⟩) hmoved rfl).1
          rw [Memory.length_pending, ← hkey] at hbegun
          exact .inr (congrArg some (congrArg Transaction.mk hbegun))
    · exact .inl (.inr ⟨j, hawaited j ▸ hj⟩)
  · intro tx hcommit
    cases call with
    | commit tx' =>
      rw [Memory.receive_commit_of_answered received] at hcommit
      cases hcommit
    | _ => cases hcommit
  · rintro tx a' ⟨⟩
    by_cases hdone : c.memory.isDone tx = true
    · have hsame := Memory.receive_rollback_of_isDone c.now hdone
      rw [received] at hsame
      exact .inl hsame
    · exact .inr (hover tx rfl (Bool.eq_false_of_not_eq_true hdone))
  · intro j tx hj
    show memory.roster.ended[tx.key]? = some true
    rw [hended]
    exact Roster.after_ended (hc.ended j tx (hawaited j ▸ hj))
  · intro j k tx hj hk
    exact hc.once j k tx (hawaited j ▸ hj) (hawaited k ▸ hk)

/-- A call that the store takes up without answering it. -/
theorem turn_wait (hc : c.Orderly) {i : Nat} {call : Call} {next : call.Answer → Program α}
    {until_ : Instant} {inTime : Bool} {memory : Memory}
    (asks : c.parties[i]? = some (.ready (.perform (.store call) next)))
    (received : c.memory.receive c.now call = (.waiting until_ inTime, memory)) :
    let c' := { c with
      memory := memory
      parties := c.parties.set i (.waiting call next until_ inTime) }
    Turn c c' ∧ c'.Orderly := by
  intro c'
  have hroster (v : Verdict) : memory.roster = c.memory.roster.after call v := by
    have h := c.memory.receive_roster c.now call
    rw [received] at h
    exact h v
  have hledger : memory.ledger = c.memory.ledger := by
    have h := c.memory.receive_moved c.now call
    rw [received] at h
    exact h
  have hawaited (j : Nat) : c'.awaited j = if i = j then some call else c.awaited j :=
    awaited_set (List.getElem?_eq_some_iff.mp asks).1
  -- If it is a commit, the transaction was open until now.
  have hopen (tx : Transaction) (hcall : call = .commit tx) :
      c.memory.roster.ended[tx.key]? = some false := by
    subst hcall
    exact Memory.isDone_eq_false_iff.mp (Memory.receive_commit_of_waiting received)
  have hended (v : Verdict) : memory.roster.ended = (c.memory.roster.after call v).ended :=
    congrArg Roster.ended (hroster v)
  have hnotYet (j : Nat) (tx : Transaction) (hcall : call = .commit tx) :
      c.awaited j ≠ some (.commit tx) := by
    intro hj
    cases (hc.ended j tx hj).symm.trans (hopen tx hcall)
  refine ⟨.idle rfl hledger ?_, ?_, ?_⟩
  · rintro tx (hstill | ⟨j, hj⟩)
    · rw [Memory.isDone_eq_false_iff] at hstill
      rcases Roster.open_of_after (hended (.error .transactionDone) ▸ hstill) with
        hold | ⟨-, hbegun⟩
      · exact .inl (Memory.isDone_eq_false_iff.mpr hold)
      · obtain ⟨d, options, reply, -, hv⟩ := hbegun
        cases hv
    · rw [hawaited] at hj
      split at hj
      · exact .inl (Memory.isDone_eq_false_iff.mpr (hopen tx (Option.some.inj hj)))
      · exact .inr ⟨j, hj⟩
  · intro j tx hj
    show memory.roster.ended[tx.key]? = some true
    rw [hawaited] at hj
    split at hj
    · obtain rfl := Option.some.inj hj
      rw [hended (.error .transactionDone)]
      show (c.memory.roster.ended.modify tx.key fun _ => true)[tx.key]? = some true
      rw [List.getElem?_modify_eq, hopen tx rfl]
      rfl
    · rw [hended (.error .transactionDone)]
      exact Roster.after_ended (hc.ended j tx hj)
  · intro j k tx hj hk
    rw [hawaited] at hj hk
    split at hj <;> split at hk
    · omega
    · exact absurd hk (hnotYet k tx (Option.some.inj hj))
    · exact absurd hj (hnotYet j tx (Option.some.inj hk))
    · exact hc.once j k tx hj hk

/-- A call that has waited is answered. -/
theorem turn_settle (hc : c.Orderly) {i : Nat} {call : Call} {next : call.Answer → Program α}
    {until_ : Instant} {inTime : Bool}
    (waits : c.parties[i]? = some (.waiting call next until_ inTime)) :
    let settled := c.memory.settle c.now inTime call
    let c' := c.answer i (.store call) settled.1 next settled.2
    Turn c c' ∧ c'.Orderly ∧ ∀ tx, call = .commit tx → ¬ c'.Live tx := by
  intro settled c'
  have hended : c'.memory.roster.ended = c.memory.roster.ended :=
    congrArg Roster.ended (c.memory.settle_roster c.now inTime call)
  have hthis : c.awaited i = some call := by
    rw [awaited, waits]
    rfl
  have hawaited (j : Nat) : c'.awaited j = if i = j then none else c.awaited j :=
    awaited_set (List.getElem?_eq_some_iff.mp waits).1
  have hstill {j : Nat} {call' : Call} (hj : c'.awaited j = some call') :
      i ≠ j ∧ c.awaited j = some call' := by
    rw [hawaited] at hj
    split at hj
    · cases hj
    · rename_i hne
      exact ⟨hne, hj⟩
  -- The commit that was under way was the only one, and the transaction ended when it was received.
  have hover (tx : Transaction) (hcall : call = .commit tx) : ¬ c'.Live tx := by
    subst hcall
    refine not_live ?_ fun j hj => ?_
    · rw [hended, hc.ended i tx hthis]
      nofun
    · obtain ⟨hne, hj⟩ := hstill hj
      exact hne (hc.once i j tx hthis hj)
  refine ⟨.answered ⟨.store call, settled.1⟩ (answered_answer ..)
    (c.memory.settle_moved c.now inTime call) ⟨?_, ?_, ?_⟩, ⟨?_, ?_⟩, hover⟩
  · rintro tx (hopen | ⟨j, hj⟩)
    · rw [Memory.isDone_eq_false_iff, hended, ← Memory.isDone_eq_false_iff] at hopen
      exact .inl (.inl hopen)
    · exact .inl (.inr ⟨j, (hstill hj).2⟩)
  · intro tx hcommit
    cases call with
    | commit tx' =>
      have heq : tx' = tx := by
        revert hcommit
        cases settled.1 with
        | error e => intro h; cases h
        | ok _ => exact fun h => Option.some.inj h
      subst heq
      exact ⟨.inr ⟨i, hthis⟩, hover _ rfl⟩
    | _ => cases hcommit
  · rintro tx a hx
    have hcall : call = .rollback tx := Effect.store.inj (congrArg Sigma.fst hx)
    subst hcall
    exact .inl rfl
  · intro j tx hj
    rw [hended]
    exact hc.ended j tx (hstill hj).2
  · intro j k tx hj hk
    exact hc.once j k tx (hstill hj).2 (hstill hk).2

/-- Every step is a turn, and keeps commits in order. -/
theorem Step.turn (hc : c.Orderly) (h : Step joins source c c') : Turn c c' ∧ c'.Orderly := by
  cases h with
  | join p h =>
    have hawaited (j : Nat) := awaited_join (c := c) p j
    exact ⟨.idle rfl rfl fun tx htx => htx.of_eq rfl hawaited, hc.of_eq rfl hawaited⟩
  | pass later h =>
    exact ⟨.idle rfl rfl fun tx htx => htx.of_eq rfl fun _ => rfl, hc.of_eq rfl fun _ => rfl⟩
  | configure script failures latency commitLatency =>
    exact ⟨.idle rfl rfl fun tx htx => htx.of_eq rfl fun _ => rfl, hc.of_eq rfl fun _ => rfl⟩
  | aside i e next a asks he h =>
    have hawaited (j : Nat) : (c.answer i e a next c.memory).awaited j = c.awaited j :=
      awaited_set_ready asks
    refine ⟨.answered ⟨e, a⟩ (answered_answer ..) ?_ ⟨?_, ?_, ?_⟩, hc.of_eq rfl hawaited⟩
    · cases e <;> first | rfl | cases he
    · exact fun tx htx => .inl (htx.of_eq rfl hawaited)
    · intro tx hcommit
      cases e <;> first | cases hcommit | cases he
    · intro tx a' hx
      cases hx
      cases he
  | answerAtOnce i call next a memory asks received =>
    obtain ⟨hturn, horderly, -⟩ := turn_answerAtOnce hc asks received
    exact ⟨hturn, horderly⟩
  | wait i call next until_ inTime memory asks received => exact turn_wait hc asks received
  | settle i call next until_ inTime waits due =>
    obtain ⟨hturn, horderly, -⟩ := turn_settle hc waits
    exact ⟨hturn, horderly⟩

/-! ## Every crowd that can come about -/

/-- A crowd whose store keeps exact accounts. -/
structure Booked (c : Crowd α) : Prop where
  orderly : c.Orderly
  accounts : Accounts c.Live c.memory.ledger c.answered

theorem booked_start : Booked (start : Crowd α) where
  orderly :=
    ⟨fun _ _ h => by simp [awaited, start] at h, fun _ _ _ h => by simp [awaited, start] at h⟩
  accounts := Accounts.of_empty fun tx h => by
    rcases h with hopen | ⟨i, hi⟩
    · simp [Memory.isDone, start, Memory.empty] at hopen
    · simp [awaited, start] at hi

theorem Booked.step (hc : Booked c) (h : Step joins source c c') : Booked c' := by
  obtain ⟨hturn, horderly⟩ := h.turn hc.orderly
  refine ⟨horderly, ?_⟩
  cases hturn with
  | idle answered ledger live =>
    rw [answered, ledger]
    exact hc.accounts.mono live
  | answered x answered moved survive =>
    rw [answered]
    exact hc.accounts.step moved survive

theorem Reachable.booked (h : Reachable joins source c) : Booked c := by
  induction h with
  | refl => exact booked_start
  | tail _ hstep ih => exact ih.step hstep

/-- A transaction that was begun, was not committed, and cannot be committed any more. -/
structure Lost (tx : Transaction) (c : Crowd α) : Prop where
  begun : tx.key < c.memory.ledger.pending.length
  not_live : ¬ c.Live tx
  uncommitted : tx ∉ commitsOf c.answered

theorem Lost.step (h : Lost tx c) (hc : c.Orderly) (hstep : Step joins source c c') :
    Lost tx c' := by
  obtain ⟨hturn, -⟩ := hstep.turn hc
  cases hturn with
  | idle answered ledger live =>
    exact ⟨ledger ▸ h.begun, fun hlive => h.not_live (live tx hlive), answered ▸ h.uncommitted⟩
  | answered x answered moved survive =>
    refine ⟨h.begun.trans_le moved.length_le, fun hlive => ?_, fun hmem => ?_⟩
    · rcases survive.of_live tx hlive with hold | hbegun
      · exact h.not_live hold
      · have hkey := (moved.begun hbegun).1
        have hearlier := h.begun
        omega
    · rw [answered, commitsOf_append, List.mem_append, Option.mem_toList] at hmem
      rcases hmem with hmem | hcommit
      · exact h.uncommitted hmem
      · exact h.not_live (survive.of_commit tx hcommit).1

/-- What is lost stays lost. -/
theorem Lost.steps (h : Lost tx c) (hc : c.Orderly) (hsteps : Steps joins source c c') :
    Lost tx c' := by
  have hall : Lost tx c' ∧ c'.Orderly := by
    induction hsteps with
    | refl => exact ⟨h, hc⟩
    | tail _ hstep ih => exact ⟨ih.1.step ih.2 hstep, (hstep.turn ih.2).2⟩
  exact hall.1

/-- The steps by which a transaction is lost: it is rolled back while it is open, whatever the
answer to that, or its commit fails after it was taken up. -/
inductive Loses (tx : Transaction) (c : Crowd α) : Crowd α → Prop
  | rolledBack (i : Nat) (next : (Call.rollback tx).Answer → Program α)
      (a : (Call.rollback tx).Answer) (memory : Memory)
      (asks : c.parties[i]? = some (.ready (.perform (.store (.rollback tx)) next)))
      (received : c.memory.receive c.now (.rollback tx) = (.answered a, memory))
      (hopen : c.memory.isDone tx = false) :
      Loses tx c (c.answer i (.store (.rollback tx)) a next memory)
  | notCommitted (i : Nat) (next : (Call.commit tx).Answer → Program α) (until_ : Instant)
      (inTime : Bool) (e : StoreError) (memory : Memory)
      (waits : c.parties[i]? = some (.waiting (.commit tx) next until_ inTime))
      (due : until_ ≤ c.now)
      (settled : c.memory.settle c.now inTime (.commit tx) = (.error e, memory)) :
      Loses tx c (c.answer i (.store (.commit tx)) (.error e) next memory)

theorem Loses.step (h : Loses tx c c') : Step joins source c c' := by
  cases h with
  | rolledBack i next a memory asks received hopen =>
    exact .answerAtOnce i _ next a memory asks received
  | notCommitted i next until_ inTime e memory waits due settled =>
    have hstep : Step joins source c _ := .settle i _ next until_ inTime waits due
    rw [settled] at hstep
    exact hstep

/-- What could still be committed and now cannot be is lost, unless this was its commit. -/
theorem Turn.lost (h : Turn c c') (hc : Booked c) (hlive : c.Live tx) (hover : ¬ c'.Live tx)
    {x : Answered} (hx : c'.answered = c.answered ++ [x]) (hcommit : x.commit? = none) :
    Lost tx c' := by
  have hbegun := hc.accounts.known tx (hc.accounts.begun tx hlive)
  refine ⟨?_, hover, ?_⟩
  · cases h with
    | idle answered ledger live => exact ledger ▸ hbegun
    | answered x answered moved survive => exact hbegun.trans_le moved.length_le
  · rw [hx, commitsOf_append, hcommit, Option.toList_none, List.append_nil]
    exact hc.accounts.uncommitted tx hlive

theorem Loses.lost (h : Loses tx c c') (hc : Booked c) : Lost tx c' := by
  cases h with
  | rolledBack i next a memory asks received hopen =>
    obtain ⟨hturn, -, hover⟩ := turn_answerAtOnce hc.orderly asks received
    exact hturn.lost hc (.inl hopen) (hover tx rfl hopen) (answered_answer ..) rfl
  | notCommitted i next until_ inTime e memory waits due settled =>
    obtain ⟨hturn, -, hover⟩ := turn_settle hc.orderly waits
    rw [settled] at hturn hover
    have hawaits : c.awaited i = some (.commit tx) := by
      rw [awaited, waits]
      rfl
    exact hturn.lost hc (.inr ⟨i, hawaits⟩) (hover tx rfl) (answered_answer ..) rfl

/-- At every moment, the committed log is what the history amounts to: the writes outside of
transactions, each once, and with every commit that succeeded what was written within the
transaction before, together and in order. No transaction is committed twice. What was written
within a transaction that was not committed is not in the log, and if the transaction was rolled
back or its commit failed, it never will be. -/
theorem Reachable.committed_exactly (h : Reachable joins source c) :
    c.memory.committed = committedBy c.answered ∧
    (commitsOf c.answered).Nodup ∧
    (∀ tx, tx ∉ commitsOf c.answered →
      c.memory.committed = committedBy (without tx c.answered)) ∧
    ∀ tx c' later, Loses tx c c' → Steps joins source c' later →
      tx ∉ commitsOf later.answered ∧
        later.memory.committed = committedBy (without tx later.answered) := by
  have hwithout {c : Crowd α} (hc : Booked c) {tx : Transaction} (htx : tx ∉ commitsOf c.answered) :
      c.memory.committed = committedBy (without tx c.answered) := by
    rw [committedBy_without htx]
    exact hc.accounts.committed
  refine ⟨h.booked.accounts.committed, h.booked.accounts.nodup, fun tx => hwithout h.booked, ?_⟩
  intro tx c' later hloses hsteps
  have hstep : Step joins source c c' := hloses.step
  have hc' : Booked c' := h.booked.step hstep
  have hlater : Reachable joins source later := (h.tail hstep).trans hsteps
  have hlost : Lost tx later := (hloses.lost h.booked).steps hc'.orderly hsteps
  exact ⟨hlost.uncommitted, hwithout hlater.booked hlost.uncommitted⟩

/-- A write within a transaction that is then ended in some way. -/
def writing (query : String) (ending : Transaction → Call) : Program Unit :=
  .perform (.store (.begin .none ⟨none⟩)) fun begun =>
    match begun with
    | .error _ => .done ()
    | .ok tx => .perform (.store (.exec ⟨0, query, some tx⟩ .none [])) fun _ =>
      .perform (.store (ending tx)) fun _ => .done ()

/-- Two writes, one of which is committed and one rolled back. -/
theorem Reachable.committed_exactly_of_two :
    ∃ c : Crowd Unit, Reachable (fun _ => True) (NumberedIds.source "id") c ∧
      c.memory.committed = [.exec "kept" []] ∧ c.memory.committed = committedBy c.answered ∧
      (commitsOf c.answered).Nodup := by
  have hstart : Mirrors "id" (start : Crowd Unit) _ := mirrors_start ⟨0, 0, 0⟩
  have hempty : Reachable (fun _ => True) (NumberedIds.source "id") (start : Crowd Unit) := .refl
  obtain ⟨c₁, hc₁, h₁⟩ := hempty.join_run hstart (p := writing "kept" .commit) trivial
  obtain ⟨c₂, hc₂, h₂⟩ := hc₁.join_run h₁ (p := writing "lost" .rollback) trivial
  obtain ⟨hcommitted, hnodup, -⟩ := hc₂.committed_exactly
  refine ⟨c₂, hc₂, ?_, hcommitted, hnodup⟩
  rw [h₂.memory]
  rfl

end Crowd

end UserAccounts
