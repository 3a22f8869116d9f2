import UserAccounts.Proofs.Store.Bracket

/-!
# One page of a fixed list

`ListingAnswers` says how a store answers the statements of a listing while it holds a fixed list of
rows: the count is their number, the search gives some of them in order, and the probe tells whether
there are more after a position. On such answers `listAccounts` gives exactly the part of the list
that its window shows (`yields_listAccounts`), whatever else the world answers.
-/

namespace UserAccounts

/-! ## The answers of the store -/

/-- The statements of a listing. -/
def Statements.listing : List String := [countAccounts, findAccounts, hasAccountsAfter]

/-- What counting and probing say about the rows. -/
def rowAnswer (rows : List Row) (query : String) (args : List SqlValue)
    (answer : Except StoreError (Option Row)) : Prop :=
  (query = Statements.countAccounts → args = [] →
    answer = .ok (some ⟨[.int (Int64.ofNat rows.length)]⟩)) ∧
  ∀ position, query = Statements.hasAccountsAfter → args = [.int position] →
    answer = .ok (some ⟨[.bool (decide (position.toInt < rows.length))]⟩)

/-- What searching says about the rows: `$1` of them are left out, and at most `$2` given. -/
def rowsAnswer (rows : List Row) (query : String) (args : List SqlValue)
    (answer : Except StoreError (List Row)) : Prop :=
  ∀ skipped most, query = Statements.findAccounts → args = [.int skipped, .int most] →
    answer = .ok ((rows.drop skipped.toInt.toNat).take most.toInt.toNat)

/-- The statements of a listing are answered in time, from a fixed list of rows. Nothing is said
about any other effect. -/
def ListingAnswers (rows : List Row) : (e : Effect) → e.Answer → Prop
  | .store (.prepare none _ query), answer =>
    query ∈ Statements.listing → ∃ key, answer = .ok ⟨key, query⟩
  | .store (.queryRow s _ args), answer => rowAnswer rows s.query args answer
  | .store (.queryRows s _ args), answer => rowsAnswer rows s.query args answer
  | .store (.close s), answer => s.query ∈ Statements.listing → answer = .ok ()
  | _, _ => True

section Serving

variable {rows : List Row} {accounts : List Account} {database user : String} {d : Deadline}
  {w : Window}

/-- A statement of a listing whose reply is counted on is used without a failure. -/
theorem yields_listed (work : Work) {query : String} {reply : work.Reply}
    (hquery : query ∈ Statements.listing)
    (hreply : ∀ (s : Statement) (answer : Except StoreError work.Reply), s.query = query →
      ListingAnswers rows (.store (work.exchange d s answer).1) (work.exchange d s answer).2 →
        answer = .ok reply) :
    Yields (ListingAnswers rows) ((Store.direct database user).once none d query work)
      (.ok reply) :=
  yields_once (fun _ h => h hquery) hreply fun _ _ hs h => h (hs ▸ hquery)

/-! ## Numbers that are bound -/

theorem positionValue_eq_ok {n : Nat} (h : n < 2 ^ 63) :
    positionValue n = .ok (.int (Int64.ofNat n)) :=
  if_pos (Nat.le_of_lt_succ h)

/-- The position after a window is not cut off as long as it lies within signed numbers. -/
theorem Window.nextOffset_eq (h : w.offset + w.limit < 2 ^ 63) :
    w.nextOffset = w.offset + w.limit := by
  have hmax : Text.maxUnsigned64 = 2 ^ 64 - 1 := rfl
  exact Nat.min_eq_left (by omega)

/-- The values bound for a window that lies within signed numbers. -/
theorem Window.args_eq_ok (h : w.offset + w.limit < 2 ^ 63) :
    w.args = .ok ⟨.int (Int64.ofNat w.offset), .int (Int64.ofNat w.limit),
      .int (Int64.ofNat (w.offset + w.limit))⟩ := by
  unfold Window.args
  rw [nextOffset_eq h, positionValue_eq_ok (n := w.offset) (by omega),
    positionValue_eq_ok (n := w.limit) (by omega), positionValue_eq_ok h]

theorem countValue_eq_ok {n : Nat} (h : n < 2 ^ 63) : countValue (Int64.ofNat n) = .ok n := by
  unfold countValue
  rw [Int64.toInt_ofNat_of_lt h, if_neg (by omega), Int.toNat_natCast]

/-! ## The three queries -/

theorem yields_count : Yields (ListingAnswers rows)
    ((Store.direct database user).rowOnce none d Statements.countAccounts [])
    (.ok (some ⟨[.int (Int64.ofNat rows.length)]⟩)) :=
  yields_listed (.row []) (.head _) fun _ _ hs hanswer => hanswer.1 hs rfl

theorem yields_find (h : w.offset + w.limit < 2 ^ 63) : Yields (ListingAnswers rows)
    ((Store.direct database user).rowsOnce none d Statements.findAccounts
      [.int (Int64.ofNat w.offset), .int (Int64.ofNat w.limit)])
    (.ok ((rows.drop w.offset).take w.limit)) := by
  refine yields_listed (.rows _) (.tail _ (.head _)) fun s answer hs hanswer => ?_
  have hfound : answer = _ := hanswer _ _ hs rfl
  rw [hfound, Int64.toInt_ofNat_of_lt (n := w.offset) (by omega),
    Int64.toInt_ofNat_of_lt (n := w.limit) (by omega)]
  rfl

theorem yields_probe {position : Nat} (h : position < 2 ^ 63) : Yields (ListingAnswers rows)
    ((Store.direct database user).rowOnce none d Statements.hasAccountsAfter
      [.int (Int64.ofNat position)])
    (.ok (some ⟨[.bool (decide (position < rows.length))]⟩)) := by
  refine yields_listed (.row _) (.tail _ (.tail _ (.head _))) fun s answer hs hanswer => ?_
  have hprobed : answer = _ := hanswer.2 _ hs rfl
  rw [hprobed, Int64.toInt_ofNat_of_lt h]
  simp only [Int.ofNat_lt]

/-- Rows that each hold an account hold the list of them. -/
theorem accountsOfRows_eq_ok
    (h : List.Forall₂ (fun row a => Account.ofRow row = .ok a) rows accounts) :
    accountsOfRows rows = .ok accounts := by
  induction h with
  | nil => rfl
  | cons hrow _ ih => rw [accountsOfRows, hrow, ih]

/-! ## The listing -/

/-- The part of a list of accounts that a window shows. -/
def listingOf (accounts : List Account) (w : Window) : Listing where
  window := w
  total := accounts.length
  hasNext := decide (w.offset + w.limit < accounts.length)
  accounts := (accounts.drop w.offset).take w.limit

/-- From a store that holds a fixed list, every window gets its part of that list. -/
theorem yields_listAccounts
    (hrows : List.Forall₂ (fun row a => Account.ofRow row = .ok a) rows accounts)
    (hcount : accounts.length < 2 ^ 63) (hw : w.offset + w.limit < 2 ^ 63) :
    Yields (ListingAnswers rows) (listAccounts (Store.direct database user) w)
      (.ok (listingOf accounts w)) := by
  have hlength : rows.length = accounts.length := hrows.length_eq
  have hdecoded : accountsOfRows ((rows.drop w.offset).take w.limit) =
      .ok ((accounts.drop w.offset).take w.limit) :=
    accountsOfRows_eq_ok (List.forall₂_take _ (List.forall₂_drop _ hrows))
  unfold listAccounts
  refine ⟨trivial, fun now _ => Yields.keeps ?_⟩
  simp only [Program.bind_eq, Program.pure_eq_done, Program.done_bind]
  rw [Window.args_eq_ok hw]
  -- One query after the other yields what the rows say, and gives way to it.
  refine yields_count.bind ?_
  dsimp only [firstColumn, Row.integer, Row.column, List.getElem?_cons_zero]
  rw [hlength, countValue_eq_ok hcount]
  refine (yields_find hw).bind ?_
  dsimp only [decoding]
  rw [hdecoded]
  refine (yields_probe hw).bind ?_
  rw [hlength]
  exact ⟨rfl⟩

end Serving

/-! ## A store with nothing but the list -/

/-- A machine that remembers nothing, and whose store holds rows and takes no others in. -/
def shelf (rows : List Row) : Machine Unit where
  step _ e := (answer e, ())
where
  answer : (e : Effect) → e.Answer
    | .store (.prepare _ _ query) => .ok ⟨0, query⟩
    | .store (.begin _ _) => .ok ⟨0⟩
    | .store (.exec _ _ _) => .ok 0
    | .store (.queryRow _ _ [.int position]) =>
      .ok (some ⟨[.bool (decide (position.toInt < rows.length))]⟩)
    | .store (.queryRow _ _ _) => .ok (some ⟨[.int (Int64.ofNat rows.length)]⟩)
    | .store (.queryRows _ _ [.int skipped, .int most]) =>
      .ok ((rows.drop skipped.toInt.toNat).take most.toInt.toNat)
    | .store (.queryRows _ _ _) => .ok []
    | .store (.close _) => .ok ()
    | .store (.commit _) => .ok ()
    | .store (.rollback _) => .ok ()
    | .now => ⟨0⟩
    | .wait _ _ => true
    | .clock _ => .epoch
    | .identifier => .unassigned
    | .currentRequest => none
    | .freshRequest => ⟨"1", by decide⟩
    | .report _ => ()
    | .observe _ _ => ()

theorem shelf_answers (rows : List Row) (s : Unit) (e : Effect) :
    ListingAnswers rows e ((shelf rows).step s e).1 := by
  cases e with
  | store call =>
    cases call with
    | prepare within deadline query =>
      cases within with
      | none => exact fun _ => ⟨0, rfl⟩
      | some tx => trivial
    | queryRow statement deadline args =>
      constructor
      · rintro - rfl
        rfl
      · rintro position - rfl
        rfl
    | queryRows statement deadline args =>
      rintro skipped most - rfl
      rfl
    | close statement => exact fun _ => rfl
    | _ => trivial
  | _ => trivial

end UserAccounts
