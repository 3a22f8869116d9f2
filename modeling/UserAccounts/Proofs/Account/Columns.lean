import Mathlib
import UserAccounts.Http.Body
import UserAccounts.Account.Record
import UserAccounts.Account.Statements
import UserAccounts.Proofs.Account.Concurrency
import UserAccounts.Proofs.Sequence

/-!
# The columns of an account

An account with its user is added as two records and read as one row of their join. Which value
goes into which column, and which column is read at which place, is written in the texts of the
statements: `Adds` and `ShowsRow` take it from there.

* `insertUser_adds` and `insertAccount_adds` — the values that are bound make up the records of the
  user and of the account;
* `findAccountById_shows` and `findAccounts_shows` — both queries show the same row of two records;
* `Account.ofRow_row` — that row holds the account, but for what its times lose
  (`Timestamp.floored`), which is less than a millisecond (`Timestamp.floored_bounds`);
* `Account.ofRow_error_iff` — a row holds no account exactly if one of its seven columns is missing
  or holds something else than it should (`Row.Misfit`).
-/

namespace UserAccounts

open Text (Inspect)

/-! ## Records -/

/-- A record of a table: its columns by name. -/
abbrev Record := List (String × SqlValue)

/-- The placeholders of a number of values. -/
def placeholders (count : Nat) : List String :=
  (List.range count).map fun i => "$" ++ Text.natural (i + 1)

/-- The statement that adds a record with certain columns to a table. -/
def insertText (table : String) (columns : List String) : String :=
  "INSERT INTO " ++ table ++ " (" ++ Inspect.commaSeparated columns ++ ") VALUES (" ++
    Inspect.commaSeparated (placeholders columns.length) ++ ")"

/-- A statement, run with some values, adds a record to a table: each value goes into the column
whose placeholder it is bound to. -/
def Adds (query : String) (args : List SqlValue) (table : String) (record : Record) : Prop :=
  ∃ columns, query = insertText table columns ∧ columns.length = args.length ∧
    record = columns.zip args

/-! ## The join of accounts with users -/

/-- The two tables that are joined, by the names that they have in the join. -/
inductive Joined where
  | account
  | user
  deriving DecidableEq

/-- The name of a table in the join. -/
def Joined.alias : Joined → String
  | .account => "ua"
  | .user => "u"

/-- A column of the join, and the name that it gets in the result. -/
structure JoinColumn where
  table : Joined
  column : String
  name : String

namespace JoinColumn

/-- The column in the text of a query. -/
def text (c : JoinColumn) : String :=
  c.table.alias ++ "." ++ c.column ++ if c.name = c.column then "" else " AS " ++ c.name

/-- The value of the column. -/
def value? (account user : Record) (c : JoinColumn) : Option SqlValue :=
  match c.table with
  | .account => account.lookup c.column
  | .user => user.lookup c.column

end JoinColumn

/-- The accounts, each with its user. -/
def joinText : String := "user_accounts AS ua INNER JOIN users AS u ON u.user_id = ua.user_id"

/-- The row of certain columns in the join of two records: there is one if they belong to each
other. -/
def joinRow? (columns : List JoinColumn) (account user : Record) : Option Row :=
  match user.lookup "user_id", account.lookup "user_id" with
  | some id, some id' =>
    if id = id' then (columns.mapM (JoinColumn.value? account user)).map Row.mk else none
  | _, _ => none

/-- The query for the columns of the account that has an identifier. -/
def accountText (columns : List JoinColumn) : String :=
  "SELECT " ++ Inspect.commaSeparated (columns.map (·.text)) ++ " FROM " ++ joinText ++
    " WHERE ua.user_account_id = $1"

/-- The query for columns of a part of all accounts, which are numbered for this. The columns of the
result are named after those of the numbered accounts. -/
def pageText (names : List String) (columns : List JoinColumn) : String :=
  "SELECT " ++ Inspect.commaSeparated names ++ " FROM (SELECT " ++
    Inspect.commaSeparated
      (columns.map (·.text) ++ ["ROW_NUMBER() OVER (ORDER BY ua.row_id) AS row_num"]) ++
    " FROM " ++ joinText ++ ") AS numbered WHERE row_num > $1 ORDER BY row_num LIMIT $2"

/-- The columns that the rows of a query hold, in order. -/
inductive ShowsColumns : String → List JoinColumn → Prop
  | account (columns : List JoinColumn) : ShowsColumns (accountText columns) columns
  | page {names : List String} {columns shown : List JoinColumn}
      (named : names.mapM (fun name => columns.find? (·.name == name)) = some shown) :
      ShowsColumns (pageText names columns) shown

/-- A query shows two records that belong to each other as a row. -/
def ShowsRow (query : String) (account user : Record) (row : Row) : Prop :=
  ∃ columns, ShowsColumns query columns ∧ joinRow? columns account user = some row

/-! ## The records of an account -/

/-- A user as a record. -/
def User.record (u : User) : Record :=
  [("user_id", .text u.id.text), ("first_name", .text u.firstName),
    ("last_name", .text u.lastName), ("created_at", u.createdAt.sqlValue)]

/-- An account as a record, without its user. -/
def Account.record (a : Account) : Record :=
  [("user_account_id", .text a.id.text), ("username", .text a.username),
    ("user_id", .text a.user.id.text), ("created_at", a.createdAt.sqlValue)]

/-- An account and its user as a row: account, username and time of the account, then user, first
and last name and time of the user. -/
def Account.row (a : Account) : Row :=
  ⟨[.text a.id.text, .text a.username, a.createdAt.sqlValue, .text a.user.id.text,
    .text a.user.firstName, .text a.user.lastName, a.user.createdAt.sqlValue]⟩

theorem insertUser_adds (u : User) :
    Adds Statements.insertUser u.insertArgs "users" u.record :=
  ⟨["user_id", "first_name", "last_name", "created_at"], by decide +kernel, rfl, rfl⟩

theorem insertAccount_adds (a : Account) :
    Adds Statements.insertAccount a.insertArgs "user_accounts" a.record :=
  ⟨["user_account_id", "username", "user_id", "created_at"], by decide +kernel, rfl, rfl⟩

/-- The columns of an account and its user in the join. The result names the two times as told. -/
def accountColumns (accountTime userTime : String) : List JoinColumn :=
  [⟨.account, "user_account_id", "user_account_id"⟩, ⟨.account, "username", "username"⟩,
    ⟨.account, "created_at", accountTime⟩, ⟨.user, "user_id", "user_id"⟩,
    ⟨.user, "first_name", "first_name"⟩, ⟨.user, "last_name", "last_name"⟩,
    ⟨.user, "created_at", userTime⟩]

theorem joinRow?_accountColumns (accountTime userTime : String) (a : Account) :
    joinRow? (accountColumns accountTime userTime) a.record a.user.record = some a.row := by
  have hsame : (if SqlValue.text a.user.id.text = .text a.user.id.text then some a.row else none) =
      some a.row :=
    if_pos rfl
  exact hsame

theorem findAccountById_shows (a : Account) :
    ShowsRow Statements.findAccountById a.record a.user.record a.row := by
  have htext : Statements.findAccountById =
      accountText (accountColumns "created_at" "created_at") := by
    decide +kernel
  rw [htext]
  exact ⟨_, .account _, joinRow?_accountColumns _ _ a⟩

theorem findAccounts_shows (a : Account) :
    ShowsRow Statements.findAccounts a.record a.user.record a.row := by
  have htext : Statements.findAccounts = pageText
      ["user_account_id", "username", "account_created_at", "user_id", "first_name", "last_name",
        "user_created_at"]
      (accountColumns "account_created_at" "user_created_at") := by
    decide +kernel
  rw [htext]
  exact ⟨_, .page rfl, joinRow?_accountColumns _ _ a⟩

/-! ## Times -/

namespace Timestamp

/-- The moment in whole milliseconds, rounded towards the past. -/
def floored (t : Timestamp) : Timestamp where
  nanos := t.millis * 1000000
  inRange := by
    have h := t.millis_bounds
    omega

/-- Less than a millisecond is lost, also before 1970. -/
theorem floored_bounds (t : Timestamp) :
    t.floored.nanos ≤ t.nanos ∧ t.nanos < t.floored.nanos + 1000000 := by
  have hnanos : t.floored.nanos = t.nanos / 1000000 * 1000000 := rfl
  omega

theorem ofMillis?_millis (t : Timestamp) : ofMillis? t.millis = some t.floored :=
  dif_pos t.millis_bounds

@[simp] theorem millis_floored (t : Timestamp) : t.floored.millis = t.millis :=
  millis_of_ofMillis? t.ofMillis?_millis

theorem ofMillis?_eq_none_iff {n : Int} :
    ofMillis? n = none ↔ n < -8334601228800000 ∨ 8210266876799999 < n := by
  unfold ofMillis?
  split_ifs with h
  · rw [false_iff]
    omega
  · exact ⟨fun _ => by omega, fun _ => rfl⟩

end Timestamp

/-- The account with its times in whole milliseconds. -/
def Account.floored (a : Account) : Account :=
  { a with
    user := { a.user with createdAt := a.user.createdAt.floored }
    createdAt := a.createdAt.floored }

/-- Responses show times in milliseconds, so they do not show what is lost by rounding. -/
theorem AccountView.ofAccount_floored (a : Account) : ofAccount a.floored = ofAccount a := by
  simp [ofAccount, UserView.ofUser, Account.floored]

/-! ## What a row holds -/

namespace Row

variable {row : Row} {index : Nat}

theorem textAt_eq_ok_iff {s : String} :
    row.textAt index = .ok s ↔ row.columns[index]? = some (.text s) := by
  unfold textAt column
  cases row.columns[index]? with
  | none => simp
  | some value => cases value <;> simp

theorem integer_eq_ok_iff {n : Int64} :
    row.integer index = .ok n ↔ row.columns[index]? = some (.int n) := by
  unfold integer column
  cases row.columns[index]? with
  | none => simp
  | some value => cases value <;> simp

theorem timestamp_eq_ok_iff {t : Timestamp} :
    row.timestamp index = .ok t ↔
      ∃ n, row.columns[index]? = some (.int n) ∧ Timestamp.ofMillis? n.toInt = some t := by
  unfold timestamp
  cases hn : row.integer index with
  | error e =>
    refine ⟨nofun, fun ⟨n, hcolumn, _⟩ => ?_⟩
    rw [integer_eq_ok_iff.mpr hcolumn] at hn
    cases hn
  | ok n =>
    have hcolumn := integer_eq_ok_iff.mp hn
    cases ht : Timestamp.ofMillis? n.toInt with
    | none => simp [hcolumn, ht]
    | some t' => simp [hcolumn, ht]

end Row

/-- A row holds an account exactly if each of its columns holds a part of it. -/
theorem Account.ofRow_eq_ok_iff {row : Row} {a : Account} :
    ofRow row = .ok a ↔
      row.textAt 0 = .ok a.id.text ∧ row.textAt 1 = .ok a.username ∧
      row.timestamp 2 = .ok a.createdAt ∧ row.textAt 3 = .ok a.user.id.text ∧
      row.textAt 4 = .ok a.user.firstName ∧ row.textAt 5 = .ok a.user.lastName ∧
      row.timestamp 6 = .ok a.user.createdAt := by
  simp only [ofRow, bind_eq_ok_iff]
  constructor
  · rintro ⟨_, h3, _, h4, _, h5, _, h6, _, h0, _, h1, _, h2, ha⟩
    cases ha
    exact ⟨h0, h1, h2, h3, h4, h5, h6⟩
  · rintro ⟨h0, h1, h2, h3, h4, h5, h6⟩
    exact ⟨_, h3, _, h4, _, h5, _, h6, _, h0, _, h1, _, h2, rfl⟩

theorem Account.ofRow_row (a : Account) : ofRow a.row = .ok a.floored := by
  have htime (t : Timestamp) : ∃ n : Int64, some t.sqlValue = some (.int n) ∧
      Timestamp.ofMillis? n.toInt = some t.floored :=
    ⟨_, rfl, by rw [t.toInt_ofInt_millis, t.ofMillis?_millis]⟩
  refine ofRow_eq_ok_iff.mpr ⟨rfl, rfl, ?_, rfl, rfl, rfl, ?_⟩
  · exact Row.timestamp_eq_ok_iff.mpr (htime a.createdAt)
  · exact Row.timestamp_eq_ok_iff.mpr (htime a.user.createdAt)

/-! ## Rows that hold no account -/

/-- Whether a column of a row holds a time; the others hold texts. -/
def isTimeColumn (index : Nat) : Bool := index == 2 || index == 6

/-- A column does not hold what an account needs there. -/
inductive Row.Misfit (row : Row) (index : Nat) : Prop
  | missing (absent : row.columns[index]? = none)
  | noText {value : SqlValue} (present : row.columns[index]? = some value)
      (kind : isTimeColumn index = false) (other : ∀ s, value ≠ .text s)
  | noTime {value : SqlValue} (present : row.columns[index]? = some value)
      (kind : isTimeColumn index = true) (other : ∀ n, value ≠ .int n)
  | outOfRange {n : Int64} (present : row.columns[index]? = some (.int n))
      (kind : isTimeColumn index = true)
      (beyond : n.toInt < -8334601228800000 ∨ 8210266876799999 < n.toInt)

namespace Row

variable {row : Row} {index : Nat}

/-- A column of text fits exactly if a text is read from it. -/
theorem exists_textAt_iff (kind : isTimeColumn index = false) :
    (∃ s, row.textAt index = .ok s) ↔ ¬ row.Misfit index := by
  constructor
  · rintro ⟨s, hs⟩ misfit
    have hcolumn := textAt_eq_ok_iff.mp hs
    cases misfit with
    | missing absent => exact nomatch hcolumn.symm.trans absent
    | noText present _ other => exact other s (Option.some.inj (present.symm.trans hcolumn))
    | noTime _ kind' _ => exact nomatch kind.symm.trans kind'
    | outOfRange _ kind' _ => exact nomatch kind.symm.trans kind'
  · intro fits
    cases hcolumn : row.columns[index]? with
    | none => exact absurd (.missing hcolumn) fits
    | some value =>
      by_cases htext : ∃ s, value = .text s
      · obtain ⟨s, rfl⟩ := htext
        exact ⟨s, textAt_eq_ok_iff.mpr hcolumn⟩
      · exact absurd (.noText hcolumn kind fun s hs => htext ⟨s, hs⟩) fits

/-- A column of a time fits exactly if a time is read from it. -/
theorem exists_timestamp_iff (kind : isTimeColumn index = true) :
    (∃ t, row.timestamp index = .ok t) ↔ ¬ row.Misfit index := by
  constructor
  · rintro ⟨t, ht⟩ misfit
    obtain ⟨n, hcolumn, hn⟩ := timestamp_eq_ok_iff.mp ht
    cases misfit with
    | missing absent => exact nomatch hcolumn.symm.trans absent
    | noText _ kind' _ => exact nomatch kind.symm.trans kind'
    | noTime present _ other => exact other n (Option.some.inj (present.symm.trans hcolumn))
    | outOfRange present _ beyond =>
      cases present.symm.trans hcolumn
      exact nomatch hn.symm.trans (Timestamp.ofMillis?_eq_none_iff.mpr beyond)
  · intro fits
    cases hcolumn : row.columns[index]? with
    | none => exact absurd (.missing hcolumn) fits
    | some value =>
      by_cases hint : ∃ n, value = .int n
      · obtain ⟨n, rfl⟩ := hint
        cases ht : Timestamp.ofMillis? n.toInt with
        | none =>
          have beyond := Timestamp.ofMillis?_eq_none_iff.mp ht
          exact absurd (.outOfRange hcolumn kind beyond) fits
        | some t => exact ⟨t, timestamp_eq_ok_iff.mpr ⟨n, hcolumn, ht⟩⟩
      · exact absurd (.noTime hcolumn kind fun n hn => hint ⟨n, hn⟩) fits

end Row

/-- A row holds no account exactly if one of its first seven columns is missing, holds a value of
another type, or a time outside of the years that are covered. -/
theorem Account.ofRow_error_iff (row : Row) :
    (∃ e, ofRow row = .error e) ↔ ∃ index < 7, row.Misfit index := by
  constructor
  · rintro ⟨e, he⟩
    by_contra hnone
    have fits (index : Nat) (h : index < 7) : ¬ row.Misfit index := fun misfit =>
      hnone ⟨index, h, misfit⟩
    -- If every column fits, its values make up an account.
    obtain ⟨id, h0⟩ := (Row.exists_textAt_iff rfl).mpr (fits 0 (by decide))
    obtain ⟨username, h1⟩ := (Row.exists_textAt_iff rfl).mpr (fits 1 (by decide))
    obtain ⟨createdAt, h2⟩ := (Row.exists_timestamp_iff rfl).mpr (fits 2 (by decide))
    obtain ⟨userId, h3⟩ := (Row.exists_textAt_iff rfl).mpr (fits 3 (by decide))
    obtain ⟨firstName, h4⟩ := (Row.exists_textAt_iff rfl).mpr (fits 4 (by decide))
    obtain ⟨lastName, h5⟩ := (Row.exists_textAt_iff rfl).mpr (fits 5 (by decide))
    obtain ⟨userCreatedAt, h6⟩ := (Row.exists_timestamp_iff rfl).mpr (fits 6 (by decide))
    have hread : ofRow row =
        .ok ⟨⟨id⟩, username, ⟨⟨userId⟩, firstName, lastName, userCreatedAt⟩, createdAt⟩ :=
      ofRow_eq_ok_iff.mpr ⟨h0, h1, h2, h3, h4, h5, h6⟩
    exact nomatch he.symm.trans hread
  · rintro ⟨index, hindex, misfit⟩
    cases hread : ofRow row with
    | error e => exact ⟨e, rfl⟩
    | ok a =>
      obtain ⟨h0, h1, h2, h3, h4, h5, h6⟩ := ofRow_eq_ok_iff.mp hread
      refine absurd misfit ?_
      interval_cases index
      · exact (Row.exists_textAt_iff rfl).mp ⟨_, h0⟩
      · exact (Row.exists_textAt_iff rfl).mp ⟨_, h1⟩
      · exact (Row.exists_timestamp_iff rfl).mp ⟨_, h2⟩
      · exact (Row.exists_textAt_iff rfl).mp ⟨_, h3⟩
      · exact (Row.exists_textAt_iff rfl).mp ⟨_, h4⟩
      · exact (Row.exists_textAt_iff rfl).mp ⟨_, h5⟩
      · exact (Row.exists_timestamp_iff rfl).mp ⟨_, h6⟩

end UserAccounts
