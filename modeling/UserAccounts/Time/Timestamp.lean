import UserAccounts.Text.Inspect

/-!
# Timestamps

Moments of civil time in nanoseconds since 1970 began, within the years that the calendar module
covers. `Civil.ofDays` turns a count of days into a date of the Gregorian calendar;
`Timestamp.display` and its `Inspect` instance are the two written forms.
-/

namespace UserAccounts

open Text (Inspect)

/-- A date of the Gregorian calendar. -/
structure Civil where
  year : Int
  month : Nat
  day : Nat
  deriving DecidableEq

namespace Civil

/-- The date a number of days after 1 January 1970. Years begin in March while counting, so that a
leap day is the last day of its year, and four centuries make an era of 146097 days. -/
def ofDays (days : Int) : Civil :=
  let shifted := days + 719468
  let era := shifted / 146097
  let dayOfEra := (shifted % 146097).toNat
  let yearOfEra := (dayOfEra - dayOfEra / 1460 + dayOfEra / 36524 - dayOfEra / 146096) / 365
  let dayOfYear := dayOfEra - (365 * yearOfEra + yearOfEra / 4 - yearOfEra / 100)
  let marchMonth := (5 * dayOfYear + 2) / 153
  let day := dayOfYear - (153 * marchMonth + 2) / 5 + 1
  let month := if marchMonth < 10 then marchMonth + 3 else marchMonth - 9
  let year := (yearOfEra : Int) + era * 400
  ⟨if month ≤ 2 then year + 1 else year, month, day⟩

end Civil

/-- A number in at least `width` digits. -/
def paddedNatural (width n : Nat) : String :=
  let digits := Nat.toDigits 10 n
  String.ofList (List.replicate (width - digits.length) '0' ++ digits)

/-- A year in at least four digits, with a sign outside the years 0 to 9999. -/
def yearText (year : Int) : String :=
  if year < 0 then "-" ++ paddedNatural 4 year.natAbs
  else if year ≤ 9999 then paddedNatural 4 year.toNat
  else "+" ++ paddedNatural 5 year.toNat

/-- A moment of civil time. -/
structure Timestamp where
  /-- Nanoseconds since 1970 began, negative before. -/
  nanos : Int
  inRange : -8334601228800000000000 ≤ nanos ∧ nanos ≤ 8210266876799999999999
  deriving DecidableEq

namespace Timestamp

/-- The beginning of 1970. -/
def epoch : Timestamp := ⟨0, by decide⟩

instance : Inhabited Timestamp := ⟨epoch⟩

/-- The moment a number of milliseconds after 1970 began, if it lies in the covered years. -/
def ofMillis? (millis : Int) : Option Timestamp :=
  if h : -8334601228800000 ≤ millis ∧ millis ≤ 8210266876799999 then
    some ⟨millis * 1000000, by omega⟩
  else none

/-- The whole milliseconds since 1970 began, rounded towards the past. -/
def millis (t : Timestamp) : Int :=
  t.nanos / 1000000

theorem millis_bounds (t : Timestamp) :
    -8334601228800000 ≤ t.millis ∧ t.millis ≤ 8210266876799999 := by
  have h := t.inRange
  unfold millis
  omega

theorem millis_of_ofMillis? {m : Int} {t : Timestamp} (h : ofMillis? m = some t) :
    t.millis = m := by
  unfold ofMillis? at h
  split at h
  · cases h
    simp [millis]
  · cases h

/-- A fraction of a second in nanoseconds: nothing, three, six or nine digits, as few as hold it. -/
def fractionText (nanos : Nat) : String :=
  if nanos == 0 then ""
  else if nanos % 1000000 == 0 then "." ++ paddedNatural 3 (nanos / 1000000)
  else if nanos % 1000 == 0 then "." ++ paddedNatural 6 (nanos / 1000)
  else "." ++ paddedNatural 9 nanos

/-- Date and time of day, with a given text between them. -/
def dateAndTime (t : Timestamp) (between : String) : String :=
  let seconds := t.nanos / 1000000000
  let fraction := (t.nanos % 1000000000).toNat
  let date := Civil.ofDays (seconds / 86400)
  let ofDay := (seconds % 86400).toNat
  yearText date.year ++ "-" ++ paddedNatural 2 date.month ++ "-" ++ paddedNatural 2 date.day ++
    between ++ paddedNatural 2 (ofDay / 3600) ++ ":" ++ paddedNatural 2 (ofDay / 60 % 60) ++ ":" ++
    paddedNatural 2 (ofDay % 60) ++ fractionText fraction

/-- The written form for people, in universal time. -/
def display (t : Timestamp) : String :=
  t.dateAndTime " " ++ " UTC"

/-- The written form for people, in a zone without offset. -/
def displayWithOffset (t : Timestamp) : String :=
  t.dateAndTime " " ++ " +00:00"

instance : Inspect Timestamp where
  inspect t := t.dateAndTime "T" ++ "Z"

end Timestamp

end UserAccounts
