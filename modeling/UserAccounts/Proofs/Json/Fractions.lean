import Mathlib
import UserAccounts.Proofs.Json.Reading

/-!
# The texts of fractions

A number with a fraction is written in one of several notations, and each of them is the text of a
numeral (`Decimal.chars_numeral`). So the text of every value is read as a document, be there
fractions in it or not (`Value.readAs_transcript`).
-/

namespace UserAccounts

open Json (Numeral exists_toDigits_eq_cons)

/-! ## Notations -/

namespace Decimal

/-- The exponent of a numeral. -/
def exponentPart (n : ℤ) : Bool × List Char := (decide (n < 0), Nat.toDigits 10 n.natAbs)

/-- The numeral that is written for a decimal with a sign. -/
def numeral (negative : Bool) (d : Decimal) : Numeral :=
  let digits := d.digitChars
  let places := (digits.length : Int) + d.exponent
  if d.digits == 0 then ⟨negative, ['0'], ['0'], none⟩
  else if 0 ≤ d.exponent && places ≤ 16 then
    ⟨negative, digits ++ zeros d.exponent.toNat, ['0'], none⟩
  else if -5 < places && places ≤ 16 then
    if places ≤ 0 then ⟨negative, ['0'], zeros (-places).toNat ++ digits, none⟩
    else ⟨negative, digits.take places.toNat, digits.drop places.toNat, none⟩
  else ⟨negative, digits.take 1, digits.drop 1, some (exponentPart (places - 1))⟩

variable {d : Decimal} {negative : Bool}

/-- The digits of a decimal that is not 0 begin with one that is not 0. -/
theorem exists_digitChars (hd : d.digits ≠ 0) :
    ∃ v rest, d.digitChars = Nat.digitChar v :: rest ∧ 0 < v ∧ v < 10 ∧
      ∀ c ∈ rest, c.isDigit = true := by
  obtain ⟨v, rest, hdigits, hpos, hlt⟩ := exists_toDigits_eq_cons (Nat.pos_of_ne_zero hd)
  exact ⟨v, rest, hdigits, hpos, hlt, fun c hc =>
    Numeral.isDigit_toDigits (hdigits ▸ List.mem_cons_of_mem _ hc)⟩

theorem isDigit_zeros (n : Nat) : ∀ c ∈ zeros n, c.isDigit = true := by
  intro c hc
  rw [List.eq_of_mem_replicate hc]
  rfl

theorem exponentChars_exponentPart (n : ℤ) :
    Numeral.exponentChars (some (exponentPart n)) = 'e' :: (Text.integer n).toList := by
  rw [exponentPart, Numeral.exponentChars, Numeral.toList_integer]

theorem negative_numeral (negative : Bool) (d : Decimal) :
    (d.numeral negative).negative = negative := by
  unfold numeral
  dsimp only
  split_ifs <;> rfl

/-- A decimal is written as its numeral. -/
theorem chars_numeral (negative : Bool) (d : Decimal) :
    (if negative then ['-'] else []) ++ d.scientificOrPlain = (d.numeral negative).chars := by
  rw [Numeral.chars, negative_numeral, List.append_assoc]
  congr 1
  unfold scientificOrPlain numeral
  dsimp only
  split_ifs with hzero hplain hpointed hsmall
  · rfl
  all_goals
    obtain ⟨v, rest, hdigits, -⟩ := exists_digitChars (d := d) (by simpa using hzero)
    rw [hdigits]
  · rw [Numeral.laterChars_pointed (by simp), Numeral.exponentChars, List.append_nil]
    rfl
  · rw [hdigits] at hsmall
    rw [pointed, if_pos hsmall, Numeral.laterChars_pointed (by simp), Numeral.exponentChars,
      List.append_nil]
    rfl
  · rw [hdigits] at hplain hpointed hsmall
    have htail : (Nat.digitChar v :: rest).drop
        (((Nat.digitChar v :: rest).length : ℤ) + d.exponent).toNat ≠ [] := by
      rw [ne_eq, List.drop_eq_nil_iff]
      simp only [Bool.and_eq_true, decide_eq_true_eq] at hplain hpointed
      omega
    rw [pointed, if_neg hsmall, Numeral.laterChars_pointed htail, Numeral.exponentChars,
      List.append_nil]
  · rw [← exponentChars_exponentPart]
    cases rest with
    | nil => rfl
    | cons second rest =>
      rw [Numeral.laterChars_pointed (by simp)]
      rfl

theorem isDigit_exponentPart (n : ℤ) :
    (exponentPart n).2 ≠ [] ∧ ∀ c ∈ (exponentPart n).2, c.isDigit = true :=
  ⟨Nat.toDigits_ne_nil, fun _ hc => Numeral.isDigit_toDigits hc⟩

/-- The parts of the numeral are digits, as many as there have to be. -/
theorem isGrammatical_numeral (negative : Bool) (d : Decimal) :
    (d.numeral negative).IsGrammatical := by
  unfold numeral
  dsimp only
  split_ifs with hzero hplain hpointed hsmall
  · exact ⟨.zero, by simp, nofun⟩
  all_goals
    obtain ⟨v, rest, hdigits, hpos, hlt, hrest⟩ :=
      exists_digitChars (d := d) (by simpa using hzero)
    have hall : ∀ c ∈ Nat.digitChar v :: rest, c.isDigit = true :=
      fun c hc => Numeral.isDigit_toDigits (hdigits ▸ hc)
    rw [hdigits]
  · refine ⟨.digits hpos hlt fun c hc => ?_, by simp, nofun⟩
    exact (List.mem_append.mp hc).elim (hrest c) (isDigit_zeros _ c)
  · refine ⟨.zero, fun c hc => ?_, nofun⟩
    exact (List.mem_append.mp hc).elim (isDigit_zeros _ c) (hall c)
  · rw [hdigits] at hsmall
    obtain ⟨places, hplaces⟩ : ∃ n, (((Nat.digitChar v :: rest).length : ℤ) +
        d.exponent).toNat = n + 1 := ⟨_, (Nat.succ_pred_eq_of_pos (by omega)).symm⟩
    rw [hplaces]
    exact ⟨.digits hpos hlt fun c hc => hrest c (List.mem_of_mem_take hc),
      fun c hc => hall c (List.mem_of_mem_drop hc), nofun⟩
  · refine ⟨.digits hpos hlt nofun, fun c hc => hrest c hc, ?_⟩
    rintro e ⟨⟩
    exact isDigit_exponentPart _

end Decimal

namespace Json

/-! ## The text of a value -/

mutual

/-- The document that a value is written as; a number that is not finite is written as `null`. -/
def Value.transcript : Value → Document
  | .null => .null
  | .bool b => .bool b
  | .number (.whole n) => .number (.ofInt n)
  | .number (.float bits) =>
    match Binary64.ofBits? bits with
    | some x => .number (x.shortest.numeral x.negative)
    | none => .null
  | .string s => .string (.whole s)
  | .array items => .array (itemTranscripts items)
  | .object members => .object (memberTranscripts members)

/-- The documents that the elements of an array are written as. -/
def itemTranscripts : List Value → List Document
  | [] => []
  | v :: rest => v.transcript :: itemTranscripts rest

/-- The documents that the members of an object are written as. -/
def memberTranscripts : List (String × Value) → List (Spelling × Document)
  | [] => []
  | (key, v) :: rest => (.whole key, v.transcript) :: memberTranscripts rest

end

theorem Value.readAs_float (bits : UInt64) :
    (Value.number (.float bits)).ReadAs (Value.number (.float bits)).transcript := by
  intro stack mayClose
  rw [Value.chars, Number.text, Value.transcript]
  cases Binary64.ofBits? bits with
  | none => exact readAs_null stack mayClose
  | some x =>
    dsimp only
    rw [Binary64.render, String.toList_ofList, Decimal.chars_numeral]
    exact Reader.run?_chars (Decimal.isGrammatical_numeral x.negative x.shortest) stack mayClose

mutual

/-- The text of every value is read as a document. -/
theorem Value.readAs_transcript : (v : Value) → v.ReadAs v.transcript
  | .null => Value.readAs_null
  | .bool b => Value.readAs_bool b
  | .number (.whole n) => Value.readAs_whole n
  | .number (.float bits) => Value.readAs_float bits
  | .string s => Value.readAs_string s
  | .array items => Value.readAs_array (itemsReadAs_transcripts items)
  | .object members => Value.readAs_object (membersReadAs_transcripts members)

/-- The texts of the elements of an array are read as documents. -/
theorem itemsReadAs_transcripts : (items : List Value) →
    List.Forall₂ Value.ReadAs items (itemTranscripts items)
  | [] => .nil
  | v :: rest => .cons v.readAs_transcript (itemsReadAs_transcripts rest)

/-- The texts of the members of an object are read as members of a document. -/
theorem membersReadAs_transcripts : (members : List (String × Value)) →
    List.Forall₂ MemberReadAs members (memberTranscripts members)
  | [] => .nil
  | (_, v) :: rest => .cons ⟨rfl, v.readAs_transcript⟩ (membersReadAs_transcripts rest)

end

/-- The text of every value is that of a document. -/
theorem Value.exists_readAs (v : Value) : ∃ d, v.ReadAs d := ⟨_, v.readAs_transcript⟩

end Json

end UserAccounts
