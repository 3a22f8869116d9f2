import UserAccounts.Text.Blank
import UserAccounts.Text.Inspect

/-!
# Request identifiers

A request identifier is a token of 1 to 128 characters that may stand in a URL and in a header. It
accompanies one request through every service that takes part in it. `RequestId.parse` is the only
way to make one from outside text, and it ignores white space around the token.
-/

namespace UserAccounts

open Text (Inspect inspect)

/-- Whether a character may occur in a request identifier. -/
def isTokenChar (c : Char) : Bool :=
  c.isAlphanum || c == '-' || c == '_' || c == '.' || c == ':' || c == '~'

/-- The identifier of a request. -/
structure RequestId where
  text : String
  isToken : text.toList ≠ [] ∧ text.toList.length ≤ 128 ∧ text.toList.all isTokenChar = true
  deriving DecidableEq

/-- Why a text is no request identifier. -/
inductive RequestIdError where
  | empty
  | tooLong
  | invalidCharacter
  deriving DecidableEq

/-- The name of a reason. -/
def RequestIdError.name : RequestIdError → String
  | .empty => "Empty"
  | .tooLong => "TooLong"
  | .invalidCharacter => "InvalidCharacter"

/-- The wording of a refused request identifier. -/
def RequestIdError.message : RequestIdError → String
  | .empty => "request identifier is empty"
  | .tooLong => "request identifier is too long"
  | .invalidCharacter => "request identifier contains an unsupported character"

namespace RequestId

/-- The longest identifier, in bytes. -/
def maxLength : Nat := 128

/-- Token characters belong to the ASCII range. -/
theorem toNat_lt_of_isTokenChar {c : Char} (h : isTokenChar c = true) : c.toNat < 128 := by
  delta isTokenChar Char.isAlphanum Char.isAlpha Char.isUpper Char.isLower Char.isDigit at h
  simp only [Bool.or_eq_true, Bool.and_eq_true, decide_eq_true_eq, beq_iff_eq, ge_iff_le,
    UInt32.le_iff_toNat_le] at h
  have hval : c.val.toNat = c.toNat := rfl
  have hZ : 'Z'.val.toNat = 90 := rfl
  have hz : 'z'.val.toNat = 122 := rfl
  have h9 : '9'.val.toNat = 57 := rfl
  rcases h with ((((((⟨_, h⟩ | ⟨_, h⟩) | ⟨_, h⟩) | rfl) | rfl) | rfl) | rfl) | rfl
  · omega
  · omega
  · omega
  all_goals decide

/-- A text of token characters has as many bytes as characters. -/
theorem utf8ByteSize_ofList_of_all {cs : List Char} (h : cs.all isTokenChar = true) :
    (String.ofList cs).utf8ByteSize = cs.length := by
  induction cs with
  | nil => rfl
  | cons c cs ih =>
    rw [List.all_cons, Bool.and_eq_true] at h
    have hc : c.utf8Size = 1 :=
      Char.utf8Size_eq_one_iff.mpr
        (UInt32.le_iff_toNat_le.mpr (Nat.le_of_lt_succ (toNat_lt_of_isTokenChar h.1)))
    have hcons : String.ofList (c :: cs) = String.ofList [c] ++ String.ofList cs := by simp
    rw [hcons, String.utf8ByteSize_append, ih h.2]
    simp [hc]
    omega

/-- Read a request identifier. The faults are looked for in the order of `RequestIdError`. -/
def parse (s : String) : Except RequestIdError RequestId :=
  let token := Text.trim s
  if empty : token.toList = [] then .error .empty
  else if long : maxLength < token.utf8ByteSize then .error .tooLong
  else if valid : token.toList.all isTokenChar = true then
    .ok ⟨token, empty, by
      have hsize : token.utf8ByteSize = token.toList.length := by
        simpa using utf8ByteSize_ofList_of_all valid
      unfold maxLength at long
      omega, valid⟩
  else .error .invalidCharacter

instance : Inspect RequestId where
  inspect id := Inspect.wrapped "RequestId" (inspect id.text)

end RequestId

end UserAccounts
