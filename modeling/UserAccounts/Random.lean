import UserAccounts.Account.Id
import UserAccounts.Account.RequestId

/-!
# Random identifiers

Identifiers drawn from random words of 64 bits. An entity gets 64 characters of a fixed alphabet, a
request a version-4 UUID. `Random` is the source of the words: a counter whose values are mixed.
-/

namespace UserAccounts

/-- A source of random words, by the word that it was started with and moved on from. -/
structure Random where
  state : UInt64

namespace Random

/-- A word with its bits mixed. -/
def mix (word : UInt64) : UInt64 :=
  let a := (word ^^^ (word >>> 30)) * 0xBF58476D1CE4E5B9
  let b := (a ^^^ (a >>> 27)) * 0x94D049BB133111EB
  b ^^^ (b >>> 31)

/-- A random word, and the source after it. -/
def next (r : Random) : UInt64 × Random :=
  let state := r.state + 0x9E3779B97F4A7C15
  (mix state, ⟨state⟩)

/-- Several random words, and the source after them. -/
def words (r : Random) : Nat → List UInt64 × Random
  | 0 => ([], r)
  | n + 1 =>
    let (word, r) := r.next
    let (rest, r) := r.words n
    (word :: rest, r)

end Random

/-! ## Entities -/

/-- The characters of entity identifiers. -/
def idAlphabet : List Char := "abcdefghijklmnopqrstuvwxyz1234567890".toList

/-- The number of characters of an entity identifier. -/
def idLength : Nat := 64

/-- The character of the alphabet that a random word picks. -/
def idChar (word : UInt64) : Char :=
  idAlphabet.getD (word.toNat % idAlphabet.length) 'a'

/-- A random identifier, and the source after it. -/
def Id.random (r : Random) : Id × Random :=
  let (words, r) := r.words idLength
  (⟨String.ofList (words.map idChar)⟩, r)

/-! ## Requests -/

/-- The lowest 4 bits at a position of a word, as a hexadecimal digit. -/
def nibbleChar (word : UInt64) (position : Nat) : Char :=
  Nat.digitChar (word.toNat / Nat.pow 16 position % 16)

/-- Hexadecimal digits of a word, from one position down to another. -/
def nibbleChars (word : UInt64) (positions : List Nat) : List Char :=
  positions.map (nibbleChar word)

/-- The text of a version-4 UUID made from two random words. -/
def uuidChars (a b : UInt64) : List Char :=
  nibbleChars a [15, 14, 13, 12, 11, 10, 9, 8] ++ '-' :: nibbleChars a [7, 6, 5, 4] ++
    '-' :: '4' :: nibbleChars a [2, 1, 0] ++
    '-' :: Nat.digitChar (8 + b.toNat / Nat.pow 16 15 % 4) :: nibbleChars b [14, 13, 12] ++
    '-' :: nibbleChars b [11, 10, 9, 8, 7, 6, 5, 4, 3, 2, 1, 0]

theorem isTokenChar_digitChar {n : Nat} (h : n < 16) : isTokenChar (Nat.digitChar n) = true := by
  have : ∀ m : Fin 16, isTokenChar (Nat.digitChar m.val) = true := by decide
  exact this ⟨n, h⟩

theorem all_isTokenChar_nibbleChars (word : UInt64) (positions : List Nat) :
    (nibbleChars word positions).all isTokenChar = true := by
  simp only [nibbleChars, List.all_map, List.all_eq_true, Function.comp_apply, nibbleChar]
  intro position _
  exact isTokenChar_digitChar (Nat.mod_lt _ (by decide))

theorem all_isTokenChar_uuidChars (a b : UInt64) : (uuidChars a b).all isTokenChar = true := by
  have hv : isTokenChar (Nat.digitChar (8 + b.toNat / Nat.pow 16 15 % 4)) = true :=
    isTokenChar_digitChar (by omega)
  have hd : isTokenChar '-' = true := by decide
  have h4 : isTokenChar '4' = true := by decide
  simp only [uuidChars, List.all_append, List.all_cons, all_isTokenChar_nibbleChars, hv, hd, h4,
    Bool.and_self]

theorem length_uuidChars (a b : UInt64) : (uuidChars a b).length = 36 := by
  simp [uuidChars, nibbleChars]

/-- A random request identifier, and the source after it. -/
def RequestId.random (r : Random) : RequestId × Random :=
  let (a, r) := r.next
  let (b, r) := r.next
  (⟨String.ofList (uuidChars a b), by
    have hl := length_uuidChars a b
    refine ⟨?_, ?_, ?_⟩
    · intro h
      rw [String.toList_ofList] at h
      simp [h] at hl
    · rw [String.toList_ofList]
      omega
    · rw [String.toList_ofList]
      exact all_isTokenChar_uuidChars a b⟩, r)

end UserAccounts
