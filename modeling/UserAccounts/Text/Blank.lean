/-!
# White space

The characters with the `White_Space` property, and the operations on text that depend on them:
trimming, the test for blank text, and the first word. `isEmpty_trim_iff` says that trimming leaves
nothing exactly of blank text.
-/

namespace UserAccounts.Text

/-- The characters of the `White_Space` property. -/
def isBlankChar (c : Char) : Bool :=
  let n := c.toNat
  (0x9 ≤ n && n ≤ 0xD) || n == 0x20 || n == 0x85 || n == 0xA0 || n == 0x1680 ||
    (0x2000 ≤ n && n ≤ 0x200A) || n == 0x2028 || n == 0x2029 || n == 0x202F || n == 0x205F ||
    n == 0x3000

/-- The characters left after removing those that satisfy `p` from both ends. -/
def stripChars (p : Char → Bool) (cs : List Char) : List Char :=
  ((cs.dropWhile p).reverse.dropWhile p).reverse

/-- The text without white space at its ends. -/
def trim (s : String) : String :=
  String.ofList (stripChars isBlankChar s.toList)

/-- Text that holds nothing but white space, or nothing at all. -/
def isBlank (s : String) : Bool :=
  s.toList.all isBlankChar

/-- The first word of a text, words being separated by white space. -/
def firstWord? (s : String) : Option String :=
  match (s.toList.dropWhile isBlankChar).takeWhile (!isBlankChar ·) with
  | [] => none
  | word => some (String.ofList word)

theorem dropWhile_eq_nil_iff_all {α : Type} {p : α → Bool} {xs : List α} :
    xs.dropWhile p = [] ↔ xs.all p = true := by
  induction xs with
  | nil => simp
  | cons x xs ih => by_cases h : p x <;> simp [h, ih]

theorem stripChars_eq_nil_iff {p : Char → Bool} {cs : List Char} :
    stripChars p cs = [] ↔ cs.all p = true := by
  unfold stripChars
  rw [List.reverse_eq_nil_iff, dropWhile_eq_nil_iff_all, List.all_reverse]
  constructor
  · intro h
    have happ := List.takeWhile_append_dropWhile (p := p) (l := cs)
    rw [← happ, List.all_append, h, Bool.and_true, List.all_eq_true]
    intro x hx
    exact List.all_eq_true.mp List.all_takeWhile x hx
  · intro h
    rw [dropWhile_eq_nil_iff_all.mpr h]
    rfl

/-- Trimming leaves nothing exactly of blank text. -/
theorem isEmpty_trim_iff {s : String} : (trim s).toList = [] ↔ isBlank s = true := by
  simp [trim, isBlank, stripChars_eq_nil_iff]

end UserAccounts.Text
