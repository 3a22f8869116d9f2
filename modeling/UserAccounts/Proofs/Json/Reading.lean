import Mathlib
import UserAccounts.Json.Decoder
import UserAccounts.Proofs.Text.Numeral

/-!
# Reading what was written

The text of a value spells a document, `Value.document`, and that document is what is read from the
text (`Document.read?_compact`), as long as all numbers in the value are whole. The reader takes one
character at a time, so each kind of token has a lemma that says where the reader is after it:

* `run?_chars` — after the text of a numeral the reader has a number that may end there;
* `run?_string` and `run?_keyString` — after the closing quote of a text it has the text, whatever
  had to be escaped in it (`feed?_escapedChar`);
* `Value.ReadAs` — after the text of a value, inside of any containers, it has a document; for an
  array or an object this follows from what is in it (`readAs_array`, `readAs_object`).
-/

namespace UserAccounts.Json

/-! ## The document that a value is written as -/

/-- A text none of whose characters was lost. -/
def Spelling.whole (s : String) : Spelling := ⟨s, true⟩

/-- An integer as it is spelled. -/
def Numeral.ofInt (n : Int) : Numeral := ⟨decide (n < 0), Nat.toDigits 10 n.natAbs, [], none⟩

mutual

/-- No number in the value has a fraction. -/
def Value.isWhole : Value → Bool
  | .number (.float _) => false
  | .array items => itemsWhole items
  | .object members => membersWhole members
  | _ => true

/-- No number in the elements of an array has a fraction. -/
def itemsWhole : List Value → Bool
  | [] => true
  | v :: rest => v.isWhole && itemsWhole rest

/-- No number in the members of an object has a fraction. -/
def membersWhole : List (String × Value) → Bool
  | [] => true
  | (_, v) :: rest => v.isWhole && membersWhole rest

end

mutual

/-- The document that a value without fractions is written as. -/
def Value.document : Value → Document
  | .null => .null
  | .bool b => .bool b
  | .number (.whole n) => .number (.ofInt n)
  | .number (.float _) => .null
  | .string s => .string (.whole s)
  | .array items => .array (itemDocuments items)
  | .object members => .object (memberDocuments members)

/-- The documents of the elements of an array. -/
def itemDocuments : List Value → List Document
  | [] => []
  | v :: rest => v.document :: itemDocuments rest

/-- The documents of the members of an object. -/
def memberDocuments : List (String × Value) → List (Spelling × Document)
  | [] => []
  | (key, v) :: rest => (.whole key, v.document) :: memberDocuments rest

end

theorem itemDocuments_eq_map (items : List Value) :
    itemDocuments items = items.map Value.document := by
  induction items with
  | nil => rfl
  | cons v rest ih => rw [itemDocuments, ih, List.map_cons]

/-! ## The reader between two tokens -/

namespace Reader

variable {stack : List Frame} {r : Reader} {d : Document}

theorem run?_append (r : Reader) (before after : List Char) :
    r.run? (before ++ after) = (r.run? before).bind (·.run? after) := by
  induction before generalizing r with
  | nil => rfl
  | cons c rest ih =>
    rw [List.cons_append, run?, run?]
    cases r.step? c with
    | none => rfl
    | some next => exact ih next

/-- The reader has read a value to its end. Of a number it cannot know so before the next
character. -/
structure HasRead (r : Reader) (stack : List Frame) (d : Document) : Prop where
  stack_eq : r.stack = stack
  focus_eq : r.focus = .done d ∨
    ∃ n numeral, r.focus = .number n ∧ n.finish? = some numeral ∧ d = .number numeral

theorem hasRead_done (stack : List Frame) (d : Document) : HasRead ⟨stack, .done d⟩ stack d :=
  ⟨rfl, .inl rfl⟩

/-- A character that may come after a value inside a container. -/
def isDelimiter (c : Char) : Bool := c == ',' || c == ']' || c == '\x7d'

/-- A number does not go on with a delimiter. -/
theorem extend?_delimiter {c : Char} (hc : isDelimiter c = true) (n : NumberReader) :
    n.extend? c = none := by
  simp only [isDelimiter, Bool.or_eq_true, beq_iff_eq] at hc
  obtain ⟨stage, negative, whole, fraction, exponentNegative, exponent⟩ := n
  rcases hc with (rfl | rfl) | rfl <;> cases stage <;> rfl

theorem HasRead.step?_delimiter (h : r.HasRead stack d) {c : Char} (hc : isDelimiter c = true) :
    r.step? c = afterValue? stack d c := by
  obtain ⟨stack', focus⟩ := r
  obtain ⟨rfl, rfl | ⟨n, numeral, rfl, hn, rfl⟩⟩ := h
  · rfl
  · simp only [step?, extend?_delimiter hc, hn]

theorem HasRead.finish?_eq (h : r.HasRead [] d) : r.finish? = some d := by
  obtain ⟨stack', focus⟩ := r
  obtain ⟨rfl, rfl | ⟨n, numeral, rfl, hn, rfl⟩⟩ := h
  · rfl
  · show n.finish?.map Document.number = _
    rw [hn]
    rfl

/-- Inside of a container the next delimiter is read after a value. -/
theorem HasRead.run?_delimiter {r : Reader} {cs rest : List Char} {start : Reader}
    (h : r.HasRead stack d) (hstart : start.run? cs = some r) {c : Char}
    (hc : isDelimiter c = true) :
    start.run? (cs ++ c :: rest) = (afterValue? stack d c).bind (·.run? rest) := by
  rw [run?_append, hstart, Option.bind_some, run?, h.step?_delimiter hc]
  cases afterValue? stack d c <;> rfl

end Reader

/-! ## Numbers -/

namespace Numeral

/-- The characters of the exponent of a numeral. -/
def exponentChars : Option (Bool × List Char) → List Char
  | none => []
  | some (down, digits) => 'e' :: ((if down then ['-'] else []) ++ digits)

/-- The characters after the whole part of a numeral. -/
def laterChars (n : Numeral) : List Char :=
  (if n.fraction.isEmpty then [] else '.' :: n.fraction) ++ exponentChars n.exponent

theorem laterChars_pointed {negative : Bool} {whole fraction : List Char}
    {exponent : Option (Bool × List Char)} (h : fraction ≠ []) :
    (Numeral.mk negative whole fraction exponent).laterChars =
      '.' :: (fraction ++ exponentChars exponent) := by
  cases fraction with
  | nil => exact absurd rfl h
  | cons c rest => rfl

/-- The text of a numeral. -/
def chars (n : Numeral) : List Char :=
  (if n.negative then ['-'] else []) ++ n.whole ++ n.laterChars

/-- Digits of a whole part: without a zero at the front, unless it is all there is. -/
inductive IsWholePart : List Char → Prop where
  | zero : IsWholePart ['0']
  | digits {d : Nat} {rest : List Char} (hpos : 0 < d) (hlt : d < 10)
      (hrest : ∀ c ∈ rest, c.isDigit = true) : IsWholePart (Nat.digitChar d :: rest)

/-- The parts of a numeral are digits, as many as there have to be. -/
structure IsGrammatical (n : Numeral) : Prop where
  whole : IsWholePart n.whole
  fraction : ∀ c ∈ n.fraction, c.isDigit = true
  exponent : ∀ e ∈ n.exponent, e.2 ≠ [] ∧ ∀ c ∈ e.2, c.isDigit = true

end Numeral

namespace NumberReader

/-- A number after more characters. -/
def extendAll? (r : NumberReader) (cs : List Char) : Option NumberReader :=
  cs.foldlM extend? r

variable {r : NumberReader} {digits : List Char}

theorem extendAll?_cons {next : NumberReader} {c : Char} (h : r.extend? c = some next)
    (cs : List Char) : r.extendAll? (c :: cs) = next.extendAll? cs := by
  unfold extendAll?
  rw [List.foldlM_cons, h]
  rfl

theorem extendAll?_append (r : NumberReader) (cs more : List Char) :
    r.extendAll? (cs ++ more) = (r.extendAll? cs).bind (·.extendAll? more) :=
  List.foldlM_append

/-- Where a part of a number takes in any digit, it takes in digits one after another. -/
theorem extendAll?_digits (part : List Char → NumberReader)
    (hpart : ∀ (digits : List Char) (c : Char), c.isDigit = true →
      (part digits).extend? c = some (part (c :: digits)))
    (hdigits : ∀ c ∈ digits, c.isDigit = true) (before : List Char) :
    (part before).extendAll? digits = some (part (digits.reverse ++ before)) := by
  induction digits generalizing before with
  | nil => rfl
  | cons c rest ih =>
    obtain ⟨hc, hrest⟩ := List.forall_mem_cons.mp hdigits
    rw [extendAll?_cons (hpart before c hc), ih hrest, List.reverse_cons, List.append_assoc,
      List.singleton_append]

/-- Parts of a number that begin with the first digit after a sign or a point. -/
theorem extendAll?_someDigits (part : List Char → NumberReader)
    (hfirst : ∀ c : Char, c.isDigit = true → r.extend? c = some (part [c]))
    (hpart : ∀ (digits : List Char) (c : Char), c.isDigit = true →
      (part digits).extend? c = some (part (c :: digits)))
    (hdigits : ∀ c ∈ digits, c.isDigit = true) (hne : digits ≠ []) :
    r.extendAll? digits = some (part digits.reverse) := by
  cases digits with
  | nil => exact absurd rfl hne
  | cons c rest =>
    obtain ⟨hc, hrest⟩ := List.forall_mem_cons.mp hdigits
    rw [extendAll?_cons (hfirst c hc), extendAll?_digits part hpart hrest, List.reverse_cons]

/-- At this stage the whole part is complete. -/
def IsWhole (stage : NumberStage) : Prop := stage = .zero ∨ stage = .whole

variable {stage : NumberStage} {negative : Bool} {whole fraction : List Char}

/-- The fraction after a whole part. -/
theorem extendAll?_fraction (hstage : IsWhole stage)
    (hdigits : ∀ c ∈ digits, c.isDigit = true) (hne : digits ≠ []) :
    (NumberReader.mk stage negative whole [] false []).extendAll? ('.' :: digits) =
      some ⟨.fraction, negative, whole, digits.reverse, false, []⟩ := by
  have hpoint : (NumberReader.mk stage negative whole [] false []).extend? '.' =
      some ⟨.point, negative, whole, [], false, []⟩ := by
    obtain rfl | rfl := hstage <;> rfl
  rw [extendAll?_cons hpoint]
  refine extendAll?_someDigits (fun digits => ⟨.fraction, negative, whole, digits, false, []⟩)
    (fun c hc => ?_) (fun before c hc => ?_) hdigits hne <;>
  simp [extend?, Text.range_of_isDigit hc]

/-- The exponent after a whole part or after a fraction. -/
theorem extendAll?_exponent (hstage : IsWhole stage ∨ stage = .fraction) (down : Bool)
    (hdigits : ∀ c ∈ digits, c.isDigit = true) (hne : digits ≠ []) :
    (NumberReader.mk stage negative whole fraction false []).extendAll?
        (Numeral.exponentChars (some (down, digits))) =
      some ⟨.exponent, negative, whole, fraction, down, digits.reverse⟩ := by
  have hmark : (NumberReader.mk stage negative whole fraction false []).extend? 'e' =
      some ⟨.exponentMark, negative, whole, fraction, false, []⟩ := by
    obtain (rfl | rfl) | rfl := hstage <;> rfl
  rw [Numeral.exponentChars, extendAll?_cons hmark]
  cases down with
  | false =>
    refine extendAll?_someDigits
      (fun digits => ⟨.exponent, negative, whole, fraction, false, digits⟩)
      (fun c hc => ?_) (fun before c hc => ?_) hdigits hne <;>
    simp [extend?, Text.range_of_isDigit hc]
  | true =>
    have hsign : (NumberReader.mk .exponentMark negative whole fraction false []).extend? '-' =
        some ⟨.exponentSign, negative, whole, fraction, true, []⟩ := rfl
    rw [if_pos rfl, List.singleton_append, extendAll?_cons hsign]
    refine extendAll?_someDigits
      (fun digits => ⟨.exponent, negative, whole, fraction, true, digits⟩)
      (fun c hc => ?_) (fun before c hc => ?_) hdigits hne <;>
    simp [extend?, Text.range_of_isDigit hc]

/-- What follows the whole part of a numeral completes it. -/
theorem extendAll?_later {n : Numeral} (hn : n.IsGrammatical) (hstage : IsWhole stage) :
    ∃ r, (NumberReader.mk stage n.negative n.whole.reverse [] false []).extendAll? n.laterChars =
      some r ∧ r.finish? = some n := by
  obtain ⟨negative, whole, fraction, exponent⟩ := n
  obtain ⟨-, hfraction, hexponent⟩ := hn
  unfold Numeral.laterChars
  rw [extendAll?_append]
  cases fraction with
  | nil =>
    have hnone : (NumberReader.mk stage negative whole.reverse [] false []).extendAll? [] =
        some ⟨stage, negative, whole.reverse, [], false, []⟩ := rfl
    rw [List.isEmpty_nil, if_pos rfl, hnone, Option.bind_some]
    cases exponent with
    | none =>
      refine ⟨_, rfl, ?_⟩
      obtain rfl | rfl := hstage <;> simp [finish?]
    | some e =>
      obtain ⟨hne, hdigits⟩ := hexponent e rfl
      exact ⟨_, extendAll?_exponent (.inl hstage) e.1 hdigits hne, by simp [finish?]⟩
  | cons first rest =>
    rw [List.isEmpty_cons, if_neg Bool.false_ne_true,
      extendAll?_fraction hstage hfraction (List.cons_ne_nil first rest), Option.bind_some]
    cases exponent with
    | none => exact ⟨_, rfl, by simp [finish?]⟩
    | some e =>
      obtain ⟨hne, hdigits⟩ := hexponent e rfl
      exact ⟨_, extendAll?_exponent (.inr rfl) e.1 hdigits hne, by simp [finish?]⟩

end NumberReader

namespace Reader

variable {stack : List Frame}

/-- A reader of a number takes in what the number takes in. -/
theorem run?_number {r next : NumberReader} {cs : List Char} (h : r.extendAll? cs = some next) :
    (Reader.mk stack (.number r)).run? cs = some ⟨stack, .number next⟩ := by
  induction cs generalizing r with
  | nil =>
    cases h
    rfl
  | cons c rest ih =>
    unfold NumberReader.extendAll? at h
    rw [List.foldlM_cons] at h
    obtain ⟨after, hafter, hrest⟩ := Option.bind_eq_some_iff.mp h
    have hstep : (Reader.mk stack (.number r)).step? c = some ⟨stack, .number after⟩ := by
      simp only [step?, hafter]
    rw [run?, hstep]
    exact ih hrest

/-- The sign and the whole part of a numeral. -/
theorem run?_whole {whole : List Char} (h : Numeral.IsWholePart whole) (negative : Bool)
    (stack : List Frame) (mayClose : Bool) :
    ∃ stage, NumberReader.IsWhole stage ∧ (Reader.mk stack (.value mayClose)).run?
      ((if negative then ['-'] else []) ++ whole) =
        some ⟨stack, .number ⟨stage, negative, whole.reverse, [], false, []⟩⟩ := by
  cases h with
  | zero =>
    refine ⟨.zero, .inl rfl, ?_⟩
    cases negative <;> cases mayClose <;> rfl
  | @digits d rest hpos hlt hrest =>
    refine ⟨.whole, .inr rfl, ?_⟩
    have hfirst : (Reader.mk stack (.value mayClose)).run?
        ((if negative then ['-'] else []) ++ [Nat.digitChar d]) =
          some ⟨stack, .number ⟨.whole, negative, [Nat.digitChar d], [], false, []⟩⟩ := by
      interval_cases d <;> cases negative <;> cases mayClose <;> rfl
    have hdigits := NumberReader.extendAll?_digits
      (fun digits => ⟨.whole, negative, digits, [], false, []⟩)
      (fun before c hc => by simp [NumberReader.extend?, Text.range_of_isDigit hc]) hrest
      [Nat.digitChar d]
    rw [List.append_cons, run?_append, hfirst, Option.bind_some, run?_number hdigits,
      List.reverse_cons]

/-- The text of a numeral is read as that. -/
theorem run?_chars {n : Numeral} (h : n.IsGrammatical) (stack : List Frame) (mayClose : Bool) :
    ∃ r, (Reader.mk stack (.value mayClose)).run? n.chars = some r ∧
      r.HasRead stack (.number n) := by
  obtain ⟨stage, hstage, hwhole⟩ := run?_whole h.whole n.negative stack mayClose
  obtain ⟨r, hr, hfinish⟩ := NumberReader.extendAll?_later h hstage
  refine ⟨⟨stack, .number r⟩, ?_, rfl, .inr ⟨r, n, rfl, hfinish, rfl⟩⟩
  rw [Numeral.chars, run?_append, hwhole, Option.bind_some, run?_number hr]

end Reader

/-- The digits of a number that is not 0 begin with one that is not 0. -/
theorem exists_toDigits_eq_cons {n : Nat} (h : 0 < n) :
    ∃ d rest, Nat.toDigits 10 n = Nat.digitChar d :: rest ∧ 0 < d ∧ d < 10 := by
  induction n using Nat.strong_induction_on with
  | _ n ih =>
    by_cases hlt : n < 10
    · exact ⟨n, [], Nat.toDigits_of_lt_base hlt, h, hlt⟩
    · obtain ⟨d, rest, hd, hpos, hlt'⟩ := ih (n / 10) (by omega) (by omega)
      refine ⟨d, rest ++ [Nat.digitChar (n % 10)], ?_, hpos, hlt'⟩
      rw [Nat.toDigits_of_base_le (by omega) (by omega), hd, List.cons_append]

namespace Numeral

theorem isDigit_toDigits {n : Nat} {c : Char} (h : c ∈ Nat.toDigits 10 n) : c.isDigit = true :=
  Nat.isDigit_of_mem_toDigits (by decide) (by decide) h

theorem isWholePart_toDigits (n : Nat) : IsWholePart (Nat.toDigits 10 n) := by
  rcases Nat.eq_zero_or_pos n with rfl | hn
  · exact .zero
  · obtain ⟨d, rest, hdigits, hpos, hlt⟩ := exists_toDigits_eq_cons hn
    have hrest : ∀ c ∈ rest, c.isDigit = true := fun c hc =>
      isDigit_toDigits (hdigits ▸ List.mem_cons_of_mem _ hc)
    rw [hdigits]
    exact .digits hpos hlt hrest

/-- A sign, if there is one, and digits. -/
theorem toList_integer (n : Int) : (Text.integer n).toList =
    (if decide (n < 0) then ['-'] else []) ++ Nat.toDigits 10 n.natAbs := by
  cases n with
  | ofNat n => simp [Text.integer, Text.toList_natural]
  | negSucc n => simp [Text.integer, Text.toList_natural]

theorem chars_ofInt (n : Int) : (ofInt n).chars = (Text.integer n).toList := by
  rw [toList_integer, chars, laterChars, ofInt]
  simp [exponentChars]

theorem isGrammatical_ofInt (n : Int) : (ofInt n).IsGrammatical :=
  ⟨isWholePart_toDigits n.natAbs, nofun, nofun⟩

end Numeral

/-! ## Texts -/

/-- Read characters of a string, none of which closes it. -/
def StringReader.feed? (r : StringReader) : List Char → Option StringReader
  | [] => some r
  | c :: rest =>
    match Reader.stringStep? r c with
    | some (.inl next) => next.feed? rest
    | _ => none

namespace StringReader

theorem feed?_append (r : StringReader) (before after : List Char) :
    r.feed? (before ++ after) = (r.feed? before).bind (·.feed? after) := by
  induction before generalizing r with
  | nil => rfl
  | cons c rest ih =>
    rw [List.cons_append, feed?, feed?]
    cases Reader.stringStep? r c with
    | none => rfl
    | some outcome =>
      cases outcome with
      | inl next => exact ih next
      | inr spelling => rfl

/-- A string of which some characters have been read, the newest first. -/
def reading (chars : List Char) : StringReader := ⟨chars, true, none, .outside⟩

theorem hexValue?_digitChar {d : Nat} (h : d < 16) :
    Text.hexValue? (Nat.digitChar d) = some d := by
  interval_cases d <;> rfl

/-- A digit of an escape but the last. -/
theorem feed?_digit {r : StringReader} {count value d : Nat} (hr : r.stage = .digits count value)
    (hd : d < 16) (hcount : count ≠ 3) (rest : List Char) :
    r.feed? (Nat.digitChar d :: rest) =
      ({ r with stage := .digits (count + 1) (16 * value + d) } : StringReader).feed? rest := by
  simp only [feed?, Reader.stringStep?, hr, hexValue?_digitChar hd, beq_iff_eq, if_neg hcount]

/-- The last digit of an escape. -/
theorem feed?_lastDigit {r : StringReader} {value d : Nat} (hr : r.stage = .digits 3 value)
    (hd : d < 16) (rest : List Char) :
    r.feed? (Nat.digitChar d :: rest) = (r.pushUnit (16 * value + d)).feed? rest := by
  simp only [feed?, Reader.stringStep?, hr, hexValue?_digitChar hd, beq_self_eq_true, if_pos]

/-- A control character that has no escape of its own is written by its number. -/
theorem feed?_control (chars : List Char) {c : Char} (h : c.toNat < 0x20) :
    (reading chars).feed? ['\\', 'u', '0', '0', Nat.digitChar (c.toNat / 16),
      Nat.digitChar (c.toNat % 16)] = some (reading (c :: chars)) := by
  have hpush (r : StringReader) : r.pushUnit c.toNat = r.push c := by
    unfold pushUnit
    rw [Char.ofNat_toNat]
    simp only [Bool.and_eq_true, decide_eq_true_eq]
    rw [if_neg (by omega), if_neg (by omega)]
  show StringReader.feed? ⟨chars, true, none, .digits 0 0⟩
    (Nat.digitChar 0 :: Nat.digitChar 0 :: _) = _
  rw [feed?_digit rfl (by decide) (by decide), feed?_digit rfl (by decide) (by decide),
    feed?_digit rfl (by omega) (by decide), feed?_lastDigit rfl (by omega)]
  have hvalue : 16 * (16 * (16 * (16 * 0 + 0) + 0) + c.toNat / 16) + c.toNat % 16 = c.toNat := by
    omega
  rw [hvalue, hpush]
  rfl

/-- However a character is escaped, it is read as itself. -/
theorem feed?_escapedChar (chars : List Char) (c : Char) :
    (reading chars).feed? (escapedChar c) = some (reading (c :: chars)) := by
  unfold escapedChar
  simp only [beq_iff_eq]
  split_ifs with hquote hbackslash hplain
  · subst hquote
    rfl
  · subst hbackslash
    rfl
  · have hlow : ¬ c.toNat < 0x20 := by omega
    simp only [feed?, Reader.stringStep?, reading, beq_iff_eq, if_neg hquote, if_neg hbackslash,
      if_neg hlow]
    rfl
  iterate 5
    · rename_i heq
      subst heq
      rfl
  · exact feed?_control chars (by omega)

theorem feed?_escaped (chars cs : List Char) :
    (reading chars).feed? (cs.flatMap escapedChar) = some (reading (cs.reverse ++ chars)) := by
  induction cs generalizing chars with
  | nil => rfl
  | cons c rest ih =>
    rw [List.flatMap_cons, feed?_append, feed?_escapedChar, Option.bind_some, ih]
    simp

/-- At the closing quote of a text that was written, the text is complete. -/
theorem stringStep?_quote (s : String) :
    Reader.stringStep? (reading s.toList.reverse) '"' = some (.inr (.whole s)) := by
  simp [Reader.stringStep?, reading, finish, settle, Spelling.whole]

end StringReader

namespace Reader

open StringReader (reading)

variable {stack : List Frame}

/-- What is fed to a string is read by a reader that is reading a string, be it a value or a key. -/
theorem run?_of_feed? (stack : List Frame) (focus : StringReader → Focus)
    (step : ∀ r c next, stringStep? r c = some (.inl next) →
      (Reader.mk stack (focus r)).step? c = some ⟨stack, focus next⟩)
    {r next : StringReader} {cs : List Char} (h : r.feed? cs = some next) :
    (Reader.mk stack (focus r)).run? cs = some ⟨stack, focus next⟩ := by
  induction cs generalizing r with
  | nil =>
    cases h
    rfl
  | cons c rest ih =>
    rw [StringReader.feed?] at h
    rw [run?]
    cases hstep : stringStep? r c with
    | none =>
      rw [hstep] at h
      cases h
    | some outcome =>
      rw [hstep] at h
      cases outcome with
      | inl after =>
        rw [step r c after hstep]
        exact ih h
      | inr spelling => cases h

/-- After its closing quote a text has been read. -/
theorem run?_string (s : String) (stack : List Frame) (mayClose : Bool) :
    (Reader.mk stack (.value mayClose)).run? (quoteChars s) =
      some ⟨stack, .done (.string (.whole s))⟩ := by
  have hopened : (Reader.mk stack (.value mayClose)).step? '"' =
      some ⟨stack, .string (reading [])⟩ := by
    cases mayClose <;> rfl
  have hread := run?_of_feed? stack Focus.string
    (fun r c next h => by simp only [step?, h]) (StringReader.feed?_escaped [] s.toList)
  rw [quoteChars, List.cons_append, run?, hopened]
  show Reader.run? _ _ = _
  rw [run?_append, hread, List.append_nil, Option.bind_some, run?]
  simp only [step?, StringReader.stringStep?_quote, run?]

/-- After its closing quote a key has been read. -/
theorem run?_keyString (key : String) (stack : List Frame) (members : List (Spelling × Document))
    (mayClose : Bool) :
    (Reader.mk stack (.key members mayClose)).run? (quoteChars key) =
      some ⟨stack, .colon members (.whole key)⟩ := by
  have hopened : (Reader.mk stack (.key members mayClose)).step? '"' =
      some ⟨stack, .keyString members (reading [])⟩ := rfl
  have hread := run?_of_feed? stack (Focus.keyString members)
    (fun r c next h => by simp only [step?, h]) (StringReader.feed?_escaped [] key.toList)
  rw [quoteChars, List.cons_append, run?, hopened]
  show Reader.run? _ _ = _
  rw [run?_append, hread, List.append_nil, Option.bind_some, run?]
  simp only [step?, StringReader.stringStep?_quote, run?]

end Reader

/-! ## Values -/

/-- The text of a value is read as a document, inside of any containers. -/
def Value.ReadAs (v : Value) (d : Document) : Prop :=
  ∀ (stack : List Frame) (mayClose : Bool), ∃ r,
    (Reader.mk stack (.value mayClose)).run? v.chars = some r ∧ r.HasRead stack d

/-- The text of a member is read as a member of a document. -/
def MemberReadAs (m : String × Value) (m' : Spelling × Document) : Prop :=
  m'.1 = .whole m.1 ∧ m.2.ReadAs m'.2

namespace Value

open Reader (hasRead_done run?)

variable {items : List Value} {members : List (String × Value)} {docs : List Document}
  {memberDocs : List (Spelling × Document)}

theorem readAs_null : null.ReadAs .null := fun stack mayClose =>
  ⟨_, by cases mayClose <;> rfl, hasRead_done stack _⟩

theorem readAs_bool (b : Bool) : (bool b).ReadAs (.bool b) := fun stack mayClose =>
  ⟨_, by cases b <;> cases mayClose <;> rfl, hasRead_done stack _⟩

theorem readAs_whole (n : Int) : (number (.whole n)).ReadAs (.number (.ofInt n)) :=
  fun stack mayClose => by
    rw [chars, Number.text, ← Numeral.chars_ofInt]
    exact Reader.run?_chars (Numeral.isGrammatical_ofInt n) stack mayClose

theorem readAs_string (s : String) : (string s).ReadAs (.string (.whole s)) :=
  fun stack mayClose => ⟨_, Reader.run?_string s stack mayClose, hasRead_done stack _⟩

/-- The elements of an array are read up to its closing bracket, after those before them. -/
theorem run?_items (h : List.Forall₂ ReadAs items docs) (hne : items ≠ []) (stack : List Frame)
    (before : List Document) (mayClose : Bool) :
    (Reader.mk (.array before :: stack) (.value mayClose)).run? (itemChars items ++ [']']) =
      some ⟨stack, .done (.array (before.reverse ++ docs))⟩ := by
  induction h generalizing before mayClose with
  | nil => exact absurd rfl hne
  | @cons v d items docs hv hrest ih =>
    obtain ⟨r, hr, hread⟩ := hv (.array before :: stack) mayClose
    cases hrest with
    | nil =>
      rw [itemChars, hread.run?_delimiter hr rfl]
      simp [Reader.afterValue?, isJsonBlank, run?]
    | @cons w e items docs hw hrest =>
      rw [itemChars, List.append_assoc, List.cons_append, hread.run?_delimiter hr rfl]
      refine Eq.trans ?_ ((ih (by simp) (d :: before) false).trans ?_)
      · rfl
      · simp

theorem readAs_array (h : List.Forall₂ ReadAs items docs) : (array items).ReadAs (.array docs) := by
  intro stack mayClose
  cases h with
  | nil => exact ⟨_, by cases mayClose <;> rfl, hasRead_done stack _⟩
  | @cons v d items docs hv hrest =>
    have hopened : (Reader.mk stack (.value mayClose)).step? '[' =
        some ⟨.array [] :: stack, .value true⟩ := by
      cases mayClose <;> rfl
    refine ⟨_, ?_, hasRead_done stack _⟩
    rw [chars, List.cons_append, run?, hopened]
    exact run?_items (.cons hv hrest) (by simp) stack [] true

/-- The members of an object are read up to its closing brace, after those before them. -/
theorem run?_members (h : List.Forall₂ MemberReadAs members memberDocs) (hne : members ≠ [])
    (stack : List Frame) (before : List (Spelling × Document)) (mayClose : Bool) :
    (Reader.mk stack (.key before mayClose)).run? (memberChars members ++ ['\x7d']) =
      some ⟨stack, .done (.object (before.reverse ++ memberDocs))⟩ := by
  induction h generalizing before mayClose with
  | nil => exact absurd rfl hne
  | @cons m m' members docs hm hrest ih =>
    obtain ⟨key, v⟩ := m
    obtain ⟨spelling, d⟩ := m'
    obtain ⟨rfl, hv⟩ : spelling = .whole key ∧ v.ReadAs d := hm
    obtain ⟨r, hr, hread⟩ := hv (.object before (.whole key) :: stack) false
    cases hrest with
    | nil =>
      rw [memberChars, List.append_assoc, Reader.run?_append, Reader.run?_keyString,
        List.cons_append]
      show Reader.run? ⟨.object before (.whole key) :: stack, .value false⟩ _ = _
      rw [hread.run?_delimiter hr rfl]
      simp [Reader.afterValue?, isJsonBlank, run?]
    | @cons next next' members docs hnext hrest =>
      rw [memberChars]
      simp only [List.append_assoc, List.cons_append]
      rw [Reader.run?_append, Reader.run?_keyString]
      show Reader.run? ⟨.object before (.whole key) :: stack, .value false⟩ _ = _
      rw [hread.run?_delimiter hr rfl]
      refine Eq.trans ?_ ((ih (by simp) ((.whole key, d) :: before) false).trans ?_)
      · rfl
      · simp

theorem readAs_object (h : List.Forall₂ MemberReadAs members memberDocs) :
    (object members).ReadAs (.object memberDocs) := by
  intro stack mayClose
  cases h with
  | nil => exact ⟨_, by cases mayClose <;> rfl, hasRead_done stack _⟩
  | @cons m m' members docs hm hrest =>
    have hopened : (Reader.mk stack (.value mayClose)).step? '\x7b' =
        some ⟨stack, .key [] true⟩ := by
      cases mayClose <;> rfl
    refine ⟨_, ?_, hasRead_done stack _⟩
    rw [chars, List.cons_append, run?, hopened]
    exact run?_members (.cons hm hrest) (by simp) stack [] true

/-- The text of a value that is read as a document, with nothing around it, is read as that. -/
theorem ReadAs.read? {v : Value} {d : Document} (h : v.ReadAs d) :
    Document.read? v.compact = some d := by
  obtain ⟨r, hr, hread⟩ := h [] false
  have hchars : v.compact.toList = v.chars := by simp [compact]
  unfold Document.read? Reader.start
  rw [hchars, hr]
  exact hread.finish?_eq

end Value

mutual

/-- The text of a value without fractions is read as the document of the value. -/
theorem Value.readAs_document : (v : Value) → v.isWhole = true → v.ReadAs v.document
  | .null, _ => Value.readAs_null
  | .bool b, _ => Value.readAs_bool b
  | .number (.whole n), _ => Value.readAs_whole n
  | .number (.float _), h => by cases h
  | .string s, _ => Value.readAs_string s
  | .array items, h => Value.readAs_array (itemsReadAs_documents items h)
  | .object members, h => Value.readAs_object (membersReadAs_documents members h)

/-- The texts of the elements of an array are read as their documents. -/
theorem itemsReadAs_documents : (items : List Value) → itemsWhole items = true →
    List.Forall₂ Value.ReadAs items (itemDocuments items)
  | [], _ => .nil
  | v :: rest, h => by
    obtain ⟨hv, hrest⟩ : v.isWhole = true ∧ itemsWhole rest = true := by
      simpa only [itemsWhole, Bool.and_eq_true] using h
    exact .cons (v.readAs_document hv) (itemsReadAs_documents rest hrest)

/-- The texts of the members of an object are read as their documents. -/
theorem membersReadAs_documents : (members : List (String × Value)) → membersWhole members = true →
    List.Forall₂ MemberReadAs members (memberDocuments members)
  | [], _ => .nil
  | (key, v) :: rest, h => by
    obtain ⟨hv, hrest⟩ : v.isWhole = true ∧ membersWhole rest = true := by
      simpa only [membersWhole, Bool.and_eq_true] using h
    exact .cons ⟨rfl, v.readAs_document hv⟩ (membersReadAs_documents rest hrest)

end

/-- The text of a value without fractions is read as the document of the value. -/
theorem Document.read?_compact {v : Value} (h : v.isWhole = true) :
    Document.read? v.compact = some v.document :=
  (v.readAs_document h).read?

end UserAccounts.Json
