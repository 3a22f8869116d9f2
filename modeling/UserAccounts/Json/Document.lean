import UserAccounts.Json.Basic

/-!
# JSON documents as written

`Document` is the tree that a JSON text spells: numbers with the digits they were given, strings
after their escapes, members in order and with repetitions. `Document.read?` accepts exactly the
grammar of JSON, with blanks between tokens and nothing after the value. It reads one character at a
time with an explicit stack, so depth and length are not bounded.

A string may spell half of a surrogate pair; it is then marked as not intact, and it is up to the
reader of the document whether such a string matters.
-/

namespace UserAccounts.Json

/-- A string as spelled: its text, and whether every escape in it stood for a character. Escapes
that did not are replaced by U+FFFD. -/
structure Spelling where
  text : String
  intact : Bool
  deriving DecidableEq

/-- A number as spelled. -/
structure Numeral where
  negative : Bool
  whole : List Char
  fraction : List Char
  /-- The sign of the exponent, negative if true, and its digits. -/
  exponent : Option (Bool × List Char)
  deriving DecidableEq

/-- A JSON document as spelled. -/
inductive Document where
  | null
  | bool (b : Bool)
  | number (n : Numeral)
  | string (s : Spelling)
  | array (items : List Document)
  | object (members : List (Spelling × Document))

/-! ## Numbers -/

/-- How far the reading of a number has come. -/
inductive NumberStage where
  | sign
  | zero
  | whole
  | point
  | fraction
  | exponentMark
  | exponentSign
  | exponent
  deriving DecidableEq

/-- A number being read: its stage and the digits of its parts, the newest first. -/
structure NumberReader where
  stage : NumberStage
  negative : Bool
  whole : List Char
  fraction : List Char
  exponentNegative : Bool
  exponent : List Char

namespace NumberReader

/-- Begin a number with its first character. -/
def start? (c : Char) : Option NumberReader :=
  if c == '-' then some ⟨.sign, true, [], [], false, []⟩
  else if c == '0' then some ⟨.zero, false, ['0'], [], false, []⟩
  else if '1' ≤ c && c ≤ '9' then some ⟨.whole, false, [c], [], false, []⟩
  else none

/-- Take in a character that continues the number. -/
def extend? (r : NumberReader) (c : Char) : Option NumberReader :=
  let digit := '0' ≤ c && c ≤ '9'
  let mark := c == 'e' || c == 'E'
  match r.stage with
  | .sign =>
    if c == '0' then some { r with stage := .zero, whole := ['0'] }
    else if digit then some { r with stage := .whole, whole := [c] }
    else none
  | .zero =>
    if c == '.' then some { r with stage := .point }
    else if mark then some { r with stage := .exponentMark }
    else none
  | .whole =>
    if digit then some { r with whole := c :: r.whole }
    else if c == '.' then some { r with stage := .point }
    else if mark then some { r with stage := .exponentMark }
    else none
  | .point => if digit then some { r with stage := .fraction, fraction := [c] } else none
  | .fraction =>
    if digit then some { r with fraction := c :: r.fraction }
    else if mark then some { r with stage := .exponentMark }
    else none
  | .exponentMark =>
    if digit then some { r with stage := .exponent, exponent := [c] }
    else if c == '+' then some { r with stage := .exponentSign }
    else if c == '-' then some { r with stage := .exponentSign, exponentNegative := true }
    else none
  | .exponentSign => if digit then some { r with stage := .exponent, exponent := [c] } else none
  | .exponent => if digit then some { r with exponent := c :: r.exponent } else none

/-- The number, if it may end here. -/
def finish? (r : NumberReader) : Option Numeral :=
  match r.stage with
  | .zero | .whole | .fraction => some ⟨r.negative, r.whole.reverse, r.fraction.reverse, none⟩
  | .exponent =>
    some ⟨r.negative, r.whole.reverse, r.fraction.reverse,
      some (r.exponentNegative, r.exponent.reverse)⟩
  | _ => none

end NumberReader

/-! ## Strings -/

/-- Where inside an escape the reading of a string stands. -/
inductive EscapeStage where
  | outside
  | mark
  /-- After `\u` and some of its four digits. -/
  | digits (count value : Nat)
  deriving DecidableEq

/-- A string being read: its characters so far, the newest first, whether all were intact, and the
first half of a surrogate pair that waits for the second. -/
structure StringReader where
  chars : List Char
  intact : Bool
  high : Option Nat
  stage : EscapeStage

namespace StringReader

/-- A string after its opening quote. -/
def empty : StringReader := ⟨[], true, none, .outside⟩

/-- Give up waiting for the second half of a surrogate pair. -/
def settle (r : StringReader) : StringReader :=
  match r.high with
  | none => r
  | some _ => { r with chars := '\ufffd' :: r.chars, intact := false, high := none }

/-- Take in a character. -/
def push (r : StringReader) (c : Char) : StringReader :=
  let r := r.settle
  { r with chars := c :: r.chars, stage := .outside }

/-- Take in a number of 16 bits written as an escape. -/
def pushUnit (r : StringReader) (n : Nat) : StringReader :=
  if 0xD800 ≤ n && n < 0xDC00 then
    let r := r.settle
    { r with high := some n, stage := .outside }
  else if 0xDC00 ≤ n && n < 0xE000 then
    match r.high with
    | some h =>
      { r with
        chars := Char.ofNat (0x10000 + (h - 0xD800) * 0x400 + (n - 0xDC00)) :: r.chars
        high := none
        stage := .outside }
    | none => { r with chars := '\ufffd' :: r.chars, intact := false, stage := .outside }
  else r.push (Char.ofNat n)

/-- The spelling, at the closing quote. -/
def finish (r : StringReader) : Spelling :=
  let r := r.settle
  ⟨String.ofList r.chars.reverse, r.intact⟩

/-- Take in the character after a backslash. -/
def escape? (r : StringReader) (c : Char) : Option StringReader :=
  if c == '"' || c == '\\' || c == '/' then some (r.push c)
  else if c == 'b' then some (r.push '\x08')
  else if c == 'f' then some (r.push '\x0c')
  else if c == 'n' then some (r.push '\n')
  else if c == 'r' then some (r.push '\r')
  else if c == 't' then some (r.push '\t')
  else if c == 'u' then some { r with stage := .digits 0 0 }
  else none

end StringReader

/-! ## Documents -/

/-- A container of which some elements have been read, the newest first. -/
inductive Frame where
  | array (items : List Document)
  | object (members : List (Spelling × Document)) (key : Spelling)

/-- What is being read at the moment. -/
inductive Focus where
  /-- A value is due; right after an opening bracket the array may also close. -/
  | value (mayClose : Bool)
  /-- A key is due in an object with these members; right after the brace it may also close. -/
  | key (members : List (Spelling × Document)) (mayClose : Bool)
  /-- A colon is due. -/
  | colon (members : List (Spelling × Document)) (key : Spelling)
  /-- A value has been read. -/
  | done (d : Document)
  /-- The rest of a word that stands for a value. -/
  | word (rest : List Char) (d : Document)
  | number (r : NumberReader)
  | string (r : StringReader)
  | keyString (members : List (Spelling × Document)) (r : StringReader)

/-- A reader between two characters: the open containers, the innermost first, and its focus. -/
structure Reader where
  stack : List Frame
  focus : Focus

/-- The blanks that may stand between tokens. -/
def isJsonBlank (c : Char) : Bool :=
  c == ' ' || c == '\n' || c == '\t' || c == '\r'

namespace Reader

/-- The reader before a text. -/
def start : Reader := ⟨[], .value false⟩

/-- Read the first character of a value. -/
def beginValue? (stack : List Frame) (c : Char) : Option Reader :=
  if c == '"' then some ⟨stack, .string .empty⟩
  else if c == '[' then some ⟨.array [] :: stack, .value true⟩
  else if c == '\x7b' then some ⟨stack, .key [] true⟩
  else if c == 't' then some ⟨stack, .word ['r', 'u', 'e'] (.bool true)⟩
  else if c == 'f' then some ⟨stack, .word ['a', 'l', 's', 'e'] (.bool false)⟩
  else if c == 'n' then some ⟨stack, .word ['u', 'l', 'l'] .null⟩
  else (NumberReader.start? c).map fun r => ⟨stack, .number r⟩

/-- Read a character after a complete value. -/
def afterValue? (stack : List Frame) (d : Document) (c : Char) : Option Reader :=
  if isJsonBlank c then some ⟨stack, .done d⟩
  else
    match stack with
    | [] => none
    | .array items :: outer =>
      if c == ',' then some ⟨.array (d :: items) :: outer, .value false⟩
      else if c == ']' then some ⟨outer, .done (.array (d :: items).reverse)⟩
      else none
    | .object members key :: outer =>
      if c == ',' then some ⟨outer, .key ((key, d) :: members) false⟩
      else if c == '\x7d' then some ⟨outer, .done (.object ((key, d) :: members).reverse)⟩
      else none

/-- Read one character inside a string; the result is the string so far, or its spelling once the
closing quote has been read. -/
def stringStep? (r : StringReader) (c : Char) : Option (StringReader ⊕ Spelling) :=
  match r.stage with
  | .outside =>
    if c == '"' then some (.inr r.finish)
    else if c == '\\' then some (.inl { r with stage := .mark })
    else if c.toNat < 0x20 then none
    else some (.inl (r.push c))
  | .mark => (r.escape? c).map .inl
  | .digits count value =>
    match Text.hexValue? c with
    | none => none
    | some d =>
      let value := 16 * value + d
      some (.inl
        (if count == 3 then r.pushUnit value else { r with stage := .digits (count + 1) value }))

/-- Read one character. -/
def step? (r : Reader) (c : Char) : Option Reader :=
  match r.focus with
  | .value mayClose =>
    if isJsonBlank c then some r
    else if mayClose && c == ']' then
      match r.stack with
      | .array _ :: outer => some ⟨outer, .done (.array [])⟩
      | _ => none
    else beginValue? r.stack c
  | .key members mayClose =>
    if isJsonBlank c then some r
    else if c == '"' then some { r with focus := .keyString members .empty }
    else if mayClose && c == '\x7d' then some { r with focus := .done (.object []) }
    else none
  | .colon members key =>
    if isJsonBlank c then some r
    else if c == ':' then some ⟨.object members key :: r.stack, .value false⟩
    else none
  | .done d => afterValue? r.stack d c
  | .word rest d =>
    match rest with
    | [] => afterValue? r.stack d c
    | [last] => if c == last then some { r with focus := .done d } else none
    | next :: more => if c == next then some { r with focus := .word more d } else none
  | .number n =>
    match n.extend? c with
    | some n => some { r with focus := .number n }
    | none =>
      match n.finish? with
      | some numeral => afterValue? r.stack (.number numeral) c
      | none => none
  | .string s =>
    match stringStep? s c with
    | none => none
    | some (.inl s) => some { r with focus := .string s }
    | some (.inr spelling) => some { r with focus := .done (.string spelling) }
  | .keyString members s =>
    match stringStep? s c with
    | none => none
    | some (.inl s) => some { r with focus := .keyString members s }
    | some (.inr spelling) => some { r with focus := .colon members spelling }

/-- Read characters until one does not fit. -/
def run? (r : Reader) : List Char → Option Reader
  | [] => some r
  | c :: rest =>
    match r.step? c with
    | none => none
    | some next => run? next rest

/-- The document, if the text may end here. -/
def finish? (r : Reader) : Option Document :=
  match r.stack, r.focus with
  | [], .done d => some d
  | [], .number n => n.finish?.map .number
  | _, _ => none

end Reader

/-- The document that a text spells. -/
def Document.read? (s : String) : Option Document :=
  match Reader.start.run? s.toList with
  | some r => r.finish?
  | none => none

end UserAccounts.Json
