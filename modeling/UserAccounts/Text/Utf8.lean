/-!
# Reading UTF-8

Bytes are read one at a time by `Utf8.Reader`, which yields characters and broken stretches. A
broken stretch is as long as the bytes that could still have begun a character, and at least one
byte. `Utf8.decode` insists on text without broken stretches and says where the first one lies;
`Utf8.decodeLossy` shows each as U+FFFD.
-/

namespace UserAccounts.Text.Utf8

/-- What a stretch of bytes stands for. -/
inductive Piece where
  | char (c : Char)
  /-- A stretch of `size` bytes that is no character; `cut` if the input ended inside it. -/
  | broken (size : Nat) (cut : Bool)
  deriving DecidableEq

/-- A character of which some bytes have been read: its bits so far, how many bytes were read, how
many are missing, and between which bounds the next one must lie. -/
structure Pending where
  bits : Nat
  taken : Nat
  missing : Nat
  low : Nat
  high : Nat

/-- A reader between two bytes, with the pieces read so far, the newest first. -/
structure Reader where
  pieces : List Piece
  pending : Option Pending

namespace Reader

/-- The reader before the first byte. -/
def empty : Reader := ⟨[], none⟩

/-- Read a byte that must begin a character. -/
def start (pieces : List Piece) (b : Nat) : Reader :=
  if b < 0x80 then ⟨.char (Char.ofNat b) :: pieces, none⟩
  else if 0xC2 ≤ b && b ≤ 0xDF then ⟨pieces, some ⟨b - 0xC0, 1, 1, 0x80, 0xBF⟩⟩
  else if b == 0xE0 then ⟨pieces, some ⟨0, 1, 2, 0xA0, 0xBF⟩⟩
  else if b == 0xED then ⟨pieces, some ⟨0xD, 1, 2, 0x80, 0x9F⟩⟩
  else if 0xE1 ≤ b && b ≤ 0xEF then ⟨pieces, some ⟨b - 0xE0, 1, 2, 0x80, 0xBF⟩⟩
  else if b == 0xF0 then ⟨pieces, some ⟨0, 1, 3, 0x90, 0xBF⟩⟩
  else if 0xF1 ≤ b && b ≤ 0xF3 then ⟨pieces, some ⟨b - 0xF0, 1, 3, 0x80, 0xBF⟩⟩
  else if b == 0xF4 then ⟨pieces, some ⟨4, 1, 3, 0x80, 0x8F⟩⟩
  else ⟨.broken 1 false :: pieces, none⟩

/-- Read one byte. -/
def feed (r : Reader) (byte : UInt8) : Reader :=
  let b := byte.toNat
  match r.pending with
  | none => start r.pieces b
  | some p =>
    if p.low ≤ b && b ≤ p.high then
      let bits := 64 * p.bits + (b - 0x80)
      if p.missing ≤ 1 then ⟨.char (Char.ofNat bits) :: r.pieces, none⟩
      else ⟨r.pieces, some ⟨bits, p.taken + 1, p.missing - 1, 0x80, 0xBF⟩⟩
    else start (.broken p.taken false :: r.pieces) b

/-- The pieces in the order of the input, once it has ended. -/
def finish (r : Reader) : List Piece :=
  match r.pending with
  | none => r.pieces.reverse
  | some p => (.broken p.taken true :: r.pieces).reverse

end Reader

/-- The pieces of a sequence of bytes. -/
def pieces (bytes : List UInt8) : List Piece :=
  (bytes.foldl Reader.feed .empty).finish

/-- The bytes of a text. -/
def encode (s : String) : List UInt8 :=
  s.toUTF8.toList

/-- Where bytes fail to be text. -/
inductive DecodeError where
  | invalid (size index : Nat)
  | incomplete (index : Nat)
  deriving DecidableEq

/-- The wording of a decoding failure. -/
def DecodeError.message : DecodeError → String
  | .invalid size index => s!"invalid utf-8 sequence of {size} bytes from index {index}"
  | .incomplete index => s!"incomplete utf-8 byte sequence from index {index}"

/-- Decoding from a given index on, after the characters `before`, the newest first. -/
def decodeFrom (index : Nat) (before : List Char) : List Piece → Except DecodeError String
  | [] => .ok (String.ofList before.reverse)
  | .char c :: rest => decodeFrom (index + c.utf8Size) (c :: before) rest
  | .broken size cut :: _ => .error (if cut then .incomplete index else .invalid size index)

/-- The text that the bytes encode. -/
def decode (bytes : List UInt8) : Except DecodeError String :=
  decodeFrom 0 [] (pieces bytes)

/-- The text of the bytes, each broken stretch shown as `substitute`. -/
def decodeWith (substitute : String) (bytes : List UInt8) : String :=
  (pieces bytes).foldl (fun out piece =>
    match piece with
    | .char c => out.push c
    | .broken _ _ => out ++ substitute) ""

/-- The text of the bytes, each broken stretch shown as U+FFFD. -/
def decodeLossy (bytes : List UInt8) : String :=
  decodeWith "\ufffd" bytes

end UserAccounts.Text.Utf8
