import Mathlib
import UserAccounts.Text.Utf8

/-!
# ASCII as UTF-8

An ASCII character is one byte, and that byte is read as the character: ASCII text survives being
turned into bytes and read again (`decodeLossy_ascii`).
-/

namespace UserAccounts.Text.Utf8

theorem utf8EncodeChar_ascii {c : Char} (h : c.toNat < 0x80) :
    String.utf8EncodeChar c = [UInt8.ofNat c.toNat] := by
  have hle : c.val.toNat ≤ 0x7F := by
    have : c.val.toNat = c.toNat := rfl
    omega
  simp only [String.utf8EncodeChar, if_pos hle]
  rfl

/-- The byte of an ASCII character is read as that character. -/
theorem feed_ascii {c : Char} (h : c.toNat < 0x80) (before : List Piece) :
    Reader.feed ⟨before, none⟩ (UInt8.ofNat c.toNat) = ⟨.char c :: before, none⟩ := by
  have hbyte : (UInt8.ofNat c.toNat).toNat = c.toNat := by
    rw [UInt8.toNat_ofNat']
    omega
  show Reader.start before (UInt8.ofNat c.toNat).toNat = _
  rw [hbyte, Reader.start, if_pos h, Char.ofNat_toNat]

theorem foldl_feed_ascii {cs : List Char} (h : ∀ c ∈ cs, c.toNat < 0x80) (before : List Piece) :
    (cs.flatMap String.utf8EncodeChar).foldl Reader.feed ⟨before, none⟩ =
      ⟨(cs.map Piece.char).reverse ++ before, none⟩ := by
  -- Between two ASCII characters the reader waits for no further byte.
  induction cs generalizing before with
  | nil => rfl
  | cons c rest ih =>
    obtain ⟨hc, hrest⟩ := List.forall_mem_cons.mp h
    rw [List.flatMap_cons, utf8EncodeChar_ascii hc, List.singleton_append, List.foldl_cons,
      feed_ascii hc, ih hrest]
    simp

theorem foldl_push (cs : List Char) (out : String) :
    cs.foldl String.push out = out ++ String.ofList cs := by
  induction cs generalizing out with
  | nil => simp
  | cons c rest ih =>
    rw [List.foldl_cons, ih]
    apply String.toList_injective
    simp

/-- ASCII characters are what their bytes stand for. -/
theorem decodeLossy_ascii {cs : List Char} (h : ∀ c ∈ cs, c.toNat < 0x80) :
    decodeLossy (cs.flatMap String.utf8EncodeChar) = String.ofList cs := by
  have hpieces : pieces (cs.flatMap String.utf8EncodeChar) = cs.map Piece.char := by
    unfold pieces Reader.empty
    rw [foldl_feed_ascii h]
    simp [Reader.finish]
  unfold decodeLossy decodeWith
  rw [hpieces, List.foldl_map]
  exact (foldl_push cs "").trans (by simp)

end UserAccounts.Text.Utf8
