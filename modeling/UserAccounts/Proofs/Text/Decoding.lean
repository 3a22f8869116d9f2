import UserAccounts.Proofs.Text.Utf8

/-!
# Texts as bytes

Bytes are read as a text exactly if they are the bytes of that text (`decode_eq_ok_iff`). Both
directions go character by character:

* `foldl_feed_encodeChar` — the bytes of a character are read as that character;
* `begins_or_breaks` — bytes that do not begin with those of a character break.

A character of which some bytes were read is known by what may close it (`Pending.Closes`); that the
character is then the right one is arithmetic on its first byte (`encodeChar_closed`).
-/

namespace UserAccounts.Text.Utf8

/-! ## The bytes of a text -/

theorem toList_loop (bytes : ByteArray) (i : Nat) (acc : List UInt8) :
    ByteArray.toList.loop bytes i acc = acc.reverse ++ bytes.data.toList.drop i := by
  fun_induction ByteArray.toList.loop bytes i acc with
  | case1 i acc hlt ih =>
    have hlength : i < bytes.data.toList.length := hlt
    have hget : bytes.get! i = bytes.data.toList[i] := getElem!_pos bytes.data i hlt
    rw [ih, List.drop_eq_getElem_cons hlength, List.reverse_cons, hget, List.append_assoc]
    rfl
  | case2 i acc hge =>
    have hlength : bytes.data.toList.length ≤ i := Nat.le_of_not_lt hge
    rw [List.drop_eq_nil_of_le hlength, List.append_nil]

/-- The bytes of a text are those of its characters. -/
theorem encode_eq (s : String) : encode s = s.toList.flatMap String.utf8EncodeChar := by
  show ByteArray.toList.loop s.toByteArray 0 [] = _
  rw [toList_loop, ← String.utf8Encode_toList, List.utf8Encode, List.data_toByteArray]
  simp

/-! ## Characters of several bytes -/

section Bytes

variable {a b c d : UInt8}

theorem toNat_char {n : Nat} (h : n.isValidChar) : (Char.ofNat n).val.toNat = n := by
  have hchar := Char.toNat_ofNat n
  rwa [if_pos h] at hchar

theorem byte_eq {n : Nat} (h : n = b.toNat) : UInt8.ofNat n = b := by
  rw [h, UInt8.ofNat_toNat]

theorem encodeChar_two (ha : 0xC2 ≤ a.toNat ∧ a.toNat ≤ 0xDF)
    (hb : 0x80 ≤ b.toNat ∧ b.toNat ≤ 0xBF) :
    String.utf8EncodeChar (Char.ofNat (64 * (a.toNat - 0xC0) + (b.toNat - 0x80))) = [a, b] := by
  have hvalid : (64 * (a.toNat - 0xC0) + (b.toNat - 0x80)).isValidChar := by
    left
    omega
  simp only [String.utf8EncodeChar, toNat_char hvalid]
  rw [if_neg (by omega), if_pos (by omega), byte_eq (b := a) (by omega),
    byte_eq (b := b) (by omega)]

theorem encodeChar_three (ha : 0xE0 ≤ a.toNat ∧ a.toNat ≤ 0xEF)
    (hb : 0x80 ≤ b.toNat ∧ b.toNat ≤ 0xBF) (hc : 0x80 ≤ c.toNat ∧ c.toNat ≤ 0xBF)
    (hlow : a.toNat = 0xE0 → 0xA0 ≤ b.toNat) (hhigh : a.toNat = 0xED → b.toNat ≤ 0x9F) :
    String.utf8EncodeChar (Char.ofNat
      (64 * (64 * (a.toNat - 0xE0) + (b.toNat - 0x80)) + (c.toNat - 0x80))) = [a, b, c] := by
  have hvalid : (64 * (64 * (a.toNat - 0xE0) + (b.toNat - 0x80)) +
      (c.toNat - 0x80)).isValidChar := by
    by_cases h : a.toNat ≤ 0xED
    · left
      omega
    · right
      omega
  simp only [String.utf8EncodeChar, toNat_char hvalid]
  rw [if_neg (by omega), if_neg (by omega), if_pos (by omega), byte_eq (b := a) (by omega),
    byte_eq (b := b) (by omega), byte_eq (b := c) (by omega)]

theorem encodeChar_four (ha : 0xF0 ≤ a.toNat ∧ a.toNat ≤ 0xF4)
    (hb : 0x80 ≤ b.toNat ∧ b.toNat ≤ 0xBF) (hc : 0x80 ≤ c.toNat ∧ c.toNat ≤ 0xBF)
    (hd : 0x80 ≤ d.toNat ∧ d.toNat ≤ 0xBF)
    (hlow : a.toNat = 0xF0 → 0x90 ≤ b.toNat) (hhigh : a.toNat = 0xF4 → b.toNat ≤ 0x8F) :
    String.utf8EncodeChar (Char.ofNat
      (64 * (64 * (64 * (a.toNat - 0xF0) + (b.toNat - 0x80)) + (c.toNat - 0x80)) +
        (d.toNat - 0x80))) = [a, b, c, d] := by
  have hvalid : (64 * (64 * (64 * (a.toNat - 0xF0) + (b.toNat - 0x80)) + (c.toNat - 0x80)) +
      (d.toNat - 0x80)).isValidChar := by
    right
    omega
  simp only [String.utf8EncodeChar, toNat_char hvalid]
  rw [if_neg (by omega), if_neg (by omega), if_neg (by omega), byte_eq (b := a) (by omega),
    byte_eq (b := b) (by omega), byte_eq (b := c) (by omega), byte_eq (b := d) (by omega)]

end Bytes

/-! ## Reading a character -/

/-- What is known of a character once another byte of it was read. -/
def Pending.next (p : Pending) (b : UInt8) : Pending :=
  ⟨64 * p.bits + (b.toNat - 0x80), p.taken + 1, p.missing - 1, 0x80, 0xBF⟩

/-- The number of a character once the rest of its bytes were read. -/
def Pending.code (p : Pending) (tail : List UInt8) : Nat :=
  (tail.foldl Pending.next p).bits

/-- Bytes that close a character. -/
def Pending.Closes (p : Pending) : List UInt8 → Prop
  | [] => False
  | b :: rest => (p.low ≤ b.toNat ∧ b.toNat ≤ p.high) ∧
      if p.missing ≤ 1 then rest = [] else (p.next b).Closes rest

/-- The character that a byte begins, if it begins one of several bytes. -/
def begun? (b : Nat) : Option Pending :=
  if 0xC2 ≤ b ∧ b ≤ 0xDF then some ⟨b - 0xC0, 1, 1, 0x80, 0xBF⟩
  else if 0xE0 ≤ b ∧ b ≤ 0xEF then
    some ⟨b - 0xE0, 1, 2, if b = 0xE0 then 0xA0 else 0x80, if b = 0xED then 0x9F else 0xBF⟩
  else if 0xF0 ≤ b ∧ b ≤ 0xF4 then
    some ⟨b - 0xF0, 1, 3, if b = 0xF0 then 0x90 else 0x80, if b = 0xF4 then 0x8F else 0xBF⟩
  else none

theorem start_eq (before : List Piece) (b : Nat) :
    Reader.start before b =
      if b < 0x80 then ⟨.char (Char.ofNat b) :: before, none⟩
      else match begun? b with
        | some p => ⟨before, some p⟩
        | none => ⟨.broken 1 false :: before, none⟩ := by
  unfold Reader.start begun?
  simp only [Bool.and_eq_true, decide_eq_true_eq, beq_iff_eq]
  by_cases h1 : b < 0x80
  · rw [if_pos h1, if_pos h1]
  rw [if_neg h1, if_neg h1]
  by_cases h2 : 0xC2 ≤ b ∧ b ≤ 0xDF
  · rw [if_pos h2, if_pos h2]
  rw [if_neg h2, if_neg h2]
  by_cases h3 : 0xE0 ≤ b ∧ b ≤ 0xEF
  · rw [if_pos h3]
    by_cases hlow : b = 0xE0
    · subst hlow
      rfl
    by_cases hhigh : b = 0xED
    · subst hhigh
      rfl
    rw [if_neg hlow, if_neg hhigh, if_pos (by omega), if_neg hlow, if_neg hhigh]
  rw [if_neg h3, if_neg (by omega), if_neg (by omega), if_neg (by omega)]
  by_cases h4 : 0xF0 ≤ b ∧ b ≤ 0xF4
  · rw [if_pos h4]
    by_cases hlow : b = 0xF0
    · subst hlow
      rfl
    by_cases hhigh : b = 0xF4
    · subst hhigh
      rfl
    rw [if_neg hlow, if_pos (by omega), if_neg hlow, if_neg hhigh]
  rw [if_neg h4, if_neg (by omega), if_neg (by omega), if_neg (by omega)]

theorem feed_pending (before : List Piece) (p : Pending) (b : UInt8) :
    Reader.feed ⟨before, some p⟩ b =
      if p.low ≤ b.toNat ∧ b.toNat ≤ p.high then
        if p.missing ≤ 1 then ⟨.char (Char.ofNat (p.next b).bits) :: before, none⟩
        else ⟨before, some (p.next b)⟩
      else Reader.feed ⟨.broken p.taken false :: before, none⟩ b := by
  show (if p.low ≤ b.toNat && b.toNat ≤ p.high then _ else _) = _
  simp only [Bool.and_eq_true, decide_eq_true_eq]
  rfl

section Closing

variable {p : Pending} {tail : List UInt8}

theorem closes_last (h : p.missing ≤ 1) :
    p.Closes tail ↔ ∃ b, tail = [b] ∧ p.low ≤ b.toNat ∧ b.toNat ≤ p.high := by
  cases tail with
  | nil => exact ⟨False.elim, fun ⟨b, hb, _⟩ => List.cons_ne_nil b [] hb.symm⟩
  | cons b rest =>
    unfold Pending.Closes
    rw [if_pos h]
    constructor
    · rintro ⟨hrange, rfl⟩
      exact ⟨b, rfl, hrange⟩
    · rintro ⟨b, heq, hrange⟩
      cases heq
      exact ⟨hrange, rfl⟩

theorem closes_more (h : 1 < p.missing) :
    p.Closes tail ↔
      ∃ b rest, tail = b :: rest ∧ (p.low ≤ b.toNat ∧ b.toNat ≤ p.high) ∧
        (p.next b).Closes rest := by
  cases tail with
  | nil => exact ⟨False.elim, fun ⟨b, rest, hb, _⟩ => List.cons_ne_nil b rest hb.symm⟩
  | cons b rest =>
    show (_ ∧ if p.missing ≤ 1 then rest = [] else (p.next b).Closes rest) ↔ _
    rw [if_neg (by omega)]
    constructor
    · rintro ⟨hrange, hrest⟩
      exact ⟨b, rest, rfl, hrange, hrest⟩
    · rintro ⟨b, rest, heq, hrange, hrest⟩
      cases heq
      exact ⟨hrange, hrest⟩

end Closing

/-- Bytes that close a character are read as it. -/
theorem foldl_feed_closing {p : Pending} {tail : List UInt8} (h : p.Closes tail)
    (before : List Piece) :
    tail.foldl Reader.feed ⟨before, some p⟩ =
      ⟨.char (Char.ofNat (p.code tail)) :: before, none⟩ := by
  induction tail generalizing p with
  | nil => exact h.elim
  | cons b rest ih =>
    rw [List.foldl_cons, feed_pending]
    by_cases hlast : p.missing ≤ 1
    · obtain ⟨b, heq, hrange⟩ := (closes_last hlast).mp h
      cases heq
      rw [if_pos hrange, if_pos hlast]
      rfl
    · obtain ⟨b, rest, heq, hrange, hrest⟩ := (closes_more (Nat.lt_of_not_le hlast)).mp h
      cases heq
      rw [if_pos hrange, if_neg hlast, ih hrest, Pending.code, Pending.code, List.foldl_cons]

/-- A byte begins a character of two bytes, of three or of four. -/
theorem begun?_eq_some_iff {b : Nat} {p : Pending} :
    begun? b = some p ↔
      (0xC2 ≤ b ∧ b ≤ 0xDF) ∧ p = ⟨b - 0xC0, 1, 1, 0x80, 0xBF⟩ ∨
      (0xE0 ≤ b ∧ b ≤ 0xEF) ∧ p = ⟨b - 0xE0, 1, 2, if b = 0xE0 then 0xA0 else 0x80,
        if b = 0xED then 0x9F else 0xBF⟩ ∨
      (0xF0 ≤ b ∧ b ≤ 0xF4) ∧ p = ⟨b - 0xF0, 1, 3, if b = 0xF0 then 0x90 else 0x80,
        if b = 0xF4 then 0x8F else 0xBF⟩ := by
  unfold begun?
  by_cases h2 : 0xC2 ≤ b ∧ b ≤ 0xDF
  · have h3 : ¬(0xE0 ≤ b ∧ b ≤ 0xEF) := by omega
    have h4 : ¬(0xF0 ≤ b ∧ b ≤ 0xF4) := by omega
    simp [h2, h3, h4, eq_comm]
  · by_cases h3 : 0xE0 ≤ b ∧ b ≤ 0xEF
    · have h4 : ¬(0xF0 ≤ b ∧ b ≤ 0xF4) := by omega
      simp [h2, h3, h4, eq_comm]
    · simp [h2, h3, eq_comm]

/-- The limits of the second byte, which depend on the first. -/
theorem bounds_of_limits {a b first last low high : Nat}
    (h : (if a = first then low else 0x80) ≤ b ∧ b ≤ if a = last then high else 0xBF)
    (hlow : 0x80 ≤ low) (hhigh : high ≤ 0xBF) :
    (0x80 ≤ b ∧ b ≤ 0xBF) ∧ (a = first → low ≤ b) ∧ (a = last → b ≤ high) := by
  obtain ⟨hfrom, hto⟩ := h
  split at hfrom <;> split at hto <;> omega

/-- The character that a byte begins and others close has just these bytes. -/
theorem encodeChar_closed {a : UInt8} {tail : List UInt8} {p : Pending}
    (hbegun : begun? a.toNat = some p) (hcloses : p.Closes tail) :
    String.utf8EncodeChar (Char.ofNat (p.code tail)) = a :: tail := by
  rcases begun?_eq_some_iff.mp hbegun with ⟨ha, rfl⟩ | ⟨ha, rfl⟩ | ⟨ha, rfl⟩
  · obtain ⟨b, rfl, hb⟩ := (closes_last (Nat.le_refl 1)).mp hcloses
    exact encodeChar_two ha hb
  · obtain ⟨b, rest, rfl, hb, hrest⟩ := (closes_more Nat.one_lt_two).mp hcloses
    obtain ⟨c, rfl, hc⟩ := (closes_last (Nat.le_refl 1)).mp hrest
    have hbounds := bounds_of_limits hb (by decide) (by decide)
    exact encodeChar_three ha hbounds.1 hc hbounds.2.1 hbounds.2.2
  · obtain ⟨b, rest, rfl, hb, hrest⟩ := (closes_more (Nat.lt_of_sub_eq_succ rfl)).mp hcloses
    obtain ⟨c, rest, rfl, hc, hrest⟩ := (closes_more Nat.one_lt_two).mp hrest
    obtain ⟨d, rfl, hd⟩ := (closes_last (Nat.le_refl 1)).mp hrest
    have hbounds := bounds_of_limits hb (by decide) (by decide)
    exact encodeChar_four ha hbounds.1 hc hd hbounds.2.1 hbounds.2.2

theorem toNat_byte {n : Nat} (h : n < 256) : (UInt8.ofNat n).toNat = n := by
  rw [UInt8.toNat_ofNat']
  omega

theorem continuation_byte (n : Nat) :
    0x80 ≤ (UInt8.ofNat (n % 64 + 128)).toNat ∧ (UInt8.ofNat (n % 64 + 128)).toNat ≤ 0xBF := by
  rw [toNat_byte (by omega)]
  omega

theorem encodeChar_injective : Function.Injective String.utf8EncodeChar := by
  intro c c' h
  have hread := @ByteArray.utf8DecodeChar?_utf8EncodeChar_append ByteArray.empty c
  rw [h, ByteArray.utf8DecodeChar?_utf8EncodeChar_append] at hread
  exact (Option.some.inj hread).symm

/-- Every character but the shortest is begun by its first byte and closed by the others. -/
theorem exists_begun {c : Char} (h : ¬c.toNat < 0x80) :
    ∃ a tail p, String.utf8EncodeChar c = a :: tail ∧ begun? a.toNat = some p ∧ p.Closes tail := by
  have hvalid : c.val.toNat < 0xD800 ∨ 0xDFFF < c.val.toNat ∧ c.val.toNat < 0x110000 := c.valid
  have hlong : ¬c.val.toNat ≤ 0x7F := fun hle => h (Nat.lt_succ_of_le hle)
  -- What the limits of the bytes come to is arithmetic on the number of the character.
  generalize hv : c.val.toNat = v at hvalid hlong
  simp only [String.utf8EncodeChar, hv, if_neg hlong]
  by_cases h2 : v ≤ 0x7FF
  · rw [if_pos h2]
    refine ⟨_, _, _, rfl, begun?_eq_some_iff.mpr (.inl ⟨?_, rfl⟩),
      (closes_last (Nat.le_refl 1)).mpr ⟨_, rfl, ?_⟩⟩
    · rw [toNat_byte (by omega)]
      omega
    · exact continuation_byte _
  · rw [if_neg h2]
    by_cases h3 : v ≤ 0xFFFF
    · rw [if_pos h3]
      refine ⟨_, _, _, rfl, begun?_eq_some_iff.mpr (.inr (.inl ⟨?_, rfl⟩)),
        (closes_more Nat.one_lt_two).mpr ⟨_, _, rfl, ?_,
          (closes_last (Nat.le_refl 1)).mpr ⟨_, rfl, ?_⟩⟩⟩
      · rw [toNat_byte (by omega)]
        omega
      · rw [toNat_byte (by omega), toNat_byte (by omega)]
        dsimp only
        constructor <;> split <;> omega
      · exact continuation_byte _
    · rw [if_neg h3]
      refine ⟨_, _, _, rfl, begun?_eq_some_iff.mpr (.inr (.inr ⟨?_, rfl⟩)),
        (closes_more (Nat.lt_of_sub_eq_succ rfl)).mpr ⟨_, _, rfl, ?_,
          (closes_more Nat.one_lt_two).mpr ⟨_, _, rfl, ?_,
            (closes_last (Nat.le_refl 1)).mpr ⟨_, rfl, ?_⟩⟩⟩⟩
      · rw [toNat_byte (by omega)]
        omega
      · rw [toNat_byte (by omega), toNat_byte (by omega)]
        dsimp only
        constructor <;> split <;> omega
      · exact continuation_byte _
      · exact continuation_byte _

/-! ## Texts -/

/-- The bytes of a character are read as it, whatever was read before. -/
theorem foldl_feed_encodeChar (c : Char) (before : List Piece) :
    (String.utf8EncodeChar c).foldl Reader.feed ⟨before, none⟩ = ⟨.char c :: before, none⟩ := by
  by_cases h : c.toNat < 0x80
  · rw [utf8EncodeChar_ascii h]
    exact feed_ascii h before
  · obtain ⟨a, tail, p, hbytes, hbegun, hcloses⟩ := exists_begun h
    have hlarge : ¬a.toNat < 0x80 := by
      rcases begun?_eq_some_iff.mp hbegun with ⟨ha, -⟩ | ⟨ha, -⟩ | ⟨ha, -⟩ <;> omega
    have hstart : Reader.feed ⟨before, none⟩ a = ⟨before, some p⟩ := by
      show Reader.start before a.toNat = _
      rw [start_eq, if_neg hlarge, hbegun]
    have hcode : Char.ofNat (p.code tail) = c :=
      encodeChar_injective ((encodeChar_closed hbegun hcloses).trans hbytes.symm)
    rw [hbytes, List.foldl_cons, hstart, foldl_feed_closing hcloses, hcode]

theorem pieces_flatMap (cs : List Char) :
    pieces (cs.flatMap String.utf8EncodeChar) = cs.map .char := by
  have hread (before : List Piece) :
      (cs.flatMap String.utf8EncodeChar).foldl Reader.feed ⟨before, none⟩ =
        ⟨(cs.map Piece.char).reverse ++ before, none⟩ := by
    induction cs generalizing before with
    | nil => rfl
    | cons c rest ih =>
      rw [List.flatMap_cons, List.foldl_append, foldl_feed_encodeChar, ih]
      simp
  unfold pieces Reader.empty
  rw [hread]
  simp [Reader.finish]

theorem decodeFrom_chars (cs : List Char) (index : Nat) (before : List Char) :
    decodeFrom index before (cs.map .char) = .ok (String.ofList (before.reverse ++ cs)) := by
  induction cs generalizing index before with
  | nil => simp [decodeFrom]
  | cons c rest ih =>
    rw [List.map_cons, decodeFrom, ih]
    simp

/-- A stretch among others that is no character. -/
def Breaks (pieces : List Piece) : Prop := ∃ size cut, Piece.broken size cut ∈ pieces

theorem decodeFrom_ne_ok {pieces : List Piece} (h : Breaks pieces) (index : Nat)
    (before : List Char) (s : String) : decodeFrom index before pieces ≠ .ok s := by
  obtain ⟨size, cut, hmem⟩ := h
  induction pieces generalizing index before with
  | nil => cases hmem
  | cons piece rest ih =>
    cases piece with
    | broken size cut => simp [decodeFrom]
    | char c =>
      rcases List.mem_cons.mp hmem with heq | hmem
      · cases heq
      · exact ih _ _ hmem

section Breaking

variable {piece : Piece} {r : Reader}

/-- What was read stays. -/
theorem mem_feed (h : piece ∈ r.pieces) (b : UInt8) : piece ∈ (r.feed b).pieces := by
  have hstart {before : List Piece} (h : piece ∈ before) :
      piece ∈ (Reader.feed ⟨before, none⟩ b).pieces := by
    show piece ∈ (Reader.start before b.toNat).pieces
    rw [start_eq]
    split
    · exact List.mem_cons_of_mem _ h
    · split
      · exact h
      · exact List.mem_cons_of_mem _ h
  obtain ⟨before, _ | p⟩ := r
  · exact hstart h
  · rw [feed_pending]
    split
    · split
      · exact List.mem_cons_of_mem _ h
      · exact h
    · exact hstart (List.mem_cons_of_mem _ h)

theorem mem_finish_foldl (h : piece ∈ r.pieces) (bytes : List UInt8) :
    piece ∈ (bytes.foldl Reader.feed r).finish := by
  induction bytes generalizing r with
  | nil =>
    obtain ⟨before, _ | p⟩ := r
    · exact List.mem_reverse.mpr h
    · exact List.mem_reverse.mpr (List.mem_cons_of_mem _ h)
  | cons b rest ih => exact ih (mem_feed h b)

/-- What follows the beginning of a character closes it, or there is a break. -/
theorem closes_or_breaks (p : Pending) (before : List Piece) (bytes : List UInt8) :
    (∃ tail rest, bytes = tail ++ rest ∧ p.Closes tail) ∨
      Breaks (bytes.foldl Reader.feed ⟨before, some p⟩).finish := by
  induction bytes generalizing p with
  | nil => exact .inr ⟨p.taken, true, List.mem_reverse.mpr List.mem_cons_self⟩
  | cons b rest ih =>
    rw [List.foldl_cons, feed_pending]
    by_cases hrange : p.low ≤ b.toNat ∧ b.toNat ≤ p.high
    · by_cases hlast : p.missing ≤ 1
      · exact .inl ⟨[b], rest, rfl, (closes_last hlast).mpr ⟨b, rfl, hrange⟩⟩
      · rw [if_pos hrange, if_neg hlast]
        rcases ih (p.next b) with ⟨tail, others, rfl, hcloses⟩ | hbreaks
        · exact .inl ⟨b :: tail, others, rfl,
            (closes_more (Nat.lt_of_not_le hlast)).mpr ⟨b, tail, rfl, hrange, hcloses⟩⟩
        · exact .inr hbreaks
    · rw [if_neg hrange]
      exact .inr ⟨p.taken, false, mem_finish_foldl (mem_feed List.mem_cons_self b) rest⟩

/-- Bytes begin with those of a character, or there is a break. -/
theorem begins_or_breaks (before : List Piece) (a : UInt8) (rest : List UInt8) :
    (∃ c others, a :: rest = String.utf8EncodeChar c ++ others) ∨
      Breaks ((a :: rest).foldl Reader.feed ⟨before, none⟩).finish := by
  rw [List.foldl_cons]
  show _ ∨ Breaks (rest.foldl Reader.feed (Reader.start before a.toNat)).finish
  rw [start_eq]
  by_cases hshort : a.toNat < 0x80
  · have hvalid : (Char.ofNat a.toNat).toNat = a.toNat := toNat_char (.inl (by omega))
    have hbytes := utf8EncodeChar_ascii (c := Char.ofNat a.toNat) (by omega)
    rw [hvalid, UInt8.ofNat_toNat] at hbytes
    exact .inl ⟨_, rest, by rw [hbytes]; rfl⟩
  · rw [if_neg hshort]
    cases hbegun : begun? a.toNat with
    | none => exact .inr ⟨1, false, mem_finish_foldl List.mem_cons_self rest⟩
    | some p =>
      rcases closes_or_breaks p before rest with ⟨tail, others, rfl, hcloses⟩ | hbreaks
      · exact .inl ⟨_, others, by rw [encodeChar_closed hbegun hcloses]; rfl⟩
      · exact .inr hbreaks

/-- Bytes are those of characters, or there is a break. -/
theorem chars_or_breaks (before : List Piece) (bytes : List UInt8) :
    (∃ cs : List Char, bytes = cs.flatMap String.utf8EncodeChar) ∨
      Breaks (bytes.foldl Reader.feed ⟨before, none⟩).finish := by
  -- The induction is on the number of bytes, of which a character takes at least one.
  induction hlength : bytes.length using Nat.strongRecOn generalizing bytes before with
  | _ length ih =>
    cases bytes with
    | nil => exact .inl ⟨[], rfl⟩
    | cons a rest =>
      rcases begins_or_breaks before a rest with ⟨c, others, heq⟩ | hbreaks
      · have hshorter : others.length < length := by
          have hpos := List.length_pos_iff.mpr (String.utf8EncodeChar_ne_nil (c := c))
          rw [← hlength, heq, List.length_append]
          omega
        rw [heq, List.foldl_append, foldl_feed_encodeChar]
        rcases ih _ hshorter _ others rfl with ⟨cs, rfl⟩ | hbreaks
        · exact .inl ⟨c :: cs, rfl⟩
        · exact .inr hbreaks
      · exact .inr hbreaks

end Breaking

/-- Bytes are read as a text exactly if they are the bytes of that text. -/
theorem decode_eq_ok_iff {bytes : List UInt8} {s : String} :
    decode bytes = .ok s ↔ bytes = encode s := by
  constructor
  · intro h
    rcases chars_or_breaks [] bytes with ⟨cs, rfl⟩ | hbreaks
    · unfold decode at h
      rw [pieces_flatMap, decodeFrom_chars] at h
      rw [encode_eq, ← Except.ok.inj h, String.toList_ofList]
      rfl
    · exact absurd h (decodeFrom_ne_ok hbreaks 0 [] s)
  · rintro rfl
    unfold decode
    rw [encode_eq, pieces_flatMap, decodeFrom_chars]
    simp

end UserAccounts.Text.Utf8
