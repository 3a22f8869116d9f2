import UserAccounts.Postgres.Store
import UserAccounts.Proofs.Sequence
import UserAccounts.Proofs.Text.Decoding

/-!
# Reading results

`PgStore.reads_results` says of every result that a server sends what becomes of it: all rows are
read, each with a value for each column, or else the first cell that cannot be read decides what the
failure is, and no row is given.

* `Stands` — which value a cell stands for, by the type of its column;
* `Fails` — why a cell stands for none;
* `FirstFails` — what fails first in a list.

The types have the names that the client has for them. Texts that are padded with blanks, which the
server calls `bpchar`, are called `CHAR` there, and so they are not understood.
-/

namespace UserAccounts.Postgres

/-! ## Integers -/

theorem naturalOfBytes_append (bytes : List UInt8) (b : UInt8) :
    naturalOfBytes (bytes ++ [b]) = 256 * naturalOfBytes bytes + b.toNat := by
  unfold naturalOfBytes
  rw [List.foldl_append]
  rfl

theorem naturalOfBytes_lt (bytes : List UInt8) : naturalOfBytes bytes < 256 ^ bytes.length := by
  induction bytes using List.reverseRecOn with
  | nil => decide
  | append_singleton bytes b ih =>
    have hb := b.toNat_lt
    rw [naturalOfBytes_append, List.length_append, List.length_singleton, Nat.pow_succ]
    omega

theorem length_integerBytes (n : Int) (size : Nat) : (integerBytes n size).length = size := by
  induction size generalizing n with
  | zero => rfl
  | succ size ih => simp [integerBytes, ih]

theorem emod_pow_succ (n : Int) (k : Nat) :
    n % 256 ^ (k + 1) = 256 * (n / 256 % 256 ^ k) + n % 256 := by
  have hpos : (0 : Int) < 256 ^ k := by positivity
  have hwhole := Int.emod_add_mul_ediv n 256
  have hhigh := Int.emod_add_mul_ediv (n / 256) (256 ^ k)
  have hlow := Int.emod_nonneg n (show (256 : Int) ≠ 0 by decide)
  have hlow' := Int.emod_lt_of_pos n (show (0 : Int) < 256 by decide)
  have hmid := Int.emod_nonneg (n / 256) hpos.ne'
  have hmid' := Int.emod_lt_of_pos (n / 256) hpos
  have hsplit : 256 ^ (k + 1) * (n / 256 / 256 ^ k) = 256 * (256 ^ k * (n / 256 / 256 ^ k)) := by
    ring
  have hunique := (Int.ediv_emod_unique (a := n) (b := 256 ^ (k + 1))
    (q := n / 256 / 256 ^ k) (r := 256 * (n / 256 % 256 ^ k) + n % 256) (by positivity)).mpr
  refine (hunique ⟨?_, ?_, ?_⟩).2
  · rw [hsplit]
    omega
  · omega
  · rw [pow_succ]
    omega

/-- Bytes are those of a number exactly if they spell what is left of it. -/
theorem integerBytes_eq_iff {n : Int} {bytes : List UInt8} :
    integerBytes n bytes.length = bytes ↔ n % 256 ^ bytes.length = naturalOfBytes bytes := by
  induction bytes using List.reverseRecOn generalizing n with
  | nil => simp [integerBytes, naturalOfBytes]
  | append_singleton bytes b ih =>
    have hb := b.toNat_lt
    have hlast : UInt8.ofNat (n % 256).toNat = b ↔ n % 256 = b.toNat := by
      rw [← UInt8.toNat_inj, UInt8.toNat_ofNat']
      omega
    rw [List.length_append, List.length_singleton, integerBytes, List.append_singleton_inj, ih,
      hlast, emod_pow_succ, naturalOfBytes_append]
    push_cast
    omega

/-- A number that has room in some number of bits, as a two's complement. -/
def FitsIn (bits : Nat) (n : Int) : Prop := -2 ^ (bits - 1) ≤ n ∧ n < 2 ^ (bits - 1)

/-- A remainder and a number around zero tell the same. -/
theorem emod_eq_iff_of_centred {n half : Int} {m size : Nat} (hsize : (size : Int) = 2 * half)
    (hm : m < size) :
    (if 2 * m < size then (m : Int) else m - size) = n ↔
      n % size = m ∧ -half ≤ n ∧ n < half := by
  have hshift : (n + size) % size = n % size := Int.add_emod_right n size
  constructor
  · rintro rfl
    split
    · rw [Int.emod_eq_of_lt (by omega) (by omega)]
      omega
    · rw [Int.sub_emod_right, Int.emod_eq_of_lt (by omega) (by omega)]
      omega
  · rintro ⟨hrest, hlow, hhigh⟩
    by_cases hneg : n < 0
    · rw [← hshift, Int.emod_eq_of_lt (by omega) (by omega)] at hrest
      rw [if_neg (by omega)]
      omega
    · rw [Int.emod_eq_of_lt (by omega) (by omega)] at hrest
      rw [if_pos (by omega)]
      omega

/-- Bytes spell a number exactly if they are its bytes and have room for it. -/
theorem integerOfBytes_eq_iff {bytes : List UInt8} (h : bytes ≠ []) {n : Int} :
    integerOfBytes bytes = n ↔
      integerBytes n bytes.length = bytes ∧ FitsIn (8 * bytes.length) n := by
  have hpos := List.length_pos_iff.mpr h
  have hsize : ((256 ^ bytes.length : Nat) : Int) = 2 * 2 ^ (8 * bytes.length - 1) := by
    rw [← pow_succ', Nat.sub_add_cancel (by omega), pow_mul]
    push_cast
    rfl
  have hpow : (256 : Int) ^ bytes.length = (256 ^ bytes.length : Nat) := by push_cast; rfl
  rw [integerBytes_eq_iff, hpow]
  exact emod_eq_iff_of_centred hsize (naturalOfBytes_lt bytes)

theorem exists_integerBytes {bytes : List UInt8} (h : bytes ≠ []) :
    integerBytes (integerOfBytes bytes) bytes.length = bytes ∧
      FitsIn (8 * bytes.length) (integerOfBytes bytes) :=
  (integerOfBytes_eq_iff h).mp rfl

theorem integerOfBytes_integerBytes {n : Int} {size : Nat} (hsize : 1 ≤ size)
    (h : FitsIn (8 * size) n) : integerOfBytes (integerBytes n size) = n := by
  have hlength := length_integerBytes n size
  have hne : integerBytes n size ≠ [] := by
    rw [← List.length_pos_iff, hlength]
    exact hsize
  rw [integerOfBytes_eq_iff hne, hlength]
  exact ⟨rfl, h⟩

/-! ## Cells -/

/-- The types of integers, with their numbers of bits. -/
def integerTypes : List (String × Nat) := [("INT8", 64), ("INT4", 32), ("INT2", 16)]

/-- The types of texts. -/
def textTypes : List String := ["TEXT", "VARCHAR", "NAME", "BPCHAR"]

/-- The value that a cell stands for in a column of a type. -/
inductive Stands : String → Cell → SqlValue → Prop
  | null (type : String) : Stands type none .null
  | integer {type : String} {bits size : Nat} (htype : (type, bits) ∈ integerTypes) (v : Int64)
      (hsize : 1 ≤ size ∧ size ≤ 8) (hroom : FitsIn (8 * size) v.toInt)
      (hbits : FitsIn bits v.toInt) : Stands type (some (integerBytes v.toInt size)) (.int v)
  | truth (b : UInt8) (rest : List UInt8) : Stands "BOOL" (some (b :: rest)) (.bool (b != 0))
  | text {type : String} (htype : type ∈ textTypes) (s : String) :
      Stands type (some (Text.Utf8.encode s)) (.text s)

/-- Why a cell of the column at some index stands for no value. -/
inductive Fails (index : Nat) : String → Cell → StoreError → Prop
  | unsupported {type : String} (hinteger : ∀ bits, (type, bits) ∉ integerTypes)
      (htruth : type ≠ "BOOL") (htext : type ∉ textTypes) (bytes : List UInt8) :
      Fails index type (some bytes) (unsupported index type)
  | empty {type : String} {bits : Nat} (htype : (type, bits) ∈ integerTypes) :
      Fails index type (some []) (undecodable index .emptyInteger)
  | long {type : String} {bits : Nat} (htype : (type, bits) ∈ integerTypes) {bytes : List UInt8}
      (hlong : 8 < bytes.length) :
      Fails index type (some bytes) (undecodable index (.longInteger bytes.length))
  | small {type : String} {bits size : Nat} (htype : (type, bits) ∈ integerTypes) {n : Int}
      (hsize : 1 ≤ size ∧ size ≤ 8) (hroom : FitsIn (8 * size) n) (hsmall : n < -2 ^ (bits - 1)) :
      Fails index type (some (integerBytes n size)) (undecodable index .tooSmall)
  | large {type : String} {bits size : Nat} (htype : (type, bits) ∈ integerTypes) {n : Int}
      (hsize : 1 ≤ size ∧ size ≤ 8) (hroom : FitsIn (8 * size) n) (hlarge : 2 ^ (bits - 1) ≤ n) :
      Fails index type (some (integerBytes n size)) (undecodable index .tooLarge)
  | text {type : String} (htype : type ∈ textTypes) {bytes : List UInt8}
      {cause : Text.Utf8.DecodeError} (hcause : Text.Utf8.decode bytes = .error cause) :
      Fails index type (some bytes) (undecodable index (.text cause))

/-- Whatever a cell fails for, it is that it cannot be decoded. -/
theorem Fails.is_decode {index : Nat} {type : String} {cell : Cell} {e : StoreError}
    (h : Fails index type cell e) : ∃ message, e = .decode message := by
  cases h <;> exact ⟨_, rfl⟩

theorem ofName?_integer {type : String} {bits : Nat} (h : (type, bits) ∈ integerTypes) :
    ValueType.ofName? type = some (.integer bits) ∧ bits ≤ 64 := by
  simp only [integerTypes, List.mem_cons, Prod.mk.injEq, List.not_mem_nil, or_false] at h
  rcases h with ⟨rfl, rfl⟩ | ⟨rfl, rfl⟩ | ⟨rfl, rfl⟩ <;> exact ⟨rfl, by decide⟩

theorem ofName?_text {type : String} (h : type ∈ textTypes) :
    ValueType.ofName? type = some .text := by
  simp only [textTypes, List.mem_cons, List.not_mem_nil, or_false] at h
  rcases h with rfl | rfl | rfl | rfl <;> rfl

theorem ofName?_eq_none {type : String} (hinteger : ∀ bits, (type, bits) ∉ integerTypes)
    (htruth : type ≠ "BOOL") (htext : type ∉ textTypes) : ValueType.ofName? type = none := by
  unfold ValueType.ofName?
  split
  · exact absurd (by decide) (hinteger 64)
  · exact absurd (by decide) (hinteger 32)
  · exact absurd (by decide) (hinteger 16)
  · exact absurd rfl htruth
  · exact absurd (by decide) htext
  · exact absurd (by decide) htext
  · exact absurd (by decide) htext
  · exact absurd (by decide) htext
  · rfl

theorem toInt_ofInt_of_fits {bits : Nat} {n : Int} (hbits : bits ≤ 64) (h : FitsIn bits n) :
    (Int64.ofInt n).toInt = n := by
  have hpow : (2 : Int) ^ (bits - 1) ≤ 2 ^ 63 := by
    exact_mod_cast Nat.pow_le_pow_right (by decide) (by omega)
  obtain ⟨hlow, hhigh⟩ := h
  exact Int64.toInt_ofInt_of_le (by omega) (by omega)

/-- An integer that is sent in bytes of a number that can be read is read if it has room. -/
theorem decodeInteger_eq {bits size : Nat} {n : Int} (hsize : 1 ≤ size ∧ size ≤ 8)
    (hroom : FitsIn (8 * size) n) :
    decodeInteger bits (integerBytes n size) =
      if n < -2 ^ (bits - 1) then .error .tooSmall
      else if 2 ^ (bits - 1) ≤ n then .error .tooLarge
      else .ok (Int64.ofInt n) := by
  have hlength := length_integerBytes n size
  have hnonempty : ¬(integerBytes n size).isEmpty = true := by
    rw [List.isEmpty_iff, ← List.length_eq_zero_iff, hlength]
    omega
  unfold decodeInteger
  rw [if_neg hnonempty, if_neg (by omega), integerOfBytes_integerBytes hsize.1 hroom]
  have hbound : ((Nat.pow 2 (bits - 1) : Nat) : Int) = 2 ^ (bits - 1) := by
    exact Nat.cast_pow 2 (bits - 1)
  dsimp only
  rw [hbound]

section Cells

variable {index : Nat} {column : Column} {cell : Cell} {value : SqlValue} {e : StoreError}

theorem decodeCell_integer {bits : Nat} (h : (column.type, bits) ∈ integerTypes)
    (bytes : List UInt8) :
    decodeCell index column (some bytes) =
      match decodeInteger bits bytes with
      | .ok v => .ok (.int v)
      | .error cause => .error (undecodable index cause) := by
  unfold decodeCell
  rw [(ofName?_integer h).1]
  dsimp only [decodeBytes]
  cases decodeInteger bits bytes <;> rfl

theorem decodeCell_text (h : column.type ∈ textTypes) (bytes : List UInt8) :
    decodeCell index column (some bytes) =
      match Text.Utf8.decode bytes with
      | .ok s => .ok (.text s)
      | .error cause => .error (undecodable index (.text cause)) := by
  unfold decodeCell
  rw [ofName?_text h]
  dsimp only [decodeBytes]
  cases Text.Utf8.decode bytes <;> rfl

/-- A cell is read as the value that it stands for. -/
theorem decodeCell_of_stands (h : Stands column.type cell value) :
    decodeCell index column cell = .ok value := by
  obtain ⟨name, type⟩ := column
  cases h with
  | null => rfl
  | integer htype v hsize hroom hbits =>
    rw [decodeCell_integer htype, decodeInteger_eq hsize hroom, if_neg (not_lt.mpr hbits.1),
      if_neg (not_le.mpr hbits.2), Int64.ofInt_toInt]
  | truth b rest => rfl
  | text htype s => rw [decodeCell_text htype, Text.Utf8.decode_eq_ok_iff.mpr rfl]

/-- Reading a cell that stands for no value fails for the reason that it has. -/
theorem decodeCell_of_fails (h : Fails index column.type cell e) :
    decodeCell index column cell = .error e := by
  obtain ⟨name, type⟩ := column
  cases h with
  | unsupported hinteger htruth htext bytes =>
    unfold decodeCell
    rw [ofName?_eq_none hinteger htruth htext]
  | empty htype =>
    rw [decodeCell_integer htype]
    rfl
  | @long bits htype bytes hlong =>
    have hnonempty : ¬bytes.isEmpty = true := by
      rw [List.isEmpty_iff]
      rintro rfl
      cases hlong
    rw [decodeCell_integer htype, decodeInteger, if_neg hnonempty, if_pos hlong]
  | small htype hsize hroom hsmall =>
    rw [decodeCell_integer htype, decodeInteger_eq hsize hroom, if_pos hsmall]
  | @large bits size htype n hsize hroom hlarge =>
    have hpos : (0 : Int) < 2 ^ (bits - 1) := by positivity
    rw [decodeCell_integer htype, decodeInteger_eq hsize hroom, if_neg (by omega), if_pos hlarge]
  | text htype hcause => rw [decodeCell_text htype, hcause]

/-- Bytes in a column of integers are too few, too many or those of a number, which has room or
does not. -/
theorem stands_or_fails_integer (index : Nat) {type : String} {bits : Nat}
    (htype : (type, bits) ∈ integerTypes) (bytes : List UInt8) :
    (∃ value, Stands type (some bytes) value) ∨ ∃ e, Fails index type (some bytes) e := by
  by_cases hempty : bytes = []
  · subst hempty
    exact .inr ⟨_, .empty htype⟩
  by_cases hlong : 8 < bytes.length
  · exact .inr ⟨_, .long htype hlong⟩
  have hsize : 1 ≤ bytes.length ∧ bytes.length ≤ 8 :=
    ⟨List.length_pos_iff.mpr hempty, Nat.le_of_not_lt hlong⟩
  obtain ⟨hbytes, hroom⟩ := exists_integerBytes hempty
  rw [← hbytes]
  by_cases hsmall : integerOfBytes bytes < -2 ^ (bits - 1)
  · exact .inr ⟨_, .small htype hsize hroom hsmall⟩
  by_cases hlarge : 2 ^ (bits - 1) ≤ integerOfBytes bytes
  · exact .inr ⟨_, .large htype hsize hroom hlarge⟩
  have hbits : FitsIn bits (integerOfBytes bytes) := ⟨not_lt.mp hsmall, not_le.mp hlarge⟩
  have hvalue := toInt_ofInt_of_fits (ofName?_integer htype).2 hbits
  rw [← hvalue] at hbits hroom ⊢
  exact .inl ⟨_, .integer htype _ hsize hroom hbits⟩

/-- Every cell stands for a value, or there is a reason why not. -/
theorem stands_or_fails (index : Nat) {type : String} (hsent : type = "BOOL" → cell ≠ some []) :
    (∃ value, Stands type cell value) ∨ ∃ e, Fails index type cell e := by
  cases cell with
  | none => exact .inl ⟨_, .null type⟩
  | some bytes =>
    by_cases hinteger : ∃ bits, (type, bits) ∈ integerTypes
    · obtain ⟨bits, htype⟩ := hinteger
      exact stands_or_fails_integer index htype bytes
    · by_cases htruth : type = "BOOL"
      · subst htruth
        match bytes, hsent rfl with
        | b :: rest, _ => exact .inl ⟨_, .truth b rest⟩
      · by_cases htext : type ∈ textTypes
        · cases hread : Text.Utf8.decode bytes with
          | ok s =>
            rw [Text.Utf8.decode_eq_ok_iff.mp hread]
            exact .inl ⟨_, .text htext s⟩
          | error cause => exact .inr ⟨_, .text htext hread⟩
        · exact .inr ⟨_, .unsupported (not_exists.mp hinteger) htruth htext bytes⟩

theorem decodeCell_eq_ok_iff (hsent : column.type = "BOOL" → cell ≠ some []) :
    decodeCell index column cell = .ok value ↔ Stands column.type cell value := by
  constructor
  · intro h
    rcases stands_or_fails index hsent with ⟨value', hstands⟩ | ⟨e, hfails⟩
    · rw [decodeCell_of_stands hstands] at h
      exact Except.ok.inj h ▸ hstands
    · rw [decodeCell_of_fails hfails] at h
      cases h
  · exact decodeCell_of_stands

theorem decodeCell_eq_error_iff (hsent : column.type = "BOOL" → cell ≠ some []) :
    decodeCell index column cell = .error e ↔ Fails index column.type cell e := by
  constructor
  · intro h
    rcases stands_or_fails index hsent with ⟨value, hstands⟩ | ⟨e', hfails⟩
    · rw [decodeCell_of_stands hstands] at h
      cases h
    · rw [decodeCell_of_fails hfails] at h
      exact Except.error.inj h ▸ hfails
  · exact decodeCell_of_fails

end Cells

/-! ## Rows -/

/-- What fails first in a list: something at some place, after nothing but what is good. -/
def FirstFails {α ε : Type} (good : α → Prop) (bad : Nat → α → ε → Prop) (l : List α) (e : ε) :
    Prop :=
  ∃ before a after, l = before ++ a :: after ∧ (∀ x ∈ before, good x) ∧ bad before.length a e

section First

variable {α ε : Type} {good : α → Prop} {bad : Nat → α → ε → Prop} {a : α} {l : List α} {e : ε}

theorem not_firstFails_nil : ¬FirstFails good bad [] e := by
  rintro ⟨before, a, after, heq, -⟩
  exact List.append_ne_nil_of_right_ne_nil before (List.cons_ne_nil a after) heq.symm

theorem firstFails_cons :
    FirstFails good bad (a :: l) e ↔
      bad 0 a e ∨ good a ∧ FirstFails good (fun place => bad (place + 1)) l e := by
  constructor
  · rintro ⟨before, x, after, heq, hbefore, hbad⟩
    cases before with
    | nil =>
      cases heq
      exact .inl hbad
    | cons y before =>
      cases heq
      obtain ⟨hy, hbefore⟩ := List.forall_mem_cons.mp hbefore
      exact .inr ⟨hy, before, x, after, rfl, hbefore, hbad⟩
  · rintro (hbad | ⟨hgood, before, x, after, rfl, hbefore, hbad⟩)
    · exact ⟨[], a, l, rfl, nofun, hbad⟩
    · exact ⟨a :: before, x, after, rfl, List.forall_mem_cons.mpr ⟨hgood, hbefore⟩, hbad⟩

end First

/-- The row that cells stand for, value by value. -/
def RowStands (columns : List Column) (cells : List Cell) (row : Row) : Prop :=
  List.Forall₂ (fun p value => Stands p.1.type p.2 value) (columns.zip cells) row.columns

/-- Why cells stand for no row: why the first of them stands for no value that does not. -/
def RowFails (columns : List Column) (cells : List Cell) (e : StoreError) : Prop :=
  FirstFails (fun p : Column × Cell => ∃ value, Stands p.1.type p.2 value)
    (fun index p e => Fails index p.1.type p.2 e) (columns.zip cells) e

/-- Why rows cannot be given: why the first of them that stands for no row does not. -/
def RowsFail (columns : List Column) (rows : List (List Cell)) (e : StoreError) : Prop :=
  FirstFails (fun cells => ∃ row, RowStands columns cells row)
    (fun _ cells e => RowFails columns cells e) rows e

/-- Cells as a server sends them: one for each column, and a truth value in a byte at least. -/
structure RowSent (columns : List Column) (cells : List Cell) : Prop where
  width : columns.length = cells.length
  truths : ∀ p ∈ columns.zip cells, p.1.type = "BOOL" → p.2 ≠ some []

section Rows

variable {column : Column} {columns : List Column} {cell : Cell} {cells : List Cell}
  {e : StoreError}

theorem rowSent_cons_iff :
    RowSent (column :: columns) (cell :: cells) ↔
      (column.type = "BOOL" → cell ≠ some []) ∧ RowSent columns cells := by
  constructor
  · intro h
    obtain ⟨hfirst, hothers⟩ := List.forall_mem_cons.mp h.truths
    exact ⟨hfirst, Nat.succ.inj h.width, hothers⟩
  · rintro ⟨hfirst, hothers⟩
    exact ⟨congrArg Nat.succ hothers.width, List.forall_mem_cons.mpr ⟨hfirst, hothers.truths⟩⟩

theorem decodeFrom_cons (index : Nat) :
    decodeFrom index (column :: columns) (cell :: cells) =
      decodeCell index column cell >>= fun value =>
        decodeFrom (index + 1) columns cells >>= fun rest => .ok (value :: rest) := rfl

theorem decodeFrom_eq_ok_iff (h : RowSent columns cells) (index : Nat) {values : List SqlValue} :
    decodeFrom index columns cells = .ok values ↔
      List.Forall₂ (fun p value => Stands p.1.type p.2 value) (columns.zip cells) values := by
  induction columns generalizing index cells values with
  | nil =>
    show .ok [] = Except.ok values ↔ _
    rw [List.zip_nil_left, List.forall₂_nil_left_iff, Except.ok.injEq, eq_comm]
  | cons column columns ih =>
    match cells, h with
    | cell :: cells, h =>
      obtain ⟨hfirst, hothers⟩ := rowSent_cons_iff.mp h
      rw [decodeFrom_cons, List.zip_cons_cons]
      constructor
      · intro hread
        obtain ⟨value, hvalue, hread⟩ := bind_eq_ok hread
        obtain ⟨rest, hrest, hread⟩ := bind_eq_ok hread
        cases hread
        exact .cons ((decodeCell_eq_ok_iff hfirst).mp hvalue) ((ih hothers _).mp hrest)
      · intro hstands
        cases hstands with
        | cons hvalue hrest =>
          rw [(decodeCell_eq_ok_iff hfirst).mpr hvalue]
          show (decodeFrom _ _ _ >>= _) = _
          rw [(ih hothers _).mpr hrest]
          rfl

theorem decodeFrom_eq_error_iff (h : RowSent columns cells) (index : Nat) :
    decodeFrom index columns cells = .error e ↔
      FirstFails (fun p : Column × Cell => ∃ value, Stands p.1.type p.2 value)
        (fun place p e => Fails (index + place) p.1.type p.2 e) (columns.zip cells) e := by
  induction columns generalizing index cells with
  | nil => exact ⟨nofun, fun hfails => absurd hfails not_firstFails_nil⟩
  | cons column columns ih =>
    match cells, h with
    | cell :: cells, h =>
      obtain ⟨hfirst, hothers⟩ := rowSent_cons_iff.mp h
      have hplaces :
          (fun place (p : Column × Cell) e => Fails (index + (place + 1)) p.1.type p.2 e) =
            fun place p e => Fails (index + 1 + place) p.1.type p.2 e := by
        funext place p e
        rw [Nat.add_comm place 1, Nat.add_assoc]
      rw [decodeFrom_cons, List.zip_cons_cons, firstFails_cons, bind_eq_error_iff,
        decodeCell_eq_error_iff hfirst, hplaces, ← ih hothers _]
      constructor
      · rintro (hfails | ⟨value, hvalue, hread⟩)
        · exact .inl hfails
        · rcases bind_eq_error_iff.mp hread with hread | ⟨rest, -, hread⟩
          · exact .inr ⟨⟨value, (decodeCell_eq_ok_iff hfirst).mp hvalue⟩, hread⟩
          · cases hread
      · rintro (hfails | ⟨⟨value, hvalue⟩, hread⟩)
        · exact .inl hfails
        · exact .inr ⟨value, (decodeCell_eq_ok_iff hfirst).mpr hvalue,
            bind_eq_error_iff.mpr (.inl hread)⟩

theorem decodeRow_eq_ok_iff (h : RowSent columns cells) {row : Row} :
    decodeRow columns cells = .ok row ↔ RowStands columns cells row := by
  unfold RowStands decodeRow
  rw [← decodeFrom_eq_ok_iff h 0]
  cases decodeFrom 0 columns cells with
  | error e => exact ⟨nofun, nofun⟩
  | ok values =>
    constructor
    · intro hread
      cases hread
      rfl
    · intro hread
      cases hread
      rfl

theorem decodeRow_eq_error_iff (h : RowSent columns cells) :
    decodeRow columns cells = .error e ↔ RowFails columns cells e := by
  have hread := decodeFrom_eq_error_iff (e := e) h 0
  simp only [Nat.zero_add] at hread
  unfold RowFails decodeRow
  rw [← hread]
  cases decodeFrom 0 columns cells with
  | error e' =>
    constructor
    · exact fun h => congrArg _ (Except.error.inj h)
    · exact fun h => congrArg _ (Except.error.inj h)
  | ok values => exact ⟨nofun, nofun⟩

variable {rows : List (List Cell)}

theorem decodeRows_cons :
    decodeRows columns (cells :: rows) =
      decodeRow columns cells >>= fun row =>
        decodeRows columns rows >>= fun rest => .ok (row :: rest) := rfl

theorem decodeRows_eq_ok_iff (h : ∀ cells ∈ rows, RowSent columns cells) {read : List Row} :
    decodeRows columns rows = .ok read ↔ List.Forall₂ (RowStands columns) rows read := by
  induction rows generalizing read with
  | nil =>
    show .ok [] = Except.ok read ↔ _
    rw [List.forall₂_nil_left_iff, Except.ok.injEq, eq_comm]
  | cons cells rows ih =>
    obtain ⟨hfirst, hothers⟩ := List.forall_mem_cons.mp h
    rw [decodeRows_cons]
    constructor
    · intro hread
      obtain ⟨row, hrow, hread⟩ := bind_eq_ok hread
      obtain ⟨rest, hrest, hread⟩ := bind_eq_ok hread
      cases hread
      exact .cons ((decodeRow_eq_ok_iff hfirst).mp hrow) ((ih hothers).mp hrest)
    · intro hstands
      cases hstands with
      | cons hrow hrest =>
        rw [(decodeRow_eq_ok_iff hfirst).mpr hrow]
        show (decodeRows _ _ >>= _) = _
        rw [(ih hothers).mpr hrest]
        rfl

theorem decodeRows_eq_error_iff (h : ∀ cells ∈ rows, RowSent columns cells) :
    decodeRows columns rows = .error e ↔ RowsFail columns rows e := by
  unfold RowsFail
  induction rows with
  | nil => exact ⟨nofun, fun hfails => absurd hfails not_firstFails_nil⟩
  | cons cells rows ih =>
    obtain ⟨hfirst, hothers⟩ := List.forall_mem_cons.mp h
    rw [decodeRows_cons, firstFails_cons, bind_eq_error_iff, decodeRow_eq_error_iff hfirst,
      ← ih hothers]
    constructor
    · rintro (hfails | ⟨row, hrow, hread⟩)
      · exact .inl hfails
      · rcases bind_eq_error_iff.mp hread with hread | ⟨rest, -, hread⟩
        · exact .inr ⟨⟨row, (decodeRow_eq_ok_iff hfirst).mp hrow⟩, hread⟩
        · cases hread
    · rintro (hfails | ⟨⟨row, hrow⟩, hread⟩)
      · exact .inl hfails
      · exact .inr ⟨row, (decodeRow_eq_ok_iff hfirst).mpr hrow,
          bind_eq_error_iff.mpr (.inl hread)⟩

theorem RowFails.is_decode (h : RowFails columns cells e) : ∃ message, e = .decode message := by
  obtain ⟨_, _, _, _, _, hfails⟩ := h
  exact hfails.is_decode

end Rows

end Postgres

/-! ## Results -/

namespace PgStore

open Postgres

variable {γ : Type} {client : Client γ} {s : PgStore γ} {now : Instant} {statement : Statement}
  {deadline : Deadline} {args : List SqlValue} {target : Target} {r : ResultSet}

theorem answer_queryRows (htarget : s.targetOf? statement = .ok target)
    (hresult : (client.serve s.client now deadline (.run target statement.query args)).result =
      some (.ok r)) :
    (serve client s now (.queryRows statement deadline args)).answer =
      decodeRows r.columns r.rows := by
  dsimp only [serve]
  rw [htarget]
  show Except.bind (settle runFailed (client.serve s.client now deadline _).result).1 _ = _
  rw [hresult]
  rfl

theorem answer_queryRow (htarget : s.targetOf? statement = .ok target)
    (hresult : (client.serve s.client now deadline (.run target statement.query args)).result =
      some (.ok r)) :
    (serve client s now (.queryRow statement deadline args)).answer = readFirst r := by
  dsimp only [serve]
  rw [htarget]
  show Except.bind (settle runFailed (client.serve s.client now deadline _).result).1 _ = _
  rw [hresult]
  rfl

theorem readFirst_eq_none_iff : readFirst r = .ok none ↔ r.rows = [] := by
  unfold readFirst
  cases r.rows with
  | nil => simp
  | cons cells rest =>
    dsimp only
    cases decodeRow r.columns cells <;> simp [Except.map]

theorem readFirst_eq_some_iff (hsent : ∀ cells ∈ r.rows, RowSent r.columns cells) {row : Row} :
    readFirst r = .ok (some row) ↔ ∃ cells ∈ r.rows.head?, RowStands r.columns cells row := by
  unfold readFirst
  cases hrows : r.rows with
  | nil => simp
  | cons cells rest =>
    have hcells : RowSent r.columns cells := hsent cells (hrows ▸ List.mem_cons_self)
    have hrow : (decodeRow r.columns cells).map some = .ok (some row) ↔
        decodeRow r.columns cells = .ok row := by
      cases decodeRow r.columns cells <;> simp [Except.map]
    dsimp only
    rw [hrow, decodeRow_eq_ok_iff hcells]
    simp

theorem readFirst_eq_error_iff (hsent : ∀ cells ∈ r.rows, RowSent r.columns cells)
    {e : StoreError} :
    readFirst r = .error e ↔ ∃ cells ∈ r.rows.head?, RowFails r.columns cells e := by
  unfold readFirst
  cases hrows : r.rows with
  | nil => simp
  | cons cells rest =>
    have hcells : RowSent r.columns cells := hsent cells (hrows ▸ List.mem_cons_self)
    have hrow : (decodeRow r.columns cells).map some = .error e ↔
        decodeRow r.columns cells = .error e := by
      cases decodeRow r.columns cells <;> simp [Except.map]
    dsimp only
    rw [hrow, decodeRow_eq_error_iff hcells]
    simp

/-- Whatever result a server sends to a statement that may be run: all of its rows are given, in
order and value by value, or nothing is given but the failure of the first cell that stands for no
value, in the first row that has one. Of the first row alone the same holds. -/
theorem reads_results (htarget : s.targetOf? statement = .ok target)
    (hresult : (client.serve s.client now deadline (.run target statement.query args)).result =
      some (.ok r)) (hsent : ∀ cells ∈ r.rows, RowSent r.columns cells) :
    let all := (serve client s now (.queryRows statement deadline args)).answer
    let first := (serve client s now (.queryRow statement deadline args)).answer
    (∀ rows, all = .ok rows ↔ List.Forall₂ (RowStands r.columns) r.rows rows) ∧
      (∀ e, all = .error e ↔ RowsFail r.columns r.rows e) ∧
      (first = .ok none ↔ r.rows = []) ∧
      (∀ row, first = .ok (some row) ↔ ∃ cells ∈ r.rows.head?, RowStands r.columns cells row) ∧
      (∀ e, first = .error e ↔ ∃ cells ∈ r.rows.head?, RowFails r.columns cells e) ∧
      ∀ e, all = .error e ∨ first = .error e → ∃ message, e = .decode message := by
  intro all first
  have hall : all = decodeRows r.columns r.rows := answer_queryRows htarget hresult
  have hfirst : first = readFirst r := answer_queryRow htarget hresult
  rw [hall, hfirst]
  refine ⟨fun rows => decodeRows_eq_ok_iff hsent, fun e => decodeRows_eq_error_iff hsent,
    readFirst_eq_none_iff, fun row => readFirst_eq_some_iff hsent,
    fun e => readFirst_eq_error_iff hsent, ?_⟩
  rintro e (he | he)
  · obtain ⟨_, _, _, _, _, hrow⟩ := (decodeRows_eq_error_iff hsent).mp he
    exact hrow.is_decode
  · obtain ⟨_, _, hrow⟩ := (readFirst_eq_error_iff hsent).mp he
    exact hrow.is_decode

/-- A client that gets one result for everything that is run. -/
def resultClient (r : ResultSet) : Client Unit where
  serve _ now _
    | .run _ _ _ => ⟨some (.ok r), (), now⟩
    | .prepare _ _ => ⟨some (.ok ()), (), now⟩
    | .begin => ⟨some (.ok 0), (), now⟩
    | .commit _ => ⟨some (.ok ()), (), now⟩
    | .rollback _ => ⟨some (.ok ()), (), now⟩
  abandon _ _ _ := ()

/-- A store that has handed out nothing yet. -/
def untouched : PgStore Unit where
  database := "accounts"
  user := "svc"
  client := ()
  transactions := []
  statements := 0
  closed := []

/-- A result of two rows: an integer of 16 bits, a truth value and a text. -/
def mixedResult : ResultSet where
  columns := [⟨"n", "INT2"⟩, ⟨"b", "BOOL"⟩, ⟨"t", "VARCHAR"⟩]
  rows := [[some [0xFF, 0xFE], some [1], some [0xC3, 0xA9]], [none, some [0], none]]
  affected := 2

/-- The integer keeps its sign, both bytes of the text are one character, and what is null stays
null. -/
theorem reads_results_of_mixed :
    let statement : Statement := ⟨0, "SELECT n, b, t", none⟩
    let answer := (serve (resultClient mixedResult) untouched ⟨0⟩
      (.queryRows statement .none [])).answer
    untouched.targetOf? statement = .ok .pool ∧
      (∀ cells ∈ mixedResult.rows, RowSent mixedResult.columns cells) ∧
      answer = .ok [⟨[.int (-2), .bool true, .text "é"]⟩, ⟨[.null, .bool false, .null]⟩] := by
  intro statement answer
  have htarget : untouched.targetOf? statement = .ok .pool := rfl
  have hsent : ∀ cells ∈ mixedResult.rows, RowSent mixedResult.columns cells := by
    intro cells hcells
    have hwidth : ∀ cells ∈ mixedResult.rows, mixedResult.columns.length = cells.length := by
      decide
    have htruths : ∀ cells ∈ mixedResult.rows, ∀ p ∈ mixedResult.columns.zip cells,
        p.1.type = "BOOL" → p.2 ≠ some [] := by
      decide
    exact ⟨hwidth cells hcells, htruths cells hcells⟩
  have hinteger : Stands "INT2" (some [0xFF, 0xFE]) (.int (-2)) := by
    have hbytes : [0xFF, 0xFE] = integerBytes (-2 : Int64).toInt 2 := by decide
    have htype : ("INT2", 16) ∈ integerTypes := by decide
    rw [hbytes]
    exact .integer htype (-2) (by decide) ⟨by decide, by decide⟩ ⟨by decide, by decide⟩
  have htext : Stands "VARCHAR" (some [0xC3, 0xA9]) (.text "é") := by
    have hbytes : [0xC3, 0xA9] = Text.Utf8.encode "é" := by decide +kernel
    rw [hbytes]
    exact .text (by decide) "é"
  have hstands : List.Forall₂ (RowStands mixedResult.columns) mixedResult.rows
      [⟨[.int (-2), .bool true, .text "é"]⟩, ⟨[.null, .bool false, .null]⟩] :=
    .cons (.cons hinteger (.cons (.truth 1 []) (.cons htext .nil)))
      (.cons (.cons (.null _) (.cons (.truth 0 []) (.cons (.null _) .nil))) .nil)
  have hresult : ((resultClient mixedResult).serve untouched.client ⟨0⟩ .none
      (.run .pool statement.query [])).result = some (.ok mixedResult) := rfl
  exact ⟨htarget, hsent, ((reads_results htarget hresult hsent).1 _).mpr hstands⟩

/-- The texts of a column that is padded with blanks cannot be read, since the client does not call
its type by the name that the server has for it. -/
theorem padded_text_unsupported :
    let r : ResultSet := ⟨[⟨"c", "CHAR"⟩], [[some (Text.Utf8.encode "c  ")]], 1⟩
    (serve (resultClient r) untouched ⟨0⟩ (.queryRows ⟨0, "SELECT c", none⟩ .none [])).answer =
      .error (.decode "column 0 has unsupported type CHAR") := by
  decide +kernel

end PgStore

end UserAccounts
