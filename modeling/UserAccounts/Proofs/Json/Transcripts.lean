import Mathlib
import UserAccounts.Proofs.Json.Numbers

/-!
# Values that are written and read

A value is bounded if its whole numbers have 64 bits (`Value.isBounded`). The text of a bounded
value is that of a document that can be read as a value again, if it is not too deep
(`Value.isSound_transcript`, `Value.depth_transcript`), and every value that is read is bounded
(`Document.isBounded_value?`).
-/

namespace UserAccounts.Json

/-! ## Bounded values and their depth -/

mutual

/-- The whole numbers of a value have 64 bits, with or without sign. -/
def Value.isBounded : Value → Bool
  | .number (.whole n) =>
    decide (-(Text.maxSigned64 + 1 : Nat) ≤ n ∧ n ≤ (Text.maxUnsigned64 : Nat))
  | .array items => itemsBounded items
  | .object members => membersBounded members
  | _ => true

/-- The elements of an array are bounded. -/
def itemsBounded : List Value → Bool
  | [] => true
  | v :: rest => v.isBounded && itemsBounded rest

/-- The values of the members of an object are bounded. -/
def membersBounded : List (String × Value) → Bool
  | [] => true
  | (_, v) :: rest => v.isBounded && membersBounded rest

end

mutual

/-- The number of arrays and objects of a value that are inside of one another. -/
def Value.depth : Value → Nat
  | .array items => itemsNesting items + 1
  | .object members => membersNesting members + 1
  | _ => 0

/-- The depth of the deepest element of an array. -/
def itemsNesting : List Value → Nat
  | [] => 0
  | v :: rest => max v.depth (itemsNesting rest)

/-- The depth of the value of the deepest member of an object. -/
def membersNesting : List (String × Value) → Nat
  | [] => 0
  | (_, v) :: rest => max v.depth (membersNesting rest)

end

theorem itemsBounded_cons {v : Value} {rest : List Value} :
    itemsBounded (v :: rest) = true ↔ v.isBounded = true ∧ itemsBounded rest = true := by
  rw [itemsBounded, Bool.and_eq_true]

theorem membersBounded_cons {m : String × Value} {rest : List (String × Value)} :
    membersBounded (m :: rest) = true ↔ m.2.isBounded = true ∧ membersBounded rest = true := by
  rw [membersBounded, Bool.and_eq_true]

/-! ## Written -/

mutual

/-- A value is written as deep as it is. -/
theorem Value.depth_transcript : (v : Value) → v.transcript.depth = v.depth
  | .null => rfl
  | .bool _ => rfl
  | .number (.whole _) => rfl
  | .number (.float bits) => by
    rw [Value.transcript]
    cases Binary64.ofBits? bits <;> rfl
  | .string _ => rfl
  | .array items => congrArg (· + 1) (itemsDepth_transcripts items)
  | .object members => congrArg (· + 1) (membersDepth_transcripts members)

theorem itemsDepth_transcripts : (items : List Value) →
    itemsDepth (itemTranscripts items) = itemsNesting items
  | [] => rfl
  | v :: rest => congrArg₂ max v.depth_transcript (itemsDepth_transcripts rest)

theorem membersDepth_transcripts : (members : List (String × Value)) →
    membersDepth (memberTranscripts members) = membersNesting members
  | [] => rfl
  | (_, v) :: rest => congrArg₂ max v.depth_transcript (membersDepth_transcripts rest)

end

mutual

/-- What is written for a bounded value can be read again. -/
theorem Value.isSound_transcript : (v : Value) → v.isBounded = true → v.transcript.isSound = true
  | .null, _ => rfl
  | .bool _, _ => rfl
  | .number (.whole n), h => by
    obtain ⟨low, high⟩ := of_decide_eq_true h
    simp [Value.transcript, Document.isSound, Numeral.number?, whole?_ofInt low high]
  | .number (.float bits), _ => by
    rw [Value.transcript]
    cases hbits : Binary64.ofBits? bits with
    | none => rfl
    | some x => exact Binary64.isSome_number?_of_ofBits? hbits
  | .string _, _ => rfl
  | .array items, h => itemsSound_transcripts items h
  | .object members, h => membersSound_transcripts members h

theorem itemsSound_transcripts : (items : List Value) → itemsBounded items = true →
    itemsSound (itemTranscripts items) = true
  | [], _ => rfl
  | v :: rest, h => by
    obtain ⟨hv, hrest⟩ := itemsBounded_cons.mp h
    rw [itemTranscripts, itemsSound, v.isSound_transcript hv, itemsSound_transcripts rest hrest,
      Bool.and_self]

theorem membersSound_transcripts : (members : List (String × Value)) →
    membersBounded members = true → membersSound (memberTranscripts members) = true
  | [], _ => rfl
  | (_, v) :: rest, h => by
    obtain ⟨hv, hrest⟩ := membersBounded_cons.mp h
    rw [memberTranscripts, membersSound, v.isSound_transcript hv,
      membersSound_transcripts rest hrest]
    rfl

end

/-! ## Read -/

/-- An integer that is read has 64 bits. -/
theorem bounded_of_whole? {n : Numeral} {value : Int} (h : n.whole? = some value) :
    (Value.number (.whole value)).isBounded = true := by
  refine decide_eq_true ?_
  unfold Numeral.whole? at h
  split at h
  · cases h
  · split_ifs at h with hnegative hlow hhigh
    all_goals cases h
    · simp only [Bool.and_eq_true, decide_eq_true_eq] at hlow
      omega
    · omega

theorem exists_bits_of_float? {n : Numeral} {number : Number} (h : n.float? = some number) :
    ∃ bits, number = .float bits := by
  have hmap {f : Option Float} (h : f.map (signedFloat n.negative) = some number) :
      ∃ bits, number = .float bits := by
    obtain ⟨x, -, rfl⟩ := Option.map_eq_some_iff.mp h
    exact ⟨_, rfl⟩
  unfold Numeral.float? at h
  dsimp only at h
  split at h
  · exact hmap h
  · split at h
    · exact hmap h
    · split_ifs at h
      cases h
      exact ⟨_, rfl⟩

theorem isBounded_of_number? {n : Numeral} {number : Number} (h : n.number? = some number) :
    (Value.number number).isBounded = true := by
  unfold Numeral.number? at h
  split at h
  · rename_i hwhole
    cases h
    exact bounded_of_whole? hwhole
  · obtain ⟨bits, rfl⟩ := exists_bits_of_float? h
    rfl

theorem membersBounded_putMember {key : String} {v : Value} {members : List (String × Value)}
    (hv : v.isBounded = true) (h : membersBounded members = true) :
    membersBounded (putMember key v members) = true := by
  induction members with
  | nil => exact membersBounded_cons.mpr ⟨hv, rfl⟩
  | cons m rest ih =>
    obtain ⟨hm, hrest⟩ := membersBounded_cons.mp h
    rw [putMember]
    split_ifs
    · exact membersBounded_cons.mpr ⟨hv, h⟩
    · exact membersBounded_cons.mpr ⟨hv, hrest⟩
    · exact membersBounded_cons.mpr ⟨hm, ih hrest⟩

theorem bounded_of_mem {members : List (String × Value)} (h : membersBounded members = true)
    {m : String × Value} (hm : m ∈ members) : m.2.isBounded = true := by
  induction members with
  | nil => cases hm
  | cons first rest ih =>
    obtain ⟨hfirst, hrest⟩ := membersBounded_cons.mp h
    rcases List.mem_cons.mp hm with rfl | hm
    · exact hfirst
    · exact ih hrest hm

theorem membersBounded_sortMembers {members : List (String × Value)}
    (h : membersBounded members = true) : membersBounded (sortMembers members) = true := by
  unfold sortMembers
  refine List.foldlRecOn members _ (motive := fun sorted => membersBounded sorted = true) rfl ?_
  exact fun sorted hsorted m hm => membersBounded_putMember (bounded_of_mem h hm) hsorted

mutual

/-- What is read as a value is bounded. -/
theorem Document.isBounded_value? : (d : Document) → {depth : Nat} → {v : Value} →
    d.value? depth = some v → v.isBounded = true
  | .null, _, _, h => by
    cases h
    rfl
  | .bool _, _, _, h => by
    cases h
    rfl
  | .number n, _, _, h => by
    obtain ⟨number, hnumber, rfl⟩ := Option.map_eq_some_iff.mp h
    exact isBounded_of_number? hnumber
  | .string s, _, _, h => by
    obtain ⟨text, -, rfl⟩ := Option.map_eq_some_iff.mp h
    rfl
  | .array _, 0, _, h => by cases h
  | .array items, depth + 1, _, h => by
    obtain ⟨vs, hvs, rfl⟩ := Option.map_eq_some_iff.mp h
    exact itemsBounded_itemValues? items hvs
  | .object _, 0, _, h => by cases h
  | .object members, depth + 1, _, h => by
    obtain ⟨vs, hvs, rfl⟩ := Option.map_eq_some_iff.mp h
    exact membersBounded_sortMembers (membersBounded_memberValues? members hvs)

theorem itemsBounded_itemValues? : (items : List Document) → {depth : Nat} → {vs : List Value} →
    itemValues? depth items = some vs → itemsBounded vs = true
  | [], _, _, h => by
    cases h
    rfl
  | d :: rest, depth, _, h => by
    rw [itemValues?] at h
    split at h
    · cases h
    · rename_i v hv
      obtain ⟨vs, hvs, rfl⟩ := Option.map_eq_some_iff.mp h
      exact itemsBounded_cons.mpr ⟨d.isBounded_value? hv, itemsBounded_itemValues? rest hvs⟩

theorem membersBounded_memberValues? : (members : List (Spelling × Document)) → {depth : Nat} →
    {vs : List (String × Value)} → memberValues? depth members = some vs →
    membersBounded vs = true
  | [], _, _, h => by
    cases h
    rfl
  | (key, d) :: rest, depth, _, h => by
    rw [memberValues?] at h
    split at h
    · rename_i v hkey hv
      obtain ⟨vs, hvs, rfl⟩ := Option.map_eq_some_iff.mp h
      exact membersBounded_cons.mpr ⟨d.isBounded_value? hv, membersBounded_memberValues? rest hvs⟩
    · cases h

end

end UserAccounts.Json
