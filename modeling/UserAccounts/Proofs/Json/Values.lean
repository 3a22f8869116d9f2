import Mathlib
import UserAccounts.Proofs.Json.Reading

/-!
# Values read from documents

A document holds a value if its strings are texts and its numbers are in range
(`Document.isSound`). It is read as one exactly if it is also not deeper than the reader goes
(`Document.isSome_value?_iff`).

An integer of 64 bits is read as itself (`whole?_ofInt`). So a value is read from its own document
as it was (`Value.value?_document`), provided that it is one that a program can hold: its numbers
have 64 bits, and each of its objects has its members in the order of their keys, without
repetitions (`Value.isExact`). Reading sorts the members of an object one by one, which leaves
members in order as they are (`sortMembers_of_ascending`).

The last section is about a record: what is found of its fields among the members of an object is
determined by the documents under each of their keys (`valuesAt`).
-/

namespace UserAccounts.Json

/-! ## Numbers -/

theorem integerDigits?_ofInt (n : Int) : (Numeral.ofInt n).integerDigits? = some n.natAbs := by
  have hvalue := Nat.ofDigitChars_ten_toDigits (n := n.natAbs)
  rw [Nat.ofDigitChars_eq_foldl] at hvalue
  simp only [Numeral.integerDigits?, Numeral.ofInt, List.isEmpty_nil, Option.isNone_none,
    Bool.and_self, if_pos]
  exact congrArg some hvalue

/-- An integer of 64 bits, with or without sign, is read as itself. -/
theorem whole?_ofInt {n : Int} (low : -(Text.maxSigned64 + 1 : Nat) ≤ n)
    (high : n ≤ (Text.maxUnsigned64 : Nat)) : (Numeral.ofInt n).whole? = some n := by
  unfold Numeral.whole?
  rw [integerDigits?_ofInt]
  by_cases hn : n < 0
  · have hneg : (Numeral.ofInt n).negative = true := by simpa [Numeral.ofInt] using hn
    simp only [hneg, if_pos, Bool.and_eq_true, decide_eq_true_eq]
    rw [if_pos (by omega)]
    exact congrArg some (by omega)
  · have hneg : (Numeral.ofInt n).negative = false := by simpa [Numeral.ofInt] using hn
    simp only [hneg]
    rw [if_neg Bool.false_ne_true, if_pos (by omega)]
    exact congrArg some (by omega)

theorem integerWithin?_ofInt {low high n : Int} (hlow : -(Text.maxSigned64 + 1 : Nat) ≤ low)
    (hhigh : high ≤ (Text.maxUnsigned64 : Nat)) (hn : low ≤ n ∧ n ≤ high) :
    integerWithin? low high (.number (.ofInt n)) = some n := by
  simp only [integerWithin?]
  rw [whole?_ofInt (by omega) (by omega)]
  simp [hn]

/-! ## Depth and soundness -/

mutual

/-- The number of arrays and objects of a document that are open at the same time. -/
def Document.depth : Document → Nat
  | .array items => itemsDepth items + 1
  | .object members => membersDepth members + 1
  | _ => 0

/-- The depth of the deepest element of an array. -/
def itemsDepth : List Document → Nat
  | [] => 0
  | d :: rest => max d.depth (itemsDepth rest)

/-- The depth of the deepest member of an object. -/
def membersDepth : List (Spelling × Document) → Nat
  | [] => 0
  | (_, d) :: rest => max d.depth (membersDepth rest)

end

mutual

/-- All strings of a document are texts, its keys included, and all its numbers are in range. -/
def Document.isSound : Document → Bool
  | .number n => n.number?.isSome
  | .string s => s.intact
  | .array items => itemsSound items
  | .object members => membersSound members
  | _ => true

/-- The elements of an array are sound. -/
def itemsSound : List Document → Bool
  | [] => true
  | d :: rest => d.isSound && itemsSound rest

/-- The members of an object are sound. -/
def membersSound : List (Spelling × Document) → Bool
  | [] => true
  | (key, d) :: rest => key.intact && d.isSound && membersSound rest

end

theorem Spelling.isSome_text? (s : Spelling) : s.text?.isSome = s.intact := by
  unfold Spelling.text?
  cases s.intact <;> rfl

theorem Spelling.text?_eq_some_iff {s : Spelling} {text : String} :
    s.text? = some text ↔ s = .whole text := by
  obtain ⟨chars, intact⟩ := s
  cases intact <;> simp [Spelling.text?, Spelling.whole]

theorem decode?_string_eq_some_iff {depth : Nat} {d : Document} {text : String} :
    decode? depth d = some text ↔ d = .string (.whole text) := by
  cases d with
  | string s =>
    rw [Document.string.injEq]
    exact Spelling.text?_eq_some_iff
  | _ => simp [decode?]

theorem required?_string (depth : Nat) (s : String) :
    (required? depth (some (.string (.whole s))) : Option String) = some s :=
  decode?_string_eq_some_iff.mpr rfl

mutual

/-- A document is read as a value exactly if it is sound and not too deep. -/
theorem Document.isSome_value?_iff : (d : Document) → (depth : Nat) →
    ((d.value? depth).isSome = true ↔ d.isSound = true ∧ d.depth ≤ depth)
  | .null, depth => by simp [Document.value?, Document.isSound, Document.depth]
  | .bool b, depth => by simp [Document.value?, Document.isSound, Document.depth]
  | .number n, depth => by simp [Document.value?, Document.isSound, Document.depth]
  | .string s, depth => by
    simp [Document.value?, Document.isSound, Document.depth, Spelling.isSome_text?]
  | .array items, 0 => by simp [Document.value?, Document.depth]
  | .array items, depth + 1 => by
    have hitems := isSome_itemValues?_iff items depth
    simpa [Document.value?, Document.isSound, Document.depth] using hitems
  | .object members, 0 => by simp [Document.value?, Document.depth]
  | .object members, depth + 1 => by
    have hmembers := isSome_memberValues?_iff members depth
    simpa [Document.value?, Document.isSound, Document.depth] using hmembers

/-- The elements of an array are read exactly if each of them is. -/
theorem isSome_itemValues?_iff : (items : List Document) → (depth : Nat) →
    ((itemValues? depth items).isSome = true ↔ itemsSound items = true ∧ itemsDepth items ≤ depth)
  | [], depth => by simp [itemValues?, itemsSound, itemsDepth]
  | d :: rest, depth => by
    have hd := Document.isSome_value?_iff d depth
    have hrest := isSome_itemValues?_iff rest depth
    rw [itemsSound, itemsDepth, Bool.and_eq_true, Nat.max_le, and_and_and_comm, ← hd, ← hrest,
      itemValues?]
    cases d.value? depth <;> simp

/-- The members of an object are read exactly if each of them is. -/
theorem isSome_memberValues?_iff : (members : List (Spelling × Document)) → (depth : Nat) →
    ((memberValues? depth members).isSome = true ↔
      membersSound members = true ∧ membersDepth members ≤ depth)
  | [], depth => by simp [memberValues?, membersSound, membersDepth]
  | (key, d) :: rest, depth => by
    have hd := Document.isSome_value?_iff d depth
    have hrest := isSome_memberValues?_iff rest depth
    have hparts : (memberValues? depth ((key, d) :: rest)).isSome = true ↔
        key.text?.isSome = true ∧ (d.value? depth).isSome = true ∧
          (memberValues? depth rest).isSome = true := by
      rw [memberValues?]
      cases key.text? <;> cases d.value? depth <;> simp
    rw [hparts, key.isSome_text?, hd, hrest, membersSound, membersDepth, Bool.and_eq_true,
      Bool.and_eq_true, Nat.max_le]
    tauto

end

theorem sound_of_mem {members : List (Spelling × Document)}
    (h : membersSound members = true) {m : Spelling × Document} (hm : m ∈ members) :
    m.1.intact = true ∧ m.2.isSound = true := by
  induction members with
  | nil => cases hm
  | cons first rest ih =>
    obtain ⟨⟨hkey, hd⟩, hrest⟩ :
        (first.1.intact = true ∧ first.2.isSound = true) ∧ membersSound rest = true := by
      simpa only [membersSound, Bool.and_eq_true] using h
    rcases List.mem_cons.mp hm with rfl | hm
    · exact ⟨hkey, hd⟩
    · exact ih hrest hm

theorem depth_le_membersDepth {members : List (Spelling × Document)} {m : Spelling × Document}
    (hm : m ∈ members) : m.2.depth ≤ membersDepth members := by
  induction members with
  | nil => cases hm
  | cons first rest ih =>
    rw [membersDepth]
    rcases List.mem_cons.mp hm with rfl | hm
    · exact Nat.le_max_left _ _
    · exact (ih hm).trans (Nat.le_max_right _ _)

/-! ## Members in order -/

/-- Members whose keys ascend, so that no key occurs twice. -/
def isAscending (members : List (String × Value)) : Bool :=
  decide ((members.map (·.1)).Pairwise (· < ·))

/-- A member whose key comes after all others is put at the end. -/
theorem putMember_of_forall_lt {key : String} {v : Value} {members : List (String × Value)}
    (h : ∀ m ∈ members, m.1 < key) : putMember key v members = members ++ [(key, v)] := by
  induction members with
  | nil => rfl
  | cons m rest ih =>
    obtain ⟨hm, hrest⟩ := List.forall_mem_cons.mp h
    have hne : (key == m.1) = false := beq_false_of_ne hm.ne'
    rw [putMember, if_neg hm.asymm, hne, if_neg Bool.false_ne_true, ih hrest, List.cons_append]

/-- Members that are put one by one after those before them. -/
theorem foldl_putMember (before : List (String × Value)) {members : List (String × Value)}
    (h : ((before ++ members).map (·.1)).Pairwise (· < ·)) :
    members.foldl (fun sorted (key, v) => putMember key v sorted) before = before ++ members := by
  induction members generalizing before with
  | nil => simp
  | cons m rest ih =>
    have hlt : ∀ b ∈ before, b.1 < m.1 := by
      intro b hb
      rw [List.map_append, List.map_cons, List.pairwise_append] at h
      exact h.2.2 b.1 (List.mem_map_of_mem hb) m.1 List.mem_cons_self
    have hsplit : before ++ m :: rest = before ++ [m] ++ rest := by simp
    rw [List.foldl_cons]
    show List.foldl _ (putMember m.1 m.2 before) rest = _
    rw [putMember_of_forall_lt hlt, hsplit]
    exact ih _ (hsplit ▸ h)

/-- Members in order are left as they are. -/
theorem sortMembers_of_ascending {members : List (String × Value)}
    (h : isAscending members = true) : sortMembers members = members :=
  foldl_putMember [] (by simpa [isAscending] using h)

/-! ## Values that are read as they are -/

mutual

/-- A value that is kept as it is when it is written: its numbers are whole and have 64 bits, with
or without sign, and each of its objects lists its members in the order of their keys. -/
def Value.isExact : Value → Bool
  | .number (.whole n) =>
    decide (-(Text.maxSigned64 + 1 : Nat) ≤ n ∧ n ≤ (Text.maxUnsigned64 : Nat))
  | .number (.float _) => false
  | .array items => itemsExact items
  | .object members => isAscending members && membersExact members
  | _ => true

/-- The elements of an array are exact. -/
def itemsExact : List Value → Bool
  | [] => true
  | v :: rest => v.isExact && itemsExact rest

/-- The values of the members of an object are exact. -/
def membersExact : List (String × Value) → Bool
  | [] => true
  | (_, v) :: rest => v.isExact && membersExact rest

end

theorem Value.isExact_object {members : List (String × Value)} :
    (Value.object members).isExact = true ↔
      isAscending members = true ∧ membersExact members = true := by
  rw [Value.isExact, Bool.and_eq_true]

theorem itemsExact_cons {v : Value} {rest : List Value} :
    itemsExact (v :: rest) = true ↔ v.isExact = true ∧ itemsExact rest = true := by
  rw [itemsExact, Bool.and_eq_true]

theorem membersExact_cons {m : String × Value} {rest : List (String × Value)} :
    membersExact (m :: rest) = true ↔ m.2.isExact = true ∧ membersExact rest = true := by
  rw [membersExact, Bool.and_eq_true]

mutual

theorem Value.isWhole_of_isExact : (v : Value) → v.isExact = true → v.isWhole = true
  | .null, _ => rfl
  | .bool _, _ => rfl
  | .number (.whole _), _ => rfl
  | .number (.float _), h => by cases h
  | .string _, _ => rfl
  | .array items, h => itemsWhole_of_itemsExact items h
  | .object members, h => by
    obtain ⟨-, hmembers⟩ := Value.isExact_object.mp h
    exact membersWhole_of_membersExact members hmembers

theorem itemsWhole_of_itemsExact : (items : List Value) → itemsExact items = true →
    itemsWhole items = true
  | [], _ => rfl
  | v :: rest, h => by
    obtain ⟨hv, hrest⟩ := itemsExact_cons.mp h
    rw [itemsWhole, v.isWhole_of_isExact hv, itemsWhole_of_itemsExact rest hrest, Bool.and_self]

theorem membersWhole_of_membersExact : (members : List (String × Value)) →
    membersExact members = true → membersWhole members = true
  | [], _ => rfl
  | (_, v) :: rest, h => by
    obtain ⟨hv, hrest⟩ := membersExact_cons.mp h
    rw [membersWhole, v.isWhole_of_isExact hv, membersWhole_of_membersExact rest hrest,
      Bool.and_self]

end

mutual

/-- An exact value is read from its document as it was, unless that is too deep. -/
theorem Value.value?_document : (v : Value) → v.isExact = true → (depth : Nat) →
    v.document.depth ≤ depth → v.document.value? depth = some v
  | .null, _, _, _ => rfl
  | .bool _, _, _, _ => rfl
  | .number (.whole n), h, _, _ => by
    obtain ⟨low, high⟩ := of_decide_eq_true h
    simp [Value.document, Document.value?, Numeral.number?, whole?_ofInt low high]
  | .number (.float _), h, _, _ => by cases h
  | .string _, _, _, _ => rfl
  | .array items, h, depth, hdepth => by
    rw [Value.document, Document.depth] at hdepth
    obtain ⟨depth, rfl⟩ : ∃ n, depth = n + 1 := ⟨depth - 1, by omega⟩
    have hitems := itemValues?_documents items h depth (by omega)
    rw [Value.document, Document.value?, hitems]
    rfl
  | .object members, h, depth, hdepth => by
    obtain ⟨hascending, hexact⟩ := Value.isExact_object.mp h
    rw [Value.document, Document.depth] at hdepth
    obtain ⟨depth, rfl⟩ : ∃ n, depth = n + 1 := ⟨depth - 1, by omega⟩
    have hmembers := memberValues?_documents members hexact depth (by omega)
    rw [Value.document, Document.value?, hmembers, Option.map_some,
      sortMembers_of_ascending hascending]

/-- Exact elements of an array are read as they were. -/
theorem itemValues?_documents : (items : List Value) → itemsExact items = true → (depth : Nat) →
    itemsDepth (itemDocuments items) ≤ depth →
    itemValues? depth (itemDocuments items) = some items
  | [], _, _, _ => rfl
  | v :: rest, h, depth, hdepth => by
    obtain ⟨hv, hrest⟩ := itemsExact_cons.mp h
    rw [itemDocuments, itemsDepth, Nat.max_le] at hdepth
    rw [itemDocuments, itemValues?, v.value?_document hv depth hdepth.1,
      itemValues?_documents rest hrest depth hdepth.2]
    rfl

/-- Members of an object with exact values are read as they were. -/
theorem memberValues?_documents : (members : List (String × Value)) →
    membersExact members = true → (depth : Nat) → membersDepth (memberDocuments members) ≤ depth →
    memberValues? depth (memberDocuments members) = some members
  | [], _, _, _ => rfl
  | (key, v) :: rest, h, depth, hdepth => by
    obtain ⟨hv, hrest⟩ := membersExact_cons.mp h
    rw [memberDocuments, membersDepth, Nat.max_le] at hdepth
    rw [memberDocuments, memberValues?, v.value?_document hv depth hdepth.1,
      memberValues?_documents rest hrest depth hdepth.2]
    rfl

end

/-! ## Fields of a record -/

variable {members : List (Spelling × Document)}

/-- The documents of the members with a given key, in the order they are written. -/
def valuesAt (key : String) (members : List (Spelling × Document)) : List Document :=
  (members.filter (·.1.text == key)).map (·.2)

theorem mem_of_mem_valuesAt {key : String} {d : Document} (h : d ∈ valuesAt key members) :
    ∃ m ∈ members, m.1.text = key ∧ m.2 = d := by
  obtain ⟨m, hm, rfl⟩ := List.mem_map.mp h
  obtain ⟨hmem, hkey⟩ := List.mem_filter.mp hm
  exact ⟨m, hmem, beq_iff_eq.mp hkey, rfl⟩

/-- What is found under a key depends on the documents under that key alone. -/
theorem uniqueMember?_eq (key : String) (members : List (Spelling × Document)) :
    uniqueMember? key members =
      match valuesAt key members with
      | [] => some none
      | [d] => some (some d)
      | _ => none := by
  induction members with
  | nil => rfl
  | cons m rest ih =>
    rw [uniqueMember?]
    by_cases hkey : (m.1.text == key) = true
    · have hvalues : valuesAt key (m :: rest) = m.2 :: valuesAt key rest := by
        simp [valuesAt, hkey]
      have hany : rest.any (fun other => other.1.text == key) = !(valuesAt key rest).isEmpty := by
        rw [Bool.eq_iff_iff]
        simp [valuesAt]
      rw [if_pos hkey, hvalues, hany]
      cases valuesAt key rest <;> rfl
    · have hvalues : valuesAt key (m :: rest) = valuesAt key rest := by
        simp [valuesAt, hkey]
      rw [if_neg hkey, hvalues, ih]

theorem uniqueMember?_eq_some_iff {key : String} {found : Option Document} :
    uniqueMember? key members = some found ↔ valuesAt key members = found.toList := by
  rw [uniqueMember?_eq]
  rcases valuesAt key members with _ | ⟨d, _ | ⟨other, rest⟩⟩ <;> cases found <;> simp

/-- What is found of a field: nothing if no member has its key and it may be missing, or else the
document of the only member that has. -/
def FieldRule.Finds (rule : FieldRule) (members : List (Spelling × Document))
    (found : Option Document) : Prop :=
  valuesAt rule.name members = found.toList ∧ (found = none → rule.optional = true)

theorem FieldRule.needed_finds_iff {name : String} {found : Option Document} :
    (FieldRule.needed name).Finds members found ↔
      ∃ d, found = some d ∧ valuesAt name members = [d] := by
  cases found <;> simp [FieldRule.Finds, FieldRule.needed]

/-- The fields of a record are found in an object one by one, and other members do not matter. -/
theorem fieldsOfMembers?_eq_some_iff {rules : List FieldRule} {found : List (Option Document)} :
    fieldsOfMembers? members rules = some found ↔
      List.Forall₂ (fun rule d => rule.Finds members d) rules found := by
  induction rules generalizing found with
  | nil => cases found <;> simp [fieldsOfMembers?]
  | cons rule rules ih =>
    rw [fieldsOfMembers?, List.forall₂_cons_left_iff]
    constructor
    · intro h
      cases hunique : uniqueMember? rule.name members with
      | none =>
        rw [hunique] at h
        cases h
      | some d =>
        have hvalues := uniqueMember?_eq_some_iff.mp hunique
        rw [hunique] at h
        cases d with
        | none =>
          by_cases hoptional : rule.optional = true
          · obtain ⟨others, hothers, rfl⟩ := Option.map_eq_some_iff.mp (if_pos hoptional ▸ h)
            exact ⟨none, others, ⟨hvalues, fun _ => hoptional⟩, ih.mp hothers, rfl⟩
          · simp [hoptional] at h
        | some d =>
          obtain ⟨others, hothers, rfl⟩ := Option.map_eq_some_iff.mp h
          exact ⟨some d, others, ⟨hvalues, fun hnone => by cases hnone⟩, ih.mp hothers, rfl⟩
    · rintro ⟨d, others, ⟨hvalues, hoptional⟩, hothers, rfl⟩
      rw [uniqueMember?_eq_some_iff.mpr hvalues, ih.mpr hothers]
      cases d with
      | none => simp [hoptional rfl]
      | some d => rfl

theorem Document.fields?_object {rules : List FieldRule} {found : List (Option Document)} :
    (Document.object members).fields? rules = some found ↔
      (∀ m ∈ members, m.1.intact = true) ∧
        List.Forall₂ (fun rule d => rule.Finds members d) rules found := by
  rw [Document.fields?, ← fieldsOfMembers?_eq_some_iff, ← List.all_eq_true]
  by_cases hintact : (members.all fun m => m.1.intact) = true
  · simp [hintact]
  · simp [hintact]

/-- Two objects with the same documents under the keys of the fields are the same to the reader. -/
theorem fieldsOfMembers?_congr {rules : List FieldRule} {others : List (Spelling × Document)}
    (h : ∀ rule ∈ rules, valuesAt rule.name members = valuesAt rule.name others) :
    fieldsOfMembers? members rules = fieldsOfMembers? others rules := by
  induction rules with
  | nil => rfl
  | cons rule rules ih =>
    obtain ⟨hrule, hrules⟩ := List.forall_mem_cons.mp h
    rw [fieldsOfMembers?, fieldsOfMembers?, uniqueMember?_eq, uniqueMember?_eq, hrule, ih hrules]

/-- Members under other keys do not change what is under a key. -/
theorem valuesAt_filter {key : String} {keep : Spelling × Document → Bool}
    (h : ∀ m : Spelling × Document, m.1.text = key → keep m = true) :
    valuesAt key (members.filter keep) = valuesAt key members := by
  unfold valuesAt
  rw [List.filter_filter]
  refine congrArg (List.map _) (List.filter_congr fun m _ => ?_)
  by_cases hkey : m.1.text = key
  · simp [hkey, h m hkey]
  · simp [hkey]

end UserAccounts.Json
