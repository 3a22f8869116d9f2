import UserAccounts.Proofs.Text.Utf8
import UserAccounts.Url.Form

/-!
# Plain queries

Names and values made of plain characters are written as they stand, and read as they stand: the
pairs that `addPair` writes into an empty query are those that `Form.decode` reads from it
(`decode_queryText`). Nothing in such a query marks the beginning or the end of one.
-/

namespace UserAccounts.Url

/-! ## Breaking and splitting -/

section Breaking

variable {p : Char → Bool} {cs before after : List Char} {c : Char}

theorem breakAt_of_forall (h : ∀ x ∈ cs, p x = false) : breakAt p cs = (cs, []) := by
  unfold breakAt
  rw [List.span_eq_takeWhile_dropWhile, List.takeWhile_eq_self_iff.mpr,
    List.dropWhile_eq_nil_iff.mpr]
  · exact fun x hx => by simp [h x hx]
  · exact fun x hx => by simp [h x hx]

theorem breakAt_append_cons (h : ∀ x ∈ before, p x = false) (hc : p c = true) :
    breakAt p (before ++ c :: after) = (before, c :: after) := by
  unfold breakAt
  rw [List.span_eq_takeWhile_dropWhile, List.takeWhile_append_of_pos, List.dropWhile_append_of_pos]
  · simp [hc]
  · exact fun x hx => by simp [h x hx]
  · exact fun x hx => by simp [h x hx]

/-- Without the character to break at there is nothing but what stands before it. -/
theorem breakAt_of_not_mem (h : c ∉ cs) : breakAt (· == c) cs = (cs, []) := by
  refine breakAt_of_forall fun x hx => ?_
  rw [beq_eq_false_iff_ne]
  rintro rfl
  exact h hx

theorem splitChars_of_not_mem (h : c ∉ cs) : Json.splitChars c cs = [cs] := by
  induction cs with
  | nil => rfl
  | cons x rest ih =>
    obtain ⟨hx, hrest⟩ := List.ne_and_not_mem_of_not_mem_cons h
    rw [Json.splitChars, ih hrest]
    simp [Ne.symm hx]

theorem splitChars_append_cons (h : c ∉ before) :
    Json.splitChars c (before ++ c :: after) = before :: Json.splitChars c after := by
  induction before with
  | nil =>
    have hne : Json.splitChars c after ≠ [] := by
      cases after with
      | nil => simp [Json.splitChars]
      | cons x rest =>
        unfold Json.splitChars
        split
        · split <;> simp
        · simp
    obtain ⟨part, parts, hparts⟩ := List.exists_cons_of_ne_nil hne
    rw [List.nil_append, Json.splitChars, hparts]
    simp
  | cons x rest ih =>
    obtain ⟨hx, hrest⟩ := List.ne_and_not_mem_of_not_mem_cons h
    rw [List.cons_append, Json.splitChars, ih hrest]
    simp [Ne.symm hx]

end Breaking

namespace Form

/-! ## Plain parts -/

/-- A text all of whose characters stand for themselves. -/
def Plain (s : String) : Prop := ∀ c ∈ s.toList, isPlain c = true

/-- What a plain character is not. -/
theorem isPlain_bounds {c : Char} (h : isPlain c = true) :
    c.toNat < 0x80 ∧ c ≠ '%' ∧ c ≠ '+' ∧ c ≠ ' ' ∧ c ≠ '&' ∧ c ≠ '=' ∧ c ≠ '#' := by
  refine ⟨?_, ?_, ?_, ?_, ?_, ?_, ?_⟩
  · -- Letters and digits lie within ASCII by their ranges, the four signs one by one.
    simp only [isPlain, Char.isAlphanum, Char.isAlpha, Char.isUpper, Char.isLower, Char.isDigit,
      Bool.or_eq_true, Bool.and_eq_true, decide_eq_true_eq, beq_iff_eq, UInt32.le_iff_toNat_le] at h
    have hval : c.val.toNat = c.toNat := rfl
    rw [hval] at h
    rcases h with (((((h | h) | h) | rfl) | rfl) | rfl) | rfl
    · exact Nat.lt_of_le_of_lt h.2 (by decide)
    · exact Nat.lt_of_le_of_lt h.2 (by decide)
    · exact Nat.lt_of_le_of_lt h.2 (by decide)
    all_goals decide
  all_goals
    rintro rfl
    exact absurd h (by decide)

theorem Plain.not_mem {s : String} (h : Plain s) {c : Char} (hc : isPlain c = false) :
    c ∉ s.toList := by
  intro hmem
  rw [h c hmem] at hc
  cases hc

/-- A plain text is written as it stands. -/
theorem encodePart_of_plain {s : String} (h : Plain s) : encodePart s = s.toList := by
  unfold encodePart
  generalize hcs : s.toList = cs
  have hplain : ∀ c ∈ cs, isPlain c = true := by
    rw [← hcs]
    exact h
  clear hcs h
  induction cs with
  | nil => rfl
  | cons c rest ih =>
    obtain ⟨hc, hrest⟩ := List.forall_mem_cons.mp hplain
    obtain ⟨-, -, -, hblank, -⟩ := isPlain_bounds hc
    rw [List.flatMap_cons, ih hrest, if_neg (by simpa using hblank), percentChar,
      if_neg (by simp [hc])]
    rfl

/-- Without a percent sign there is nothing to resolve. -/
theorem percentDecode_of_not_mem {cs : List Char} (h : '%' ∉ cs) :
    percentDecode cs = cs.flatMap String.utf8EncodeChar := by
  induction cs with
  | nil => rfl
  | cons c rest ih =>
    obtain ⟨hc, hrest⟩ := List.ne_and_not_mem_of_not_mem_cons h
    rw [List.flatMap_cons, ← ih hrest]
    conv_lhs => unfold percentDecode
    split
    · rename_i heq
      cases heq
    · rename_i heq
      cases heq
      exact absurd rfl hc
    · rename_i heq
      cases heq
      rfl

/-- A plain text is read as it stands. -/
theorem decodePart_of_plain {s : String} (h : Plain s) : decodePart s.toList = s := by
  have hmap : s.toList.map (fun c => if c == '+' then ' ' else c) = s.toList := by
    refine (List.map_congr_left fun c hc => ?_).trans (List.map_id _)
    obtain ⟨-, -, hplus, -⟩ := isPlain_bounds (h c hc)
    rw [if_neg (by simpa using hplus)]
    rfl
  unfold decodePart
  rw [hmap, percentDecode_of_not_mem (h.not_mem (by decide)),
    Text.Utf8.decodeLossy_ascii fun c hc => (isPlain_bounds (h c hc)).1]
  simp

/-! ## Plain pairs -/

/-- A pair of plain texts. -/
def PlainPair (pair : String × String) : Prop := Plain pair.1 ∧ Plain pair.2

theorem encodePair_of_plain {pair : String × String} (h : PlainPair pair) :
    encodePair pair = pair.1.toList ++ '=' :: pair.2.toList := by
  unfold encodePair
  rw [encodePart_of_plain h.1, encodePart_of_plain h.2]

theorem encodePair_ne_nil (pair : String × String) : encodePair pair ≠ [] := by
  simp [encodePair]

theorem decodePair_encodePair {pair : String × String} (h : PlainPair pair) :
    decodePair (encodePair pair) = pair := by
  have hname : ∀ c ∈ pair.1.toList, (c == '=') = false := fun c hc => by
    obtain ⟨-, -, -, -, -, heq, -⟩ := isPlain_bounds (h.1 c hc)
    simpa using heq
  rw [encodePair_of_plain h, decodePair, breakAt_append_cons hname rfl]
  show (decodePart pair.1.toList, decodePart pair.2.toList) = pair
  rw [decodePart_of_plain h.1, decodePart_of_plain h.2]

/-- Apart from the sign between its parts, only plain characters stand in the written form of a
plain pair. -/
theorem not_mem_encodePair {pair : String × String} (h : PlainPair pair) {c : Char}
    (hc : isPlain c = false) (heq : c ≠ '=') : c ∉ encodePair pair := by
  rw [encodePair_of_plain h]
  simp only [List.mem_append, List.mem_cons, not_or]
  exact ⟨h.1.not_mem hc, heq, h.2.not_mem hc⟩

end Form

/-- The query that consists of some pairs. -/
def queryText (pairs : List (String × String)) : List Char := pairs.foldl addPair []

theorem foldl_addPair {query : List Char} (h : query ≠ []) (pairs : List (String × String)) :
    pairs.foldl addPair query = query ++ pairs.flatMap fun pair => '&' :: Form.encodePair pair := by
  induction pairs generalizing query with
  | nil => simp
  | cons pair rest ih =>
    have hadd : addPair query pair = query ++ '&' :: Form.encodePair pair := by
      rw [addPair, if_neg (by simpa using h)]
    rw [List.foldl_cons, hadd, ih (by simp)]
    simp

theorem queryText_cons (pair : String × String) (rest : List (String × String)) :
    queryText (pair :: rest) =
      Form.encodePair pair ++ rest.flatMap fun pair => '&' :: Form.encodePair pair :=
  foldl_addPair (Form.encodePair_ne_nil pair) rest

/-- The pairs of a query fall apart at its separators. -/
theorem splitChars_queryText {pair : String × String} {rest : List (String × String)}
    (h : ∀ p ∈ pair :: rest, Form.PlainPair p) :
    Json.splitChars '&' (queryText (pair :: rest)) = (pair :: rest).map Form.encodePair := by
  -- By induction on the pairs after the first, each of which stands after its separator.
  induction rest generalizing pair with
  | nil =>
    rw [queryText_cons, List.flatMap_nil, List.append_nil, splitChars_of_not_mem]
    · rfl
    · exact Form.not_mem_encodePair (h pair List.mem_cons_self) (by decide) (by decide)
  | cons next rest ih =>
    obtain ⟨hpair, hrest⟩ := List.forall_mem_cons.mp h
    have hsplit := ih hrest
    rw [queryText_cons] at hsplit
    rw [queryText_cons, List.flatMap_cons, List.cons_append, splitChars_append_cons, hsplit]
    · rfl
    · exact Form.not_mem_encodePair hpair (by decide) (by decide)

/-- Reading a query of plain pairs gives the pairs. -/
theorem decode_queryText {pairs : List (String × String)} (h : ∀ p ∈ pairs, Form.PlainPair p) :
    Form.decode (String.ofList (queryText pairs)) = pairs := by
  unfold Form.decode
  rw [String.toList_ofList]
  cases pairs with
  | nil => rfl
  | cons pair rest =>
    have hfilter : ((pair :: rest).map Form.encodePair).filter (!·.isEmpty) =
        (pair :: rest).map Form.encodePair := by
      refine List.filter_eq_self.mpr fun cs hcs => ?_
      obtain ⟨p, -, rfl⟩ := List.mem_map.mp hcs
      simpa using Form.encodePair_ne_nil p
    rw [splitChars_queryText h, hfilter, List.map_map]
    refine (List.map_congr_left fun p hp => ?_).trans (List.map_id _)
    exact Form.decodePair_encodePair (h p hp)

/-- A query of plain pairs does not contain the mark of a fragment. -/
theorem not_mem_queryText {pairs : List (String × String)} (h : ∀ p ∈ pairs, Form.PlainPair p) :
    '#' ∉ queryText pairs := by
  have hpair (p : String × String) (hp : p ∈ pairs) : '#' ∉ Form.encodePair p :=
    Form.not_mem_encodePair (h p hp) (by decide) (by decide)
  cases pairs with
  | nil => exact List.not_mem_nil
  | cons pair rest =>
    rw [queryText_cons, List.mem_append, List.mem_flatMap, not_or]
    refine ⟨hpair pair List.mem_cons_self, ?_⟩
    rintro ⟨p, hp, hmem⟩
    rcases List.mem_cons.mp hmem with heq | hmem
    · exact absurd heq (by decide)
    · exact hpair p (List.mem_cons_of_mem _ hp) hmem

end UserAccounts.Url
