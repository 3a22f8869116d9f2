import UserAccounts.Proofs.Sequence
import UserAccounts.Proofs.Text.Numeral
import UserAccounts.Proofs.Url.Form
import UserAccounts.Url.Parser

/-!
# Marks

The question mark and the hash are marks: the first of them in a written URL begins its query or its
fragment. For that, none may stand in what comes before. What is read as an authority has no marks
(`unmarked_readAuthority`): whatever is taken over from the text is either percent-encoded or cannot
contain one, and addresses and domain names are spelled with letters, digits and a few signs.
-/

namespace UserAccounts.Url

/-- Characters none of which is a mark. -/
def Unmarked (cs : List Char) : Prop := ∀ c ∈ cs, endsPath c = false

instance (cs : List Char) : Decidable (Unmarked cs) :=
  decidable_of_iff (cs.all (!endsPath ·) = true) (by simp [Unmarked])

section Characters

variable {cs ds : List Char} {c : Char}

theorem unmarked_nil : Unmarked [] := nofun

theorem unmarked_cons : Unmarked (c :: cs) ↔ endsPath c = false ∧ Unmarked cs :=
  List.forall_mem_cons

theorem unmarked_append : Unmarked (cs ++ ds) ↔ Unmarked cs ∧ Unmarked ds :=
  List.forall_mem_append

theorem Unmarked.intercalate {sep : List Char} (hsep : Unmarked sep) {parts : List (List Char)}
    (h : ∀ part ∈ parts, Unmarked part) : Unmarked (sep.intercalate parts) := by
  induction parts with
  | nil => exact unmarked_nil
  | cons part rest ih =>
    obtain ⟨hpart, hrest⟩ := List.forall_mem_cons.mp h
    cases rest with
    | nil =>
      rw [List.intercalate_singleton]
      exact hpart
    | cons next rest =>
      rw [List.intercalate_cons_cons, unmarked_append, unmarked_append]
      exact ⟨⟨hpart, hsep⟩, ih hrest⟩

/-- Characters that a Boolean test accepts are no marks if it refuses the two marks. -/
theorem endsPath_eq_false_of {p : Char → Bool} (hquestion : p '?' = false) (hhash : p '#' = false)
    (h : p c = true) : endsPath c = false := by
  simp only [endsPath, Bool.or_eq_false_iff, beq_eq_false_iff_ne]
  constructor
  · rintro rfl
    rw [hquestion] at h
    cases h
  · rintro rfl
    rw [hhash] at h
    cases h

theorem unmarked_of_all {p : Char → Bool} (hquestion : p '?' = false) (hhash : p '#' = false)
    (h : ∀ c ∈ cs, p c = true) : Unmarked cs :=
  fun c hc => endsPath_eq_false_of hquestion hhash (h c hc)

/-! ## Percent-encoding and numerals -/

theorem unmarked_percentByte (b : UInt8) : Unmarked (percentByte b) := by
  have hdigit : ∀ n : Fin 16, endsPath (upperHexDigit n.val) = false := by decide
  have hb : b.toNat < 256 := b.toNat_lt
  rw [percentByte, unmarked_cons, unmarked_cons, unmarked_cons]
  exact ⟨by decide, hdigit ⟨b.toNat / 16, by omega⟩, hdigit ⟨b.toNat % 16, by omega⟩, unmarked_nil⟩

/-- No mark is left if each is either percent-encoded or was not there. -/
theorem unmarked_percentEncode {set : Char → Bool}
    (h : ∀ c ∈ cs, set c = false → endsPath c = false) : Unmarked (percentEncode set cs) := by
  intro d hd
  obtain ⟨c, hc, hmem⟩ := List.mem_flatMap.mp hd
  unfold percentChar at hmem
  split at hmem
  · obtain ⟨b, -, hbyte⟩ := List.mem_flatMap.mp hmem
    exact unmarked_percentByte b d hbyte
  · rename_i hset
    rw [List.mem_singleton.mp hmem]
    exact h c hc (by simpa using hset)

theorem unmarked_percentEncode_of_set {set : Char → Bool} (hquestion : set '?' = true)
    (hhash : set '#' = true) : Unmarked (percentEncode set cs) := by
  refine unmarked_percentEncode fun c _ hc => ?_
  exact endsPath_eq_false_of (p := (!set ·)) (by simp [hquestion]) (by simp [hhash]) (by simp [hc])

theorem unmarked_natural (n : Nat) : Unmarked (Text.natural n).toList :=
  unmarked_of_all (p := Char.isDigit) rfl rfl fun _ hc => Text.isDigit_of_mem_natural hc

end Characters

/-! ## Addresses -/

theorem unmarked_hexadecimal (n : Nat) : Unmarked (Nat.toDigits 16 n) := by
  have hdigit : ∀ d : Fin 16, endsPath (Nat.digitChar d.val) = false := by decide
  -- By induction on the number, whose digits but the last are those of a sixteenth of it.
  induction n using Nat.strongRecOn with
  | _ n ih =>
    by_cases hn : n < 16
    · rw [Nat.toDigits_of_lt_base hn, unmarked_cons]
      exact ⟨hdigit ⟨n, hn⟩, unmarked_nil⟩
    · rw [Nat.toDigits_of_base_le (by decide) (Nat.le_of_not_lt hn), unmarked_append, unmarked_cons]
      exact ⟨ih (n / 16) (by omega), hdigit ⟨n % 16, by omega⟩, unmarked_nil⟩

theorem unmarked_groupText (groups : List Nat) : Unmarked (groupText groups) := by
  refine Unmarked.intercalate (by decide) fun part hpart => ?_
  obtain ⟨n, -, rfl⟩ := List.mem_map.mp hpart
  exact unmarked_hexadecimal n

theorem unmarked_ipv6Text (groups : List Nat) : Unmarked (ipv6Text groups) := by
  unfold ipv6Text
  dsimp only
  split
  · exact unmarked_groupText groups
  · rw [unmarked_append, unmarked_append]
    exact ⟨⟨unmarked_groupText _, by decide⟩, unmarked_groupText _⟩

theorem unmarked_ipv4Text (address : Nat) : Unmarked (ipv4Text address) := by
  refine Unmarked.intercalate (by decide) fun part hpart => ?_
  obtain ⟨unit, -, rfl⟩ := List.mem_map.mp hpart
  exact unmarked_natural _

/-! ## Labels -/

namespace Punycode

theorem unmarked_digit {d : Nat} (h : d < 36) : endsPath (digit d) = false := by
  have hdigit : ∀ d : Fin 36, endsPath (digit d.val) = false := by decide
  exact hdigit ⟨d, h⟩

theorem unmarked_digits (bias place n : Nat) : Unmarked (digits bias place n) := by
  induction place, n using digits.induct bias with
  | case1 place n t hn =>
    have hle := threshold_le place bias
    rw [digits, if_pos hn, unmarked_cons]
    exact ⟨unmarked_digit (by omega), unmarked_nil⟩
  | case2 place n t hn ih =>
    have hle := threshold_le place bias
    have hrem : (n - threshold place bias) % (36 - threshold place bias) <
        36 - threshold place bias := Nat.mod_lt _ (by omega)
    rw [digits, if_neg hn, unmarked_cons]
    exact ⟨unmarked_digit (by omega), ih⟩

/-- Writing numbers adds no mark. -/
theorem Writer.unmarked_pass {basic current : Nat} {w : Writer} (h : Unmarked w.text) (c : Nat) :
    Unmarked (w.pass basic current c).text := by
  unfold Writer.pass
  split
  · exact h
  · split
    · exact unmarked_append.mpr ⟨h, unmarked_digits _ _ _⟩
    · exact h

theorem Writer.unmarked_insertAll (label : List Nat) (basic next : Nat) {currents : List Nat}
    {w : Writer} (h : Unmarked w.text) :
    Unmarked (Writer.insertAll label basic next currents w).text := by
  induction currents generalizing next w with
  | nil => exact h
  | cons current rest ih =>
    refine ih _ ?_
    have hfold (cs : List Nat) (w : Writer) (hw : Unmarked w.text) :
        Unmarked (cs.foldl (Writer.pass basic current) w).text := by
      induction cs generalizing w with
      | nil => exact hw
      | cons c cs ihc => exact ihc _ (Writer.unmarked_pass hw c)
    exact hfold label _ h

/-- The spelling of a label has no marks if the label has none. -/
theorem unmarked_encode {label : List Char} (h : Unmarked label) :
    Unmarked (encode (label.map Char.toNat)) := by
  refine Writer.unmarked_insertAll _ _ _ (unmarked_append.mpr ⟨fun c hc => ?_, ?_⟩)
  · obtain ⟨n, hn, rfl⟩ := List.mem_map.mp hc
    obtain ⟨d, hd, rfl⟩ := List.mem_map.mp (List.mem_filter.mp hn).1
    rw [Char.ofNat_toNat]
    exact h d hd
  · split <;> decide

theorem digit?_endsPath {c : Char} (h : (digit? c).isSome = true) : endsPath c = false :=
  endsPath_eq_false_of (p := fun c => (digit? c).isSome) (by decide) (by decide) h

/-- What is read of a number consists of digits. -/
theorem unmarked_of_readDigits {bias : Nat} {cs : List Char} {place weight sum n : Nat}
    {r : { r : List Char // r.length < cs.length }}
    (h : readDigits bias cs place weight sum = some (n, r)) (hr : Unmarked r.1) : Unmarked cs := by
  induction cs generalizing place weight sum n with
  | nil => cases h
  | cons c rest ih =>
    rw [readDigits] at h
    split at h
    · cases h
    · rename_i d hd
      rw [unmarked_cons]
      refine ⟨digit?_endsPath (by rw [hd]; rfl), ?_⟩
      dsimp only at h
      split at h
      · cases h
        exact hr
      · obtain ⟨⟨n', r'⟩, hread, heq⟩ := Option.map_eq_some_iff.mp h
        cases heq
        exact ih hread hr

/-- Characters that are read as numbers have no marks, and what they are inserted into stays. -/
theorem unmarked_of_insertNumbers {bias next sum : Nat} {label result : List Nat} {cs : List Char}
    (h : insertNumbers bias next sum label cs = some result) :
    Unmarked cs ∧ ∀ n ∈ label, n ∈ result := by
  induction bias, next, sum, label, cs using insertNumbers.induct with
  | case1 bias next sum label =>
    rw [insertNumbers] at h
    cases h
    exact ⟨unmarked_nil, fun _ hn => hn⟩
  | case2 bias next sum label c rest hread =>
    rw [insertNumbers, hread] at h
    cases h
  | case3 bias next sum label c rest n remaining hread count current hvalid ih =>
    rw [insertNumbers, hread] at h
    dsimp only at h
    rw [if_pos hvalid] at h
    obtain ⟨hmarks, hmem⟩ := ih h
    refine ⟨unmarked_of_readDigits hread hmarks, fun m hm => hmem m ?_⟩
    have hle : n % count ≤ label.length := Nat.le_of_lt_succ (Nat.mod_lt _ (Nat.succ_pos _))
    exact (List.mem_insertIdx hle).mpr (.inr hm)
  | case4 bias next sum label c rest n remaining hread count current hvalid =>
    rw [insertNumbers, hread] at h
    dsimp only at h
    rw [if_neg hvalid] at h
    cases h

/-- A spelling has no marks if what it stands for has none. -/
theorem unmarked_of_decode {cs : List Char} {label : List Nat} (h : decode cs = some label)
    (hlabel : Unmarked (label.map Char.ofNat)) : Unmarked cs := by
  unfold decode at h
  dsimp only at h
  split at h
  · cases h
  · -- Read from the right, a spelling has numbers up to a hyphen, and then characters of the label.
    obtain ⟨hnumbers, hbasic⟩ := unmarked_of_insertNumbers h
    intro c hc
    rw [← List.mem_reverse, ← List.takeWhile_append_dropWhile (p := (· ≠ '-')) (l := cs.reverse),
      List.mem_append] at hc
    rcases hc with hc | hc
    · exact hnumbers c (List.mem_reverse.mpr hc)
    · cases hdrop : cs.reverse.dropWhile (· ≠ '-') with
      | nil =>
        rw [hdrop] at hc
        cases hc
      | cons hyphen rest =>
        rw [hdrop] at hc hbasic
        rcases List.mem_cons.mp hc with rfl | hc
        · -- What ends the first part of a spelling, read from the right, is a hyphen.
          have hhyphen := List.head?_dropWhile_not (· ≠ '-') cs.reverse
          rw [hdrop] at hhyphen
          have heq : c = '-' := by simpa using hhyphen
          rw [heq]
          rfl
        · refine hlabel c (List.mem_map.mpr ⟨c.toNat, hbasic _ ?_, Char.ofNat_toNat c⟩)
          exact List.mem_map.mpr ⟨c, List.mem_reverse.mpr hc, rfl⟩

end Punycode

/-! ## Domain names -/

namespace Idna

theorem unmarked_of_not_any_forbidden {label : List Char} (h : label.any isForbidden = false) :
    Unmarked label := by
  refine unmarked_of_all (p := (!isForbidden ·)) (by decide) (by decide) fun c hc => ?_
  have hc' : isForbidden c = false := List.any_eq_false.mp h c hc |> (by simpa using ·)
  simp [hc']

theorem unmarked_of_isWellFormed {label : List Char} (h : isWellFormed label = true) :
    Unmarked label := by
  simp only [isWellFormed, Bool.and_eq_true] at h
  exact unmarked_of_not_any_forbidden (by simpa using h.1.1)

/-- The ASCII form of a label that has been checked has no marks. -/
theorem Label.unmarked_ofSpelling {spelling : List Char} {checked : Label}
    (h : Label.ofSpelling? spelling = some checked) : Unmarked checked.ascii := by
  unfold Label.ofSpelling? at h
  split at h
  · cases h
  · split at h
    · cases h
    · rename_i shown hshown
      split at h
      · cases h
      · rename_i hgood
        cases h
        obtain ⟨label, hdecode, rfl⟩ := Option.map_eq_some_iff.mp hshown
        simp only [Bool.or_eq_true, not_or, Bool.not_eq_true, Bool.not_eq_false'] at hgood
        refine unmarked_append.mpr ⟨by decide, Punycode.unmarked_of_decode hdecode ?_⟩
        exact unmarked_of_isWellFormed hgood.2

theorem Label.unmarked_of {label : List Char} {checked : Label}
    (h : Label.of? label = some checked) : Unmarked checked.ascii := by
  unfold Label.of? at h
  split at h
  · exact Label.unmarked_ofSpelling h
  · split at h
    · split at h
      · cases h
      · rename_i hforbidden
        cases h
        exact unmarked_of_not_any_forbidden (by simpa using hforbidden)
    · split at h
      · cases h
      · rename_i hgood
        cases h
        simp only [Bool.or_eq_true, not_or, Bool.not_eq_true, Bool.not_eq_false'] at hgood
        refine unmarked_append.mpr ⟨by decide, Punycode.unmarked_encode ?_⟩
        exact unmarked_of_isWellFormed hgood.2

theorem exists_of_mem_mapM {α β : Type} {f : α → Option β} {l : List α} {l' : List β}
    (h : l.mapM f = some l') {b : β} (hb : b ∈ l') : ∃ a, f a = some b := by
  induction l generalizing l' with
  | nil =>
    cases h
    cases hb
  | cons a rest ih =>
    rw [List.mapM_cons] at h
    obtain ⟨first, hfirst, h⟩ := Option.bind_eq_some_iff.mp h
    obtain ⟨others, hothers, h⟩ := Option.bind_eq_some_iff.mp h
    cases h
    rcases List.mem_cons.mp hb with rfl | hb
    · exact ⟨a, hfirst⟩
    · exact ih hothers hb

/-- The ASCII form of a domain name has no marks. -/
theorem unmarked_of_toAscii {s : String} {domain : List Char} (h : toAscii? s = some domain) :
    Unmarked domain := by
  unfold toAscii? at h
  obtain ⟨name, -, h⟩ := Option.bind_eq_some_iff.mp h
  obtain ⟨checked, hchecked, h⟩ := Option.bind_eq_some_iff.mp h
  split at h
  · cases h
    refine Unmarked.intercalate (by decide) fun part hpart => ?_
    obtain ⟨label, hlabel, rfl⟩ := List.mem_map.mp hpart
    obtain ⟨cs, hcs⟩ := exists_of_mem_mapM hchecked hlabel
    exact Label.unmarked_of hcs
  · cases h

end Idna

/-! ## Hosts -/

theorem unmarked_host_ipv6 (groups : List Nat) : Unmarked (Host.ipv6 groups).text.toList := by
  show Unmarked (String.ofList _).toList
  rw [String.toList_ofList, List.cons_append, unmarked_cons, unmarked_append]
  exact ⟨rfl, unmarked_ipv6Text groups, by decide⟩

theorem unmarked_bracketedHost {cs : List Char} {host : Host}
    (h : bracketedHost? cs = some (.ok host)) : Unmarked host.text.toList := by
  unfold bracketedHost? at h
  split at h
  · split at h
    · split at h
      · cases h
        exact unmarked_host_ipv6 _
      · cases h
    · cases h
  · cases h

theorem unmarked_parseHost {cs : List Char} {host : Host} (h : parseHost cs = .ok host) :
    Unmarked host.text.toList := by
  unfold parseHost at h
  split at h
  · rename_i result hresult
    rw [h] at hresult
    exact unmarked_bracketedHost hresult
  · split at h
    · cases h
    · rename_i domain hdomain
      obtain ⟨s, -, hascii⟩ := Option.bind_eq_some_iff.mp hdomain
      split at h
      · cases h
      · split at h
        · split at h
          · cases h
            show Unmarked (String.ofList _).toList
            rw [String.toList_ofList]
            exact unmarked_ipv4Text _
          · cases h
        · cases h
          show Unmarked (String.ofList _).toList
          rw [String.toList_ofList]
          exact Idna.unmarked_of_toAscii hascii

theorem unmarked_parseOpaqueHost {cs : List Char} {host : Host}
    (h : parseOpaqueHost cs = .ok host) : Unmarked host.text.toList := by
  unfold parseOpaqueHost at h
  split at h
  · rename_i result hresult
    rw [h] at hresult
    exact unmarked_bracketedHost hresult
  · split at h
    · cases h
    · rename_i hforbidden
      cases h
      show Unmarked (String.ofList _).toList
      rw [String.toList_ofList]
      refine unmarked_percentEncode fun c hc _ => ?_
      refine endsPath_eq_false_of (p := (!isForbiddenInHost ·)) (by decide) (by decide) ?_
      have := List.any_eq_false.mp (by simpa using hforbidden) c hc
      simpa using this

/-! ## Authorities -/

theorem unmarked_userinfo (cs : List Char) :
    Unmarked (readUserinfo cs).1.toList ∧ Unmarked (readUserinfo cs).2.toList := by
  have hset (ds : List Char) : Unmarked (String.ofList (percentEncode inUserinfo ds)).toList := by
    rw [String.toList_ofList]
    exact unmarked_percentEncode_of_set (by decide) (by decide)
  exact ⟨hset _, hset _⟩

theorem unmarked_credentials {cs rest : List Char} {more : Bool} {username password : String}
    (h : readCredentials cs more = .ok ((username, password), rest)) :
    Unmarked username.toList ∧ Unmarked password.toList := by
  have hnone : Unmarked "".toList ∧ Unmarked "".toList := by decide
  unfold readCredentials at h
  split at h
  · cases h
    exact hnone
  · split at h
    · cases h
    · cases h
      exact hnone
  · cases h
    exact unmarked_userinfo _

theorem unmarked_readHost {scheme : String} {cs : List Char} {host : Host}
    (h : readHost scheme cs = .ok host) : Unmarked host.text.toList := by
  unfold readHost at h
  split at h
  · split at h
    · cases h
    · exact unmarked_parseHost h
  · exact unmarked_parseOpaqueHost h

/-- An authority has no marks if its parts have none. -/
theorem unmarked_authority {a : Authority} (husername : Unmarked a.username.toList)
    (hpassword : Unmarked a.password.toList) (hhost : Unmarked a.host.text.toList) :
    Unmarked a.text.toList := by
  unfold Authority.text
  rw [String.toList_append, String.toList_append, unmarked_append, unmarked_append]
  refine ⟨⟨?_, hhost⟩, ?port⟩
  case port =>
    cases a.port with
    | none => decide
    | some port =>
      simp only [String.toList_append, unmarked_append]
      exact ⟨by decide, unmarked_natural port⟩
  split
  · decide
  · split
    · rw [String.toList_append, unmarked_append]
      exact ⟨husername, by decide⟩
    · simp only [String.toList_append, unmarked_append]
      exact ⟨⟨⟨husername, by decide⟩, hpassword⟩, by decide⟩

theorem unmarked_readAuthority {scheme : String} {cs excess : List Char} {more : Bool}
    {a : Authority} (h : readAuthority scheme cs more = .ok (a, excess)) :
    Unmarked a.text.toList := by
  unfold readAuthority at h
  obtain ⟨⟨⟨username, password⟩, rest⟩, hcredentials, h⟩ := bind_eq_ok h
  obtain ⟨husername, hpassword⟩ := unmarked_credentials hcredentials
  dsimp only at h
  obtain ⟨host, hhost, h⟩ := bind_eq_ok h
  -- Each of the three tests that follow either fails or changes nothing.
  split at h
  · cases h
  · obtain ⟨port, -, h⟩ := bind_eq_ok h
    split at h
    · cases h
    · split at h
      · cases h
      · cases h
        exact unmarked_authority husername hpassword (unmarked_readHost hhost)

end UserAccounts.Url
