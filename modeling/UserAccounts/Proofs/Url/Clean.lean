import UserAccounts.Proofs.Url.Marks

/-!
# URLs that were read

In a URL that was read from a text, by itself or relative to another one, no mark stands before the
query (`Read.clean`): scheme and authority have none, and whatever a path takes from the text ends
at the first mark or is percent-encoded. The query of the written form, or its fragment if there is
no query, therefore begins at the first mark.
-/

namespace UserAccounts.Url

/-! ## Segments -/

/-- Segments of a path none of which has a mark. -/
def UnmarkedParts (parts : List String) : Prop := ∀ part ∈ parts, Unmarked part.toList

variable {file special : Bool} {parts : List String}

theorem unmarkedParts_nil : UnmarkedParts [] := nofun

theorem UnmarkedParts.cons {part : String} (hpart : Unmarked part.toList)
    (h : UnmarkedParts parts) : UnmarkedParts (part :: parts) :=
  List.forall_mem_cons.mpr ⟨hpart, h⟩

theorem UnmarkedParts.reverse (h : UnmarkedParts parts) : UnmarkedParts parts.reverse :=
  fun part hpart => h part (List.mem_reverse.mp hpart)

theorem unmarked_of_isDriveLetter {cs : List Char} (h : isDriveLetter cs = true) :
    Unmarked cs := by
  unfold isDriveLetter at h
  split at h
  · rename_i c mark
    obtain ⟨hc, hmark⟩ := Bool.and_eq_true_iff.mp h
    rw [unmarked_cons, unmarked_cons]
    refine ⟨?_, ?_, unmarked_nil⟩
    · exact endsPath_eq_false_of (p := Char.isAlpha) (by decide) (by decide) hc
    · exact endsPath_eq_false_of (p := fun c => c == ':' || c == '|') (by decide) (by decide) hmark
  · cases h

theorem UnmarkedParts.popSegment (h : UnmarkedParts parts) : UnmarkedParts (popSegment parts) := by
  unfold Url.popSegment
  split
  · exact h
  · rename_i last before
    split
    · exact h
    · exact (List.forall_mem_cons.mp h).2

theorem unmarked_inPath (segment : List Char) : Unmarked (percentEncode inPath segment) :=
  unmarked_percentEncode_of_set (by decide) (by decide)

/-- Whatever a segment contains, its written form has no marks. -/
theorem UnmarkedParts.pushSegment (h : UnmarkedParts parts) (segment : List Char)
    (isLast : Bool) : UnmarkedParts (pushSegment file parts segment isLast) := by
  have hempty : Unmarked "".toList := unmarked_nil
  unfold Url.pushSegment
  dsimp only
  split
  · split
    · exact h.popSegment.cons hempty
    · exact h.popSegment
  · split
    · split
      · exact h.cons hempty
      · exact h
    · split
      · refine h.cons ?_
        rw [String.toList_ofList, unmarked_append]
        refine ⟨fun c hc => unmarked_inPath segment c (List.mem_of_mem_take hc), by decide⟩
      · refine h.cons ?_
        rw [String.toList_ofList]
        exact unmarked_inPath segment

theorem UnmarkedParts.pushSegments (segments : List (List Char)) (h : UnmarkedParts parts) :
    UnmarkedParts (pushSegments file parts segments) := by
  induction parts, segments using pushSegments.induct file with
  | case1 parts => exact h.reverse
  | case2 parts last => exact (h.pushSegment last true).reverse
  | case3 parts segment next rest ih => exact ih (h.pushSegment segment false)

theorem UnmarkedParts.trimFilePath (h : UnmarkedParts parts) :
    UnmarkedParts (trimFilePath parts) := by
  unfold Url.trimFilePath
  split
  · exact UnmarkedParts.cons unmarked_nil nofun
  · exact fun part hpart => h part ((List.dropWhile_suffix _).subset hpart)

/-! ## Clean URLs -/

/-- No mark stands in a path. -/
def UrlPath.Unmarked : UrlPath → Prop
  | .whole s => Url.Unmarked s.toList
  | .segments parts => UnmarkedParts parts

theorem UrlPath.Unmarked.text {path : UrlPath} (h : UrlPath.Unmarked path) :
    Url.Unmarked path.text.toList := by
  cases path with
  | whole s => exact h
  | segments parts =>
    show Url.Unmarked (String.join (parts.map ("/" ++ ·))).toList
    induction parts with
    | nil => exact unmarked_nil
    | cons part rest ih =>
      obtain ⟨hpart, hrest⟩ := List.forall_mem_cons.mp h
      rw [List.map_cons, String.join_cons, String.toList_append, String.toList_append,
        unmarked_append, unmarked_append]
      exact ⟨⟨by decide, hpart⟩, ih hrest⟩

/-- No mark stands in the parts of a URL before its query. -/
structure Clean (u : Url) : Prop where
  scheme : Unmarked u.scheme.toList
  authority : ∀ a ∈ u.authority, Unmarked a.text.toList
  path : UrlPath.Unmarked u.path

theorem Clean.unmarked_origin {u : Url} (h : Clean u) : Unmarked u.origin.toList := by
  unfold Url.origin
  rw [String.toList_append, String.toList_append, unmarked_append, unmarked_append]
  refine ⟨⟨h.scheme, by decide⟩, ?_⟩
  split
  · rename_i a ha
    rw [String.toList_append, unmarked_append]
    exact ⟨by decide, h.authority a ha⟩
  · split <;> decide

theorem Clean.unmarked_base {u : Url} (h : Clean u) : Unmarked u.base.toList := by
  rw [Url.base, String.toList_append, unmarked_append]
  exact ⟨h.unmarked_origin, h.path.text⟩

/-- Queries and fragments have no part in it. -/
theorem Clean.withTail {u : Url} (h : Clean u) (query fragment : Option String) :
    Clean { u with query := query, fragment := fragment } := ⟨h.scheme, h.authority, h.path⟩

/-! ## Paths and authorities -/

section Reading

variable {scheme : String} {authority : Option Authority} {cs : List Char} {base u : Url}

theorem unmarked_some {a : Authority} (ha : Unmarked a.text.toList) :
    ∀ b ∈ some a, Unmarked b.text.toList := by
  rintro b ⟨⟩
  exact ha

theorem unmarked_none : ∀ b ∈ (none : Option Authority), Unmarked b.text.toList := nofun

theorem unmarked_noHost : Unmarked noHost.text.toList := by decide

theorem unmarked_file : Unmarked "file".toList := by decide

theorem clean_readPath (hscheme : Unmarked scheme.toList)
    (hauthority : ∀ a ∈ authority, Unmarked a.text.toList) (hparts : UnmarkedParts parts)
    (cs : List Char) : Clean (readPath scheme authority parts cs) := by
  have hpushed : UnmarkedParts (pushSegments (scheme == "file") parts
      (splitSegments (isSpecialScheme scheme) (breakAt endsPath cs).1)) :=
    hparts.pushSegments _
  refine ⟨hscheme, hauthority, ?_⟩
  unfold readPath
  dsimp only
  show UnmarkedParts _
  split
  · exact hpushed.trimFilePath
  · exact hpushed

theorem clean_readAfterAuthority {a : Authority} (hscheme : Unmarked scheme.toList)
    (ha : Unmarked a.text.toList) (cs : List Char) : Clean (readAfterAuthority scheme a cs) := by
  have hpath (rest : List Char) : Clean (readPath scheme (some a) [] rest) :=
    clean_readPath hscheme (unmarked_some ha) unmarkedParts_nil rest
  unfold readAfterAuthority
  dsimp only
  split
  · exact hpath _
  · split
    · exact hpath _
    · exact hpath _
  · split
    · exact hpath _
    · exact ⟨hscheme, unmarked_some ha, nofun⟩

theorem clean_readFromAuthority (hscheme : Unmarked scheme.toList)
    (h : readFromAuthority scheme cs = .ok u) : Clean u := by
  unfold readFromAuthority at h
  dsimp only at h
  obtain ⟨⟨a, excess⟩, ha, h⟩ := bind_eq_ok h
  cases h
  exact clean_readAfterAuthority hscheme (unmarked_readAuthority ha) _

/-! ## File URLs -/

theorem clean_readFileHost (h : readFileHost cs = .ok u) : Clean u := by
  unfold readFileHost at h
  dsimp only at h
  split at h
  · cases h
    exact clean_readPath unmarked_file (unmarked_some unmarked_noHost) unmarkedParts_nil _
  · split at h
    · cases h
      exact clean_readAfterAuthority unmarked_file unmarked_noHost _
    · obtain ⟨host, hhost, h⟩ := bind_eq_ok h
      have hlocal : Unmarked
          (Host.text (if host == .name "localhost" then .name "" else host)).toList := by
        split
        · exact unmarked_nil
        · exact unmarked_parseHost hhost
      have hauthority := unmarked_authority (a := { noHost with host := _ }) unmarked_nil
        unmarked_nil hlocal
      have hread (rest : List Char) : Clean (readAfterAuthority "file" _ rest) :=
        clean_readAfterAuthority unmarked_file hauthority rest
      split at h
      · cases h
        -- A path with a drive letter takes the place of the host.
        split
        · exact ⟨(hread _).scheme, unmarked_some unmarked_noHost, (hread _).path⟩
        · exact hread _
      · cases h
        exact hread _

/-- What a rooted path takes over from the base of a file URL has no marks. -/
theorem unmarked_fileRoot {base : Option Url} (h : ∀ b ∈ base, Clean b) (startsWithDrive : Bool) :
    Unmarked (fileRoot base startsWithDrive).1.text.toList ∧
      UnmarkedParts (fileRoot base startsWithDrive).2 := by
  unfold fileRoot
  split
  · exact ⟨unmarked_noHost, nofun⟩
  · rename_i b
    have hhost : Unmarked (b.authority.getD noHost).text.toList := by
      cases hauthority : b.authority with
      | none => exact unmarked_noHost
      | some a => exact (h b rfl).authority a hauthority
    split
    · exact ⟨unmarked_noHost, nofun⟩
    · split
      · split
        · rename_i hdrive
          exact ⟨unmarked_noHost, UnmarkedParts.cons (unmarked_of_isDriveLetter hdrive) nofun⟩
        · exact ⟨hhost, nofun⟩
      · exact ⟨hhost, nofun⟩

theorem clean_readFile {base : Option Url} (hbase : ∀ b ∈ base, Clean b)
    (h : readFile base cs = .ok u) : Clean u := by
  have hroot (startsWithDrive : Bool) (rest : List Char) :
      Clean (readPath "file" (some (fileRoot base startsWithDrive).1)
        (fileRoot base startsWithDrive).2 rest) := by
    obtain ⟨hauthority, hparts⟩ := unmarked_fileRoot hbase startsWithDrive
    exact clean_readPath unmarked_file (unmarked_some hauthority) hparts rest
  have hnoHost (rest : List Char) : Clean (readPath "file" (some noHost) [] rest) :=
    clean_readPath unmarked_file (unmarked_some unmarked_noHost) unmarkedParts_nil rest
  unfold readFile at h
  split at h
  · split at h
    · split at h
      · split at h
        · exact clean_readFileHost h
        · cases h
          exact hroot _ _
      · cases h
        exact hroot _ _
    · split at h
      · cases h
        exact hnoHost _
      · rename_i b
        have hb := hbase b rfl
        dsimp only at h
        split at h
        · cases h
          exact hb.withTail _ _
        · split at h
          · cases h
            exact hb.withTail _ _
          · split at h
            · cases h
              exact hnoHost _
            · have hpath := hb.path
              split at h
              · rename_i parts hparts
                rw [hparts] at hpath
                cases h
                exact clean_readPath unmarked_file hb.authority
                  (UnmarkedParts.reverse hpath).popSegment _
              · cases h
                exact clean_readPath unmarked_file hb.authority unmarkedParts_nil _
  · split at h
    · cases h
      exact hnoHost _
    · rename_i b
      cases h
      exact (hbase b rfl).withTail _ _

/-! ## Other URLs -/

theorem clean_readRelative (hbase : Clean base) (h : readRelative base cs = .ok u) : Clean u := by
  have hroot (rest : List Char) : Clean (readPath base.scheme base.authority [] rest) :=
    clean_readPath hbase.scheme hbase.authority unmarkedParts_nil rest
  unfold readRelative at h
  dsimp only at h
  split at h
  · cases h
    exact hbase.withTail _ _
  · cases h
    exact hbase.withTail _ _
  · cases h
    exact hbase.withTail _ _
  · exact clean_readFromAuthority hbase.scheme h
  · split at h
    · split at h
      · split at h
        · exact clean_readFromAuthority hbase.scheme h
        · cases h
          exact hroot _
      · cases h
        exact hroot _
    · have hpath := hbase.path
      split at h
      · rename_i parts hparts
        rw [hparts] at hpath
        cases h
        refine clean_readPath hbase.scheme hbase.authority ?_ _
        exact fun part hpart => UnmarkedParts.reverse hpath part (List.mem_of_mem_drop hpart)
      · cases h

/-- What stands before a mark has none. -/
theorem unmarked_breakAt (cs : List Char) : Unmarked (breakAt endsPath cs).1 := by
  intro c hc
  rw [breakAt, List.span_eq_takeWhile_dropWhile] at hc
  have hbefore := List.mem_takeWhile_imp hc
  simpa using hbefore

theorem clean_readOther (hscheme : Unmarked scheme.toList) (h : readOther scheme cs = .ok u) :
    Clean u := by
  unfold readOther at h
  split at h
  · exact clean_readFromAuthority hscheme h
  · cases h
    exact clean_readPath hscheme unmarked_none unmarkedParts_nil _
  · cases h
    refine ⟨hscheme, nofun, ?_⟩
    show Unmarked (String.ofList _).toList
    rw [String.toList_ofList]
    exact unmarked_percentEncode fun c hc _ => unmarked_breakAt cs c hc

/-- Characters of schemes, put in lower case, are no marks. -/
theorem endsPath_toLower {c : Char}
    (h : (c.isAlphanum || c == '+' || c == '-' || c == '.') = true) :
    endsPath c.toLower = false := by
  by_cases hupper : c.isUpper = true
  · -- There are only 26 capital letters to look at.
    have hrange : 65 ≤ c.toNat ∧ c.toNat ≤ 90 := by
      simp only [Char.isUpper, decide_eq_true_eq, UInt32.le_iff_toNat_le] at hupper
      exact hupper
    have hall : ∀ n : Fin 26, endsPath (Char.ofNat (65 + n.val)).toLower = false := by decide
    have hchar : Char.ofNat (65 + (c.toNat - 65)) = c := by
      rw [show 65 + (c.toNat - 65) = c.toNat by omega, Char.ofNat_toNat]
    have := hall ⟨c.toNat - 65, by omega⟩
    rw [hchar] at this
    exact this
  · have hlower : c.toLower = c := by
      have hrange : ¬(65 ≤ c.toNat ∧ c.toNat ≤ 90) := by
        simpa [Char.isUpper, UInt32.le_iff_toNat_le] using hupper
      unfold Char.toLower
      rw [dif_neg]
      exact hrange
    rw [hlower]
    exact endsPath_eq_false_of (p := fun c => c.isAlphanum || c == '+' || c == '-' || c == '.')
      (by decide) (by decide) h

theorem unmarked_scheme {rest : List Char} (h : readScheme? cs = some (scheme, rest)) :
    Unmarked scheme.toList := by
  unfold readScheme? at h
  split at h
  · split at h
    · split at h
      · rename_i chars rest' hspan
        cases h
        rw [List.span_eq_takeWhile_dropWhile] at hspan
        obtain ⟨hchars, -⟩ := Prod.mk.inj hspan
        rw [String.toList_ofList, ← hchars]
        intro d hd
        obtain ⟨c, hc, rfl⟩ := List.mem_map.mp hd
        have hscheme := List.mem_takeWhile_imp hc
        exact endsPath_toLower hscheme
      · cases h
    · cases h
  · cases h

/-! ## Absolute and relative URLs -/

theorem clean_readWithScheme {base : Option Url} (hbase : ∀ b ∈ base, Clean b)
    (hscheme : Unmarked scheme.toList) (h : readWithScheme base scheme cs = .ok u) : Clean u := by
  unfold readWithScheme at h
  split at h
  · refine clean_readFile (fun b hb => ?_) h
    exact hbase b (Option.filter_eq_some_iff.mp hb).1
  · split at h
    · dsimp only at h
      split at h
      · rename_i b
        split at h
        · exact clean_readRelative (hbase b rfl) h
        · exact clean_readFromAuthority hscheme h
      · exact clean_readFromAuthority hscheme h
    · exact clean_readOther hscheme h

theorem clean_readChars {base : Option Url} (hbase : ∀ b ∈ base, Clean b)
    (h : readChars base cs = .ok u) : Clean u := by
  unfold readChars at h
  split at h
  · rename_i scheme rest hread
    exact clean_readWithScheme hbase (unmarked_scheme hread) h
  · split at h
    · cases h
    · rename_i b
      have hb := hbase b rfl
      split at h
      · cases h
        exact hb.withTail _ _
      · split at h
        · cases h
        · split at h
          · refine clean_readFile ?_ h
            rintro b' ⟨⟩
            exact hb
          · exact clean_readRelative hb h

theorem clean_join {s : String} (hbase : Clean base) (h : base.join s = .ok u) : Clean u := by
  refine clean_readChars ?_ h
  rintro b ⟨⟩
  exact hbase

/-- A URL that was read from a text, by itself or relative to another one. -/
inductive Read : Url → Prop
  | parsed {s : String} {u : Url} (h : parse s = .ok u) : Read u
  | joined {base u : Url} {s : String} (hbase : Read base) (h : base.join s = .ok u) : Read u

theorem Read.clean (h : Read u) : Clean u := by
  induction h with
  | parsed h =>
    have hnone : ∀ b ∈ (none : Option Url), Clean b := nofun
    exact clean_readChars hnone h
  | joined _ h ih => exact clean_join ih h

end Reading

end UserAccounts.Url
