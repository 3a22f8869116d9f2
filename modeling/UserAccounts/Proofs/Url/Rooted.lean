import UserAccounts.Proofs.Url.Clean

/-!
# Rooted paths

A path that begins with one slash, joined to a URL, replaces its path, query and fragment. What
comes out is bare: it has no query and no fragment, and no mark stands in it (`bare_join`), as none
stands in what it takes over from the base. A query that is added to such a URL therefore begins at
the first question mark of the written form.
-/

namespace UserAccounts.Url

/-- A URL without query and fragment, in whose written form no mark stands. -/
structure Bare (u : Url) : Prop where
  query : u.query = none
  fragment : u.fragment = none
  base : Unmarked u.base.toList

/-- Reading a path without marks leaves nothing for a query or a fragment. -/
theorem tail_readPath {scheme : String} {authority : Option Authority} {parts : List String}
    {cs : List Char} (hcs : Unmarked cs) :
    (readPath scheme authority parts cs).query = none ∧
      (readPath scheme authority parts cs).fragment = none := by
  have hbreak : breakAt endsPath cs = (cs, []) := breakAt_of_forall hcs
  unfold readPath
  rw [hbreak]
  exact ⟨rfl, rfl⟩

/-- How a rooted path is read, relative to a file URL and to any other. -/
theorem readFile_rooted (base : Option Url) {first : Char} (hfirst : isAnySlash first = false)
    (rest : List Char) :
    readFile base ('/' :: first :: rest) =
      .ok (readPath "file" (some (fileRoot base (startsWithDriveLetter (first :: rest))).1)
        (fileRoot base (startsWithDriveLetter (first :: rest))).2 (first :: rest)) := by
  unfold readFile
  simp only [show isAnySlash '/' = true from rfl, hfirst, if_true, Bool.false_eq_true, if_false]

theorem readRelative_rooted (base : Url) {first : Char} (hfirst : isAnySlash first = false)
    (rest : List Char) :
    readRelative base ('/' :: first :: rest) =
      .ok (readPath base.scheme base.authority [] (first :: rest)) := by
  have hslash : first ≠ '/' := by
    rintro rfl
    cases hfirst
  unfold readRelative
  dsimp only
  split
  · rename_i heq
    cases heq
  · rename_i heq
    cases heq
  · rename_i heq
    cases heq
  · rename_i heq
    cases heq
    exact absurd rfl hslash
  · rename_i heq
    cases heq
    simp only [show isAnySlash '/' = true from rfl, hfirst, if_true, Bool.false_eq_true, if_false]

/-- A rooted path without marks makes a bare URL of every base that it can be joined to. -/
theorem bare_join {base collection : Url} {s : String} {first : Char} {rest : List Char}
    (hbase : Clean base) (hs : significantChars s = '/' :: first :: rest)
    (hfirst : isAnySlash first = false) (hpath : Unmarked (first :: rest))
    (h : base.join s = .ok collection) : Bare collection := by
  have hclean := clean_join hbase h
  have hscheme : readScheme? ('/' :: first :: rest) = none := rfl
  have htail : collection.query = none ∧ collection.fragment = none := by
    unfold join readChars at h
    rw [hs, hscheme] at h
    dsimp only at h
    split at h
    · rename_i heq
      cases heq
    · split at h
      · cases h
      · -- A file URL keeps its host, or its drive letter in place of one.
        split at h
        · rw [readFile_rooted _ hfirst] at h
          cases h
          exact tail_readPath hpath
        · rw [readRelative_rooted _ hfirst] at h
          cases h
          exact tail_readPath hpath
  exact ⟨htail.1, htail.2, hclean.unmarked_base⟩

end UserAccounts.Url
