import UserAccounts.Proofs.Url.Rooted

/-!
# URLs that others can be relative to

Whether a URL can be the base of others shows in the text that it was read from (`canBeBase_parse`):
its scheme is one that always has a path, or a slash follows the colon. A path that begins with one
slash is joined to all of these bases and to no others (`exists_join_rooted`, `join_rooted_error`).
-/

namespace UserAccounts.Url

/-- Whether the text of a URL leaves room for paths. After other schemes than the special ones
everything up to the query is one whole, unless it begins with a slash. -/
def hasRoot (s : String) : Bool :=
  match readScheme? (significantChars s) with
  | some (scheme, rest) => isSpecialScheme scheme || rest.head? == some '/'
  | none => false

section Reading

variable {scheme : String} {cs : List Char} {u : Url}

theorem canBeBase_readPath (authority : Option Authority) (parts : List String) :
    (readPath scheme authority parts cs).canBeBase = true := rfl

theorem canBeBase_readAfterAuthority (authority : Authority) :
    (readAfterAuthority scheme authority cs).canBeBase = true := by
  unfold readAfterAuthority
  dsimp only
  split
  · exact canBeBase_readPath _ _
  · split <;> exact canBeBase_readPath _ _
  · split
    · exact canBeBase_readPath _ _
    · rfl

/-- What has an authority has a path of segments, if only an empty one. -/
theorem canBeBase_readFromAuthority (h : readFromAuthority scheme cs = .ok u) :
    u.canBeBase = true := by
  unfold readFromAuthority at h
  dsimp only at h
  obtain ⟨⟨authority, excess⟩, -, h⟩ := bind_eq_ok h
  cases h
  exact canBeBase_readAfterAuthority authority

theorem canBeBase_readFileHost (h : readFileHost cs = .ok u) : u.canBeBase = true := by
  unfold readFileHost at h
  dsimp only at h
  split at h
  · cases h
    rfl
  · split at h
    · cases h
      exact canBeBase_readAfterAuthority noHost
    · obtain ⟨host, -, h⟩ := bind_eq_ok h
      split at h
      · cases h
        -- Whether the host is kept makes no difference to the path.
        split
        · exact canBeBase_readAfterAuthority _
        · exact canBeBase_readAfterAuthority _
      · cases h
        exact canBeBase_readAfterAuthority _

theorem canBeBase_readFile (h : readFile none cs = .ok u) : u.canBeBase = true := by
  unfold readFile at h
  split at h
  · split at h
    · split at h
      · split at h
        · exact canBeBase_readFileHost h
        · cases h
          rfl
      · cases h
        rfl
    · cases h
      rfl
  · cases h
    rfl

/-- After a scheme that is not special the first character decides. -/
theorem canBeBase_readOther (h : readOther scheme cs = .ok u) :
    u.canBeBase = (cs.head? == some '/') := by
  unfold readOther at h
  split at h
  · exact canBeBase_readFromAuthority h
  · cases h
    rfl
  · rename_i hslash
    cases h
    have hfirst : cs.head? ≠ some '/' := by
      intro hhead
      obtain ⟨rest, rfl⟩ := List.head?_eq_some_iff.mp hhead
      exact hslash rest rfl
    show false = (cs.head? == some '/')
    exact (beq_eq_false_iff_ne.mpr hfirst).symm

theorem canBeBase_readWithScheme (h : readWithScheme none scheme cs = .ok u) :
    u.canBeBase = (isSpecialScheme scheme || cs.head? == some '/') := by
  unfold readWithScheme at h
  by_cases hfile : (scheme == "file") = true
  · rw [if_pos hfile] at h
    have hspecial : isSpecialScheme scheme = true := by
      rw [beq_iff_eq.mp hfile]
      rfl
    rw [hspecial, Bool.true_or]
    exact canBeBase_readFile h
  · rw [if_neg hfile] at h
    by_cases hspecial : isSpecialScheme scheme = true
    · rw [if_pos hspecial] at h
      rw [hspecial, Bool.true_or]
      exact canBeBase_readFromAuthority h
    · rw [if_neg hspecial] at h
      rw [Bool.not_eq_true] at hspecial
      rw [hspecial, Bool.false_or]
      exact canBeBase_readOther h

/-- A URL can be a base exactly if its text leaves room for paths. -/
theorem canBeBase_parse {s : String} (h : parse s = .ok u) : u.canBeBase = hasRoot s := by
  unfold parse readChars at h
  unfold hasRoot
  cases hscheme : readScheme? (significantChars s) with
  | none =>
    rw [hscheme] at h
    cases h
  | some found =>
    rw [hscheme] at h
    exact canBeBase_readWithScheme h

end Reading

/-! ## Joining a rooted path -/

section Joining

variable {base : Url} {s : String} {first : Char} {rest : List Char}

theorem join_rooted_eq (hs : significantChars s = '/' :: first :: rest) :
    base.join s =
      if base.canBeBase = false then .error .relativeToWhole
      else if base.scheme == "file" then readFile (some base) ('/' :: first :: rest)
      else readRelative base ('/' :: first :: rest) := by
  have hscheme : readScheme? ('/' :: first :: rest) = none := rfl
  unfold join readChars
  rw [hs, hscheme]
  dsimp only
  by_cases hbase : base.canBeBase = true
  · simp [hbase]
  · simp [hbase]

theorem exists_join_rooted (hs : significantChars s = '/' :: first :: rest)
    (hfirst : isAnySlash first = false) (hbase : base.canBeBase = true) :
    ∃ u, base.join s = .ok u := by
  rw [join_rooted_eq hs, if_neg (by simp [hbase])]
  by_cases hfile : (base.scheme == "file") = true
  · rw [if_pos hfile, readFile_rooted _ hfirst]
    exact ⟨_, rfl⟩
  · rw [if_neg hfile, readRelative_rooted _ hfirst]
    exact ⟨_, rfl⟩

theorem join_rooted_error (hs : significantChars s = '/' :: first :: rest)
    (hbase : base.canBeBase = false) : base.join s = .error .relativeToWhole := by
  rw [join_rooted_eq hs, if_pos hbase]

end Joining

end UserAccounts.Url
