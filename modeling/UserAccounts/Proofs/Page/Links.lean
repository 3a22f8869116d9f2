import UserAccounts.Http.Body
import UserAccounts.Page.Links
import UserAccounts.Proofs.Url.Rooted

/-!
# Links that are followed

A client that follows a link sends its query. The query of a link to a page is read as the window
that the link was made for (`windowOfQuery?_pageUrl`): a limit or start that the link leaves out is
the one that the reader puts in its place, and numbers come through the encoding as they are.
-/

namespace UserAccounts

/-! ## The query of a link -/

namespace Url

/-- The query of a written URL. -/
def queryOf (link : String) : String :=
  match (breakAt endsPath link.toList).2 with
  | '?' :: rest => String.ofList (breakAt (· == '#') rest).1
  | _ => ""

/-- A query ends where a fragment begins. -/
theorem not_mem_queryOf (link : String) : '#' ∉ (queryOf link).toList := by
  unfold queryOf
  split
  · rw [String.toList_ofList, breakAt, List.span_eq_takeWhile_dropWhile]
    intro hmem
    have hhash := List.mem_takeWhile_imp hmem
    cases hhash
  · exact List.not_mem_nil

/-- A URL without query, in whose written form no mark stands before the fragment. -/
structure Queryless (u : Url) : Prop where
  query : u.query = none
  base : Unmarked u.base.toList

theorem Bare.queryless {u : Url} (h : Bare u) : Queryless u := ⟨h.query, h.base⟩

namespace Queryless

variable {u : Url} (h : Queryless u) {pairs : List (String × String)}

include h

/-- Nothing but a fragment follows the parts of a URL without query. -/
theorem breakAt_text :
    breakAt endsPath u.text.toList = (u.base.toList, (marked "#" u.fragment).toList) := by
  have htext : u.text.toList = u.base.toList ++ (marked "#" u.fragment).toList := by
    rw [Url.text, h.query]
    simp [marked]
  rw [htext]
  cases u.fragment with
  | none =>
    show breakAt endsPath (u.base.toList ++ []) = (u.base.toList, [])
    rw [List.append_nil, breakAt_of_forall h.base]
  | some fragment =>
    have hmarked : (marked "#" (some fragment)).toList = '#' :: fragment.toList := by simp [marked]
    rw [hmarked, breakAt_append_cons h.base rfl]

/-- Pairs that are added to a URL without query stand between its parts and its fragment. -/
theorem breakAt_text_addPairs :
    breakAt endsPath (u.addPairs pairs).text.toList =
      (u.base.toList, '?' :: (queryText pairs ++ (marked "#" u.fragment).toList)) := by
  have htext : (u.addPairs pairs).text.toList =
      u.base.toList ++ '?' :: (queryText pairs ++ (marked "#" u.fragment).toList) := by
    have hbase : (u.addPairs pairs).base = u.base := rfl
    have hquery : (u.addPairs pairs).query = some (String.ofList (queryText pairs)) := by
      rw [addPairs, h.query]
      rfl
    have hfragment : (u.addPairs pairs).fragment = u.fragment := rfl
    rw [Url.text, hbase, hquery, hfragment]
    simp [marked]
  rw [htext, breakAt_append_cons h.base rfl]

omit h in
/-- A query of plain pairs ends where the fragment begins. -/
theorem breakAt_queryText (hpairs : ∀ p ∈ pairs, Form.PlainPair p) (fragment : Option String) :
    breakAt (· == '#') (queryText pairs ++ (marked "#" fragment).toList) =
      (queryText pairs, (marked "#" fragment).toList) := by
  have hhash : ∀ c ∈ queryText pairs, (c == '#') = false := by
    intro c hc
    rw [beq_eq_false_iff_ne]
    rintro rfl
    exact not_mem_queryText hpairs hc
  cases fragment with
  | none =>
    show breakAt _ (queryText pairs ++ []) = (queryText pairs, [])
    rw [List.append_nil, breakAt_of_forall hhash]
  | some fragment =>
    have hmarked : (marked "#" (some fragment)).toList = '#' :: fragment.toList := by simp [marked]
    rw [hmarked, breakAt_append_cons hhash rfl]

/-- The query of a URL without query is empty. -/
theorem queryOf_text : queryOf u.text = "" := by
  unfold queryOf
  rw [h.breakAt_text]
  cases u.fragment with
  | none => rfl
  | some fragment => simp [marked]

/-- The query of such a URL to which pairs have been added consists of the pairs. -/
theorem queryOf_addPairs (hpairs : ∀ p ∈ pairs, Form.PlainPair p) :
    queryOf (u.addPairs pairs).text = String.ofList (queryText pairs) := by
  unfold queryOf
  rw [h.breakAt_text_addPairs]
  show String.ofList (breakAt (· == '#') (queryText pairs ++ _)).1 = _
  rw [breakAt_queryText hpairs]

end Queryless

end Url

/-! ## Numbers in queries -/

namespace Http

open UserAccounts.Url (queryText)

/-- The pairs of a query that says what a listing is asked for, apart from what is absent. -/
def numberPairs (limit start : Option UInt64) : List (String × String) :=
  (limit.map fun n => ("limit", Text.natural n.toNat)).toList ++
    (start.map fun n => ("start", Text.natural n.toNat)).toList

theorem plain_natural (n : Nat) : Url.Form.Plain (Text.natural n) := by
  intro c hc
  simp [Url.Form.isPlain, Char.isAlphanum, Text.isDigit_of_mem_natural hc]

theorem plain_numberPairs (limit start : Option UInt64) :
    ∀ p ∈ numberPairs limit start, Url.Form.PlainPair p := by
  have hlimit : Url.Form.Plain "limit" := List.all_eq_true.mp (by decide)
  have hstart : Url.Form.Plain "start" := List.all_eq_true.mp (by decide)
  intro p hp
  rcases List.mem_append.mp hp with hp | hp
  · obtain ⟨n, -, rfl⟩ := Option.map_eq_some_iff.mp (Option.mem_toList.mp hp)
    exact ⟨hlimit, plain_natural _⟩
  · obtain ⟨n, -, rfl⟩ := Option.map_eq_some_iff.mp (Option.mem_toList.mp hp)
    exact ⟨hstart, plain_natural _⟩

/-- A number that a query holds once is read as what it is. -/
theorem queryNumber?_of_uniqueValue {name : String} {pairs : List (String × String)}
    {number : Option UInt64}
    (h : uniqueValue? name pairs = some (number.map fun n => Text.natural n.toNat)) :
    queryNumber? name pairs = some number := by
  unfold queryNumber?
  rw [h]
  cases number with
  | none => rfl
  | some n =>
    have hn : n.toNat ≤ Text.maxUnsigned64 := Nat.le_of_lt_succ n.toNat_lt
    simp only [Option.map_some]
    rw [Text.parseNatural_natural hn]
    simp

theorem uniqueValue?_numberPairs (limit start : Option UInt64) :
    uniqueValue? "limit" (numberPairs limit start) =
        some (limit.map fun n => Text.natural n.toNat) ∧
      uniqueValue? "start" (numberPairs limit start) =
        some (start.map fun n => Text.natural n.toNat) := by
  have hne : ("limit" == "start") = false ∧ ("start" == "limit") = false := by decide
  cases limit <;> cases start <;> simp [numberPairs, uniqueValue?, hne]

/-- What a query says is what is read from it. -/
theorem windowOfQuery?_numberPairs (limit start : Option UInt64) :
    windowOfQuery? (String.ofList (queryText (numberPairs limit start))) =
      some (.ofRequest limit start) := by
  obtain ⟨hlimit, hstart⟩ := uniqueValue?_numberPairs limit start
  unfold windowOfQuery?
  dsimp only
  rw [Url.decode_queryText (plain_numberPairs limit start), queryNumber?_of_uniqueValue hlimit,
    queryNumber?_of_uniqueValue hstart]

end Http

/-! ## Links to pages -/

/-- A window of the same size elsewhere. -/
def Window.movedTo (w : Window) (start : Nat) (h : start < UInt64.size) : Window :=
  { w with offset := start, offset_lt := h }

namespace PageLinks

open Http (numberPairs windowOfQuery?)

/-- The numbers that a link to a page says. -/
def linkNumbers (limit start : Nat) : Option UInt64 × Option UInt64 :=
  (if limit = Window.defaultLimit then none else some (UInt64.ofNat limit),
    if start = 0 then none else some (UInt64.ofNat start))

theorem pagePairs_eq {limit start : Nat} (hlimit : limit < UInt64.size)
    (hstart : start < UInt64.size) :
    pagePairs limit start =
      numberPairs (linkNumbers limit start).1 (linkNumbers limit start).2 := by
  have toNat_ofNat {n : Nat} (h : n < UInt64.size) : (UInt64.ofNat n).toNat = n :=
    UInt64.toNat_ofNat_of_lt' h
  unfold pagePairs numberPairs linkNumbers
  by_cases hdefault : limit = Window.defaultLimit <;> by_cases hzero : start = 0 <;>
    simp [hdefault, hzero, toNat_ofNat hlimit, toNat_ofNat hstart]

/-- What a link leaves out is what the reader puts in its place. -/
theorem ofRequest_linkNumbers (w : Window) {start : Nat} (h : start < UInt64.size) :
    Window.ofRequest (linkNumbers w.limit start).1 (linkNumbers w.limit start).2 =
      w.movedTo start h := by
  have hpos := w.limit_pos
  have hle := w.limit_le
  have hlimit : Window.effectiveLimit ((linkNumbers w.limit start).1.getD 0).toNat = w.limit := by
    have hsize : w.limit < UInt64.size := Nat.lt_of_le_of_lt hle (by decide)
    unfold linkNumbers
    -- The default is left out and read as 0, which asks for the default.
    by_cases hdefault : w.limit = Window.defaultLimit
    · simp [hdefault, Window.effectiveLimit]
    · rw [if_neg hdefault, Option.getD_some, UInt64.toNat_ofNat_of_lt' hsize]
      unfold Window.effectiveLimit Window.maxLimit
      rw [if_neg (by omega), Nat.min_eq_left hle]
  have hoffset : ((linkNumbers w.limit start).2.getD 0).toNat = start := by
    unfold linkNumbers
    by_cases hzero : start = 0
    · simp [hzero]
    · rw [if_neg hzero, Option.getD_some, UInt64.toNat_ofNat_of_lt' h]
  unfold Window.ofRequest Window.ofNumbers Window.movedTo
  simp only [hlimit, hoffset]

/-- Following a link to a page asks for the window that the link was made for. -/
theorem windowOfQuery?_pageUrl {collection : Url} (h : collection.Queryless) (w : Window)
    {start : Nat} (hstart : start < UInt64.size) :
    windowOfQuery? (Url.queryOf (pageUrl collection w.limit start).text) =
      some (w.movedTo start hstart) := by
  have hlimit : w.limit < UInt64.size := Nat.lt_of_le_of_lt w.limit_le (by decide)
  have hpairs := pagePairs_eq hlimit hstart
  have hquery : Url.queryOf (pageUrl collection w.limit start).text =
      String.ofList (Url.queryText (pagePairs w.limit start)) := by
    unfold pageUrl
    split
    · rename_i hnil
      rw [hnil, h.queryOf_text]
      rfl
    · apply h.queryOf_addPairs
      rw [hpairs]
      exact Http.plain_numberPairs _ _
  rw [hquery, hpairs, Http.windowOfQuery?_numberPairs, ofRequest_linkNumbers w hstart]

end PageLinks

end UserAccounts
