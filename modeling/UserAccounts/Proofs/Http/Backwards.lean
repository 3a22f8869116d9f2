import UserAccounts.Proofs.Http.Walk
import UserAccounts.Proofs.Page.Neighbours

/-!
# Walking back through the accounts

A client that goes on with the link to the previous page comes to the first page after as many steps
as there are pages of the same size before the page that it began with, and misses none of the
accounts on the way (`walkBack_covers`):

* `WalkBack` — the windows that a client comes to one after the other;
* `Window.earlier` — the same windows as a list that is computed, without any links
  (`walkBack_iff`);
* `countP_covers_earlier` — how often an account is seen, whether it lies before the page that the
  walk began with or on it.

The window at the end of a walk is never cut short, so where the walk did not begin at a multiple of
the limit, that window overlaps with the one before it.
-/

namespace UserAccounts

namespace Window

/-- The window of the same size before this one, as far as there is room for it. -/
def back (w : Window) : Window :=
  w.movedTo w.previousOffset (PageLinks.previousOffset_lt w)

theorem back_offset (w : Window) : w.back.offset = w.offset - w.limit := rfl

theorem back_limit (w : Window) : w.back.limit = w.limit := rfl

/-- The windows before this one, the nearest first, down to one that begins at 0. -/
def earlier (w : Window) : List Window :=
  if 0 < w.offset then w.back :: w.back.earlier else []
termination_by w.offset
decreasing_by
  have hpos := w.limit_pos
  rw [back_offset]
  omega

theorem earlier_of_pos {w : Window} (h : 0 < w.offset) : w.earlier = w.back :: w.back.earlier := by
  rw [earlier, if_pos h]

theorem earlier_of_zero {w : Window} (h : w.offset = 0) : w.earlier = [] := by
  rw [earlier, if_neg (by omega)]

/-- A window shows a position of the listing, counted from 0. -/
def covers (w : Window) (position : Nat) : Bool :=
  w.offset ≤ position && position < w.offset + w.limit

theorem covers_iff {w : Window} {p : Nat} :
    w.covers p = true ↔ w.offset ≤ p ∧ p < w.offset + w.limit := by
  unfold covers
  rw [Bool.and_eq_true, decide_eq_true_eq, decide_eq_true_eq]

/-! ## The windows before a window -/

theorem limit_of_mem_earlier {w v : Window} (h : v ∈ w.earlier) : v.limit = w.limit := by
  induction w using earlier.induct with
  | case1 w hpos ih =>
    rw [earlier_of_pos hpos] at h
    rcases List.mem_cons.mp h with rfl | hrest
    · exact w.back_limit
    · exact (ih hrest).trans w.back_limit
  | case2 w hzero =>
    rw [earlier_of_zero (by omega)] at h
    cases h

/-- There are as many windows before a window as it takes to fill what is before it. -/
theorem length_earlier (w : Window) : w.earlier.length = w.offset ⌈/⌉ w.limit := by
  have hpos := w.limit_pos
  induction w using earlier.induct with
  | case1 w hoffset ih =>
    rw [earlier_of_pos hoffset, List.length_cons, ih w.back.limit_pos, back_offset, back_limit,
      Nat.ceilDiv_eq_add_pred_div, Nat.ceilDiv_eq_add_pred_div]
    by_cases hroom : w.limit ≤ w.offset
    · have hsplit : w.offset + w.limit - 1 = w.offset - w.limit + w.limit - 1 + w.limit := by omega
      rw [hsplit, Nat.add_div_right _ hpos]
    · have hnone : w.offset - w.limit + w.limit - 1 < w.limit := by omega
      have hone : (w.offset + w.limit - 1) / w.limit = 1 :=
        Nat.div_eq_of_lt_le (by omega) (by omega)
      rw [Nat.div_eq_of_lt hnone, hone]
  | case2 w hzero =>
    have hoffset : w.offset = 0 := by omega
    rw [earlier_of_zero hoffset, hoffset, zero_ceilDiv]
    rfl

/-- The last of the windows before a window begins at 0. -/
theorem getLast?_earlier {w last : Window} (h : last ∈ w.earlier.getLast?) : last.offset = 0 := by
  induction w using earlier.induct with
  | case1 w hpos ih =>
    rw [earlier_of_pos hpos] at h
    by_cases hback : 0 < w.back.offset
    · rw [earlier_of_pos hback, List.getLast?_cons_cons, ← earlier_of_pos hback] at h
      exact ih h
    · rw [earlier_of_zero (by omega), List.getLast?_singleton] at h
      obtain rfl := Option.mem_some.mp h
      omega
  | case2 w hzero =>
    rw [earlier_of_zero (by omega)] at h
    cases h

/-- How often a position is shown by the windows before a window: once if it lies before that
window, and once more if the window at 0 shows it beyond where it would have to end. -/
theorem countP_covers_earlier (w : Window) (p : Nat) :
    w.earlier.countP (·.covers p) =
      (if p < w.offset then 1 else 0) +
        if w.offset % w.limit ≠ 0 ∧ w.offset % w.limit ≤ p ∧ p < w.limit then 1 else 0 := by
  induction w using earlier.induct with
  | case1 w hpos ih =>
    have hback : w.back.covers p = true ↔
        w.offset - w.limit ≤ p ∧ p < w.offset - w.limit + w.limit := covers_iff
    rw [earlier_of_pos hpos, List.countP_cons, ih]
    show ((if p < w.offset - w.limit then 1 else 0) +
      if (w.offset - w.limit) % w.limit ≠ 0 ∧ (w.offset - w.limit) % w.limit ≤ p ∧ p < w.limit
        then 1 else 0) + (if w.back.covers p = true then 1 else 0) = _
    simp only [hback]
    by_cases hroom : w.limit ≤ w.offset
    · -- The window before ends where this one begins, and what is left over is the same.
      rw [← Nat.mod_eq_sub_mod hroom]
      split_ifs <;> omega
    · -- The window before is the one at 0, and nothing comes before it.
      rw [Nat.mod_eq_of_lt (by omega : w.offset < w.limit), Nat.sub_eq_zero_of_le (by omega),
        Nat.zero_mod]
      split_ifs <;> omega
  | case2 w hzero =>
    have hoffset : w.offset = 0 := by omega
    rw [earlier_of_zero hoffset, hoffset]
    simp

end Window

namespace Http

open PageLinks (build pageUrl)

/-! ## The walk -/

/-- The windows that a client comes to who begins with one and goes on with the query of the link to
the previous page until there is none. Whether there is a page after a window may be answered in any
way. -/
inductive WalkBack (base : Url) (hasNext : Window → Bool) : Window → List Window → Prop
  | first {w : Window} {links : PageLinks}
      (built : build base accountsPath w (hasNext w) = .ok links) (ends : links.previous = none) :
      WalkBack base hasNext w []
  | back {w previous : Window} {links : PageLinks} {link : String} {windows : List Window}
      (built : build base accountsPath w (hasNext w) = .ok links)
      (goesBack : links.previous = some link)
      (asked : windowOfQuery? (Url.queryOf link) = some previous)
      (rest : WalkBack base hasNext previous windows) :
      WalkBack base hasNext w (previous :: windows)

variable {base collection : Url} {hasNext : Window → Bool}

/-- The link to the previous page asks for the window before, and is there only if that is another
one. -/
theorem previous_ofCollection (base : Url) (hbare : collection.Bare) (w : Window) (more : Bool) :
    (0 < w.offset → ∃ link, (PageLinks.ofCollection base collection w more).previous = some link ∧
        windowOfQuery? (Url.queryOf link) = some w.back) ∧
      (w.offset = 0 → (PageLinks.ofCollection base collection w more).previous = none) := by
  refine ⟨fun hpos => ⟨_, if_pos hpos, ?_⟩, fun hzero => if_neg (by omega)⟩
  exact PageLinks.windowOfQuery?_pageUrl hbare.queryless w (PageLinks.previousOffset_lt w)

/-- A client that walks back comes to the windows before the one that it begins with, and to no
others. -/
theorem walkBack_iff (hbare : collection.Bare) (hjoin : base.join accountsPath = .ok collection)
    {w : Window} {windows : List Window} :
    WalkBack base hasNext w windows ↔ windows = w.earlier := by
  have hbuilt (w : Window) : build base accountsPath w (hasNext w) =
      .ok (.ofCollection base collection w (hasNext w)) :=
    PageLinks.build_eq_ok_iff.mpr ⟨collection, hjoin, rfl⟩
  constructor
  · intro h
    induction h with
    | @first w links built ends =>
      cases (hbuilt w).symm.trans built
      obtain ⟨hpos, -⟩ := previous_ofCollection base hbare w (hasNext w)
      by_cases hoffset : 0 < w.offset
      · obtain ⟨link, hlink, -⟩ := hpos hoffset
        rw [ends] at hlink
        cases hlink
      · exact (Window.earlier_of_zero (by omega)).symm
    | @back w previous links link windows built goesBack asked _ ih =>
      cases (hbuilt w).symm.trans built
      obtain ⟨hpos, hzero⟩ := previous_ofCollection base hbare w (hasNext w)
      by_cases hoffset : 0 < w.offset
      · obtain ⟨link', hlink, hasked⟩ := hpos hoffset
        cases goesBack.symm.trans hlink
        cases asked.symm.trans hasked
        rw [Window.earlier_of_pos hoffset, ih]
      · rw [hzero (by omega)] at goesBack
        cases goesBack
  · rintro rfl
    induction w using Window.earlier.induct with
    | case1 w hoffset ih =>
      obtain ⟨link, hlink, hasked⟩ := (previous_ofCollection base hbare w (hasNext w)).1 hoffset
      rw [Window.earlier_of_pos hoffset]
      exact .back (hbuilt w) hlink hasked ih
    | case2 w hoffset =>
      have hzero : w.offset = 0 := by omega
      rw [Window.earlier_of_zero hzero]
      exact .first (hbuilt w) ((previous_ofCollection base hbare w (hasNext w)).2 hzero)

/-- From every window, the walk back comes to a page without a link to the page before after as many
steps as there are pages of the same size before the window, begun ones included. All its windows
have that size, and the last of them begins at 0. Together they show every position before the
window once, but for those that the last one shows beyond the place where it would end if the walk
had begun at a multiple of the size; these are shown twice. -/
theorem walkBack_covers (hbase : base.Read) (hjoin : base.join accountsPath = .ok collection)
    (hasNext : Window → Bool) (w : Window) :
    ∃ windows,
      WalkBack base hasNext w windows ∧
      (∀ other, WalkBack base hasNext w other → other = windows) ∧
      windows.length = w.offset ⌈/⌉ w.limit ∧
      (∀ v ∈ windows, v.limit = w.limit) ∧
      (∀ last ∈ windows.getLast?, last.offset = 0) ∧
      ∀ p < w.offset, windows.countP (·.covers p) =
        if w.offset % w.limit ≠ 0 ∧ w.offset % w.limit ≤ p ∧ p < w.limit then 2 else 1 := by
  have hbare : collection.Bare := bare_collection_of_read hbase hjoin
  refine ⟨w.earlier, (walkBack_iff hbare hjoin).mpr rfl,
    fun other => (walkBack_iff hbare hjoin).mp, w.length_earlier,
    fun v => Window.limit_of_mem_earlier, fun last => Window.getLast?_earlier, fun p hp => ?_⟩
  rw [Window.countP_covers_earlier, if_pos hp]
  split_ifs <;> rfl

/-- Back from the window of four positions after ten it is three windows, the last two of which both
show the positions 2 and 3. -/
theorem walkBack_covers_of_ten :
    let base : Url :=
      ⟨"https", some ⟨"", "", .name "example.com", none⟩, .segments [""], none, none⟩
    let w := Window.ofNumbers 4 10
    base.Read ∧ (∃ collection, base.join accountsPath = .ok collection) ∧
      ∃ windows,
        WalkBack base (fun _ => true) w windows ∧
        windows.length = 3 ∧ (∀ v ∈ windows, v.limit = 4) ∧
        windows.countP (·.covers 1) = 1 ∧ windows.countP (·.covers 3) = 2 ∧
        windows.countP (·.covers 9) = 1 := by
  intro base w
  have hbase : base.Read := .parsed (s := "https://example.com/") (by decide +kernel)
  have hjoin : base.join accountsPath = .ok
      ⟨"https", some ⟨"", "", .name "example.com", none⟩, .segments ["api", "v1", "user-accounts"],
        none, none⟩ := by
    decide +kernel
  obtain ⟨windows, hwalk, -, hlength, hlimit, -, hcovers⟩ :=
    walkBack_covers hbase hjoin (fun _ => true) w
  exact ⟨hbase, ⟨_, hjoin⟩, windows, hwalk, hlength.trans (by decide), hlimit,
    (hcovers 1 (by decide)).trans (by decide), (hcovers 3 (by decide)).trans (by decide),
    (hcovers 9 (by decide)).trans (by decide)⟩

end Http

end UserAccounts
