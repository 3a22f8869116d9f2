import UserAccounts.Proofs.Account.Readback

/-!
# Positions and totals of a listing

A window has unsigned numbers of 64 bits and may end beyond them, while a store is given signed
ones and counts in signed ones. Between the two no number is changed:

* `listAccounts_refuses` — a window that ends beyond the signed numbers is an invalid request, and
  the store is not called;
* `ListingDecision.course` — otherwise the store is given the offset of the window, its limit and
  their sum as they are, and all of them where the listing succeeds;
* `ListingDecision.total_eq` — the total is the number that the store counted, so a count below 0
  has none (`ListingDecision.internal_of_negative`).
-/

namespace UserAccounts

/-- The outcome is a failure of a category. -/
def FailsWith {α : Type} (code : FailureCode) (outcome : Except Failure α) : Prop :=
  ∃ f, outcome = .error f ∧ f.code = code

/-! ## Windows beyond the signed numbers -/

namespace Window

variable {w : Window}

/-- Once a window ends beyond the signed numbers, its end is no such number, even where it is cut
off. -/
theorem maxSigned64_lt_nextOffset (h : 2 ^ 63 - 1 < w.offset + w.limit) :
    Text.maxSigned64 < w.nextOffset := by
  have hsigned : Text.maxSigned64 = 2 ^ 63 - 1 := rfl
  have hunsigned : Text.maxUnsigned64 = 2 ^ 64 - 1 := rfl
  unfold nextOffset
  omega

theorem args_eq_error (h : 2 ^ 63 - 1 < w.offset + w.limit) : ∃ f, w.args = .error f := by
  have hlt := maxSigned64_lt_nextOffset h
  unfold args
  split
  · exact ⟨_, rfl⟩
  · exact ⟨_, rfl⟩
  · exact ⟨_, rfl⟩
  · rename_i hnext
    exact absurd hlt (positionValue_ok hnext)

/-- Only a window that ends beyond the signed numbers has a position that is none of them. -/
theorem lt_of_find?_positions {n : Nat}
    (h : [w.offset, w.limit, w.nextOffset].find? (Text.maxSigned64 < ·) = some n) :
    2 ^ 63 - 1 < w.offset + w.limit := by
  have hlt := List.find?_some h
  have hsigned : Text.maxSigned64 = 2 ^ 63 - 1 := rfl
  have hnext : w.nextOffset ≤ w.offset + w.limit := Nat.min_le_left _ _
  have hmem := List.mem_of_find?_eq_some h
  simp only [decide_eq_true_eq] at hlt
  simp only [List.mem_cons, List.not_mem_nil, or_false] at hmem
  omega

end Window

/-- A window that ends beyond the signed numbers is refused without a call. -/
theorem listAccounts_refuses {w : Window} (h : 2 ^ 63 - 1 < w.offset + w.limit) (store : Store) :
    (listAccounts store w).Keeps conversation
      (fun calls outcome => calls = [] ∧ FailsWith .invalidRequest outcome) [] := by
  obtain ⟨f, hargs⟩ := Window.args_eq_error h
  simp only [listAccounts, Program.now, Program.ask, Program.bind_eq, Program.pure_eq_done,
    Program.perform_bind, Program.done_bind]
  refine ⟨trivial, fun now _ => ?_⟩
  rw [hargs]
  exact ⟨rfl, f, rfl, Window.args_error hargs⟩

/-! ## The numbers that are bound -/

/-- The statements of a listing in order, each with what it is used for. -/
def listingSteps (skipped most next : Int64) : List (String × Work) :=
  [(Statements.countAccounts, .row []),
    (Statements.findAccounts, .rows [.int skipped, .int most]),
    (Statements.hasAccountsAfter, .row [.int next])]

/-- The calls of a listing that binds these numbers: one use of a statement after the other, in
order, at least one and as far as they go. A listing that succeeds has used all of them. -/
def ListingCourse (skipped most next : Int64) (calls : List Exchange)
    (outcome : Except Failure Listing) : Prop :=
  ∃ d uses, uses ≠ [] ∧ (∀ page, outcome = .ok page → uses.length = 3) ∧ calls = uses.flatten ∧
    List.Forall₂ (fun step use => ∃ reply, StatementUse none d step.1 step.2 use reply)
      ((listingSteps skipped most next).take uses.length) uses

/-- A step is one use of its statement. -/
theorem Step.Ends.use {β : Type} {step : Step β} {within : Option Transaction} {d : Deadline}
    {calls : List Exchange} {outcome : Except StoreError β}
    (h : step.Ends within d calls outcome) :
    ∃ reply, StatementUse within d step.query step.work calls reply := by
  obtain ⟨reply, use, -⟩ := h
  exact ⟨reply, use⟩

/-! ## The number that is counted -/

/-- The answer to the query that counts the accounts, which is the first of a listing. -/
def Counted (calls : List Exchange) (found : Option Row) : Prop :=
  ∃ d p rest, calls = ⟨.prepare none d Statements.countAccounts, .ok p⟩ ::
    ⟨.queryRow (p.statement none) d [], .ok found⟩ :: rest

/-- The count that an answer holds in its first column; no row counts as 0. -/
def CountIs (found : Option Row) (n : Int) : Prop :=
  match found with
  | none => n = 0
  | some row => ∃ value : Int64, row.columns[0]? = some (.int value) ∧ value.toInt = n

theorem countIs_iff {found : Option Row} {n : Int} :
    CountIs found n ↔
      ∃ value : Int64, Step.count.read found = .ok value ∧ value.toInt = n := by
  cases found with
  | none =>
    have hread : Step.count.read none = .ok 0 := rfl
    constructor
    · rintro rfl
      exact ⟨0, hread, rfl⟩
    · rintro ⟨value, hvalue, rfl⟩
      cases hread.symm.trans hvalue
      rfl
  | some row =>
    have hread : Step.count.read (some row) = row.integer 0 := rfl
    unfold CountIs
    simp only [hread, Row.integer_eq_ok_iff]

/-- There is only one answer to the query that counts. -/
theorem Counted.unique {calls : List Exchange} {found found' : Option Row}
    (h : Counted calls found) (h' : Counted calls found') : found = found' := by
  obtain ⟨d, p, rest, rfl⟩ := h
  obtain ⟨d', p', rest', heq⟩ := h'
  simp only [List.cons.injEq, Sigma.mk.injEq, Call.queryRow.injEq] at heq
  obtain ⟨-, ⟨⟨-, -, -⟩, hanswer⟩, -⟩ := heq
  exact Except.ok.inj (eq_of_heq hanswer)

/-- A step that counts and ends well has read its number from the answer. -/
theorem Step.Ends.counted {d : Deadline} {counts rest : List Exchange} {n : Int64}
    (h : Step.count.Ends none d counts (.ok n)) :
    ∃ found, Counted (counts ++ rest) found ∧ CountIs found n.toInt := by
  obtain ⟨p, found, hread, rfl⟩ := h.calls_of_ok
  exact ⟨found, ⟨d, p, _, rfl⟩, countIs_iff.mpr ⟨n, hread, rfl⟩⟩

/-! ## Listings within the signed numbers -/

namespace ListingDecision

variable {w : Window} {calls : List Exchange} {outcome : Except Failure Listing}

/-- The numbers bound are those of the window, whatever comes of the listing, and a listing that
succeeds binds all of them. -/
theorem course (h : ListingDecision w calls outcome) (hw : w.offset + w.limit ≤ 2 ^ 63 - 1) :
    ListingCourse (.ofNat w.offset) (.ofNat w.limit) (.ofNat (w.offset + w.limit)) calls
      outcome := by
  have hargs := Window.args_eq_ok (w := w) (by omega)
  cases h with
  | unrepresentable first told => exact absurd (Window.lt_of_find?_positions first) (by omega)
  | uncounted counted told =>
    exact ⟨_, [_], by simp, nofun, by simp, .cons counted.use .nil⟩
  | negative counted below told =>
    exact ⟨_, [_], by simp, nofun, by simp, .cons counted.use .nil⟩
  | unread counted above bound read told =>
    cases hargs.symm.trans bound
    exact ⟨_, [_, _], by simp, nofun, by simp, .cons counted.use (.cons read.use .nil)⟩
  | unprobed counted above bound read more told =>
    cases hargs.symm.trans bound
    exact ⟨_, [_, _, _], by simp, nofun, by simp,
      .cons counted.use (.cons read.use (.cons more.use .nil))⟩
  | listed counted above bound read more =>
    cases hargs.symm.trans bound
    exact ⟨_, [_, _, _], by simp, fun _ _ => rfl, by simp,
      .cons counted.use (.cons read.use (.cons more.use .nil))⟩

/-- A listing fails as something internal, unless its window cannot be bound. -/
theorem code_of_error {f : Failure} (h : ListingDecision w calls (.error f)) :
    f.code = .internal ∨ (calls = [] ∧ 2 ^ 63 - 1 < w.offset + w.limit) := by
  cases h with
  | unrepresentable first told => exact .inr ⟨rfl, Window.lt_of_find?_positions first⟩
  | uncounted counted told => exact .inl told.code_eq
  | negative counted below told => exact .inl told.code_eq
  | unread counted above bound read told => exact .inl told.code_eq
  | unprobed counted above bound read more told => exact .inl told.code_eq

/-- The total of a page is the number that the store counted. -/
theorem total_eq {page : Listing} (h : ListingDecision w calls (.ok page)) :
    ∃ found, Counted calls found ∧ CountIs found page.total := by
  cases h with
  | listed counted above bound read more =>
    obtain ⟨found, hcounted, hcount⟩ := counted.counted
    rw [← Int.toNat_of_nonneg above] at hcount
    rw [List.append_assoc]
    exact ⟨found, hcounted, hcount⟩

/-- A count below 0 is never the total of a page, but something internal. -/
theorem internal_of_negative (h : ListingDecision w calls outcome) {found : Option Row} {n : Int}
    (hcounted : Counted calls found) (hcount : CountIs found n) (below : n < 0) :
    FailsWith .internal outcome := by
  cases outcome with
  | error f =>
    rcases h.code_of_error with hcode | ⟨rfl, -⟩
    · exact ⟨f, rfl, hcode⟩
    · -- Where the window is what failed, nothing was counted.
      obtain ⟨d, p, rest, heq⟩ := hcounted
      cases heq
  | ok page =>
    obtain ⟨found', hcounted', hcount'⟩ := h.total_eq
    cases hcounted.unique hcounted'
    obtain ⟨value, hvalue, rfl⟩ := countIs_iff.mp hcount
    obtain ⟨value', hvalue', htotal⟩ := countIs_iff.mp hcount'
    cases hvalue.symm.trans hvalue'
    omega

end ListingDecision

/-! ## Services -/

namespace Service

/-- Whatever the store answers, and whatever lies between it and the service: a listing is an
invalid request exactly if its window, of the limit that the request gets, ends beyond the signed
numbers of 64 bits, and then the store is not called. Otherwise the search is given the offset and
the limit, and the probe their sum, as they are, if the listing gets as far as these: it uses one
statement after the other, and all three of them if it succeeds. The total of a page is the number
in the first column of the row that the store counted, or 0 without a row, and a number below 0 is
something internal. -/
theorem stacked_binds_exactly {σ : Type} (m : Machine σ) (s : σ) {layers : List Layer}
    {reporters : List Clock} {ids : Identifiers} {clock : Clock}
    (hlayers : ∀ layer ∈ layers, layer.Quiet) (hreporters : ∀ reporter ∈ reporters, reporter.Quiet)
    (hids : ids.Quiet) (hclock : clock.Quiet) (database user : String) (limit offset : UInt64) :
    let listing := (stacked layers reporters database user ids clock).list (.ofNumbers limit offset)
    let calls := listing.exchanges m s
    let outcome := (listing.run m s).1
    let size := Window.effectiveLimit limit.toNat
    (FailsWith .invalidRequest outcome ↔ 2 ^ 63 - 1 < offset.toNat + size) ∧
      (2 ^ 63 - 1 < offset.toNat + size → calls = []) ∧
      (offset.toNat + size ≤ 2 ^ 63 - 1 → ∃ skipped most next : Int64,
        skipped.toInt = offset.toNat ∧ most.toInt = size ∧ next.toInt = offset.toNat + size ∧
          ListingCourse skipped most next calls outcome) ∧
      (∀ page, outcome = .ok page → ∃ found, Counted calls found ∧ CountIs found page.total) ∧
      ∀ found n, Counted calls found → CountIs found n → n < 0 → FailsWith .internal outcome := by
  intro listing calls outcome size
  have hservice : Decorates (.ofStore (.direct database user) ids clock)
      (stacked layers reporters database user ids clock) :=
    stacked_decorates hlayers hreporters hids hclock database user
  have hkept {post : List Exchange → Except Failure Listing → Prop}
      (h : (listAccounts (.direct database user) (.ofNumbers limit offset)).Keeps conversation
        post []) : post calls outcome :=
    Program.exchanges_of_keeps
      ((hservice.list _).keeps_asides conversation_ignoresAsides h) m s
  have hdecided : ListingDecision (.ofNumbers limit offset) calls outcome :=
    hkept (listAccounts_decides _)
  have hrefused (h : 2 ^ 63 - 1 < offset.toNat + size) :
      calls = [] ∧ FailsWith .invalidRequest outcome :=
    hkept (listAccounts_refuses (w := .ofNumbers limit offset) h _)
  refine ⟨⟨?_, fun h => (hrefused h).2⟩, fun h => (hrefused h).1, ?_, ?_, ?_⟩
  · rintro ⟨f, hf, hcode⟩
    rw [hf] at hdecided
    rcases hdecided.code_of_error with hinternal | ⟨-, hlt⟩
    · rw [hcode] at hinternal
      cases hinternal
    · exact hlt
  · intro h
    have hlt {n : Nat} (hn : n ≤ offset.toNat + size) : (Int64.ofNat n).toInt = n :=
      Int64.toInt_ofNat_of_lt (by omega)
    exact ⟨_, _, _, hlt (Nat.le_add_right _ _), hlt (Nat.le_add_left _ _), hlt (le_refl _),
      hdecided.course h⟩
  · intro page hpage
    rw [hpage] at hdecided
    exact hdecided.total_eq
  · intro found n hcounted hcount below
    exact hdecided.internal_of_negative hcounted hcount below

/-- With two accounts in the store, the last window that can be bound is listed, and the one after
it is refused. -/
theorem stacked_binds_exactly_of_last :
    let layers := [Layer.metered (.kept 0), .logged .wall]
    let service := stacked layers [.wall] "accounts" "svc" .fresh .wall
    let store := shelf [⟨[.null]⟩, ⟨[.null]⟩]
    let outcome (offset : UInt64) := ((service.list (.ofNumbers 0 offset)).run store ()).1
    let calls (offset : UInt64) := (service.list (.ofNumbers 0 offset)).exchanges store ()
    (∀ layer ∈ layers, layer.Quiet) ∧ (∀ reporter ∈ [Clock.wall], reporter.Quiet) ∧
      Identifiers.fresh.Quiet ∧ Clock.wall.Quiet ∧
      (∃ skipped most next : Int64, skipped.toInt = 9223372036854775787 ∧ most.toInt = 20 ∧
        next.toInt = 9223372036854775807 ∧
          ListingCourse skipped most next (calls 9223372036854775787)
            (outcome 9223372036854775787)) ∧
      (∃ page found, outcome 9223372036854775787 = .ok page ∧ page.total = 2 ∧
        Counted (calls 9223372036854775787) found ∧ CountIs found page.total) ∧
      FailsWith .invalidRequest (outcome 9223372036854775788) ∧
      calls 9223372036854775788 = [] := by
  intro layers service store outcome calls
  have hlayers : ∀ layer ∈ layers, layer.Quiet :=
    List.forall_mem_cons.mpr ⟨Layer.metered_quiet _,
      List.forall_mem_singleton.mpr (Layer.logged_quiet Clock.wall_quiet)⟩
  have hreporters : ∀ reporter ∈ [Clock.wall], reporter.Quiet :=
    List.forall_mem_singleton.mpr Clock.wall_quiet
  obtain ⟨-, -, hbound, hcounted, -⟩ := stacked_binds_exactly store () hlayers hreporters
    Identifiers.fresh_quiet Clock.wall_quiet "accounts" "svc" 0 9223372036854775787
  obtain ⟨hrefused, hcalls, -, -, -⟩ := stacked_binds_exactly store () hlayers hreporters
    Identifiers.fresh_quiet Clock.wall_quiet "accounts" "svc" 0 9223372036854775788
  have htotal : (outcome 9223372036854775787).toOption.map (·.total) = some 2 := by
    decide +kernel
  refine ⟨hlayers, hreporters, Identifiers.fresh_quiet, Clock.wall_quiet, hbound (by decide), ?_,
    hrefused.mpr (by decide), hcalls (by decide)⟩
  cases houtcome : outcome 9223372036854775787 with
  | error f =>
    rw [houtcome] at htotal
    cases htotal
  | ok page =>
    rw [houtcome] at htotal
    obtain ⟨found, hfound, hcount⟩ := hcounted page houtcome
    exact ⟨page, found, rfl, Option.some.inj htotal, hfound, hcount⟩

end Service

end UserAccounts
