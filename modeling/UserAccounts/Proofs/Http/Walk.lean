import UserAccounts.Http.App
import UserAccounts.Proofs.Account.Listing
import UserAccounts.Proofs.Page.Links

/-!
# Walking through the accounts

A client that asks for the accounts and goes on with the link to the next page until there is none
gets every account from the starting position on, in order and once (`walk_gets_all`):

* `answers_page` — what one request gets, whoever else is served in between;
* `Walk` — the pages that a client gets one after the other;
* `walk_from` — by induction on how much of the list is left, the walk ends and its pages make up
  the rest of the list.
-/

namespace UserAccounts.Http

/-! ## Requests for the accounts -/

/-- The target of a request for accounts with a query. -/
def listingTarget (query : String) : String :=
  if query.isEmpty then accountsPath else accountsPath ++ "?" ++ query

theorem parse_listingTarget {query : String} (h : '#' ∉ query.toList) :
    Target.parse (listingTarget query) = ⟨accountsPath, query⟩ := by
  unfold listingTarget
  by_cases hempty : query.isEmpty = true
  · rw [if_pos hempty, String.isEmpty_iff.mp hempty]
    rfl
  · have hchars : (accountsPath ++ "?" ++ query).toList =
        accountsPath.toList ++ '?' :: query.toList := by
      simp
    -- The target begins with a slash, so there is no scheme to be skipped.
    have hlocal : Target.local? (accountsPath.toList ++ '?' :: query.toList) =
        accountsPath.toList ++ '?' :: query.toList := rfl
    have hpath : Url.Unmarked accountsPath.toList := by decide
    have hbreak : Url.breakAt (fun c => c == '?' || c == '#')
        (accountsPath.toList ++ '?' :: query.toList) = (accountsPath.toList, '?' :: query.toList) :=
      Url.breakAt_append_cons hpath rfl
    rw [if_neg hempty]
    unfold Target.parse
    rw [hchars, hlocal, hbreak]
    show Target.mk _ (String.ofList (Url.breakAt (· == '#') query.toList).1) = _
    rw [Url.breakAt_of_not_mem h, String.ofList_toList]
    rfl

/-- The path of the accounts names their place, whatever the query. -/
theorem ofPath?_accountsPath (query : String) :
    Place.ofPath? (Target.matched ⟨accountsPath, query⟩) = some .accounts := by
  show Place.ofPath?
    (Text.Utf8.decodeLossy (Target.unescape Target.isProtectedInPath accountsPath.toList)) = _
  decide +kernel

theorem route?_listing {r : Request} {query : String} (h : '#' ∉ query.toList)
    (hmethod : r.method = "GET") (htarget : r.target = listingTarget query) :
    r.route? = some .list := by
  unfold Request.route?
  rw [htarget, parse_listingTarget h, ofPath?_accountsPath, hmethod]
  rfl

/-! ## Answers -/

section Answers

variable {rows : List Row} {accounts : List Account} {database user : String} {ids : Identifiers}
  {clock : Clock} {base collection : Url} {w : Window} {query : String} {r : Request}

/-- The page of a list of accounts that a window shows. -/
def pageAt (base collection : Url) (accounts : List Account) (w : Window) : Page AccountView :=
  pageOf (.ofCollection base collection w (listingOf accounts w).hasNext) (listingOf accounts w)

/-- The application on top of a store that it reaches without detours. -/
def directApp (database user : String) (ids : Identifiers) (clock : Clock) (base : Url) : App :=
  ⟨.ofStore (.direct database user) ids clock, base⟩

theorem yields_handle (health : Health) (hquery : '#' ∉ query.toList)
    (hwindow : windowOfQuery? query = some w)
    (hmethod : r.method = "GET") (htarget : r.target = listingTarget query)
    (hjoin : base.join accountsPath = .ok collection)
    (hrows : List.Forall₂ (fun row a => Account.ofRow row = .ok a) rows accounts)
    (hcount : accounts.length < 2 ^ 63) (hw : w.offset + w.limit < 2 ^ 63) :
    Yields (ListingAnswers rows) ((directApp database user ids clock base).handle health r)
      (.json 200 (pageAt base collection accounts w)) := by
  unfold App.handle
  rw [route?_listing hquery hmethod htarget]
  show Yields (ListingAnswers rows) ((directApp database user ids clock base).list r) _
  unfold App.list
  rw [htarget, parse_listingTarget hquery, hwindow]
  refine (yields_listAccounts hrows hcount hw).bind ?_
  dsimp only [directApp]
  unfold PageLinks.build
  rw [hjoin]
  exact ⟨rfl⟩

/-- Tracking adds the identifier of the request to a response and nothing else. -/
theorem run_respondTracked {σ : Type} {m : Machine σ} {p : Program Response}
    {response : Response} (hp : Yields (ListingAnswers rows) p response)
    (hm : ∀ s e, ListingAnswers rows e (m.step s e).1) (r : Request) (s : σ) :
    ∃ id : RequestId, ((respondTracked r p).run m s).1 =
      response.withHeader requestIdHeader id.text := by
  have hduring (id : RequestId) (s : σ) : ((p.duringRequest id).run m s).1 = response :=
    (hp.duringRequest trivial).run hm s
  -- The identifier is the one that the request brings, or else a fresh one.
  refine ⟨(r.identify.run m s).1, ?_⟩
  unfold respondTracked tracked
  simp only [Program.bind_eq, Program.pure_eq_done, Program.run_bind, Program.run_done, hduring]

/-- Whoever asks for a target gets a page: whatever else the request says, and whatever has been
answered before. -/
def Answers {σ : Type} (app : App) (health : Health) (m : Machine σ) (target : String)
    (page : Page AccountView) : Prop :=
  ∀ (s : σ) (r : Request), r.method = "GET" → r.target = target →
    ∃ id : RequestId, ((app.serve health r).run m s).1 =
      (Response.json 200 page).withHeader requestIdHeader id.text

theorem answers_page {σ : Type} {m : Machine σ} (health : Health)
    (hm : ∀ s e, ListingAnswers rows e (m.step s e).1) (hquery : '#' ∉ query.toList)
    (hwindow : windowOfQuery? query = some w) (hjoin : base.join accountsPath = .ok collection)
    (hrows : List.Forall₂ (fun row a => Account.ofRow row = .ok a) rows accounts)
    (hcount : accounts.length < 2 ^ 63) (hw : w.offset + w.limit < 2 ^ 63) :
    Answers (directApp database user ids clock base) health m (listingTarget query)
      (pageAt base collection accounts w) := by
  intro s r hmethod htarget
  have hhandle : Yields (ListingAnswers rows)
      ((directApp database user ids clock base).handle health r) _ :=
    yields_handle health hquery hwindow hmethod htarget hjoin hrows hcount hw
  exact run_respondTracked hhandle hm r s

end Answers

/-! ## The walk -/

/-- The pages that a client gets who begins with a target and goes on with the query of the link to
the next page until there is none. -/
inductive Walk {σ : Type} (app : App) (health : Health) (m : Machine σ) :
    String → List (Page AccountView) → Prop
  | last {target : String} {page : Page AccountView} (answered : Answers app health m target page)
      (ends : page.links.next = none) : Walk app health m target [page]
  | more {target link : String} {page : Page AccountView} {pages : List (Page AccountView)}
      (answered : Answers app health m target page) (goesOn : page.links.next = some link)
      (rest : Walk app health m (listingTarget (Url.queryOf link)) pages) :
      Walk app health m target (page :: pages)

/-- How many pages of a size it takes to show what is left of a number of elements, at least one. -/
def pageCount (total start limit : Nat) : Nat :=
  max 1 ((total - min start total + (limit - 1)) / limit)

theorem pageCount_of_le {total start limit : Nat} (hlimit : 1 ≤ limit)
    (h : total ≤ start + limit) : pageCount total start limit = 1 := by
  have hleft : total - min start total + (limit - 1) < limit * 2 := by omega
  have hquot := Nat.div_lt_of_lt_mul hleft
  unfold pageCount
  omega

theorem pageCount_of_lt {total start limit : Nat} (hlimit : 1 ≤ limit)
    (h : start + limit < total) :
    pageCount total start limit = pageCount total (start + limit) limit + 1 := by
  have hleft : total - min start total + (limit - 1) =
      total - min (start + limit) total + (limit - 1) + limit := by omega
  have hpos : 1 ≤ (total - min (start + limit) total + (limit - 1)) / limit :=
    (Nat.one_le_div_iff hlimit).mpr (by omega)
  unfold pageCount
  rw [hleft, Nat.add_div_right _ hlimit]
  omega

section Walking

variable {σ : Type} {m : Machine σ} {rows : List Row} {accounts : List Account}
  {database user : String} {ids : Identifiers} {clock : Clock} {base collection : Url}

theorem pageAt_next_of_le {w : Window} (h : accounts.length ≤ w.offset + w.limit) :
    (pageAt base collection accounts w).links.next = none :=
  if_neg (by simpa [listingOf] using h)

theorem pageAt_next_of_lt {w : Window} (h : w.offset + w.limit < accounts.length) :
    (pageAt base collection accounts w).links.next =
      some (PageLinks.pageUrl collection w.limit w.nextOffset).text :=
  if_pos (by simpa [listingOf] using h)

/-- From every window the walk ends, and its pages make up the rest of the list. -/
theorem walk_from (health : Health) (hm : ∀ s e, ListingAnswers rows e (m.step s e).1)
    (hjoin : base.join accountsPath = .ok collection) (hbare : collection.Bare)
    (hrows : List.Forall₂ (fun row a => Account.ofRow row = .ok a) rows accounts)
    (hcount : accounts.length ≤ 2 ^ 62) (w : Window) (hw : w.offset ≤ 2 ^ 62) {query : String}
    (hquery : '#' ∉ query.toList) (hwindow : windowOfQuery? query = some w) :
    ∃ pages,
      Walk (directApp database user ids clock base) health m (listingTarget query) pages ∧
      pages.length = pageCount accounts.length w.offset w.limit ∧
      (∀ page ∈ pages, page.total = accounts.length) ∧
      pages.flatMap (·.data) = (accounts.drop w.offset).map .ofAccount := by
  -- The induction is on how many accounts are left; every page but the last makes them fewer.
  induction hleft : accounts.length - w.offset using Nat.strongRecOn generalizing w query with
  | _ left ih =>
    have hpos := w.limit_pos
    have hle := w.limit_le
    have hwithin : w.offset + w.limit < 2 ^ 63 := by omega
    have hpage : Answers (directApp database user ids clock base) health m (listingTarget query)
        (pageAt base collection accounts w) :=
      answers_page health hm hquery hwindow hjoin hrows (by omega) hwithin
    by_cases hmore : w.offset + w.limit < accounts.length
    · have hnext : w.nextOffset = w.offset + w.limit := Window.nextOffset_eq hwithin
      have hsize : w.nextOffset < UInt64.size := by
        rw [hnext]
        exact Nat.lt_of_lt_of_le hwithin (by decide)
      obtain ⟨pages, hwalk, hlength, htotal, hdata⟩ :=
        ih (accounts.length - w.nextOffset) (by omega) (w.movedTo w.nextOffset hsize)
          (show w.nextOffset ≤ 2 ^ 62 by omega) (Url.not_mem_queryOf _)
          (PageLinks.windowOfQuery?_pageUrl hbare.queryless w hsize) rfl
      refine ⟨pageAt base collection accounts w :: pages,
        .more hpage (pageAt_next_of_lt hmore) hwalk, ?_, ?_, ?_⟩
      · rw [List.length_cons, hlength, pageCount_of_lt hpos hmore, ← hnext]
        rfl
      · exact List.forall_mem_cons.mpr ⟨rfl, htotal⟩
      · have hrest : pages.flatMap (·.data) =
            (accounts.drop (w.offset + w.limit)).map .ofAccount := by
          rw [hdata, ← hnext]
          rfl
        rw [List.flatMap_cons, hrest]
        show ((accounts.drop w.offset).take w.limit).map AccountView.ofAccount ++ _ = _
        rw [← List.map_append, ← List.drop_drop, List.take_append_drop]
    · have hend : accounts.length ≤ w.offset + w.limit := Nat.le_of_not_lt hmore
      refine ⟨[pageAt base collection accounts w], .last hpage (pageAt_next_of_le hend), ?_, ?_, ?_⟩
      · exact (pageCount_of_le hpos hend).symm
      · exact List.forall_mem_cons.mpr ⟨rfl, nofun⟩
      · rw [List.flatMap_singleton]
        show ((accounts.drop w.offset).take w.limit).map AccountView.ofAccount = _
        rw [List.take_of_length_le]
        rw [List.length_drop]
        omega

/-- A URL that the path of the accounts is joined to becomes a bare one. -/
theorem bare_collection_of_read (hbase : base.Read)
    (hjoin : base.join accountsPath = .ok collection) : collection.Bare := by
  have hpath : Url.significantChars accountsPath = accountsPath.toList := by decide
  refine Url.bare_join hbase.clean hpath rfl ?_ hjoin
  decide

theorem bare_collection {text : String} (hbase : Url.parse text = .ok base)
    (hjoin : base.join accountsPath = .ok collection) : collection.Bare :=
  bare_collection_of_read (.parsed hbase) hjoin

/-- From every start and with every limit, the walk ends after as many pages as the rest of the list
fills. Each page tells the number of all accounts, and together they hold the rest of the list,
every account once and in order. -/
theorem walk_gets_all (health : Health) (database user : String) (ids : Identifiers) (clock : Clock)
    (hm : ∀ s e, ListingAnswers rows e (m.step s e).1)
    (hrows : List.Forall₂ (fun row a => Account.ofRow row = .ok a) rows accounts)
    (hcount : accounts.length ≤ 2 ^ 62) {text : String} (hbase : Url.parse text = .ok base)
    (hjoin : base.join accountsPath = .ok collection) (limit start : Option UInt64)
    (hstart : (start.getD 0).toNat ≤ 2 ^ 62) :
    ∃ pages,
      Walk (directApp database user ids clock base) health m
        (listingTarget (String.ofList (Url.queryText (numberPairs limit start)))) pages ∧
      pages.length = pageCount accounts.length (start.getD 0).toNat
        (Window.effectiveLimit (limit.getD 0).toNat) ∧
      (∀ page ∈ pages, page.total = accounts.length) ∧
      pages.flatMap (·.data) = (accounts.drop (start.getD 0).toNat).map .ofAccount := by
  refine walk_from health hm hjoin (bare_collection hbase hjoin) hrows hcount
    (.ofRequest limit start) hstart ?_ (windowOfQuery?_numberPairs limit start)
  rw [String.toList_ofList]
  exact Url.not_mem_queryText (plain_numberPairs limit start)

end Walking

/-- Two accounts of the same user. -/
def twoAccounts : List Account :=
  ["john", "doe"].map fun username =>
    ⟨⟨username⟩, username, ⟨⟨"user"⟩, "John", "Doe", .epoch⟩, .epoch⟩

def twoRows : List Row :=
  ["john", "doe"].map fun username =>
    ⟨[.text username, .text username, .int 0, .text "user", .text "John", .text "Doe", .int 0]⟩

/-- With one account to a page, two accounts take two pages. -/
theorem walk_gets_all_of_two :
    ∃ pages,
      Walk (directApp "accounts" "app" .fresh .wall
          ⟨"https", some ⟨"", "", .name "example.com", none⟩, .segments [""], none, none⟩)
        .starting (shelf twoRows) (listingTarget "limit=1") pages ∧
      pages.length = 2 ∧
      (∀ page ∈ pages, page.total = 2) ∧
      pages.flatMap (·.data) = twoAccounts.map .ofAccount := by
  have hrows : List.Forall₂ (fun row a => Account.ofRow row = .ok a) twoRows twoAccounts :=
    .cons rfl (.cons rfl .nil)
  have hbase : Url.parse "https://example.com/" = .ok
      ⟨"https", some ⟨"", "", .name "example.com", none⟩, .segments [""], none, none⟩ := by
    decide +kernel
  have hjoin : Url.join ⟨"https", some ⟨"", "", .name "example.com", none⟩, .segments [""], none,
      none⟩ accountsPath = .ok ⟨"https", some ⟨"", "", .name "example.com", none⟩,
        .segments ["api", "v1", "user-accounts"], none, none⟩ := by
    decide +kernel
  exact walk_gets_all .starting "accounts" "app" .fresh .wall (shelf_answers twoRows) hrows
    (by decide) hbase hjoin (some 1) none (by decide)

end UserAccounts.Http
