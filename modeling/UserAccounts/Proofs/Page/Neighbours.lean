import UserAccounts.Proofs.Page.Links

/-!
# Links to the neighbours of a page

The links of a page that is not the last and not the first lead to the pages after and before it,
whatever the base of the links looks like (`build_leads_to_neighbours`):

* `windowOfQuery?_pageUrl` — the query of a link is read as the window that the link was made for;
* `withoutQuery_pageUrl` — without that query, a link is the link to the collection;
* `movedTo_back` — the page before the page after is the page itself.

The resolved path may bring a fragment with it: it stays where it is, behind the query.
-/

namespace UserAccounts

namespace Url

/-- A written URL without its query. -/
def withoutQuery (link : String) : String :=
  match breakAt endsPath link.toList with
  | (before, '?' :: rest) => String.ofList (before ++ (breakAt (· == '#') rest).2)
  | _ => link

namespace Queryless

variable {u : Url} (h : Queryless u) {pairs : List (String × String)}

include h

theorem text_eq : u.text = String.ofList (u.base.toList ++ (marked "#" u.fragment).toList) := by
  apply String.toList_injective
  rw [Url.text, h.query]
  simp [marked]

/-- There is nothing to take away where there is no query. -/
theorem withoutQuery_text : withoutQuery u.text = u.text := by
  unfold withoutQuery
  rw [h.breakAt_text]
  cases u.fragment with
  | none => rfl
  | some fragment => simp [marked]

/-- Without the pairs that were added to it, a URL is what it was before. -/
theorem withoutQuery_addPairs (hpairs : ∀ p ∈ pairs, Form.PlainPair p) :
    withoutQuery (u.addPairs pairs).text = u.text := by
  unfold withoutQuery
  rw [h.breakAt_text_addPairs]
  show String.ofList (u.base.toList ++ (breakAt (· == '#') (queryText pairs ++ _)).2) = _
  rw [breakAt_queryText hpairs, h.text_eq]

end Queryless

end Url

namespace PageLinks

open Http (windowOfQuery?)
open UserAccounts.Url (queryOf withoutQuery)

/-- Without its query, a link to a page is the link to the collection. -/
theorem withoutQuery_pageUrl {collection : Url} (h : collection.Queryless) (w : Window)
    {start : Nat} (hstart : start < UInt64.size) :
    withoutQuery (pageUrl collection w.limit start).text = collection.text := by
  have hlimit : w.limit < UInt64.size := Nat.lt_of_le_of_lt w.limit_le (by decide)
  unfold pageUrl
  split
  · exact h.withoutQuery_text
  · apply h.withoutQuery_addPairs
    rw [pagePairs_eq hlimit hstart]
    exact Http.plain_numberPairs _ _

theorem nextOffset_lt (w : Window) : w.nextOffset < UInt64.size :=
  Nat.lt_of_le_of_lt (Nat.min_le_right _ _) (by decide)

theorem previousOffset_lt (w : Window) : w.previousOffset < UInt64.size :=
  Nat.lt_of_le_of_lt (Nat.sub_le _ _) w.offset_lt

theorem nextOffset_eq_of_lt {w : Window} (h : w.offset + w.limit < UInt64.size) :
    w.nextOffset = w.offset + w.limit :=
  Nat.min_eq_left (Nat.le_pred_of_lt h)

/-- The page before the page after is the page itself, if the page after can be named. -/
theorem movedTo_back {w next : Window} (h : w.offset + w.limit < UInt64.size)
    (hnext : next = w.movedTo w.nextOffset (nextOffset_lt w)) :
    next.movedTo next.previousOffset (previousOffset_lt next) = w := by
  have hoffset : next.previousOffset = w.offset := by
    rw [hnext]
    show w.nextOffset - w.limit = w.offset
    rw [nextOffset_eq_of_lt h, Nat.add_sub_cancel]
  have hlimit : next.limit = w.limit := by
    rw [hnext]
    rfl
  unfold Window.movedTo
  simp only [hoffset, hlimit]

/-- Links are made exactly of the collection that the path resolves to. -/
theorem build_eq_ok_iff {base : Url} {path : String} {w : Window} {hasNext : Bool}
    {links : PageLinks} :
    build base path w hasNext = .ok links ↔
      ∃ collection, base.join path = .ok collection ∧
        ofCollection base collection w hasNext = links := by
  unfold build
  cases base.join path with
  | error cause => simp
  | ok collection => simp

/-- A link asks for a page of some size from some start on. -/
def Asks (link : String) (limit start : Nat) : Prop :=
  ∃ w, windowOfQuery? (queryOf link) = some w ∧ w.limit = limit ∧ w.offset = start

/-- Whatever base and path the links of a page are made of, as long as they bring no query of their
own: there is a link to the page after exactly if there is one, and to the page before exactly if
the page is not the first. Either link asks for a page of the same size, from the end of this page
on, or as much before it as there is. Without its query a link is the link to the collection. From
the page after, the link to the page before leads back. -/
theorem build_leads_to_neighbours {base : Url} {path : String} {w : Window} {hasNext : Bool}
    {links : PageLinks} (hbase : base.Read)
    (hquery : ∀ collection, base.join path = .ok collection → collection.query = none)
    (hlinks : build base path w hasNext = .ok links) :
    links.next.isSome = hasNext ∧
      (links.previous.isSome = true ↔ 0 < w.offset) ∧
      (∀ link ∈ links.next, Asks link w.limit (min (w.offset + w.limit) (2 ^ 64 - 1))) ∧
      (∀ link ∈ links.previous, Asks link w.limit (w.offset - w.limit)) ∧
      (∀ link, link ∈ links.next ∨ link ∈ links.previous →
        withoutQuery link = links.collection) ∧
      (w.offset + w.limit < 2 ^ 64 → ∀ link ∈ links.next, ∀ w',
        windowOfQuery? (queryOf link) = some w' → ∀ hasNext', ∃ links' back,
          build base path w' hasNext' = .ok links' ∧ links'.previous = some back ∧
            windowOfQuery? (queryOf back) = some w) := by
  obtain ⟨collection, hjoin, rfl⟩ := build_eq_ok_iff.mp hlinks
  have hclean : collection.Queryless :=
    ⟨hquery collection hjoin, (Url.clean_join hbase.clean hjoin).unmarked_base⟩
  -- The two links are the links to pages with the starts after and before this one.
  have hnext : ∀ link ∈ (ofCollection base collection w hasNext).next,
      link = (pageUrl collection w.limit w.nextOffset).text := by
    intro link hlink
    cases hasNext with
    | false => cases hlink
    | true => exact (Option.mem_some.mp hlink).symm
  have hprevious : ∀ link ∈ (ofCollection base collection w hasNext).previous,
      link = (pageUrl collection w.limit w.previousOffset).text := by
    intro link hlink
    exact (Option.some.inj (Option.ite_none_right_eq_some.mp hlink).2).symm
  refine ⟨?next, ?previous, ?after, ?before, ?stripped, ?back⟩
  case next => cases hasNext <;> rfl
  case previous =>
    show (if 0 < w.offset then _ else none : Option String).isSome = true ↔ _
    by_cases hoffset : 0 < w.offset <;> simp [hoffset]
  case after =>
    intro link hlink
    rw [hnext link hlink]
    exact ⟨_, windowOfQuery?_pageUrl hclean w (nextOffset_lt w), rfl, rfl⟩
  case before =>
    intro link hlink
    rw [hprevious link hlink]
    exact ⟨_, windowOfQuery?_pageUrl hclean w (previousOffset_lt w), rfl, rfl⟩
  case stripped =>
    intro link hlink
    rcases hlink with hlink | hlink
    · rw [hnext link hlink]
      exact withoutQuery_pageUrl hclean w (nextOffset_lt w)
    · rw [hprevious link hlink]
      exact withoutQuery_pageUrl hclean w (previousOffset_lt w)
  case back =>
    intro hbound link hlink w' hw' hasNext'
    have hmoved := windowOfQuery?_pageUrl hclean w (nextOffset_lt w)
    rw [← hnext link hlink, hw'] at hmoved
    have heq := Option.some.inj hmoved
    have hoffset : 0 < w'.offset := by
      rw [heq]
      show 0 < w.nextOffset
      rw [nextOffset_eq_of_lt hbound]
      exact Nat.lt_of_lt_of_le w.limit_pos (Nat.le_add_left _ _)
    refine ⟨_, _, build_eq_ok_iff.mpr ⟨collection, hjoin, rfl⟩, if_pos hoffset, ?_⟩
    rw [windowOfQuery?_pageUrl hclean w' (previousOffset_lt w'), movedTo_back hbound heq]

/-- A base with a port, a path, a query and a fragment. -/
def crowdedBase : Url :=
  ⟨"http", some ⟨"", "", .name "example.com", some 8080⟩, .segments ["app", ""], some "x=1",
    some "top"⟩

/-- A fragment of the path stays behind the queries of both links. -/
theorem build_leads_to_neighbours_of_fragment :
    build crowdedBase "accounts#list" (.ofNumbers 10 30) true = .ok
        ⟨"http://example.com:8080/app/?x=1#top", "http://example.com:8080/app/accounts#list",
          some "http://example.com:8080/app/accounts?limit=10&start=40#list",
          some "http://example.com:8080/app/accounts?limit=10&start=20#list"⟩ ∧
      Asks "http://example.com:8080/app/accounts?limit=10&start=40#list" 10 40 ∧
      Asks "http://example.com:8080/app/accounts?limit=10&start=20#list" 10 20 ∧
      withoutQuery "http://example.com:8080/app/accounts?limit=10&start=20#list" =
        "http://example.com:8080/app/accounts#list" := by
  have hbase : crowdedBase.Read :=
    .parsed (s := "http://example.com:8080/app/?x=1#top") (by decide +kernel)
  have hjoin : crowdedBase.join "accounts#list" = .ok
      ⟨"http", some ⟨"", "", .name "example.com", some 8080⟩, .segments ["app", "accounts"], none,
        some "list"⟩ := by
    decide +kernel
  have hquery : ∀ collection, crowdedBase.join "accounts#list" = .ok collection →
      collection.query = none := by
    intro collection h
    rw [hjoin] at h
    cases h
    rfl
  have hlinks : build crowdedBase "accounts#list" (.ofNumbers 10 30) true = .ok
      ⟨"http://example.com:8080/app/?x=1#top", "http://example.com:8080/app/accounts#list",
        some "http://example.com:8080/app/accounts?limit=10&start=40#list",
        some "http://example.com:8080/app/accounts?limit=10&start=20#list"⟩ := by
    decide +kernel
  obtain ⟨-, -, hnext, hprevious, hstripped, -⟩ := build_leads_to_neighbours hbase hquery hlinks
  exact ⟨hlinks, hnext _ rfl, hprevious _ rfl, hstripped _ (.inr rfl)⟩

end PageLinks

end UserAccounts
