import UserAccounts.Config.Basic
import UserAccounts.Proofs.Account.Reporting
import UserAccounts.Proofs.Http.Walk
import UserAccounts.Proofs.Page.Neighbours
import UserAccounts.Proofs.Url.Hierarchy

/-!
# Which bases of links serve listings

A configuration is accepted if the base of its links is a URL, whatever URL it is. Listings need
more: the path of the accounts has to be joined to it (`PageLinks.exists_build_iff`). This cannot be
done to a URL like `localhost:8080`, whose scheme is `localhost` and which has no path. With a base
that leaves room for paths every listing that the store yields is answered, with any other one none
is (`Config.baseUrl_serves_listings`).
-/

namespace UserAccounts

namespace PageLinks

variable {base : Url} {s : String} {first : Char} {rest : List Char}

/-- Links to a collection at a rooted path are made on exactly the bases that others can be relative
to, whichever page they are for. -/
theorem exists_build_iff (hs : Url.significantChars s = '/' :: first :: rest)
    (hfirst : Url.isAnySlash first = false) (w : Window) (hasNext : Bool) :
    (∃ links, build base s w hasNext = .ok links) ↔ base.canBeBase = true := by
  constructor
  · rintro ⟨links, hlinks⟩
    obtain ⟨collection, hjoin, -⟩ := build_eq_ok_iff.mp hlinks
    by_contra hbase
    rw [Bool.not_eq_true] at hbase
    rw [Url.join_rooted_error hs hbase] at hjoin
    cases hjoin
  · intro hbase
    obtain ⟨collection, hjoin⟩ := Url.exists_join_rooted hs hfirst hbase
    exact ⟨_, build_eq_ok_iff.mpr ⟨collection, hjoin, rfl⟩⟩

theorem build_error (hs : Url.significantChars s = '/' :: first :: rest)
    (hbase : base.canBeBase = false) (w : Window) (hasNext : Bool) :
    build base s w hasNext = .error ⟨s, .relativeToWhole⟩ := by
  unfold build
  rw [Url.join_rooted_error hs hbase]

end PageLinks

namespace Http

theorem significantChars_accountsPath :
    Url.significantChars accountsPath = '/' :: 'a' :: "pi/v1/user-accounts".toList := by
  decide

/-- Who asks and when, before a request is handled: the identifier of the request, and the state of
the machine that handles it. -/
def Request.arrive {σ : Type} (r : Request) (m : Machine σ) (s : σ) : RequestId × σ :=
  let identified := r.identify.run m s
  (identified.1, (Program.now.run m identified.2).2)

/-- The status of a response is what the handler makes of the request. -/
theorem status_respondTracked {σ : Type} (r : Request) (p : Program Response) (m : Machine σ)
    (s : σ) :
    ((respondTracked r p).run m s).1.status =
      ((p.duringRequest (r.arrive m s).1).run m (r.arrive m s).2).1.status := by
  unfold respondTracked tracked
  simp only [Program.bind_eq, Program.pure_eq_done, Program.run_bind, Program.run_done]
  rfl

namespace App

/-- The status of the answer to a listing that the store yields: it is up to the links. -/
theorem status_list {σ : Type} {app : App} {r : Request} {w : Window}
    (hwindow : windowOfQuery? (Target.parse r.target).query = some w) (id : RequestId)
    (m : Machine σ) (s : σ) {listing : Listing}
    (hlisting : (((app.service.list w).duringRequest id).run m s).1 = .ok listing) :
    (((app.list r).duringRequest id).run m s).1.status =
      match PageLinks.build app.baseUrl accountsPath listing.window listing.hasNext with
      | .ok _ => 200
      | .error _ => 500 := by
  unfold list
  rw [hwindow]
  dsimp only [Program.bind_eq]
  rw [Program.duringRequest_bind, Program.run_bind, hlisting]
  dsimp only
  cases PageLinks.build app.baseUrl accountsPath listing.window listing.hasNext with
  | ok links => rfl
  | error e => rfl

end App

end Http

namespace Config

open Http

theorem parse_of_baseUrl {c : Config} {base : Url} (h : c.baseUrl = .ok base) :
    Url.parse c.publicBaseUrl = .ok base := by
  unfold baseUrl at h
  split at h
  · rename_i url hurl
    rw [hurl, Except.ok.inj h]
  · cases h

/-- Whether a base that is accepted serves listings shows in its text. If it leaves room for paths,
links are made for every page, and no listing is answered with 500 once the store has yielded it.
Otherwise links are made for no page, and every listing that the store has yielded is answered with
500. -/
theorem baseUrl_serves_listings {c : Config} {base : Url} (hbase : c.baseUrl = .ok base) :
    (∀ (w : Window) (hasNext : Bool),
      (Url.hasRoot c.publicBaseUrl = true →
        ∃ links, PageLinks.build base accountsPath w hasNext = .ok links) ∧
      (Url.hasRoot c.publicBaseUrl = false →
        PageLinks.build base accountsPath w hasNext =
          .error ⟨accountsPath, .relativeToWhole⟩)) ∧
    ∀ (service : Service) (health : Health) (r : Request) (w : Window), r.route? = some .list →
      windowOfQuery? (Target.parse r.target).query = some w →
        ∀ {σ : Type} (m : Machine σ) (s : σ) (listing : Listing),
          let arrival := r.arrive m s
          (((service.list w).duringRequest arrival.1).run m arrival.2).1 = .ok listing →
            (((App.mk service base).serve health r).run m s).1.status =
              if Url.hasRoot c.publicBaseUrl then 200 else 500 := by
  have hroot : base.canBeBase = Url.hasRoot c.publicBaseUrl :=
    Url.canBeBase_parse (parse_of_baseUrl hbase)
  have hlinks (w : Window) (hasNext : Bool) :
      (∃ links, PageLinks.build base accountsPath w hasNext = .ok links) ↔
        Url.hasRoot c.publicBaseUrl = true := by
    rw [← hroot]
    exact PageLinks.exists_build_iff significantChars_accountsPath rfl w hasNext
  have hrefused (h : Url.hasRoot c.publicBaseUrl = false) :=
    PageLinks.build_error significantChars_accountsPath (hroot.trans h)
  refine ⟨fun w hasNext => ⟨(hlinks w hasNext).mpr, fun h => hrefused h w hasNext⟩, ?_⟩
  intro service health r w hroute hwindow σ m s listing arrival hlisting
  have hhandle : (App.mk service base).handle health r = (App.mk service base).list r := by
    unfold App.handle
    rw [hroute]
  show ((respondTracked r _).run m s).1.status = _
  rw [status_respondTracked, hhandle, App.status_list hwindow _ m _ hlisting]
  by_cases h : Url.hasRoot c.publicBaseUrl = true
  · obtain ⟨links, hlinks⟩ := (hlinks listing.window listing.hasNext).mpr h
    rw [hlinks, if_pos h]
  · rw [Bool.not_eq_true] at h
    rw [hrefused h, if_neg (by simp [h])]

/-- A request for the first page of accounts. -/
def listingRequest : Request where
  method := "GET"
  target := accountsPath
  headers := []
  body := []

/-- The service on top of a store that it reaches without detours. -/
def plainService : Service := .ofStore (.direct "accounts" "svc") .fresh .wall

/-- The store yields the first page of two accounts, as part of any request and outside of any. -/
theorem yields_plainService :
    Yields (ListingAnswers twoRows) (plainService.list (.ofRequest none none))
      (.ok (listingOf twoAccounts (.ofRequest none none))) := by
  have hrows : List.Forall₂ (fun row a => Account.ofRow row = .ok a) twoRows twoAccounts :=
    .cons rfl (.cons rfl .nil)
  exact yields_listAccounts (w := .ofRequest none none) hrows (by decide) (by decide)

/-- A base with a path serves the page of two accounts. -/
theorem baseUrl_serves_listings_of_path :
    let c : Config := { default with publicBaseUrl := "https://example.com/app/" }
    let base : Url :=
      ⟨"https", some ⟨"", "", .name "example.com", none⟩, .segments ["app", ""], none, none⟩
    let arrival := listingRequest.arrive (shelf twoRows) ()
    c.baseUrl = .ok base ∧ listingRequest.route? = some .list ∧
      windowOfQuery? (Target.parse listingRequest.target).query = some (.ofRequest none none) ∧
      (((plainService.list (.ofRequest none none)).duringRequest arrival.1).run (shelf twoRows)
        arrival.2).1 = .ok (listingOf twoAccounts (.ofRequest none none)) ∧
      (((App.mk plainService base).serve .starting listingRequest).run (shelf twoRows) ()).1.status
        = 200 := by
  intro c base arrival
  have hbase : c.baseUrl = .ok base := by decide +kernel
  have hroute : listingRequest.route? = some .list := by decide +kernel
  have hwindow : windowOfQuery? (Target.parse listingRequest.target).query =
      some (.ofRequest none none) := by
    decide +kernel
  have hlisting : (((plainService.list (.ofRequest none none)).duringRequest arrival.1).run
      (shelf twoRows) arrival.2).1 = .ok (listingOf twoAccounts (.ofRequest none none)) :=
    (yields_plainService.duringRequest trivial).run (shelf_answers twoRows) arrival.2
  refine ⟨hbase, hroute, hwindow, hlisting, ?_⟩
  have hstatus := (baseUrl_serves_listings hbase).2 plainService .starting listingRequest _ hroute
    hwindow (shelf twoRows) () _ hlisting
  rw [hstatus]
  decide +kernel

/-- A host and a port alone are read as a scheme and a whole that no path can be joined to. The
configuration is accepted, the store yields both accounts, and the response has status 500. -/
theorem baseUrl_refuses_listings_of_port :
    let c : Config := { default with publicBaseUrl := "localhost:8080" }
    let base : Url := ⟨"localhost", none, .whole "8080", none, none⟩
    c.baseUrl = .ok base ∧
      PageLinks.build base accountsPath (.ofRequest none none) false =
        .error ⟨accountsPath, .relativeToWhole⟩ ∧
      ((plainService.list (.ofRequest none none)).run (shelf twoRows) ()).1 =
        .ok (listingOf twoAccounts (.ofRequest none none)) ∧
      (((App.mk plainService base).serve .starting listingRequest).run (shelf twoRows) ()).1.status
        = 500 := by
  intro c base
  refine ⟨?accepted, ?refused, ?listed, ?answered⟩
  case accepted => decide +kernel
  case refused => decide +kernel
  case listed => exact yields_plainService.run (shelf_answers twoRows) ()
  case answered => decide +kernel

end Config

end UserAccounts
