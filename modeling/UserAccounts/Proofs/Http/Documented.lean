import Mathlib
import UserAccounts.Proofs.Http.Tracking
import UserAccounts.Proofs.Http.Walk
import UserAccounts.Proofs.OpenApi.Conformance

/-!
# Responses are as documented

What the application answers to a request for an operation is what the description of the API says
(`App.serve_documented`): a status that is listed for the operation, and the body that is described
for that status.

* `Request.isFor_iff` — the requests for an operation, by its method and the template of its path,
  are those that take its route;
* `json_account_shows`, `json_page_shows`, `failureResponse_shows` — what is shown of an account, a
  page or a failure is JSON of its schema;
* `App.handle_isExpected` — what a handler answers is expected of its operation: on any store, each
  operation of the service fails internally or in one way of its own, so the status of a failure is
  one that is listed.

An account whose identifier may not stand in a header is the only reason for a response that is not
JSON where JSON is described.
-/

namespace UserAccounts.Http

open OpenApi (Conforms)

/-! ## Requests to documented operations -/

/-- The parts of a path between its slashes. -/
def pathParts (path : String) : List String :=
  (Json.splitChars '/' path.toList).map String.ofList

/-- A part of a template stands for any part if it is a parameter in braces, and otherwise for
itself. -/
def PartMatches (template part : String) : Prop :=
  if template.toList.head? = some '\x7b' then part ≠ "" else part = template

/-- A request is for an operation if it has its method and its path is one that the template of the
operation stands for. -/
structure Request.IsFor (r : Request) (o : OpenApi.Operation) : Prop where
  method : r.method = o.method.toUpper
  path : List.Forall₂ PartMatches (pathParts o.path) (pathParts r.matchedPath)

/-- The operation that describes a route. -/
def Route.operation : Route → OpenApi.Operation
  | .create => OpenApi.createOperation
  | .list => OpenApi.listOperation
  | .account _ => OpenApi.findOperation
  | .ready => OpenApi.readyOperation
  | .live => OpenApi.liveOperation

theorem toUpper_post : "post".toUpper = "POST" := by decide +kernel

theorem toUpper_get : "get".toUpper = "GET" := by decide +kernel

theorem pathParts_memberPath :
    pathParts OpenApi.memberPath = ["", "api", "v1", "user-accounts", "\x7bid\x7d"] := by
  decide +kernel

theorem PartMatches.eq {template part : String} (h : PartMatches template part)
    (hplain : template.toList.head? ≠ some '\x7b') : part = template := by
  rw [PartMatches, if_neg hplain] at h
  exact h

theorem PartMatches.refl (part : String) : PartMatches part part := by
  unfold PartMatches
  split_ifs with hparameter
  · rintro rfl
    cases hparameter
  · rfl

/-- A template without parameters stands for itself. -/
theorem eq_of_matches {template parts : List String}
    (hplain : ∀ part ∈ template, part.toList.head? ≠ some '\x7b')
    (h : List.Forall₂ PartMatches template parts) : parts = template := by
  induction h with
  | nil => rfl
  | @cons t part template parts hpart hrest ih =>
    obtain ⟨ht, htemplate⟩ := List.forall_mem_cons.mp hplain
    rw [hpart.eq ht, ih htemplate]

theorem route?_of_place {r : Request} {place : Place}
    (h : Place.ofPath? r.matchedPath = some place) : r.route? = Route.of? r.method place := by
  unfold Request.route?
  unfold Request.matchedPath at h
  rw [h]
  rfl

/-- A path that is no more than a template without parameters names what the template names. -/
theorem ofPath?_of_matches {template path : String} (place : Place)
    (h : List.Forall₂ PartMatches (pathParts template) (pathParts path))
    (hplain : ∀ part ∈ pathParts template, part.toList.head? ≠ some '\x7b')
    (hplace : Place.ofPath? template = some place) : Place.ofPath? path = some place := by
  have hparts : pathParts path = pathParts template := eq_of_matches hplain h
  unfold Place.ofPath? pathParts at *
  rw [hparts]
  exact hplace

/-- A path that the template of an account stands for names an account. -/
theorem ofPath?_of_matches_member {path : String}
    (h : List.Forall₂ PartMatches (pathParts OpenApi.memberPath) (pathParts path)) :
    ∃ id, Place.ofPath? path = some (.account id) := by
  rw [pathParts_memberPath] at h
  unfold Place.ofPath?
  change List.Forall₂ _ _ (List.map String.ofList (Json.splitChars '/' path.toList)) at h
  generalize List.map String.ofList (Json.splitChars '/' path.toList) = parts at h
  obtain _ | ⟨hroot, _ | ⟨hapi, _ | ⟨hversion, _ | ⟨haccounts, _ | ⟨hid, _ | _⟩⟩⟩⟩⟩ := h
  rw [hroot.eq (by decide), hapi.eq (by decide), hversion.eq (by decide),
    haccounts.eq (by decide)]
  rw [PartMatches, if_pos (by decide)] at hid
  simp [hid]

/-- A request for an operation goes where the operation describes. -/
theorem Request.IsFor.exists_route {r : Request} {o : OpenApi.Operation} (h : r.IsFor o)
    (ho : o ∈ OpenApi.accounts.operations) :
    ∃ route, r.route? = some route ∧ route.operation = o := by
  obtain ⟨hmethod, hpath⟩ := h
  have hcases : o = OpenApi.createOperation ∨ o = OpenApi.listOperation ∨
      o = OpenApi.findOperation ∨ o = OpenApi.liveOperation ∨ o = OpenApi.readyOperation := by
    simpa [OpenApi.accounts] using ho
  rcases hcases with rfl | rfl | rfl | rfl | rfl
  · refine ⟨.create, ?_, rfl⟩
    have hplace := ofPath?_of_matches .accounts hpath (by decide +kernel) rfl
    rw [route?_of_place hplace, hmethod, OpenApi.createOperation, toUpper_post]
    rfl
  · refine ⟨.list, ?_, rfl⟩
    have hplace := ofPath?_of_matches .accounts hpath (by decide +kernel) rfl
    rw [route?_of_place hplace, hmethod, OpenApi.listOperation, toUpper_get]
    rfl
  · obtain ⟨id, hplace⟩ := ofPath?_of_matches_member hpath
    refine ⟨.account ⟨Target.part id⟩, ?_, rfl⟩
    rw [route?_of_place hplace, hmethod, OpenApi.findOperation, toUpper_get]
    rfl
  · refine ⟨.live, ?_, rfl⟩
    have hplace := ofPath?_of_matches .live hpath (by decide +kernel) rfl
    rw [route?_of_place hplace, hmethod, OpenApi.liveOperation, toUpper_get]
    rfl
  · refine ⟨.ready, ?_, rfl⟩
    have hplace := ofPath?_of_matches .ready hpath (by decide +kernel) rfl
    rw [route?_of_place hplace, hmethod, OpenApi.readyOperation, toUpper_get]
    rfl

/-- A path is one that the pattern of its place stands for. -/
theorem Place.matches_pattern {path : String} {place : Place} (h : ofPath? path = some place) :
    List.Forall₂ PartMatches (pathParts place.pattern) (pathParts path) := by
  unfold ofPath? at h
  split at h
  case h_2 id hparts =>
    split_ifs at h with hempty
    cases h
    show List.Forall₂ _ (pathParts OpenApi.memberPath) _
    rw [show pathParts path = _ from hparts, pathParts_memberPath]
    refine .cons (.refl _) <| .cons (.refl _) <| .cons (.refl _) <| .cons (.refl _) <|
      .cons ?_ .nil
    rw [PartMatches, if_pos (by decide)]
    simpa using hempty
  case h_5 => cases h
  all_goals
    rename_i hparts
    cases h
    rw [show pathParts path = _ from hparts]
    exact List.forall₂_same.mpr fun part _ => .refl part

/-- A route that a request takes is described by an operation that the request is for. -/
theorem Request.isFor_of_route {r : Request} {route : Route} (h : r.route? = some route) :
    r.IsFor route.operation := by
  obtain ⟨place, hplace, hroute⟩ := Option.bind_eq_some_iff.mp h
  have hpath := Place.matches_pattern hplace
  cases place with
  | accounts =>
    unfold Route.of? at hroute
    dsimp only at hroute
    split_ifs at hroute with hcreate hlist
    · cases hroute
      exact ⟨(beq_iff_eq.mp hcreate).trans toUpper_post.symm, hpath⟩
    · cases hroute
      exact ⟨(beq_iff_eq.mp hlist).trans toUpper_get.symm, hpath⟩
  | _ =>
    unfold Route.of? at hroute
    dsimp only at hroute
    split_ifs at hroute with hmethod
    cases hroute
    exact ⟨(beq_iff_eq.mp hmethod).trans toUpper_get.symm, hpath⟩

/-- The requests for an operation are those that take its route. -/
theorem Request.isFor_iff {r : Request} {o : OpenApi.Operation}
    (ho : o ∈ OpenApi.accounts.operations) :
    r.IsFor o ↔ ∃ route, r.route? = some route ∧ route.operation = o := by
  constructor
  · exact fun h => h.exists_route ho
  · rintro ⟨route, hroute, rfl⟩
    exact r.isFor_of_route hroute

/-! ## Responses that are documented -/

/-- The body of a response is declared to be JSON, and it is a value of a named schema. -/
def Response.Shows (response : Response) (schema : String) : Prop :=
  response.header? "content-type" = some "application/json" ∧
    ∃ d, Json.Document.read? response.body = some d ∧ Conforms schema d

/-- The response has a body of a named schema, or none if no schema is named. -/
def Response.HasBody (response : Response) : Option String → Prop
  | some schema => response.Shows schema
  | none => response.body = ""

/-- The response is as it is documented for its status under an operation. -/
def Response.IsDocumented (response : Response) (o : OpenApi.Operation) : Prop :=
  ∃ answer, OpenApi.accounts.answer? o.method o.path response.status = some answer ∧
    response.HasBody answer.body

/-- The refusal to give the location of an account whose identifier may not stand in a header. -/
structure Response.RefusesLocation (response : Response) : Prop where
  status : response.status = 500
  type : response.header? "content-type" = some "text/plain; charset=utf-8"
  body : response.body = "failed to parse header value"

/-- What comes of an operation: a response as documented, or the refusal to give a location. -/
def Response.IsExpected (response : Response) (o : OpenApi.Operation) : Prop :=
  response.IsDocumented o ∨ (o = OpenApi.createOperation ∧ response.RefusesLocation)

/-- The body that is documented for a status under an operation: a schema, or no body at all. -/
def documentedBody? (o : OpenApi.Operation) (status : Nat) : Option (Option String) :=
  (OpenApi.accounts.answer? o.method o.path status).map (·.body)

section Responses

variable {response : Response} {o : OpenApi.Operation}

theorem Response.header?_withHeader {name name' : String} (h : name ≠ name') (value : String) :
    (response.withHeader name' value).header? name = response.header? name := by
  unfold withHeader header?
  induction response.headers with
  | nil => simp [List.lookup, h]
  | cons header rest ih =>
    obtain ⟨key, text⟩ := header
    by_cases hkey : key = name
    · subst hkey
      simp [h]
    · have hne : (name == key) = false := by simpa using Ne.symm hkey
      by_cases hkey' : key = name'
      · subst hkey'
        simpa [List.lookup_cons, hne] using ih
      · simpa [List.lookup_cons, hne, hkey'] using ih

theorem Response.HasBody.withHeader {body : Option String} (h : response.HasBody body)
    {name : String} (hname : "content-type" ≠ name) (value : String) :
    (response.withHeader name value).HasBody body := by
  cases body with
  | none => exact h
  | some schema => exact ⟨(header?_withHeader hname value).trans h.1, h.2⟩

theorem Response.IsExpected.withHeader (h : response.IsExpected o) {name : String}
    (hname : "content-type" ≠ name) (value : String) :
    (response.withHeader name value).IsExpected o := by
  rcases h with ⟨answer, hanswer, hbody⟩ | ⟨ho, hrefuses⟩
  · exact .inl ⟨answer, hanswer, hbody.withHeader hname value⟩
  · exact .inr ⟨ho, hrefuses.status, (header?_withHeader hname value).trans hrefuses.type,
      hrefuses.body⟩

theorem Response.isExpected_of_body {status : Nat} {body : Option String}
    (hstatus : response.status = status) (hdocument : documentedBody? o status = some body)
    (hbody : response.HasBody body) : response.IsExpected o := by
  obtain ⟨answer, hanswer, rfl⟩ := Option.map_eq_some_iff.mp hdocument
  exact .inl ⟨answer, hstatus ▸ hanswer, hbody⟩

/-- A failure is shown as its schema says, with and without details. -/
theorem failureResponse_shows (f : Failure) :
    (failureResponse f).Shows OpenApi.failureSchema :=
  ⟨rfl, OpenApi.conforms_failure (redacted f)⟩

end Responses

section Handling

variable {good : Id → Prop} {app : App}

theorem respondToFailure_isExpected {o : OpenApi.Operation} {f : Failure}
    (h : documentedBody? o (statusOf f.code) = some (some OpenApi.failureSchema)) :
    (respondToFailure f).Gives good fun response => response.IsExpected o :=
  ⟨keeps_respondToFailure (givenIds_ignoresAsides good)
    (Response.isExpected_of_body (status_failureResponse f) h (failureResponse_shows f))⟩

theorem respondToGarbage_isExpected {o : OpenApi.Operation} (r : Request)
    (h : documentedBody? o 400 = some (some OpenApi.failureSchema)) :
    (respondToGarbage r).Gives good fun response => response.IsExpected o := by
  have hstatus := (status_failureResponse _).trans (status_invalidRequest notDecodedMessage)
  exact ⟨keeps_respondToGarbage (givenIds_ignoresAsides good)
    (Response.isExpected_of_body hstatus h (failureResponse_shows _))⟩

theorem respondTracked_isExpected {o : OpenApi.Operation} (r : Request) {p : Program Response}
    (hp : p.Gives good fun response => response.IsExpected o) :
    (respondTracked r p).Gives good fun response => response.IsExpected o := by
  refine ⟨(keeps_respondTracked (givenIds_ignoresAsides good) hp.keeps r).mono ?_⟩
  rintro _ _ ⟨inner, id, rfl, hinner⟩
  exact hinner.withHeader (by decide) id.text

end Handling

/-! ## Handlers -/

theorem createdResponse_isExpected (a : Account) :
    (createdResponse a).IsExpected OpenApi.createOperation := by
  unfold createdResponse
  dsimp only
  split_ifs
  · have hdocument : documentedBody? OpenApi.createOperation 201 = some none := by
      decide +kernel
    exact Response.isExpected_of_body rfl hdocument rfl
  · exact .inr ⟨rfl, rfl, rfl, rfl⟩

theorem probe_isExpected {o : OpenApi.Operation}
    (ho : o ∈ [OpenApi.liveOperation, OpenApi.readyOperation]) (passes : Bool) :
    (Health.probe passes).IsExpected o := by
  have hdocument : documentedBody? o (Health.probe passes).status = some none := by
    fin_cases ho <;> cases passes <;> decide +kernel
  exact Response.isExpected_of_body rfl hdocument rfl

theorem isSigned64_millis (t : Timestamp) : IsSigned64 t.millis := by
  have hlow : Int64.minValue.toInt ≤ -8334601228800000 := by decide
  have hhigh : 8210266876799999 ≤ Int64.maxValue.toInt := by decide
  exact ⟨hlow.trans t.millis_bounds.1, t.millis_bounds.2.trans hhigh⟩

theorem fits_ofAccount (a : Account) : (AccountView.ofAccount a).Fits :=
  ⟨isSigned64_millis _, isSigned64_millis _⟩

/-- Every account is shown as its schema says. -/
theorem json_account_shows (status : Nat) (a : Account) :
    (Response.json status (AccountView.ofAccount a)).Shows OpenApi.accountSchema :=
  ⟨rfl, _, Json.Document.read?_compact (AccountView.isWhole_encode _),
    OpenApi.conforms_account (fits_ofAccount a)⟩

/-- Every page is shown as its schema says, however long it is and whatever links it has. -/
theorem json_page_shows (status : Nat) (links : PageLinks) {l : Listing}
    (h : l.total ≤ Text.maxSigned64) :
    (Response.json status (pageOf links l)).Shows OpenApi.pageSchema := by
  refine ⟨rfl, _, Json.Document.read?_compact (Page.isWhole_encode _),
    OpenApi.conforms_page h fun view hview => ?_⟩
  obtain ⟨a, -, rfl⟩ := List.mem_map.mp hview
  exact fits_ofAccount a

section Handling

variable {good : Id → Prop} {app : App}

theorem App.create_isExpected (h : app.service.Gives good) (r : Request) :
    (app.create r).Gives good fun response => response.IsExpected OpenApi.createOperation := by
  unfold create
  cases r.json? (α := CreateAccountBody) with
  | none => exact respondToGarbage_isExpected r (by decide +kernel)
  | some body =>
    refine (h.create body.account).bind fun outcome hending => ?_
    cases outcome with
    | ok a => exact Program.gives_done (createdResponse_isExpected a)
    | error f =>
      refine respondToFailure_isExpected ?_
      rcases (hending.2 f rfl).code with hcode | hcode <;> rw [hcode] <;> decide +kernel

theorem App.list_isExpected (h : app.service.Gives good) (r : Request) :
    (app.list r).Gives good fun response => response.IsExpected OpenApi.listOperation := by
  unfold list
  cases windowOfQuery? (Target.parse r.target).query with
  | none => exact respondToGarbage_isExpected r (by decide +kernel)
  | some window =>
    refine (h.list window).bind fun outcome hending => ?_
    obtain ⟨hfails, htotal⟩ := hending
    cases outcome with
    | error f =>
      refine respondToFailure_isExpected ?_
      rcases (hfails f rfl).code with hcode | hcode <;> rw [hcode] <;> decide +kernel
    | ok listing =>
      dsimp only
      cases PageLinks.build app.baseUrl accountsPath listing.window listing.hasNext with
      | error e =>
        have hcode : (linkFailure e).code = .internal := Failure.code_make _ _
        refine respondToFailure_isExpected ?_
        rw [hcode]
        decide +kernel
      | ok links =>
        have hdocument : documentedBody? OpenApi.listOperation 200 =
            some (some OpenApi.pageSchema) := by
          decide +kernel
        have hshown := json_page_shows 200 links (htotal listing rfl)
        exact Program.gives_done (Response.isExpected_of_body rfl hdocument hshown)

theorem App.account_isExpected (h : app.service.Gives good) (id : Id) :
    (app.account id).Gives good fun response => response.IsExpected OpenApi.findOperation := by
  refine (h.find id).bind fun outcome hfails => ?_
  cases outcome with
  | ok a =>
    have hdocument : documentedBody? OpenApi.findOperation 200 =
        some (some OpenApi.accountSchema) := by
      decide +kernel
    exact Program.gives_done (Response.isExpected_of_body rfl hdocument (json_account_shows 200 a))
  | error f =>
    refine respondToFailure_isExpected ?_
    rcases (hfails f rfl).code with hcode | hcode <;> rw [hcode] <;> decide +kernel

/-- What comes of a handler is expected of the operation that describes its route. -/
theorem App.handle_isExpected (h : app.service.Gives good) (health : Health) {r : Request}
    {route : Route} (hroute : r.route? = some route) :
    (app.handle health r).Gives good fun response => response.IsExpected route.operation := by
  unfold handle
  rw [hroute]
  cases route with
  | create => exact create_isExpected h r
  | list => exact list_isExpected h r
  | account id => exact account_isExpected h id
  | ready => exact Program.gives_done (probe_isExpected (by decide) health.ready)
  | live => exact Program.gives_done (probe_isExpected (by decide) health.live)

end Handling

/-! ## The application and the server around it -/

section Serving

variable {app : App} {counter : RequestCounter} {health : Health} {r : Request} {route : Route}
  {serving : Program Response}

/-- A request that takes a route of the application goes there through the server, too. -/
theorem eq_respondTracked_of_route (hroute : r.route? = some route)
    (h : serving ∈ [app.serve health r, (Server.mk app counter).serve health r]) :
    serving = respondTracked r (app.handle health r) := by
  rcases eq_respondTracked h with heq | ⟨extra, hextra, -⟩
  · exact heq
  · rw [Request.route?_of_extra hextra] at hroute
    cases hroute

theorem serve_isExpected {good : Id → Prop} (hservice : app.service.Gives good)
    (hroute : r.route? = some route)
    (h : serving ∈ [app.serve health r, (Server.mk app counter).serve health r]) :
    serving.Gives good fun response => response.IsExpected route.operation := by
  rw [eq_respondTracked_of_route hroute h]
  exact respondTracked_isExpected r (App.handle_isExpected hservice health hroute)

/-- A response that conceals what went wrong does not refuse a location. -/
theorem Response.IsExpected.isDocumented {response : Response} {o : OpenApi.Operation}
    (h : response.IsExpected o) (hconceals : Conceals response) : response.IsDocumented o := by
  rcases h with h | ⟨-, hrefuses⟩
  · exact h
  · have hbody := hconceals hrefuses.status
    rw [hrefuses.body] at hbody
    exact absurd hbody (by decide +kernel)

end Serving

/-- What is shown to clients conforms to the description of the API. Every account, every page and
every failure is JSON of its schema, however long the page is, whichever links it has, and whatever
the details of the failure are. Whatever the store answers to a request for an operation, the
status of the response is one that is described for the operation, and its body is as it is
described for that status. The one exception has a described status, too, but a body that is no
JSON: the refusal to give the location of an account whose identifier may not stand in a header. -/
theorem App.serve_documented :
    (∀ (status : Nat) (a : Account),
      (Response.json status (AccountView.ofAccount a)).Shows OpenApi.accountSchema) ∧
    (∀ (status : Nat) (links : PageLinks) (l : Listing), l.total ≤ Text.maxSigned64 →
      (Response.json status (pageOf links l)).Shows OpenApi.pageSchema) ∧
    (∀ (status : Nat) (f : Failure), (Response.json status f).Shows OpenApi.failureSchema) ∧
    ∀ (layers : List Layer) (reporters : List Clock) (database user : String) (ids : Identifiers)
      (clock : Clock) (base : Url) (health : Health) (counter : RequestCounter) (r : Request),
      let app : App := ⟨.stacked layers reporters database user ids clock, base⟩
      ∀ serving ∈ [app.serve health r, (Server.mk app counter).serve health r],
        ∀ o ∈ OpenApi.accounts.operations, r.IsFor o →
          ∀ {σ : Type} (m : Machine σ) (s : σ),
            let response := (serving.run m s).1
            response.IsExpected o ∧
              (ids.Fit isHeaderId →
                (∀ x ∈ serving.trace m s, ∀ id, Answered.id? x = some id → isHeaderId id) →
                response.IsDocumented o) := by
  refine ⟨json_account_shows, fun status links l => json_page_shows status links,
    fun status f => ⟨rfl, OpenApi.conforms_failure f⟩, ?_⟩
  intro layers reporters database user ids clock base health counter r app serving hserving o ho hr
    σ m s response
  obtain ⟨route, hroute, rfl⟩ := (Request.isFor_iff ho).mp hr
  have hexpected : response.IsExpected route.operation := by
    have hservice : app.service.Gives fun _ => True :=
      Service.stacked_gives layers reporters database user clock ids.fit_true
    exact (serve_isExpected hservice hroute hserving).run m fun _ _ _ _ => trivial
  refine ⟨hexpected, fun hfit hgiven => hexpected.isDocumented ?_⟩
  have hgives (account : Account) :=
    Service.stacked_create_gives layers reporters database user clock hfit account
  exact (serve_conceals hgives hserving).run m hgiven

/-- A request for the first of several accounts. -/
def firstPageRequest : Request where
  method := "GET"
  target := accountsPath ++ "?limit=1"
  headers := []
  body := []

/-- A page with a link to the next one, and the refusal of a username that is taken, which has
details. -/
theorem App.serve_documented_of_page_and_conflict :
    let lister : App := ⟨.stacked [] [] "accounts" "svc" .fresh .wall, observedApp.baseUrl⟩
    let page := ((lister.serve .starting firstPageRequest).run (shelf twoRows) ()).1
    let creating := observedApp.serve .starting requestForJohnDoe
    let memory := Memory.empty.respond Statements.usernameExists (.rows [⟨[.bool true]⟩])
    let start := (memory, World.start () ⟨0, 0, 0⟩ "id")
    let conflict := (creating.run World.surroundings.machine start).1
    let listing := listingOf twoAccounts (.ofRequest none none)
    listing.total ≤ Text.maxSigned64 ∧
      (Response.json 200 (pageOf ⟨"", "", none, some ""⟩ listing)).Shows OpenApi.pageSchema ∧
      firstPageRequest.IsFor OpenApi.listOperation ∧ page.status = 200 ∧
      page.IsExpected OpenApi.listOperation ∧
      requestForJohnDoe.IsFor OpenApi.createOperation ∧ Identifiers.fresh.Fit isHeaderId ∧
      (∀ x ∈ creating.trace World.surroundings.machine start,
        ∀ id, Answered.id? x = some id → isHeaderId id) ∧
      conflict.status = 409 ∧ conflict.IsDocumented OpenApi.createOperation := by
  intro lister page creating memory start conflict listing
  obtain ⟨-, hpages, -, hserved⟩ := App.serve_documented
  have htotal : listing.total ≤ Text.maxSigned64 := by decide
  have hlists : firstPageRequest.IsFor OpenApi.listOperation :=
    Request.isFor_of_route (by decide +kernel : _ = some .list)
  have hcreates : requestForJohnDoe.IsFor OpenApi.createOperation :=
    Request.isFor_of_route (by decide +kernel : _ = some .create)
  have hfit : Identifiers.fresh.Fit isHeaderId := Identifiers.fresh_fit _
  -- The username is found to be taken before the first identifier would be given out.
  have hgiven : ∀ x ∈ creating.trace World.surroundings.machine start,
      ∀ id, Answered.id? x = some id → isHeaderId id := by
    intro x hx id hid
    have hnone : (creating.trace World.surroundings.machine start).filterMap Answered.id? = [] := by
      decide +kernel
    have hmem := List.mem_filterMap.mpr ⟨x, hx, hid⟩
    rw [hnone] at hmem
    cases hmem
  have hpage := hserved [] [] "accounts" "svc" .fresh .wall observedApp.baseUrl .starting ⟨0⟩
    firstPageRequest _ List.mem_cons_self _ (by decide +kernel) hlists (shelf twoRows) ()
  have hconflict := hserved observedLayers [.wall] "accounts" "svc" .fresh .wall
    observedApp.baseUrl .starting ⟨0⟩ requestForJohnDoe _ List.mem_cons_self _ (by decide +kernel)
    hcreates World.surroundings.machine start
  exact ⟨htotal, hpages 200 _ listing htotal, hlists, by decide +kernel, hpage.1, hcreates, hfit,
    hgiven, by decide +kernel, hconflict.2 hfit hgiven⟩

end UserAccounts.Http
