import UserAccounts.Http.App
import UserAccounts.Proofs.Store.Surroundings

/-!
# Responses and their effects

What the response to a request about accounts says about the store in memory (`App.serve_effect`): a
creation is answered with 201 exactly if writes were committed for it, and these add the account at
the location that is given; any other answer leaves the committed log alone; 400 means that the
store was not called, and 409 that the username was found to be taken. Listing accounts and finding
one leave the committed log alone whatever the answer.

* `keeps_respondTracked` — what a handler keeps to is kept to while a request is served;
* `App.create_handles`, `App.list_handles`, `App.account_handles` — how the response of each handler
  goes with its calls to the store, on every branch.
-/

namespace UserAccounts.Http

/-! ## Handlers -/

section Handlers

variable {V : Type} {P : Protocol V} {post : V → Response → Prop} {v : V}

theorem keeps_respondToFailure (hP : P.IgnoresAsides) {f : Failure}
    (h : post v (failureResponse f)) : (respondToFailure f).Keeps P post v := by
  unfold respondToFailure
  cases f.code with
  | internal =>
    refine ⟨hP.permits v _ rfl, fun answer _ => ?_⟩
    rw [hP.after v _ rfl]
    exact h
  | _ => exact h

theorem keeps_respondToGarbage (hP : P.IgnoresAsides) {r : Request}
    (h : post v (failureResponse (.invalidRequest notDecodedMessage))) :
    (respondToGarbage r).Keeps P post v := by
  refine ⟨hP.permits v _ rfl, fun answer _ => ?_⟩
  rw [hP.after v _ rfl]
  exact keeps_respondToFailure hP h

/-- While a request is served, its handler is all that matters to the store, and its response is
given an identifier. -/
theorem keeps_respondTracked (hP : P.IgnoresAsides) {p : Program Response} (hp : p.Keeps P post v)
    (r : Request) :
    (respondTracked r p).Keeps P (fun v' response => ∃ (inner : Response) (id : RequestId),
      response = inner.withHeader requestIdHeader id.text ∧ post v' inner) v := by
  have hidentify : r.identify.Keeps P (fun v' _ => v' = v) v := by
    unfold Request.identify
    cases r.id? with
    | some id => rfl
    | none => exact ⟨hP.permits v _ rfl, fun answer _ => hP.after v _ rfl answer⟩
  have hduring (id : RequestId) : (p.duringRequest id).Keeps P post v :=
    hp.duringRequest (hP.expects_request id) fun v' => hP.after v' _ rfl _
  simp only [respondTracked, tracked, Program.now, Program.report, Program.ask, Program.bind_eq,
    Program.pure_eq_done, Program.bind_assoc, Program.perform_bind, Program.done_bind]
  rw [Program.keeps_bind]
  refine hidentify.mono fun v₀ id hv₀ => ?_
  subst hv₀
  refine ⟨hP.permits _ _ rfl, fun started _ => ?_⟩
  rw [hP.after _ _ rfl, Program.keeps_bind]
  refine (hduring id).mono fun v₁ inner hinner => ?_
  refine ⟨hP.permits _ _ rfl, fun finished _ => ?_⟩
  rw [hP.after _ _ rfl]
  refine ⟨hP.permits _ _ rfl, fun _ _ => ?_⟩
  rw [hP.after _ _ rfl]
  exact ⟨inner, id, rfl, hinner⟩

end Handlers

/-- What the handler of a request keeps to on every branch, and how its response ends up. -/
structure Handles {V : Type} (P : Protocol V) (start : V) (post : V → Response → Prop)
    (handler : Program Response) : Prop where
  keeps : handler.Keeps P post start

/-- Whether an identifier may stand in a header. -/
def isHeaderId (id : Id) : Prop := isHeaderValue id.text = true

theorem isHeaderValue_location {id : Id} (h : isHeaderId id) :
    isHeaderValue (accountsPath ++ "/" ++ id.text) = true := by
  unfold isHeaderId isHeaderValue at *
  rw [String.toList_append, List.all_append, h, Bool.and_true]
  decide +kernel

/-- How the response to the creation of an account goes with what was done at the store. -/
inductive CreationResponse (r : Request) : Stage × List Exchange × Unit → Response → Prop
  | undecoded :
      CreationResponse r (.idle, [], ()) (failureResponse (.invalidRequest notDecodedMessage))
  | created {tx : Transaction} {writes : List Observed} {calls : List Exchange} {a : Account}
      (added : a.Insertion writes) :
      CreationResponse r (.kept tx writes, calls, ())
        ((Response.empty 201).withHeader "location" (accountsPath ++ "/" ++ a.id.text))
  | failed {stage : Stage} {calls : List Exchange} {f : Failure} {body : CreateAccountBody}
      (isOpen : stage.Open) (decoded : r.json? = some body)
      (reason : f.code = .internal ∨ (f.code = .conflict ∧ Refused body.username calls)) :
      CreationResponse r (stage, calls, ()) (failureResponse f)

section Accounts

variable {layers : List Layer} {reporters : List Clock} {database user : String}
  {ids : Identifiers} {clock : Clock} {base : Url}

/-- What a creation keeps to: its stage, its calls, and the identifiers that are given out. -/
abbrev creating : Protocol (Stage × List Exchange × Unit) :=
  stageProtocol.both (conversation.both (givenIds isHeaderId))

theorem creating_ignoresAsides : creating.IgnoresAsides :=
  stageProtocol_ignoresAsides.both (conversation_ignoresAsides.both (givenIds_ignoresAsides _))

theorem App.create_handles (hlayers : ∀ layer ∈ layers, layer.Quiet)
    (hreporters : ∀ reporter ∈ reporters, reporter.Quiet) (hids : ids.Quiet)
    (hclock : clock.Quiet) (hfit : ids.Fit isHeaderId) (r : Request) :
    Handles creating (.idle, [], ()) (CreationResponse r)
      ((App.mk (.stacked layers reporters database user ids clock) base).create r) := by
  constructor
  unfold App.create
  cases hbody : r.json? (α := CreateAccountBody) with
  | none => exact keeps_respondToGarbage creating_ignoresAsides .undecoded
  | some body =>
    have hdecorates := Service.stacked_decorates hlayers hreporters hids hclock database user
    have hstage := (hdecorates.create body.account).keeps_asides stageProtocol_ignoresAsides
      (createAccount_keeps_stage hids hclock body.account)
    have hcalls := (hdecorates.create body.account).keeps_asides conversation_ignoresAsides
      (createAccount_fails hids hclock body.account [])
    have hgives := Service.stacked_create_gives layers reporters database user clock hfit
      body.account
    have hall := hstage.both (hcalls.both hgives.keeps)
    simp only [Program.bind_eq]
    rw [Program.keeps_bind]
    refine hall.mono ?_
    rintro ⟨stage, calls, _⟩ outcome ⟨hyields, hfails, hid⟩
    cases outcome with
    | ok a =>
      rcases hyields with ⟨tx, writes, a', rfl, heq, hadded⟩ | ⟨-, failure, heq⟩
      · cases heq
        show CreationResponse r _ (createdResponse a)
        unfold createdResponse
        rw [if_pos (isHeaderValue_location (hid a rfl))]
        exact .created hadded
      · cases heq
    | error f =>
      rcases hyields with ⟨tx, writes, a', -, heq, -⟩ | ⟨hopen, -⟩
      · cases heq
      · exact keeps_respondToFailure creating_ignoresAsides (.failed hopen hbody (hfails f rfl))

/-- How the response to a listing goes with the calls to the store. -/
inductive ListingResponse : List Exchange → Response → Prop
  | undecoded : ListingResponse [] (failureResponse (.invalidRequest notDecodedMessage))
  | page {calls : List Exchange} (page : Page AccountView) : ListingResponse calls (.json 200 page)
  | failed {calls : List Exchange} {f : Failure}
      (reason : f.code = .internal ∨ (f.code = .invalidRequest ∧ calls = [])) :
      ListingResponse calls (failureResponse f)

theorem App.list_handles (hlayers : ∀ layer ∈ layers, layer.Quiet)
    (hreporters : ∀ reporter ∈ reporters, reporter.Quiet) (hids : ids.Quiet)
    (hclock : clock.Quiet) (r : Request) :
    Handles (reading.both conversation) ((), []) (fun v => ListingResponse v.2)
      ((App.mk (.stacked layers reporters database user ids clock) base).list r) := by
  constructor
  have hignores := reading_ignoresAsides.both conversation_ignoresAsides
  unfold App.list
  cases windowOfQuery? (Target.parse r.target).query with
  | none => exact keeps_respondToGarbage hignores .undecoded
  | some window =>
    have hdecorates := Service.stacked_decorates hlayers hreporters hids hclock database user
    have hplain := (listAccounts_reads window).keeps_reading.both
      (listAccounts_fails (.direct database user) window)
    simp only [Program.bind_eq]
    rw [Program.keeps_bind]
    refine ((hdecorates.list window).keeps_asides hignores hplain).mono ?_
    rintro ⟨_, calls⟩ outcome ⟨-, hfails⟩
    cases outcome with
    | error f => exact keeps_respondToFailure hignores (.failed (hfails f rfl))
    | ok listing =>
      dsimp only
      cases PageLinks.build base accountsPath listing.window listing.hasNext with
      | error e =>
        refine keeps_respondToFailure hignores (.failed (.inl ?_))
        exact Failure.code_make _ _
      | ok links => exact .page (pageOf links listing)

/-- How a response says what came of a search. -/
inductive SearchResponse : Response → Prop
  | account (view : AccountView) : SearchResponse (.json 200 view)
  | failed {f : Failure} (reason : f.code = .internal ∨ f.code = .notFound) :
      SearchResponse (failureResponse f)

theorem App.account_handles (hlayers : ∀ layer ∈ layers, layer.Quiet)
    (hreporters : ∀ reporter ∈ reporters, reporter.Quiet) (hids : ids.Quiet)
    (hclock : clock.Quiet) (id : Id) :
    Handles (reading.both conversation) ((), []) (fun _ => SearchResponse)
      ((App.mk (.stacked layers reporters database user ids clock) base).account id) := by
  constructor
  have hignores := reading_ignoresAsides.both conversation_ignoresAsides
  have hdecorates := Service.stacked_decorates hlayers hreporters hids hclock database user
  have hplain := (findAccount_reads id).keeps_reading.both
    (findAccount_fails (.direct database user) id)
  simp only [App.account, Program.bind_eq]
  rw [Program.keeps_bind]
  refine ((hdecorates.find id).keeps_asides hignores hplain).mono ?_
  rintro v outcome ⟨-, hfails⟩
  cases outcome with
  | error f => exact keeps_respondToFailure hignores (.failed (hfails f rfl))
  | ok a => exact .account (.ofAccount a)

end Accounts

/-! ## Effects -/

/-- What the response to the creation of an account says about the calls to the store and about its
committed log. -/
structure CreationEffect (r : Request) (response : Response) (calls : List Exchange)
    (before after : List Observed) : Prop where
  status : response.status ∈ [201, 400, 409, 500]
  grew_iff : response.status = 201 ↔ after ≠ before
  added : response.status = 201 → ∃ (a : Account) (writes : List Observed),
    a.Insertion writes ∧ after = before ++ writes ∧
      response.header? "location" = some (accountsPath ++ "/" ++ a.id.text)
  unchanged : response.status ≠ 201 → after = before
  uncalled : response.status = 400 → calls = []
  refused : response.status = 409 → ∃ body : CreateAccountBody,
    r.json? = some body ∧ Refused body.username calls

/-- What the response to a listing says about the calls to the store and about its committed log. -/
structure ListingEffect (response : Response) (calls : List Exchange)
    (before after : List Observed) : Prop where
  status : response.status ∈ [200, 400, 500]
  unchanged : after = before
  uncalled : response.status = 400 → calls = []

/-- What the response to a search says about the committed log of the store. -/
structure SearchEffect (response : Response) (before after : List Observed) : Prop where
  status : response.status ∈ [200, 404, 500]
  unchanged : after = before

@[simp] theorem status_withHeader (response : Response) (name value : String) :
    (response.withHeader name value).status = response.status := rfl

@[simp] theorem status_failureResponse (f : Failure) :
    (failureResponse f).status = statusOf f.code := rfl

theorem status_invalidRequest (message : String) :
    statusOf (Failure.invalidRequest message).code = 400 := by
  unfold Failure.invalidRequest
  rw [Failure.code_make]
  rfl

/-- The effect of a creation that is refused or fails: nothing has been committed for it. -/
theorem CreationEffect.of_unchanged {r : Request} {response : Response} {calls : List Exchange}
    {before after : List Observed} (hstatus : response.status ∈ [400, 409, 500])
    (hsame : after = before) (huncalled : response.status = 400 → calls = [])
    (hrefused : response.status = 409 → ∃ body : CreateAccountBody,
      r.json? = some body ∧ Refused body.username calls) :
    CreationEffect r response calls before after := by
  have hne : response.status ≠ 201 := by
    intro h
    rw [h] at hstatus
    simp at hstatus
  refine ⟨List.mem_cons_of_mem _ hstatus, ?_, fun h => absurd h hne, fun _ => hsame, huncalled,
    hrefused⟩
  exact ⟨fun h => absurd h hne, fun h => absurd hsame h⟩

/-- How a creation goes with its response decides about its effect, once it is known what the store
holds at its stage. -/
theorem CreationResponse.effect {r : Request} {stage : Stage} {calls : List Exchange}
    {inner : Response} (h : CreationResponse r (stage, calls, ()) inner) (id : RequestId)
    {before : List Observed} {l : Ledger} (hmatches : stage.Matches before l) :
    CreationEffect r (inner.withHeader requestIdHeader id.text) calls before l.committed := by
  have hlog := hmatches.1
  cases h with
  | undecoded =>
    have hsame : l.committed = before := hlog.trans (List.append_nil before)
    refine .of_unchanged ?_ hsame (fun _ => rfl) ?_
    · rw [status_withHeader, status_failureResponse, status_invalidRequest]
      simp
    · rw [status_withHeader, status_failureResponse, status_invalidRequest]
      intro h
      cases h
  | @created tx writes _ a added =>
    have hgrew : l.committed = before ++ writes := hlog
    have hne : l.committed ≠ before := by
      obtain ⟨_, _, -, -, rfl⟩ := added
      rw [hgrew]
      simp
    refine ⟨by simp [Response.withHeader, Response.empty], ⟨fun _ => hne, fun _ => rfl⟩, ?_, ?_, ?_,
      ?_⟩
    · intro _
      refine ⟨a, writes, added, hgrew, ?_⟩
      simp [Response.header?, Response.withHeader, Response.empty, requestIdHeader]
    · intro h
      exact absurd rfl h
    · intro h
      cases h
    · intro h
      cases h
  | @failed _ _ f body isOpen decoded reason =>
    have hsame : l.committed = before := by
      rw [hlog]
      cases stage with
      | kept tx writes => exact absurd rfl (isOpen tx writes)
      | _ => exact List.append_nil before
    rcases reason with hinternal | ⟨hconflict, hrefused⟩
    · refine .of_unchanged ?_ hsame ?_ ?_ <;>
        rw [status_withHeader, status_failureResponse, hinternal]
      · simp [statusOf]
      · intro h
        cases h
      · intro h
        cases h
    · refine .of_unchanged ?_ hsame ?_ ?_ <;>
        rw [status_withHeader, status_failureResponse, hconflict]
      · simp [statusOf]
      · intro h
        cases h
      · intro _
        exact ⟨body, decoded, hrefused⟩

theorem ListingResponse.effect {calls : List Exchange} {inner : Response}
    (h : ListingResponse calls inner) (id : RequestId) {before after : List Observed}
    (hsame : after = before) :
    ListingEffect (inner.withHeader requestIdHeader id.text) calls before after := by
  cases h with
  | undecoded =>
    refine ⟨?_, hsame, fun _ => rfl⟩
    rw [status_withHeader, status_failureResponse, status_invalidRequest]
    simp
  | page page =>
    refine ⟨by simp [Response.json], hsame, ?_⟩
    intro h
    cases h
  | @failed _ f reason =>
    rcases reason with hinternal | ⟨hinvalid, huncalled⟩
    · refine ⟨?_, hsame, ?_⟩
      · rw [status_withHeader, status_failureResponse, hinternal]
        simp [statusOf]
      · rw [status_withHeader, status_failureResponse, hinternal]
        intro h
        cases h
    · refine ⟨?_, hsame, fun _ => huncalled⟩
      rw [status_withHeader, status_failureResponse, hinvalid]
      simp [statusOf]

theorem SearchResponse.effect {inner : Response} (h : SearchResponse inner) (id : RequestId)
    {before after : List Observed} (hsame : after = before) :
    SearchEffect (inner.withHeader requestIdHeader id.text) before after := by
  refine ⟨?_, hsame⟩
  rw [status_withHeader]
  cases h with
  | account view => simp [Response.json]
  | @failed f reason =>
    rw [status_failureResponse]
    rcases reason with hinternal | hmissing
    · rw [hinternal]
      simp [statusOf]
    · rw [hmissing]
      simp [statusOf]

section Runs

variable {τ : Type} (w : Surroundings τ) (s : Memory × τ) {p : Program Response} (r : Request)

/-- Serving a request whose handler only reads leaves the committed log as it is. -/
theorem run_respondTracked_reading {post : Unit × List Exchange → Response → Prop}
    (hp : Handles (reading.both conversation) ((), []) post p) :
    ∃ (inner : Response) (id : RequestId),
      ((respondTracked r p).run w.machine s).1 = inner.withHeader requestIdHeader id.text ∧
      post ((), (respondTracked r p).exchanges w.machine s) inner ∧
      ((respondTracked r p).run w.machine s).2.1.committed = s.1.committed := by
  have hserving := keeps_respondTracked (reading_ignoresAsides.both conversation_ignoresAsides)
    hp.keeps r
  obtain ⟨⟨inner, id, hresponse, hpost⟩, hsame⟩ := Program.keeps_run_of_step hserving w.machine
    (fun _ => True) (fun _ s' => s'.1.committed = s.1.committed)
    (fun _ s' e hsame hpermits _ =>
      ⟨⟨trivial, trivial⟩, (w.step_reading hpermits.1).trans hsame⟩)
    (fun _ _ => trivial) rfl
  rw [Program.follow_both] at hpost
  exact ⟨inner, id, hresponse, hpost, hsame⟩

/-- Serving a request whose handler creates an account leaves its stage and the ledger together. -/
theorem run_respondTracked_creating {post : Stage × List Exchange × Unit → Response → Prop}
    (hp : Handles creating (.idle, [], ()) post p)
    (hgiven : ∀ x ∈ (respondTracked r p).trace w.machine s,
      ∀ id, Answered.id? x = some id → isHeaderId id) :
    ∃ (inner : Response) (id : RequestId) (stage : Stage),
      ((respondTracked r p).run w.machine s).1 = inner.withHeader requestIdHeader id.text ∧
      post (stage, (respondTracked r p).exchanges w.machine s, ()) inner ∧
      stage.Matches s.1.committed ((respondTracked r p).run w.machine s).2.1.ledger := by
  have hserving := keeps_respondTracked creating_ignoresAsides hp.keeps r
  obtain ⟨⟨inner, id, hresponse, hpost⟩, hmatches⟩ := Program.keeps_run_of_step hserving w.machine
    (fun x => ∀ id, Answered.id? x = some id → isHeaderId id)
    (fun v s' => v.1.Matches s.1.committed s'.1.ledger)
    (fun v s' e hfits hpermits hkind =>
      have hstep := w.step_matches hfits hpermits.1
      ⟨⟨hstep.1, trivial, hkind⟩, hstep.2⟩)
    hgiven ⟨(List.append_nil _).symm, nofun⟩
  rw [Program.follow_both, Program.follow_both] at hpost hmatches
  exact ⟨inner, id, _, hresponse, hpost, hmatches⟩

end Runs

/-- What the response to a request about accounts says about the store in memory, however the
service is put together and whatever the store has been set up to do, as long as the identifiers
given out while it is served may stand in a header. -/
theorem App.serve_effect {τ : Type} (w : Surroundings τ) (s : Memory × τ) {layers : List Layer}
    {reporters : List Clock} {ids : Identifiers} {clock : Clock}
    (hlayers : ∀ layer ∈ layers, layer.Quiet) (hreporters : ∀ reporter ∈ reporters, reporter.Quiet)
    (hids : ids.Quiet) (hclock : clock.Quiet) (hfit : ids.Fit isHeaderId) (database user : String)
    (base : Url) (health : Health) (r : Request) :
    let app : App := ⟨.stacked layers reporters database user ids clock, base⟩
    let serving := app.serve health r
    let response := (serving.run w.machine s).1
    let calls := serving.exchanges w.machine s
    let before := s.1.committed
    let after := (serving.run w.machine s).2.1.committed
    (∀ x ∈ serving.trace w.machine s, ∀ id, Answered.id? x = some id → isHeaderId id) →
      match r.route? with
      | some .create => CreationEffect r response calls before after
      | some .list => ListingEffect response calls before after
      | some (.account _) => SearchEffect response before after
      | _ => True := by
  intro app serving response calls before after hgiven
  cases hroute : r.route? with
  | none => trivial
  | some route =>
    cases route with
    | create =>
      have hserving : serving = respondTracked r (app.create r) := by
        show respondTracked r (app.handle health r) = _
        unfold App.handle
        rw [hroute]
      simp only [response, calls, after, hserving] at hgiven ⊢
      have hhandles : Handles _ _ _ (app.create r) :=
        App.create_handles hlayers hreporters hids hclock hfit r
      obtain ⟨inner, id, stage, hresponse, hcreating, hmatches⟩ :=
        run_respondTracked_creating w s r hhandles hgiven
      rw [hresponse]
      exact hcreating.effect id hmatches
    | list =>
      have hserving : serving = respondTracked r (app.list r) := by
        show respondTracked r (app.handle health r) = _
        unfold App.handle
        rw [hroute]
      simp only [response, calls, after, hserving]
      have hhandles : Handles _ _ _ (app.list r) :=
        App.list_handles hlayers hreporters hids hclock r
      obtain ⟨inner, id, hresponse, hlisted, hsame⟩ := run_respondTracked_reading w s r hhandles
      rw [hresponse]
      exact hlisted.effect id hsame
    | account accountId =>
      have hserving : serving = respondTracked r (app.account accountId) := by
        show respondTracked r (app.handle health r) = _
        unfold App.handle
        rw [hroute]
      simp only [response, after, hserving]
      have hhandles : Handles _ _ _ (app.account accountId) :=
        App.account_handles hlayers hreporters hids hclock accountId
      obtain ⟨inner, id, hresponse, hfound, hsame⟩ := run_respondTracked_reading w s r hhandles
      rw [hresponse]
      exact hfound.effect id hsame
    | ready => trivial
    | live => trivial

/-- A request to create an account. -/
def requestForJohnDoe : Request where
  method := "POST"
  target := accountsPath
  headers := [⟨"content-type", "application/json".toUTF8.toList⟩]
  body := (Json.text (CreateAccountBody.mk "jdoe" "John" "Doe")).toUTF8.toList

/-- Calls are measured, and then reported. -/
def observedLayers : List Layer := [.metered (.kept 0), .logged .wall]

theorem observedLayers_quiet : ∀ layer ∈ observedLayers, layer.Quiet :=
  List.forall_mem_cons.mpr ⟨Layer.metered_quiet _,
    List.forall_mem_singleton.mpr (Layer.logged_quiet Clock.wall_quiet)⟩

/-- An application on a measured and reported store, with its own calls reported. -/
def observedApp : App where
  service := .stacked observedLayers [.wall] "accounts" "svc" .fresh .wall
  baseUrl := ⟨"http", some ⟨"", "", .name "localhost", none⟩, .segments [""], none, none⟩

/-- A creation that succeeds and commits the two writes of its account, with identifiers and times
that are reported. -/
theorem App.serve_effect_of_creation :
    let ids := Identifiers.fresh.logged
    let clock := Clock.wall.logged
    let app : App :=
      ⟨.stacked observedLayers [.wall] "accounts" "svc" ids clock, observedApp.baseUrl⟩
    let serving := app.serve .starting requestForJohnDoe
    let start := (Memory.empty, World.start () ⟨0, 0, 0⟩ "id")
    let served := serving.run World.surroundings.machine start
    (∀ layer ∈ observedLayers, layer.Quiet) ∧ (∀ reporter ∈ [Clock.wall], reporter.Quiet) ∧
      ids.Quiet ∧ clock.Quiet ∧ ids.Fit isHeaderId ∧
      (∀ x ∈ serving.trace World.surroundings.machine start,
        ∀ id, Answered.id? x = some id → isHeaderId id) ∧
      served.1.status = 201 ∧ served.2.1.committed.length = 2 ∧
      CreationEffect requestForJohnDoe served.1
        (serving.exchanges World.surroundings.machine start) [] served.2.1.committed := by
  intro ids clock app serving start served
  have hreporters : ∀ reporter ∈ [Clock.wall], reporter.Quiet :=
    List.forall_mem_singleton.mpr Clock.wall_quiet
  have hids : ids.Quiet := Identifiers.fresh_quiet.logged
  have hclock : clock.Quiet := Clock.wall_quiet.logged
  have hfit : ids.Fit isHeaderId := (Identifiers.fresh_fit _).logged
  have hgiven : ∀ x ∈ serving.trace World.surroundings.machine start,
      ∀ id, Answered.id? x = some id → isHeaderId id := by
    intro x hx id hid
    have hall : ((serving.trace World.surroundings.machine start).filterMap Answered.id?).all
        (isHeaderValue ·.text) = true := by
      decide +kernel
    exact List.all_eq_true.mp hall id (List.mem_filterMap.mpr ⟨x, hx, hid⟩)
  have hroute : requestForJohnDoe.route? = some .create := by decide +kernel
  have heffect := App.serve_effect World.surroundings start observedLayers_quiet hreporters hids
    hclock hfit "accounts" "svc" observedApp.baseUrl .starting requestForJohnDoe hgiven
  rw [hroute] at heffect
  exact ⟨observedLayers_quiet, hreporters, hids, hclock, hfit, hgiven, by decide +kernel,
    by decide +kernel, heffect⟩

end UserAccounts.Http
