import UserAccounts.Proofs.Account.Reporting
import UserAccounts.Proofs.Http.Secrecy

/-!
# Requests are tracked

Every request is served under one identifier: the one that it brings, if it can be used, and one
made up for it otherwise. `Tracked` collects where that identifier shows: in the response, in the
single report of the request, and in the reports of the call to the account service, if the request
comes to make one. A request makes at most one, namely `Request.inquiry?`.

* `App.handle_attends` — what a handler reports, whatever the outcome of the call;
* `respondTracked_tracked` — one request, under its identifier;
* `session_tracked` — any number of requests, one after the other.
-/

namespace UserAccounts

/-- An identifier is read as the text that it was read from, without white space at its ends. -/
theorem RequestId.text_of_parse {s : String} {id : RequestId} (h : parse s = .ok id) :
    id.text = Text.trim s := by
  unfold parse at h
  dsimp only at h
  split_ifs at h
  cases h
  rfl

namespace Http

open Scenario (Inquiry)

/-! ## Handlers -/

/-- What a request asks of the account service. A request that cannot be decoded asks nothing. -/
def Request.inquiry? (r : Request) : Option Inquiry :=
  match r.route? with
  | some .create => (r.json? (α := CreateAccountBody)).map fun body => .create body.account
  | some .list => (windowOfQuery? (Target.parse r.target).query).map .list
  | some (.account id) => some (.find id)
  | some .ready | some .live | none => none

/-- These are the reports, in a piece of a trace, of what is asked of a service as part of a
request. -/
inductive Reports {σ : Type} (service : Service) (m : Machine σ) (id : RequestId)
    (trace : List Answered) : Option Inquiry → List Event → Prop
  | unasked : Reports service m id trace none []
  | asked {inquiry : Inquiry} {reports : List Event}
      (h : ReportsInquiry service m id inquiry trace reports) :
      Reports service m id trace (some inquiry) reports

theorem Reports.mono {σ : Type} {service : Service} {m : Machine σ} {id : RequestId}
    {trace trace' : List Answered} {inquiry : Option Inquiry} {reports : List Event}
    (h : Reports service m id trace inquiry reports) (hpart : trace <:+: trace') :
    Reports service m id trace' inquiry reports := by
  cases h with
  | unasked => exact .unasked
  | asked h =>
    obtain ⟨s, timing, hasked, hreports⟩ := h
    exact .asked ⟨s, timing, hasked.trans hpart, hreports⟩

/-- Whatever is answered, a handler that is run as part of a request reports what it asks of the
service, and makes up no identifier. -/
def Attends (service : Service) (inquiry : Option Inquiry) (p : Program Response) : Prop :=
  ∀ (σ : Type) (m : Machine σ) (s : σ) (id : RequestId),
    let trace := (p.duringRequest id).trace m s
    freshIn trace = [] ∧ Reports service m id trace inquiry (trackedIn trace)

theorem attends_of_untracked {service : Service} {p : Program Response} (hp : p.Untracked) :
    Attends service none p := by
  intro σ m s id trace
  have hduring : (p.duringRequest id).Untracked := Program.Only.duringRequest hp id
  exact ⟨hduring.freshIn_trace m s, hduring.trackedIn_trace m s ▸ .unasked⟩

theorem attends_response {service : Service} (response : Response) :
    Attends service none (.done response) :=
  fun _ _ _ _ => ⟨rfl, .unasked⟩

/-- A call to the service is all that is reported if nothing else is asked afterwards. -/
theorem attends_inquiry {service : Service} {reporter : Clock} (hreporter : reporter.Untracked)
    {α : Type} [Text.Inspect α] (inquiry : Inquiry) {call : Program (Except Failure α)}
    (hshown : inquiry.shown service = call.bind fun outcome => .done (outcome.map Text.inspect))
    (hcall : call.Untracked) {f : Except Failure α → Program Response}
    (hf : ∀ outcome, (f outcome).Untracked) :
    Attends service (some inquiry)
      ((Service.reported reporter inquiry.operation inquiry.before call).bind f) := by
  intro σ m s id trace
  obtain ⟨entered, timing, hpart, hfresh, htracked⟩ :=
    Service.reported_tracks hreporter inquiry.operation inquiry.before hcall id m s
  have hafter (outcome : Except Failure α) : ((f outcome).duringRequest id).Untracked :=
    Program.Only.duringRequest (hf outcome) id
  have htrace : trace = _ ++ _ :=
    (congrArg (Program.trace m · s) (Program.duringRequest_bind id _ f)).trans
      (Program.trace_bind m _ _ s)
  have hasked : (inquiry.shown service).duringRequest id =
      (call.duringRequest id).bind fun outcome => .done (outcome.map Text.inspect) := by
    rw [hshown, Program.duringRequest_bind]
    rfl
  rw [htrace]
  refine ⟨?_, .asked ⟨entered, timing, ?_, ?_⟩⟩
  · rw [freshIn_append, hfresh, (hafter _).freshIn_trace, List.append_nil]
  · rw [hasked, Program.trace_bind, Program.trace_done, List.append_nil]
    exact hpart.trans (List.prefix_append _ _).isInfix
  · rw [trackedIn_append, htracked, (hafter _).trackedIn_trace, List.append_nil, hasked,
      Program.run_bind]
    rfl

theorem respondToFailure_untracked (f : Failure) : (respondToFailure f).Untracked := by
  unfold respondToFailure
  cases f.code with
  | internal => exact ⟨rfl, fun _ => trivial⟩
  | _ => trivial

theorem respondToGarbage_untracked (r : Request) : (respondToGarbage r).Untracked :=
  ⟨rfl, fun _ => respondToFailure_untracked (.invalidRequest notDecodedMessage)⟩

section Handling

variable {service : Service} {reporter : Clock}

/-- Every handler reports what the request asks of the service, and nothing if it asks nothing. -/
theorem App.handle_attends (hservice : service.Untracked) (hreporter : reporter.Untracked)
    (base : Url) (health : Health) (r : Request) :
    Attends service r.inquiry? (App.handle ⟨service.logged reporter, base⟩ health r) := by
  unfold handle Request.inquiry?
  cases r.route? with
  | none => exact attends_response _
  | some route =>
    cases route with
    | create =>
      dsimp only
      unfold create
      cases r.json? (α := CreateAccountBody) with
      | none => exact attends_of_untracked (respondToGarbage_untracked r)
      | some body =>
        refine attends_inquiry hreporter (.create body.account) rfl
          (hservice.create body.account) fun outcome => ?_
        cases outcome with
        | error f => exact respondToFailure_untracked f
        | ok a => trivial
    | list =>
      dsimp only
      unfold list
      cases windowOfQuery? (Target.parse r.target).query with
      | none => exact attends_of_untracked (respondToGarbage_untracked r)
      | some window =>
        refine attends_inquiry hreporter (.list window) rfl (hservice.list window)
          fun outcome => ?_
        cases outcome with
        | error f => exact respondToFailure_untracked f
        | ok listing =>
          dsimp only
          cases PageLinks.build base accountsPath listing.window listing.hasNext with
          | error e => exact respondToFailure_untracked _
          | ok links => trivial
    | account id =>
      refine attends_inquiry hreporter (.find id) rfl (hservice.find id)
        fun outcome => ?_
      cases outcome with
      | error f => exact respondToFailure_untracked f
      | ok a => trivial
    | ready => exact attends_response _
    | live => exact attends_response _

end Handling

/-! ## One request -/

/-- A request brings an identifier of its own: the first value of the header for it is text, and
that text, white space at its ends aside, is an identifier. -/
def Request.Brings (r : Request) (id : RequestId) : Prop :=
  ∃ header text, r.header? requestIdHeader = some header ∧ header.text? = some text ∧
    RequestId.parse text = .ok id ∧ id.text = Text.trim text

theorem Request.brings_iff {r : Request} {id : RequestId} : r.Brings id ↔ r.id? = some id := by
  unfold Request.id?
  constructor
  · rintro ⟨header, text, hheader, htext, hparse, -⟩
    rw [hheader, Option.bind_some, htext]
    dsimp only
    rw [hparse]
    rfl
  · intro h
    cases hheader : r.header? requestIdHeader with
    | none =>
      rw [hheader] at h
      cases h
    | some header =>
      rw [hheader, Option.bind_some] at h
      cases htext : header.text? with
      | none =>
        rw [htext] at h
        cases h
      | some text =>
        rw [htext] at h
        dsimp only at h
        cases hparse : RequestId.parse text with
        | error e =>
          rw [hparse] at h
          cases h
        | ok own =>
          rw [hparse] at h
          cases h
          exact ⟨header, text, hheader, htext, hparse, RequestId.text_of_parse hparse⟩

/-- A request is served under an identifier: its own, or one that was made up for it if it brings
none. The identifier stands in the response as the only value of its header. The reports are those
of the one call to the service that the request asks for, if it asks for any, under the same
identifier, and then one of the request itself, with the status of the response. -/
structure Tracked {σ : Type} (service : Service) (m : Machine σ) (r : Request) (id : RequestId)
    (response : Response) (trace : List Answered) : Prop where
  identified : (r.Brings id ∧ freshIn trace = []) ∨
    ((∀ own, ¬ r.Brings own) ∧ freshIn trace = [id])
  named : response.headers.filter (·.1 == requestIdHeader) = [(requestIdHeader, id.text)]
  reported : ∃ reports elapsed, Reports service m id trace r.inquiry? reports ∧
    trackedIn trace = reports ++
      [.requestHandled r.method (Target.parse r.target).path response.status elapsed id]

theorem filter_withHeader (response : Response) (name value : String) :
    (response.withHeader name value).headers.filter (·.1 == name) = [(name, value)] := by
  have hrest : (response.headers.filter (·.1 != name)).filter (·.1 == name) = [] := by
    rw [List.filter_filter, List.filter_eq_nil_iff]
    intro header _
    simp
  unfold Response.withHeader
  rw [List.filter_append, hrest]
  simp

section Around

variable (before inner : List Answered) (started finished : Instant) (event : Event)

/-- What a request leaves in a trace around its handler: when it was begun, when it was finished,
and a report. -/
def around : List Answered :=
  before ++ (⟨.now, started⟩ :: inner) ++ [⟨.now, finished⟩, ⟨.report event, ()⟩]

theorem freshIn_around :
    freshIn (around before inner started finished event) = freshIn before ++ freshIn inner := by
  have hlast : freshIn [⟨.now, finished⟩, ⟨.report event, ()⟩] = [] := rfl
  simp only [around, freshIn_append, freshIn_now, hlast, List.append_nil]

theorem trackedIn_around (hevent : event.isTracked = true) :
    trackedIn (around before inner started finished event) =
      trackedIn before ++ trackedIn inner ++ [event] := by
  have hlast : trackedIn [⟨.report event, ()⟩] = [event] :=
    trackedIn_reports (List.forall_mem_singleton.mpr hevent)
  simp only [around, trackedIn_append, trackedIn_now, hlast]

theorem infix_around : inner <:+: around before inner started finished event :=
  ((List.suffix_cons _ _).trans (List.suffix_append _ _)).isInfix.trans
    (List.prefix_append _ _).isInfix

end Around

section One

variable {σ : Type} {service : Service} {m : Machine σ} {r : Request} {p : Program Response}

/-- While a request is served, its handler is run under its identifier between two readings of the
clock, and then the request is reported. -/
theorem respondTracked_runs (r : Request) (p : Program Response) (m : Machine σ) (s : σ) :
    let id := (r.identify.run m s).1
    ∃ (entered : σ) (started finished : Instant),
      let handled := (p.duringRequest id).run m entered
      ((respondTracked r p).run m s).1 = handled.1.withHeader requestIdHeader id.text ∧
      (respondTracked r p).trace m s = around (r.identify.trace m s)
        ((p.duringRequest id).trace m entered) started finished
        (.requestHandled r.method (Target.parse r.target).path handled.1.status
          (finished.since started) id) := by
  intro id
  have htracked : respondTracked r p = r.identify.bind fun id =>
      .perform .now fun started => (p.duringRequest id).bind fun response =>
        .perform .now fun finished =>
          .perform (.report (.requestHandled r.method (Target.parse r.target).path response.status
            (finished.since started) id)) fun _ =>
            .done (response.withHeader requestIdHeader id.text) := by
    simp only [respondTracked, tracked, Program.now, Program.report, Program.ask, Program.bind_eq,
      Program.pure_eq_done, Program.bind_assoc, Program.perform_bind, Program.done_bind]
  rw [htracked]
  simp only [Program.run_bind, Program.run_perform, Program.run_done, Program.trace_bind,
    Program.trace_perform, Program.trace_done]
  exact ⟨_, _, _, rfl, by simp only [around, List.append_assoc, List.cons_append]; rfl⟩

/-- The identifier of a request is its own, or else is made up first of all. -/
theorem identify_tracks (r : Request) (m : Machine σ) (s : σ) :
    let id := (r.identify.run m s).1
    let trace := r.identify.trace m s
    trackedIn trace = [] ∧ ((r.Brings id ∧ freshIn trace = []) ∨
      ((∀ own, ¬ r.Brings own) ∧ freshIn trace = [id])) := by
  unfold Request.identify
  cases hid : r.id? with
  | some own => exact ⟨rfl, .inl ⟨Request.brings_iff.mpr hid, rfl⟩⟩
  | none =>
    refine ⟨rfl, .inr ⟨fun own hown => ?_, rfl⟩⟩
    exact nomatch hid.symm.trans (Request.brings_iff.mp hown)

/-- Whatever its handler does, a request is tracked. -/
theorem respondTracked_tracked (hp : Attends service r.inquiry? p) (m : Machine σ) (s : σ) :
    ∃ id, Tracked service m r id ((respondTracked r p).run m s).1
      ((respondTracked r p).trace m s) := by
  obtain ⟨entered, started, finished, hrun, htrace⟩ := respondTracked_runs r p m s
  obtain ⟨hunreported, hidentified⟩ := identify_tracks r m s
  generalize (r.identify.run m s).1 = id at hrun htrace hidentified
  obtain ⟨hfresh, hreports⟩ := hp σ m entered id
  rw [hrun, htrace]
  refine ⟨id, ?_, filter_withHeader _ _ _, _, finished.since started,
    hreports.mono (infix_around ..), ?_⟩
  · rw [freshIn_around, hfresh, List.append_nil]
    exact hidentified
  · rw [trackedIn_around _ _ _ _ _ rfl, hunreported, List.nil_append]
    rfl

end One

/-! ## Many requests -/

/-- Requests are served one after the other; the health may be another one each time. -/
def session (serve : Health → Request → Program Response) :
    List (Health × Request) → Program (List Response)
  | [] => .done []
  | (health, r) :: rest => (serve health r).bind fun response =>
      (session serve rest).bind fun responses => .done (response :: responses)

section Many

variable {service : Service} {reporter : Clock} {base : Url} {counter : RequestCounter}
  {serve : Health → Request → Program Response}

/-- Places of the application are none of the extras. -/
theorem Request.route?_of_extra {r : Request} {extra : Extra}
    (h : Extra.ofPath? r.matchedPath = some extra) : r.route? = none := by
  have hpath : r.matchedPath = extra.path := by
    have hfound := List.find?_some h
    exact (beq_iff_eq.mp hfound).symm
  have hplace : Place.ofPath? r.matchedPath = none := by
    rw [hpath]
    cases extra <;> decide +kernel
  unfold Request.route?
  unfold Request.matchedPath at hplace
  rw [hplace]
  rfl

theorem Request.inquiry?_of_extra {r : Request} {extra : Extra}
    (h : Extra.ofPath? r.matchedPath = some extra) : r.inquiry? = none := by
  unfold Request.inquiry?
  rw [route?_of_extra h]

/-- The application and the server around it track every request. -/
theorem serve_tracked (hservice : service.Untracked) (hreporter : reporter.Untracked)
    (hserve : serve ∈ [App.serve ⟨service.logged reporter, base⟩,
      (Server.mk ⟨service.logged reporter, base⟩ counter).serve])
    (health : Health) (r : Request) {σ : Type} (m : Machine σ) (s : σ) :
    ∃ id, Tracked service m r id ((serve health r).run m s).1 ((serve health r).trace m s) := by
  have hserving := List.mem_map_of_mem (f := fun serve => serve health r) hserve
  rcases eq_respondTracked hserving with heq | ⟨extra, hextra, heq⟩ <;> rw [heq]
  · exact respondTracked_tracked (App.handle_attends hservice hreporter base health r) m s
  · refine respondTracked_tracked ?_ m s
    rw [Request.inquiry?_of_extra hextra]
    exact attends_response extra.respond

/-- However many requests are served, whatever they bring and whatever the store answers, the run
falls into one piece for each request, in which that request is tracked. -/
theorem session_tracked (hservice : service.Untracked) (hreporter : reporter.Untracked)
    (base : Url) (counter : RequestCounter)
    (hserve : serve ∈ [App.serve ⟨service.logged reporter, base⟩,
      (Server.mk ⟨service.logged reporter, base⟩ counter).serve])
    (requests : List (Health × Request)) {σ : Type} (m : Machine σ) (s : σ) :
    ∃ served : List (Response × List Answered),
      ((session serve requests).run m s).1 = served.map (·.1) ∧
      (session serve requests).trace m s = served.flatMap (·.2) ∧
      List.Forall₂ (fun request x => ∃ id, Tracked service m request.2 id x.1 x.2) requests
        served := by
  induction requests generalizing s with
  | nil => exact ⟨[], rfl, rfl, .nil⟩
  | cons request rest ih =>
    obtain ⟨health, r⟩ := request
    obtain ⟨served, hrun, htrace, htracked⟩ := ih ((serve health r).run m s).2
    refine ⟨(((serve health r).run m s).1, (serve health r).trace m s) :: served, ?_, ?_, ?_⟩
    · rw [session, Program.run_bind, Program.run_bind, Program.run_done, hrun]
      rfl
    · rw [session, Program.trace_bind, Program.trace_bind, Program.trace_done, List.append_nil,
        htrace]
      rfl
    · exact .cons (serve_tracked hservice hreporter hserve health r m s) htracked

end Many

/-- An account service over a measured and reported store, with everything else reported as well. -/
def observedService : Service :=
  .ofStore (Layer.applyAll observedLayers (.direct "accounts" "svc")) Identifiers.fresh.logged
    Clock.wall.logged

theorem observedService_untracked : observedService.Untracked := by
  have hlayers : ∀ layer ∈ observedLayers, layer.Untracked :=
    List.forall_mem_cons.mpr ⟨trivial, List.forall_mem_singleton.mpr Clock.wall_untracked⟩
  exact Service.ofStore_untracked ((Store.direct_untracked _ _).applyAll hlayers)
    Identifiers.fresh_untracked.logged Clock.wall_untracked.logged

/-- An account is created under an identifier with blanks around it, a body is no JSON under one
that is no text, an account is missing under the first of two, and a path leads nowhere. -/
def differentRequests : List (Health × Request) :=
  [(.starting, { requestForJohnDoe with
      headers := ⟨"X-Request-Id", " abc-1\t".toUTF8.toList⟩ :: requestForJohnDoe.headers }),
    (.starting, { requestForJohnDoe with
      headers := ⟨"x-request-id", [0x61, 0xff]⟩ :: requestForJohnDoe.headers
      body := [0x7b] }),
    (.starting, ⟨"GET", accountsPath ++ "/none", [⟨"x-request-id", "first".toUTF8.toList⟩,
      ⟨"x-request-id", "second".toUTF8.toList⟩], []⟩),
    (.starting, ⟨"PUT", "/nowhere", [], []⟩)]

theorem session_tracked_of_different :
    let app : App := ⟨observedService.logged .wall, observedApp.baseUrl⟩
    let serving := session app.serve differentRequests
    let machine := World.machine Backend.memory
    let start := World.start Memory.empty ⟨0, 0, 0⟩ "id"
    observedService.Untracked ∧ Clock.wall.Untracked ∧
      app.serve ∈ [app.serve, (Server.mk app ⟨0⟩).serve] ∧
      ((serving.run machine start).1.map (·.status)) = [201, 400, 404, 404] ∧
      (trackedIn (serving.trace machine start)).map Event.message =
        ["user account service call", "request handled", "request handled",
          "user account service call", "user account service call failed", "request handled",
          "request handled"] ∧
      ∃ served : List (Response × List Answered),
        (serving.run machine start).1 = served.map (·.1) ∧
        serving.trace machine start = served.flatMap (·.2) ∧
        List.Forall₂ (fun request x => ∃ id, Tracked observedService machine request.2 id x.1 x.2)
          differentRequests served := by
  intro app serving machine start
  have hserve : app.serve ∈ [app.serve, (Server.mk app ⟨0⟩).serve] := List.mem_cons_self
  exact ⟨observedService_untracked, Clock.wall_untracked, hserve, by decide +kernel,
    by decide +kernel, session_tracked observedService_untracked Clock.wall_untracked
      observedApp.baseUrl ⟨0⟩ hserve differentRequests machine start⟩

end Http

end UserAccounts
