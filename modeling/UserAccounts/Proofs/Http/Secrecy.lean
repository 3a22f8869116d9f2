import UserAccounts.Http.Server
import UserAccounts.Proofs.Account.Discretion
import UserAccounts.Proofs.Http.Effect

/-!
# What clients are told about failures

Failures of the store do not show in responses (`App.serve_secret`): on two stores that are set up
alike but for failures a request gets the same response, and whatever has gone wrong inside, the
body of a response with status 500 is always `concealedBody`.

* `App.handle_alike` — the handlers hand on nothing of what an internal failure says;
* `App.handle_conceals` — a handler that answers with 500 answers to an internal failure.

The second part needs identifiers that may stand in a header. The location of an account whose
identifier may not is refused only when its response is put together, and the refusal is a response
in words of its own.
-/

namespace UserAccounts.Http

/-- The body of a response that tells of an internal failure. -/
def concealedBody : String :=
  "\x7b\"code\":\"internal_error\",\"message\":\"an internal error has occurred\"\x7d"

/-- The response to an internal failure is the same whatever it says. -/
theorem failureResponse_internal {f : Failure} (h : f.code = .internal) :
    failureResponse f = ⟨500, [("content-type", "application/json")], concealedBody⟩ := by
  have hredacted : redacted f = .internal fallbackMessage := by
    unfold redacted
    rw [h]
  unfold failureResponse
  rw [h, hredacted]
  decide +kernel

theorem failureResponse_alike {f f' : Failure} (h : f.Alike f') :
    failureResponse f = failureResponse f' := by
  rcases h with rfl | ⟨hf, hf'⟩
  · rfl
  · rw [failureResponse_internal hf, failureResponse_internal hf']

/-! ## Responses in two runs -/

theorem respondToFailure_quiet (f : Failure) : (respondToFailure f).Quiet := by
  unfold respondToFailure
  cases f.code with
  | internal => exact ⟨rfl, fun _ => trivial⟩
  | _ => trivial

theorem respondToFailure_alike {f f' : Failure} (h : f.Alike f') :
    Program.Alike Eq (respondToFailure f) (respondToFailure f') := by
  have hresponse := failureResponse_alike h
  rcases h with rfl | ⟨hf, hf'⟩
  · exact (respondToFailure_quiet f).alike
  · unfold respondToFailure
    rw [hf, hf']
    exact .report (.done hresponse)

theorem respondToGarbage_quiet (r : Request) : (respondToGarbage r).Quiet :=
  ⟨rfl, fun _ => respondToFailure_quiet (.invalidRequest notDecodedMessage)⟩

theorem Request.identify_quiet (r : Request) : r.identify.Quiet := by
  unfold Request.identify
  cases r.id? with
  | some id => trivial
  | none => exact ⟨rfl, fun _ => trivial⟩

namespace App

variable {app : App}

/-- A handler makes the same of outcomes that differ in what internal failures say. -/
theorem handle_alike (h : app.service.Discreet) (health : Health) (r : Request) :
    Program.Alike Eq (app.handle health r) (app.handle health r) := by
  unfold handle
  cases r.route? with
  | none => exact .done rfl
  | some route =>
    cases route with
    | create =>
      unfold create
      cases r.json? (α := CreateAccountBody) with
      | none => exact (respondToGarbage_quiet r).alike
      | some body =>
        refine (h.create body.account).bind fun outcome outcome' houtcome => ?_
        cases houtcome with
        | ok a => exact .done rfl
        | error hf => exact respondToFailure_alike hf
    | list =>
      unfold list
      cases windowOfQuery? (Target.parse r.target).query with
      | none => exact (respondToGarbage_quiet r).alike
      | some window =>
        refine (h.list window).bind fun outcome outcome' houtcome => ?_
        cases houtcome with
        | error hf => exact respondToFailure_alike hf
        | ok listing =>
          dsimp only
          cases PageLinks.build app.baseUrl accountsPath listing.window listing.hasNext with
          | error e => exact (respondToFailure_quiet _).alike
          | ok links => exact .done rfl
    | account id =>
      refine (h.find id).bind fun outcome outcome' houtcome => ?_
      cases houtcome with
      | ok a => exact .done rfl
      | error hf => exact respondToFailure_alike hf
    | ready => exact .done rfl
    | live => exact .done rfl

end App

theorem respondTracked_alike (r : Request) {p : Program Response} (hp : p.Alike Eq p) :
    Program.Alike Eq (respondTracked r p) (respondTracked r p) := by
  simp only [respondTracked, tracked, Program.bind_eq, Program.pure_eq_done, Program.bind_assoc]
  refine r.identify_quiet.alike_bind fun id => .shared fun started _ hstarted => ?_
  cases hstarted
  refine (hp.duringRequest id).bind fun response _ hresponse => ?_
  cases hresponse
  refine .shared fun finished _ hfinished => ?_
  cases hfinished
  exact .shared fun _ _ _ => .done rfl

/-! ## Responses with status 500 -/

/-- A response that says of an internal failure nothing but that there was one. -/
def Conceals (response : Response) : Prop :=
  response.status = 500 → response.body = concealedBody

theorem failureResponse_conceals (f : Failure) : Conceals (failureResponse f) := by
  intro hstatus
  cases hcode : f.code with
  | internal => rw [failureResponse_internal hcode]
  | _ =>
    rw [status_failureResponse, hcode] at hstatus
    cases hstatus

theorem Conceals.withHeader {response : Response} (h : Conceals response) (name value : String) :
    Conceals (response.withHeader name value) := h

theorem Conceals.of_status {response : Response} (h : response.status ≠ 500) : Conceals response :=
  fun hstatus => absurd hstatus h

section Giving

variable {good : Id → Prop}

theorem respondToFailure_conceals (f : Failure) : (respondToFailure f).Gives good Conceals :=
  ⟨keeps_respondToFailure (givenIds_ignoresAsides good) (failureResponse_conceals f)⟩

theorem respondToGarbage_conceals (r : Request) : (respondToGarbage r).Gives good Conceals :=
  ⟨keeps_respondToGarbage (givenIds_ignoresAsides good) (failureResponse_conceals _)⟩

theorem respondTracked_conceals (r : Request) {p : Program Response} (hp : p.Gives good Conceals) :
    (respondTracked r p).Gives good Conceals := by
  refine ⟨(keeps_respondTracked (givenIds_ignoresAsides good) hp.keeps r).mono ?_⟩
  rintro _ _ ⟨inner, id, rfl, hinner⟩
  exact hinner.withHeader requestIdHeader id.text

end Giving

theorem createdResponse_conceals {a : Account} (h : isHeaderId a.id) :
    Conceals (createdResponse a) := by
  unfold createdResponse
  rw [if_pos (isHeaderValue_location h)]
  exact .of_status (by simp [Response.empty])

theorem probe_conceals (passes : Bool) : Conceals (Health.probe passes) := by
  cases passes <;> exact .of_status (by simp [Health.probe, Response.empty])

theorem extra_conceals (extra : Extra) : Conceals extra.respond := by
  cases extra with
  | description => exact .of_status (by simp [Extra.respond, Response.json])
  | page => exact .of_status (by simp [Extra.respond, Response.plain])

/-- A handler answers with 500 to an internal failure and to nothing else, as long as accounts can
be located by their identifiers. -/
theorem App.handle_conceals {app : App}
    (hgives : ∀ account, (app.service.create account).Gives isHeaderId (Identified isHeaderId))
    (health : Health) (r : Request) : (app.handle health r).Gives isHeaderId Conceals := by
  unfold handle
  cases r.route? with
  | none => exact Program.gives_done (.of_status (by simp [Response.empty]))
  | some route =>
    cases route with
    | create =>
      unfold create
      cases r.json? (α := CreateAccountBody) with
      | none => exact respondToGarbage_conceals r
      | some body =>
        refine (hgives body.account).bind fun outcome houtcome => ?_
        cases outcome with
        | ok a => exact Program.gives_done (createdResponse_conceals (houtcome a rfl))
        | error f => exact respondToFailure_conceals f
    | list =>
      unfold list
      cases windowOfQuery? (Target.parse r.target).query with
      | none => exact respondToGarbage_conceals r
      | some window =>
        refine Program.gives_bind fun outcome => ?_
        cases outcome with
        | error f => exact respondToFailure_conceals f
        | ok listing =>
          dsimp only
          cases PageLinks.build app.baseUrl accountsPath listing.window listing.hasNext with
          | error e => exact respondToFailure_conceals _
          | ok links => exact Program.gives_done (.of_status (by simp [Response.json]))
    | account id =>
      refine Program.gives_bind fun outcome => ?_
      cases outcome with
      | error f => exact respondToFailure_conceals f
      | ok a => exact Program.gives_done (.of_status (by simp [Response.json]))
    | ready => exact Program.gives_done (probe_conceals health.ready)
    | live => exact Program.gives_done (probe_conceals health.live)

/-! ## Secrecy -/

section Serving

variable {app : App} {counter : RequestCounter} {health : Health} {r : Request}
  {serving : Program Response}

/-- A request goes to the application or to one of the extras, and is tracked either way. -/
theorem eq_respondTracked
    (h : serving ∈ [app.serve health r, (Server.mk app counter).serve health r]) :
    serving = respondTracked r (app.handle health r) ∨
      ∃ extra : Extra, Extra.ofPath? r.matchedPath = some extra ∧
        serving = respondTracked r (pure extra.respond) := by
  rcases List.mem_cons.mp h with rfl | h
  · exact .inl rfl
  · rw [List.mem_singleton.mp h]
    unfold Server.serve Request.extra?
    by_cases hget : (r.method == "GET") = true
    · rw [if_pos hget]
      cases Extra.ofPath? r.matchedPath with
      | none => exact .inl rfl
      | some extra => exact .inr ⟨extra, rfl, rfl⟩
    · rw [if_neg hget]
      exact .inl rfl

theorem serve_alike (hdiscreet : app.service.Discreet)
    (h : serving ∈ [app.serve health r, (Server.mk app counter).serve health r]) :
    serving.Alike Eq serving := by
  rcases eq_respondTracked h with rfl | ⟨extra, -, rfl⟩
  · exact respondTracked_alike r (App.handle_alike hdiscreet health r)
  · exact respondTracked_alike r (.done rfl)

theorem serve_conceals
    (hgives : ∀ account, (app.service.create account).Gives isHeaderId (Identified isHeaderId))
    (h : serving ∈ [app.serve health r, (Server.mk app counter).serve health r]) :
    serving.Gives isHeaderId Conceals := by
  rcases eq_respondTracked h with rfl | ⟨extra, -, rfl⟩
  · exact respondTracked_conceals r (App.handle_conceals hgives health r)
  · exact respondTracked_conceals r (Program.gives_done (extra_conceals extra))

end Serving

/-- Failures of the store do not show in responses. On stores that are set up alike but for
failures, a request gets the same response, and leaves the stores alike; and whatever has gone
wrong, a response with status 500 says nothing of it, as long as the identifiers that are given out
may stand in a header. -/
theorem App.serve_secret {layers : List Layer} {reporters : List Clock} {ids : Identifiers}
    {clock : Clock} (hlayers : ∀ layer ∈ layers, layer.Quiet)
    (hreporters : ∀ reporter ∈ reporters, reporter.Quiet) (hids : ids.Quiet)
    (hclock : clock.Quiet) (database user : String) (base : Url) (health : Health)
    (counter : RequestCounter) (r : Request) :
    let app : App := ⟨.stacked layers reporters database user ids clock, base⟩
    ∀ serving ∈ [app.serve health r, (Server.mk app counter).serve health r],
      (∀ {τ : Type} (w : Surroundings τ) (memory memory' : Memory) (t : τ),
        memory.erased = memory'.erased →
          let ended := serving.run w.machine (memory, t)
          let ended' := serving.run w.machine (memory', t)
          ended.1 = ended'.1 ∧ ended.2.1.erased = ended'.2.1.erased ∧ ended.2.2 = ended'.2.2) ∧
      (ids.Fit isHeaderId → ∀ {σ : Type} (m : Machine σ) (s : σ),
        (∀ x ∈ serving.trace m s, ∀ id, Answered.id? x = some id → isHeaderId id) →
          let response := (serving.run m s).1
          response.status = 500 → response.body = concealedBody) := by
  intro app serving hserving
  constructor
  · intro τ w memory memory' t hmemory
    have hdiscreet : app.service.Discreet :=
      Service.stacked_discreet hlayers hreporters hids hclock database user
    exact w.run_alike (serve_alike hdiscreet hserving) hmemory t
  · intro hfit σ m s hgiven
    have hgives (account : Account) :=
      Service.stacked_create_gives layers reporters database user clock hfit account
    exact (serve_conceals hgives hserving).run m hgiven

/-- A store on which checking a username fails, and then rolling back. -/
def brokenStore (checking undoing : StoreError) : Memory :=
  (Memory.empty.respond Statements.usernameExists (.fail checking)).fail .rollback undoing

/-- A creation that fails and cannot be rolled back either, for one reason or for another. -/
theorem App.serve_secret_of_failed_rollback :
    let serving := observedApp.serve .starting requestForJohnDoe
    let memory := brokenStore (.query "disk full") (.rollback "link lost")
    let memory' := brokenStore (.connection "10.0.0.7 refused") .transactionDone
    let start := World.start () ⟨0, 0, 0⟩ "id"
    let response := (serving.run World.surroundings.machine (memory, start)).1
    (∀ layer ∈ observedLayers, layer.Quiet) ∧ (∀ reporter ∈ [Clock.wall], reporter.Quiet) ∧
      Identifiers.fresh.Quiet ∧ Clock.wall.Quiet ∧ Identifiers.fresh.Fit isHeaderId ∧
      memory.erased = memory'.erased ∧
      response = (serving.run World.surroundings.machine (memory', start)).1 ∧
      response.status = 500 ∧ response.body = concealedBody := by
  intro serving memory memory' start response
  have hsecret := App.serve_secret observedLayers_quiet
    (List.forall_mem_singleton.mpr Clock.wall_quiet) Identifiers.fresh_quiet Clock.wall_quiet
    "accounts" "svc" observedApp.baseUrl .starting ⟨0⟩ requestForJohnDoe serving List.mem_cons_self
  have hfit : Identifiers.fresh.Fit isHeaderId := Identifiers.fresh_fit _
  have herased : memory.erased = memory'.erased := rfl
  have hstatus : response.status = 500 := by decide +kernel
  -- The check fails before the first identifier would be given out.
  have hgiven : ∀ x ∈ serving.trace World.surroundings.machine (memory, start),
      ∀ id, Answered.id? x = some id → isHeaderId id := by
    intro x hx id hid
    have hnone : (serving.trace World.surroundings.machine (memory, start)).filterMap
        Answered.id? = [] := by
      decide +kernel
    have hmem := List.mem_filterMap.mpr ⟨x, hx, hid⟩
    rw [hnone] at hmem
    cases hmem
  exact ⟨observedLayers_quiet, List.forall_mem_singleton.mpr Clock.wall_quiet,
    Identifiers.fresh_quiet, Clock.wall_quiet, hfit, herased,
    (hsecret.1 World.surroundings memory memory' start herased).1, hstatus,
    hsecret.2 hfit World.surroundings.machine (memory, start) hgiven hstatus⟩

/-- An account is created and committed, but its identifier may not stand in a header: the response
has status 500 and a body of its own. -/
theorem App.serve_discloses_of_newline :
    let serving := observedApp.serve .starting requestForJohnDoe
    let start := (Memory.empty, World.start () ⟨0, 0, 0⟩ "a\nb")
    let served := serving.run World.surroundings.machine start
    served.1.status = 500 ∧ served.1.body = "failed to parse header value" ∧
      served.1.body ≠ concealedBody ∧ served.2.1.committed.length = 2 := by
  decide +kernel

end UserAccounts.Http
