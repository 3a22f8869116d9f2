import UserAccounts.Account.Service
import UserAccounts.Http.Body
import UserAccounts.Http.Health
import UserAccounts.Page.Basic

/-!
# The application

The HTTP face of the account service: which request goes where, how a request is turned into a call
and a result into a response, and what is reported about it. Failures that are not the client's
fault are reported in full and shown to the client without any detail.
-/

namespace UserAccounts.Http

/-! ## Failures as responses -/

/-- The status of a failure. -/
def statusOf : FailureCode → Nat
  | .invalidRequest => 400
  | .conflict => 409
  | .notFound => 404
  | .internal => 500

/-- A failure as clients may see it: nothing is said about an internal one. -/
def redacted (f : Failure) : Failure :=
  match f.code with
  | .internal => .internal fallbackMessage
  | _ => f

/-- The response to a failure, without its report. -/
def failureResponse (f : Failure) : Response :=
  .json (statusOf f.code) (redacted f)

/-- The response to a failure; an internal one is reported. -/
def respondToFailure (f : Failure) : Program Response := do
  match f.code with
  | .internal => Program.report (.requestFailed f)
  | _ => pure ()
  pure (failureResponse f)

/-- The failure that stands for any failure of the HTTP layer, which is reported. -/
def promote (cause : String) : Program Failure := do
  Program.report (.failurePromoted cause)
  pure (.internal fallbackMessage)

/-! ## Routes -/

/-- The path of the accounts. -/
def accountsPath : String := "/api/v1/user-accounts"

/-- What a request may be about. -/
inductive Route where
  | create
  | list
  | account (id : Id)
  | ready
  | live
  deriving DecidableEq

/-- The places that a path may name, whatever the method. -/
inductive Place where
  | accounts
  | account (id : String)
  | ready
  | live
  deriving DecidableEq

/-- The place that a matched path names. -/
def Place.ofPath? (path : String) : Option Place :=
  match (Json.splitChars '/' path.toList).map String.ofList with
  | ["", "api", "v1", "user-accounts"] => some .accounts
  | ["", "api", "v1", "user-accounts", id] => if id.isEmpty then none else some (.account id)
  | ["", "health", "ready"] => some .ready
  | ["", "health", "live"] => some .live
  | _ => none

/-- What is meant by a method at a place. -/
def Route.of? (method : String) : Place → Option Route
  | .accounts =>
    if method == "POST" then some .create else if method == "GET" then some .list else none
  | .account id => if method == "GET" then some (.account ⟨Target.part id⟩) else none
  | .ready => if method == "GET" then some .ready else none
  | .live => if method == "GET" then some .live else none

/-- What a request is about. -/
def Request.route? (r : Request) : Option Route :=
  (Place.ofPath? (Target.parse r.target).matched).bind (Route.of? r.method)

/-! ## Handlers -/

/-- The message of a request that could not be decoded. -/
def notDecodedMessage : String := "failed to decode request"

/-- An application: the service behind it and the base of the links that it gives out. -/
structure App where
  service : Service
  baseUrl : Url

/-- The response to a request that could not be decoded. -/
def respondToGarbage (r : Request) : Program Response := do
  Program.report (.requestNotDecoded (Target.parse r.target).path)
  respondToFailure (.invalidRequest notDecodedMessage)

/-- The response to the creation of an account: it says where the account is. -/
def createdResponse (a : Account) : Response :=
  let location := accountsPath ++ "/" ++ a.id.text
  if isHeaderValue location then (Response.empty 201).withHeader "location" location
  else .plain 500 "failed to parse header value"

/-- The failure of links that cannot be built. -/
def linkFailure (e : PageLinks.InvalidPath) : Failure :=
  (Failure.internal fallbackMessage).withDetails (.object [("cause", .string e.message)])

/-- The page of a listing. -/
def pageOf (links : PageLinks) (l : Listing) : Page AccountView :=
  ⟨links, l.total, l.accounts.map .ofAccount⟩

namespace App

/-- Create the account that a request describes. -/
def create (app : App) (r : Request) : Program Response :=
  match r.json? (α := CreateAccountBody) with
  | none => respondToGarbage r
  | some body => do
    match ← app.service.create body.account with
    | .error f => respondToFailure f
    | .ok account => pure (createdResponse account)

/-- List the accounts that a request asks for. -/
def list (app : App) (r : Request) : Program Response :=
  match windowOfQuery? (Target.parse r.target).query with
  | none => respondToGarbage r
  | some window => do
    match ← app.service.list window with
    | .error f => respondToFailure f
    | .ok listing =>
      match PageLinks.build app.baseUrl accountsPath listing.window listing.hasNext with
      | .error e => respondToFailure (linkFailure e)
      | .ok links => pure (.json 200 (pageOf links listing))

/-- Find the account of an identifier. -/
def account (app : App) (id : Id) : Program Response := do
  match ← app.service.find id with
  | .error f => respondToFailure f
  | .ok account => pure (.json 200 (AccountView.ofAccount account))

/-- The response to a request, apart from what every request has in common. -/
def handle (app : App) (health : Health) (r : Request) : Program Response :=
  match r.route? with
  | none => pure (.empty 404)
  | some .create => app.create r
  | some .list => app.list r
  | some (.account id) => app.account id
  | some .ready => pure (Health.probe health.ready)
  | some .live => pure (Health.probe health.live)

end App

/-! ## Tracking -/

/-- The header that carries the identifier of a request. -/
def requestIdHeader : String := "x-request-id"

/-- The identifier that a request brings, if it is usable. -/
def Request.id? (r : Request) : Option RequestId :=
  match (r.header? requestIdHeader).bind Header.text? with
  | some s => (RequestId.parse s).toOption
  | none => none

/-- The identifier of a request: its own, or a fresh one. -/
def Request.identify (r : Request) : Program RequestId :=
  match r.id? with
  | some id => pure id
  | none => .ask .freshRequest

/-- Serve a request under its identifier and report it with the status of what comes out. -/
def tracked {α : Type} (r : Request) (status : α → Nat) (p : Program α) :
    Program (RequestId × α) := do
  let id ← r.identify
  let started ← Program.now
  let result ← p.duringRequest id
  let finished ← Program.now
  Program.report (.requestHandled r.method (Target.parse r.target).path (status result)
    (finished.since started) id)
  pure (id, result)

/-- Serve a request and give its identifier back with the response. -/
def respondTracked (r : Request) (p : Program Response) : Program Response := do
  let (id, response) ← tracked r (·.status) p
  pure (response.withHeader requestIdHeader id.text)

/-- Serve a request. -/
def App.serve (app : App) (health : Health) (r : Request) : Program Response :=
  respondTracked r (app.handle health r)

/-- Serve a request whose handling fails with a failure instead of a response. -/
def serveFailing (f : Failure) (r : Request) : Program Failure := do
  let (_, f) ← tracked r (fun f => statusOf f.code) (pure f)
  pure f

end UserAccounts.Http
