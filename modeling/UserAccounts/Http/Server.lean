import UserAccounts.Http.App
import UserAccounts.Metrics.Exposition
import UserAccounts.OpenApi.Accounts
import UserAccounts.World

/-!
# The server

The application as it is offered to the network: with the description of its API, and inside a
middleware that counts the requests and hands out the metrics. A server is started only with that
middleware and on a free address; then it is ready.
-/

namespace UserAccounts.Http

/-! ## Starting -/

/-- Why a server was not started. -/
inductive StartError where
  | metricsNotConfigured
  | addressInUse
  deriving DecidableEq

/-- The wording of a server that was not started; the system words what concerns addresses. -/
def StartError.message : StartError → String
  | .metricsNotConfigured => "metrics are enabled but no Prometheus middleware was configured"
  | .addressInUse => ""

/-- The middleware that counts requests, by the position of its counter. -/
structure RequestCounter where
  position : Nat
  deriving DecidableEq

namespace RequestCounter

/-- The counter of requests. -/
def collector : Collector :=
  ⟨⟨"accounts_http_requests_total", "Total number of HTTP requests", [],
    ["endpoint", "method", "status"]⟩, .counters []⟩

/-- Register the counter. -/
def register (r : Registry) : Except RegisterError RequestCounter × Registry :=
  match r.register collector with
  | (.ok position, r) => (.ok ⟨position⟩, r)
  | (.error e, r) => (.error e, r)

/-- Count a request that was answered. -/
def count (counter : RequestCounter) (r : Registry) (endpoint method : String) (status : Nat) :
    Registry :=
  r.modifySamples counter.position (·.increment [endpoint, method, Text.natural status])

end RequestCounter

/-- A server that is running. -/
structure Server where
  app : App
  counter : RequestCounter

/-- Start a server. The health is ready from then on. -/
def Server.start (app : App) (counter : Option RequestCounter) (addressIsFree : Bool)
    (health : Health) : Except StartError (Server × Health) :=
  match counter with
  | none => .error .metricsNotConfigured
  | some counter =>
    if addressIsFree then .ok (⟨app, counter⟩, health.markReady) else .error .addressInUse

/-! ## The description of the API -/

/-- What a server offers besides the application. -/
inductive Extra where
  /-- The description of the API. -/
  | description
  /-- The page that shows it. -/
  | page
  deriving DecidableEq

namespace Extra

/-- The path of an extra. -/
def path : Extra → String
  | .description => "/api-docs/openapi.json"
  | .page => "/docs"

/-- The extra at a matched path. -/
def ofPath? (path : String) : Option Extra :=
  [description, page].find? fun extra => extra.path == path

/-- The response of an extra. The page is registered without the parameter that it needs. -/
def respond : Extra → Response
  | .description => .json 200 (Json.encode OpenApi.accounts)
  | .page => .plain 404 "wrong number of parameters: 0 expected 1"

end Extra

/-! ## Requests -/

/-- The path that a request is matched by. -/
def Request.matchedPath (r : Request) : String :=
  (Target.parse r.target).matched

/-- The pattern of a place. -/
def Place.pattern : Place → String
  | .accounts => accountsPath
  | .account _ => accountsPath ++ "/\x7bid\x7d"
  | .ready => "/health/ready"
  | .live => "/health/live"

/-- The name under which a request is counted: the pattern of its place, or its path. -/
def Request.endpoint (r : Request) : String :=
  match Place.ofPath? r.matchedPath, Extra.ofPath? r.matchedPath with
  | some place, _ => place.pattern
  | none, some extra => extra.path
  | none, none => (Target.parse r.target).path

/-- The path at which the metrics are handed out. -/
def metricsPath : String := "/metrics"

/-- Whether a request asks for the metrics. -/
def Request.isForMetrics (r : Request) : Bool :=
  r.method == "GET" && (Target.parse r.target).path == metricsPath

/-- The response to a request for something that a server offers besides the application. -/
def Request.extra? (r : Request) : Option Response :=
  if r.method == "GET" then (Extra.ofPath? r.matchedPath).map Extra.respond else none

namespace Server

/-- Serve a request, apart from the metrics. -/
def serve (server : Server) (health : Health) (r : Request) : Program Response :=
  respondTracked r <|
    match r.extra? with
    | some response => pure response
    | none => server.app.handle health r

/-- The metrics in place of what the application said. -/
def withMetrics (registry : Registry) (response : Response) : Response :=
  { response.withHeader "content-type" "text/plain; version=0.0.4; charset=utf-8" with
    status := 200
    body := String.join (registry.exposition.map (· ++ "\n")) }

/-- Answer a request in a world. A request is counted once it has been answered, so metrics never
count the request that asks for them. -/
def answer {β : Type} (server : Server) (backend : Backend β) (health : Health) (w : World β)
    (r : Request) : Response × World β :=
  let (response, w) := (server.serve health r).run (World.machine backend) w
  let response := if r.isForMetrics then withMetrics w.registry response else response
  (response, { w with
    registry := server.counter.count w.registry r.endpoint r.method response.status })

end Server

end UserAccounts.Http
