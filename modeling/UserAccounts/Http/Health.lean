import UserAccounts.Http.Message

/-!
# Health

Whether the service is ready for requests and whether it is alive. It starts alive but not ready;
once it has been marked unhealthy it fails both probes.
-/

namespace UserAccounts

/-- The two flags that the probes show. -/
structure Health where
  ready : Bool
  live : Bool
  deriving DecidableEq

namespace Health

/-- The health of a service that has just been started. -/
def starting : Health := ⟨false, true⟩

/-- Accept requests. -/
def markReady (h : Health) : Health := { h with ready := true }

/-- Fail both probes. -/
def markUnhealthy (_ : Health) : Health := ⟨false, false⟩

/-- The answer of a probe, which is not to be stored. -/
def probe (passes : Bool) : Http.Response :=
  (Http.Response.empty (if passes then 200 else 503)).withHeader "cache-control" "no-store"

end Health

end UserAccounts
