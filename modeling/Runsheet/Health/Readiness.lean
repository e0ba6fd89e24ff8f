import Runsheet.Python.Builtins

/-!
# Readiness checks

`health/service.py` checks each dependency under `asyncio.wait_for` and folds the results into
one status, and the `/health/ready` endpoint of `main.py` turns an `unhealthy` status into a 503
that lists why. The pings themselves and the clock are the environment: a check is modelled
from the way each ping ended (`PingOutcome`) and the time it took.
-/

namespace Runsheet.Health

open Runsheet.Python

/-- How one awaited ping ends inside `asyncio.wait_for`: it returns a truth value, it runs past
`check_timeout` (`asyncio.TimeoutError`), or it raises with the message `str(e)`. -/
inductive PingOutcome where
  | returned (result : Bool)
  | timedOut
  | raised (message : PyStr)
  deriving DecidableEq, Repr

/-- `DependencyHealth`, with the dataclass's default `error = None`. -/
structure DependencyHealth where
  name : PyStr
  healthy : Bool
  responseTimeMs : PyFloat
  error : Option PyStr := none

/-- `HealthStatus`: the overall status, the time of the check and the dependencies in the
order they were checked. -/
structure HealthStatus where
  status : PyStr
  timestamp : DateTime
  dependencies : List DependencyHealth

/-- The part of `HealthCheckService` its checks read. `esClient` says whether `es_service` and
its client are both set; `sessionStore` is `none` for `session_store=None`, and otherwise whether
the store has a `health_check` method; `checkTimeout` is `str(check_timeout)`. -/
structure HealthCheckService where
  esClient : Bool
  sessionStore : Option Bool
  checkTimeout : PyStr

/-- The body shared by `_check_elasticsearch` and `_check_session_store`: the dependency is
healthy only when the ping returned True, and every other outcome is reported with the source's
error text. -/
def checkDependency (name subject falseMessage : String) (checkTimeout : PyStr)
    (elapsedMs : PyFloat) : PingOutcome → DependencyHealth
  | .returned true => ⟨pyStr name, true, elapsedMs, none⟩
  | .returned false => ⟨pyStr name, false, elapsedMs, some (pyStr falseMessage)⟩
  | .timedOut => ⟨pyStr name, false, elapsedMs, some (pyStr subject ++
      pyStr " health check timed out after " ++ checkTimeout ++ pyStr " seconds")⟩
  | .raised e => ⟨pyStr name, false, elapsedMs, some (pyStr subject ++
      pyStr " health check failed: " ++ e)⟩

/-- `_check_elasticsearch`. -/
def checkElasticsearch : PyStr → PyFloat → PingOutcome → DependencyHealth :=
  checkDependency "elasticsearch" "Elasticsearch" "Elasticsearch ping returned False"

/-- `_check_session_store`. -/
def checkSessionStore : PyStr → PyFloat → PingOutcome → DependencyHealth :=
  checkDependency "session_store" "Session store" "Session store health check returned False"

/-- `_ping_elasticsearch`: without a client the ping is `False` at once, otherwise it is the
client's `ping()`. -/
def pingElasticsearch (esClient : Bool) (ping : PingOutcome) : PingOutcome :=
  if esClient then ping else .returned false

/-- `_ping_session_store`, for a configured store: `False` when the store has no
`health_check` method. -/
def pingSessionStore (hasHealthCheck : Bool) (healthCheck : PingOutcome) : PingOutcome :=
  if hasHealthCheck then healthCheck else .returned false

def criticalDeps : List PyStr := [pyStr "elasticsearch"]

/-- One pass of the loop of `_determine_overall_status` over the flags
`(critical_healthy, all_healthy)`. -/
def statusStep (flags : Bool × Bool) (dep : DependencyHealth) : Bool × Bool :=
  if !dep.healthy then (flags.1 && !criticalDeps.contains dep.name, false) else flags

/-- `_determine_overall_status`. -/
def determineOverallStatus (dependencies : List DependencyHealth) : PyStr :=
  if dependencies.isEmpty then pyStr "healthy"
  else
    let flags := dependencies.foldl statusStep (true, true)
    if flags.2 then pyStr "healthy"
    else if !flags.1 then pyStr "unhealthy"
    else pyStr "degraded"

/-- What the environment decides during one readiness check: how each ping ends and how long
each check took. -/
structure Probes where
  elasticsearch : PingOutcome
  elasticsearchMs : PyFloat
  sessionStore : PingOutcome
  sessionStoreMs : PyFloat

/-- `check_readiness`: the Elasticsearch check, then the session store check when one is
configured, and the status they determine. Both checks catch every `Exception`, so the branch for
an exception returned by `asyncio.gather` is not reached and is not modelled. -/
def checkReadiness (service : HealthCheckService) (probes : Probes) (now : DateTime) :
    HealthStatus :=
  let dependencies :=
    checkElasticsearch service.checkTimeout probes.elasticsearchMs
        (pingElasticsearch service.esClient probes.elasticsearch) ::
      match service.sessionStore with
      | none => []
      | some hasHealthCheck =>
        [checkSessionStore service.checkTimeout probes.sessionStoreMs
          (pingSessionStore hasHealthCheck probes.sessionStore)]
  ⟨determineOverallStatus dependencies, now, dependencies⟩

/-- The body of the `/health/ready` response with its status code; `failureReasons` is the
`failure_reasons` key, present only on a 503. -/
structure ReadyResponse where
  statusCode : Nat
  status : PyStr
  dependencies : List DependencyHealth
  failureReasons : Option (List (PyStr × Option PyStr))

/-- The `/health/ready` endpoint of `main.py`, after `check_readiness` has run. -/
def healthReady (health : HealthStatus) : ReadyResponse :=
  if health.status = pyStr "unhealthy" then
    ⟨503, health.status, health.dependencies,
      some ((health.dependencies.filter (!·.healthy)).map fun dep => (dep.name, dep.error))⟩
  else ⟨200, health.status, health.dependencies, none⟩

/-- The service `main.py` builds: no session store, a timeout of `5.0` seconds. -/
def healthCheckService (esClient : Bool) : HealthCheckService :=
  ⟨esClient, none, pyStr "5.0"⟩

end Runsheet.Health
