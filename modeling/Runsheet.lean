import Runsheet.Resilience.CircuitBreaker
import Runsheet.Resilience.Interleaving
import Runsheet.Resilience.Invariant
import Runsheet.Resilience.HalfOpen
import Runsheet.Resilience.Reference
import Runsheet.Resilience.Retry
import Runsheet.Agent.Value
import Runsheet.Agent.Orchestrator
import Runsheet.Agent.StreamingRun
import Runsheet.Agent.Endpoint
import Runsheet.Agent.AttemptLoop
import Runsheet.Agent.Breaker
import Runsheet.Agent.Sessions
import Runsheet.Python.Builtins
import Runsheet.Ingestion.Patterns
import Runsheet.Ingestion.Sanitize
import Runsheet.Elasticsearch.Store
import Runsheet.Elasticsearch.Schema
import Runsheet.Elasticsearch.Validation
import Runsheet.Ingestion.Service
import Runsheet.Websocket.ConnectionManager
import Runsheet.Health.Readiness
import Runsheet.Config.Settings
import Runsheet.Session.RedisStore
import Runsheet.Ingestion.Webhook
import Runsheet.Elasticsearch.Connect
import Runsheet.Resilience.RetryHint
