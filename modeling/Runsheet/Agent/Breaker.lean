import Runsheet.Agent.Endpoint
import Runsheet.Resilience.Reference

/-!
# The agent's breaker over many requests

`LogisticsAgent` never calls `execute` on its `gemini_api` breaker. It reads `state`,
asks `_should_attempt_reset()` itself, and calls `_on_success()` and `_on_failure()`
directly, so every request of either endpoint moves the breaker by those two hooks only
(`ChatCall.serve_hooked`). Neither hook makes a breaker `HALF_OPEN`, and on an `OPEN`
breaker `_on_success()` changes nothing while `_on_failure()` only restamps the failure
time. Hence, for every sequence of requests, a breaker that is `OPEN` stays `OPEN`
(`serveAll_open`), and one that is not `HALF_OPEN` never becomes so. Requests still reach
the engine once the recovery timeout has passed, since the pre-flight check lets them
through, but their success is not recorded. `execute` would have made such a request a
`HALF_OPEN` trial and closed the breaker on its success.
-/

namespace Runsheet.Agent

open Runsheet.Resilience

/-- The body of a request to `/api/chat` or `/api/chat/fallback`. -/
structure ChatRequest where
  message : String
  mode : String := "chat"
  sessionId : Option String := none

/-- A request to one of the two chat endpoints: the clock reading of its pre-flight check,
and what the engine does for it. -/
inductive ChatCall where
  | chat (request : ChatRequest) (now : Int) (engine : Nat → Attempt)
  | fallback (request : ChatRequest) (now : Int) (engine : Completion)

/-- The world once the endpoint has answered. `chat_endpoint` leaves `chat_streaming`
where `generate_response` stopped consuming it. -/
def ChatCall.serve : ChatCall → World → World
  | .chat r now engine, w =>
    (generateResponse (chatStreaming r.message r.mode r.sessionId now engine w)).2
  | .fallback r now engine, w => (chatFallback r.message r.mode r.sessionId now engine w).2

/-- The calls answered one after another by the one `LogisticsAgent`. -/
def serveAll (calls : List ChatCall) (w : World) : World :=
  calls.foldl (fun w c => c.serve w) w

/-! ### Every request moves the breaker by the hooks only -/

theorem chatFallback_hooked (message mode : String) (sessionId : Option String) (now : Int)
    (engine : Completion) (w : World) :
    Hooked w.breaker (chatFallback message mode sessionId now engine w).2.breaker := by
  rw [← hydrate_breaker sessionId w]
  dsimp only [chatFallback]
  split
  · exact .refl _
  · split
    · rw [persist_breaker]
      exact .success (.refl _)
    · exact .refl _
    · exact .failure _ (.refl _)

theorem ChatCall.serve_hooked (c : ChatCall) (w : World) : Hooked w.breaker (c.serve w).breaker := by
  cases c with
  | chat r now engine => exact chatStreaming_hooked (generateResponse_world _)
  | fallback r now engine => exact chatFallback_hooked _ _ _ _ _ _

theorem serveAll_hooked (calls : List ChatCall) (w : World) :
    Hooked w.breaker (serveAll calls w).breaker := by
  induction calls generalizing w with
  | nil => exact .refl _
  | cons c rest ih => exact (c.serve_hooked w).trans (ih (c.serve w))

/-! ### What the hooks can do -/

theorem Hooked.state_open {b b' : CircuitBreaker} (h : Hooked b b') (opened : b.state = .open) :
    b'.state = .open := by
  induction h with
  | refl => exact opened
  | success _ ih => rwa [CircuitBreaker.onSuccess_of_open ih]
  | failure now _ ih => exact CircuitBreaker.onFailure_state_of_open now ih

theorem Hooked.ne_halfOpen {b b' : CircuitBreaker} (h : Hooked b b')
    (settled : b.state ≠ .halfOpen) : b'.state ≠ .halfOpen := by
  induction h with
  | refl => exact settled
  | success _ ih => exact CircuitBreaker.onSuccess_ne_halfOpen ih
  | failure now _ _ => exact CircuitBreaker.onFailure_ne_halfOpen now

/-! ### Requests across a recovery timeout -/

/-- `run_async` raises a non-circuit error, handled at `t`. -/
def failingCompletion (t : Int) : Completion := ⟨[], .error (.error "boom", t)⟩

/-- `run_async` answers. -/
def answeringCompletion : Completion := ⟨[], .ok (.str "ok")⟩

/-- Three failing fallback requests trip the breaker; after the 30 s recovery timeout one
request succeeds, and the next one fails. -/
def recoveryCalls : List ChatCall :=
  [.fallback { message := "q" } 0 (failingCompletion 0),
   .fallback { message := "q" } 1 (failingCompletion 1),
   .fallback { message := "q" } 2 (failingCompletion 2),
   .fallback { message := "q" } 30000002 answeringCompletion,
   .fallback { message := "q" } 30000003 (failingCompletion 30000003)]

/-! ### Over whole runs -/

/-- **An open breaker never closes.** For every sequence of requests to the two chat
endpoints, whatever the engine does and the clock reads, the agent's breaker is still
`OPEN` after them if it was `OPEN` before. -/
theorem serveAll_open (calls : List ChatCall) (w : World) (opened : w.breaker.state = .open) :
    (serveAll calls w).breaker.state = .open :=
  (serveAll_hooked calls w).state_open opened

theorem tripped_breaker_stays_open :
    (serveAll (recoveryCalls.take 3) freshWorld).breaker.state = .open ∧
    (serveAll (recoveryCalls.drop 3) (serveAll (recoveryCalls.take 3) freshWorld)).breaker.state
      = .open :=
  ⟨rfl, serveAll_open _ _ rfl⟩

/-- **No request is ever a trial.** The agent's breaker is never `HALF_OPEN` after a
sequence of requests that started with it `CLOSED` or `OPEN`. -/
theorem serveAll_never_half_open (calls : List ChatCall) (w : World)
    (settled : w.breaker.state ≠ .halfOpen) : (serveAll calls w).breaker.state ≠ .halfOpen :=
  (serveAll_hooked calls w).ne_halfOpen settled

theorem recovery_calls_never_half_open :
    freshWorld.breaker.state ≠ .halfOpen ∧ (serveAll recoveryCalls freshWorld).breaker.state ≠ .halfOpen :=
  ⟨by decide, serveAll_never_half_open _ _ (by decide)⟩

/-! ### A recovery the agent does not make -/

/-- The same engine invocations, made through `execute`. -/
def recoveryRequests : List (Request Value String) :=
  [.call 0 0 0 (.raises "boom"), .call 1 1 1 (.raises "boom"), .call 2 2 2 (.raises "boom"),
   .call 30000002 30000002 30000002 (.returns (.str "ok")),
   .call 30000003 30000003 30000003 (.raises "boom")]

theorem recovery_success_keeps_breaker_open :
    (serveAll (recoveryCalls.take 4) freshWorld).log.getLast? = some .onSuccess ∧
    (serveAll (recoveryCalls.take 4) freshWorld).breaker.state = .open ∧
    (serveAll (recoveryCalls.take 4) freshWorld).breaker.failureCount = 3 ∧
    ((recoveryRequests.take 4).foldl CircuitBreaker.serve freshWorld.breaker).state = .closed ∧
    ((recoveryRequests.take 4).foldl CircuitBreaker.serve freshWorld.breaker).failureCount = 0 ∧
    (chatFallback "q" "chat" none 30000004 answeringCompletion
      (serveAll recoveryCalls freshWorld)).2.log = (serveAll recoveryCalls freshWorld).log ∧
    (recoveryRequests.foldl CircuitBreaker.serve freshWorld.breaker).admission 30000004 30000004 =
      (recoveryRequests.foldl CircuitBreaker.serve freshWorld.breaker, .admitted) :=
  ⟨rfl, rfl, rfl, rfl, rfl, rfl, rfl⟩

end Runsheet.Agent
