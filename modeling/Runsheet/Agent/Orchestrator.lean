import Runsheet.Agent.Value
import Runsheet.Resilience.CircuitBreaker

/-!
# The chat orchestrator

`LogisticsAgent.chat_streaming` and `LogisticsAgent.chat_fallback` of
`Agents/mainagent.py`, over a world that holds what they share: the `gemini_api` breaker,
`agent.messages`, the session store, and the calls they make to their collaborators, in
order. The generation engine is given by what each invocation does: the events it
yields and the messages it appends, then a clean end or an exception, handled at a
clock reading. Telemetry and logging change nothing here and are left out.

`chat_streaming` is an async generator, so it is modelled as a resumption (`Run`): each
item it yields comes with the world it is suspended in, and the rest runs only if the
consumer asks for the next item. A consumer that stops stops the generator where it is.
-/

namespace Runsheet.Agent

open Runsheet.Resilience

/-- A message of `agent.messages`. -/
structure Message where
  role : String
  content : String
  deriving DecidableEq, Repr

/-- One thing the engine does while it runs: yield an event, or append a message to
`agent.messages`. -/
inductive EngineStep where
  | event (e : Dict)
  | append (m : Message)

/-- The exception an engine invocation raises. -/
inductive Failure where
  | circuitOpen (e : CircuitOpenException)
  | error (message : String)

/-- How an engine invocation ends: cleanly, or raising, handled at clock reading `now`. -/
inductive Ending where
  | clean
  | raises (failure : Failure) (now : Int)

/-- One invocation of `agent.stream_async`. -/
structure Attempt where
  steps : List EngineStep
  ending : Ending

/-- One invocation of `agent.run_async`: the messages it appends, then its result, or the
exception it raises and the clock reading it is handled at. -/
structure Completion where
  appended : List Message
  result : Except (Failure × Int) Value

/-- A call the orchestrator makes to a collaborator. -/
inductive Interaction where
  | streamAsync (prompt : String)
  | runAsync (prompt : String)
  | onSuccess
  | onFailure (now : Int)
  | sleep (seconds : Nat)
  | save (sessionId : String) (messages : List Message)
  deriving DecidableEq, Repr

/-- What the requests share. `store` is `none` while the session store is unavailable. -/
structure World where
  breaker : CircuitBreaker
  messages : List Message
  store : Option (List (String × List Message))
  log : List Interaction

/-- An async generator run to the end: each yielded item with the world the generator is
suspended in, then the world it returns in. -/
inductive Run (ω α : Type) where
  | done (world : ω)
  | yield (item : α) (world : ω) (rest : Run ω α)

namespace Run

variable {ω α : Type}

/-- Everything the generator yields when it is drained. -/
def items : Run ω α → List α
  | .done _ => []
  | .yield item _ rest => item :: items rest

/-- The world the generator returns in when it is drained. -/
def final : Run ω α → ω
  | .done w => w
  | .yield _ _ rest => final rest

/-- The worlds the generator is suspended in, one per yield. -/
def suspensions : Run ω α → List ω
  | .done _ => []
  | .yield _ w rest => w :: suspensions rest

end Run

namespace World

def recordSuccess (w : World) : World :=
  { w with breaker := w.breaker.onSuccess, log := w.log ++ [.onSuccess] }

def recordFailure (w : World) (now : Int) : World :=
  { w with breaker := w.breaker.onFailure now, log := w.log ++ [.onFailure now] }

end World

/-! ### Sessions -/

def loadConversationHistory (sessionId : String) (w : World) : Option (List Message) :=
  w.store.bind fun sessions => sessions.lookup sessionId

def saveConversationHistory (sessionId : String) (messages : List Message) (w : World) : World :=
  { w with store := w.store.map fun sessions =>
             (sessionId, messages) :: sessions.filter (·.1 != sessionId),
           log := w.log ++ [.save sessionId messages] }

/-- The hydrate step of both chat methods: a stored history that is not empty replaces
`agent.messages`; otherwise they stay as they are. -/
def hydrate (sessionId : Option String) (w : World) : World :=
  match sessionId with
  | some sid =>
    if sid = "" then w
    else match loadConversationHistory sid w with
      | some (m :: ms) => { w with messages := m :: ms }
      | _ => w
  | none => w

/-- The persist step of both chat methods: `agent.messages` go to the session id. -/
def persist (sessionId : Option String) (w : World) : World :=
  match sessionId with
  | some sid => if sid = "" then w else saveConversationHistory sid w.messages w
  | none => w

/-! ### The items the orchestrator builds -/

/-- `int(td.total_seconds())` of a `timedelta` in microseconds, when `td` is truthy. -/
def wholeSeconds (td : Option Int) : Option Int :=
  match td with
  | some t => if t = 0 then none else some (t.tdiv 1000000)
  | none => none

def handleCircuitBreakerException (e : CircuitOpenException) : Dict :=
  let seconds := wholeSeconds e.timeUntilRetry
  let retry := match seconds with
    | some s => if s = 0 then "" else " Please retry in " ++ toString s ++ " seconds."
    | none => ""
  [("type", .str "error"),
   ("content", .str ("❌ AI service temporarily unavailable. Circuit breaker '" ++
      e.circuitName ++ "' is open." ++ retry)),
   ("error_code", .str "CIRCUIT_OPEN"),
   ("details", .dict [("circuit_name", .str e.circuitName),
      ("time_until_retry_seconds", match seconds with | some s => .int s | none => .none),
      ("service", .str "gemini_api")])]

def handleGeminiApiError (error : String) : Dict :=
  [("type", .str "error"),
   ("content", .str ("❌ AI service error: " ++ error)),
   ("error_code", .str "AI_SERVICE_UNAVAILABLE"),
   ("details", .dict [("error", .str error), ("service", .str "gemini_api")])]

/-- `max_retries` of `chat_streaming`. -/
def maxRetries : Nat := 3

/-- The status item yielded before retry number `retryCount`. -/
def retryStatus (retryCount : Nat) : Dict :=
  [("type", .str "status"),
   ("content", .str ("🔄 Connection interrupted, retrying... (attempt " ++ toString retryCount ++
      "/" ++ toString maxRetries ++ ")"))]

/-- The error item yielded once the retries are used up. -/
def connectionFailed : Dict :=
  [("type", .str "error"),
   ("content", .str ("❌ Connection failed after " ++ toString maxRetries ++
      " attempts. The AI service is having connectivity issues. Please try again in a moment.")),
   ("error_code", .str "AI_SERVICE_UNAVAILABLE")]

/-- The substrings that make an engine error retryable. -/
def connectionKeywords : List String :=
  ["connection closed", "connection error", "timeout", "unavailable", "service unavailable",
   "rate limit", "quota"]

def isConnectionError (message : String) : Bool :=
  connectionKeywords.any (contains (lower message))

/-- `f"[Mode: {mode.upper()}] {message}"`, with `str.upper` taken as `Char.toUpper`, which
maps `a` to `z` only: Python also upper-cases every other cased letter, and `"ß"` to
`"SS"`. -/
def messageWithContext (message mode : String) : String :=
  "[Mode: " ++ String.mk (mode.toList.map Char.toUpper) ++ "] " ++ message

/-! ### `chat_streaming` -/

/-- `_stream_with_tracking`, forwarded by `chat_streaming`: each engine event is yielded in
the world the engine has made so far; `k` goes on with the world at the end of the stream
and whether an event came (`got_response`). -/
def forward (k : World → Bool → Run World Dict) : List EngineStep → World → Bool → Run World Dict
  | [], w, got => k w got
  | .event e :: rest, w, _ => .yield e w (forward k rest w true)
  | .append m :: rest, w, got => forward k rest { w with messages := w.messages ++ [m] } got

/-- What `chat_streaming` does once an attempt's stream is over, in world `w` and with
`got_response`: the success path, or the `except` handlers; `next` is the next pass of the
loop, entered after the backoff sleep. The clock readings of `_on_failure` and of the
`_get_time_until_retry` after it are both taken as the time the attempt failed. -/
def afterAttempt (sessionId : Option String) (retryCount : Nat) (next : World → Run World Dict) :
    Ending → World → Bool → Run World Dict
  | .clean, w, got => if got then .done (persist sessionId w.recordSuccess) else .done w
  | .raises (.circuitOpen e) _, w, _ => .yield (handleCircuitBreakerException e) w (.done w)
  | .raises (.error message) now, w, _ =>
    if isConnectionError message then
      let w := w.recordFailure now
      if w.breaker.state = .open then
        .yield (handleCircuitBreakerException (w.breaker.openException now)) w (.done w)
      else if retryCount + 1 < maxRetries then
        .yield (retryStatus (retryCount + 1)) w
          (next { w with log := w.log ++ [.sleep (retryCount + 1)] })
      else .yield connectionFailed w (.done w)
    else
      let w := w.recordFailure now
      .yield (handleGeminiApiError message) w (.done w)

/-- The `while retry_count < max_retries` loop of `chat_streaming`, at `retry_count`, with
`fuel` passes left. -/
def attemptLoop (prompt : String) (sessionId : Option String) (engine : Nat → Attempt) :
    Nat → Nat → World → Run World Dict
  | _, 0, w => .done w
  | retryCount, fuel + 1, w =>
    forward (afterAttempt sessionId retryCount (attemptLoop prompt sessionId engine (retryCount + 1) fuel)
        (engine retryCount).ending)
      (engine retryCount).steps { w with log := w.log ++ [.streamAsync prompt] } false

/-- `chat_streaming(message, mode, session_id)`, with the pre-flight check at `now`: the
readings of `_should_attempt_reset` and `_get_time_until_retry` are both taken as `now`. -/
def chatStreaming (message mode : String) (sessionId : Option String) (now : Int)
    (engine : Nat → Attempt) (w : World) : Run World Dict :=
  let w := hydrate sessionId w
  if w.breaker.state = .open ∧ w.breaker.shouldAttemptReset now = false then
    .yield (handleCircuitBreakerException (w.breaker.openException now)) w (.done w)
  else attemptLoop (messageWithContext message mode) sessionId engine 0 maxRetries w

/-! ### `chat_fallback` -/

/-- `f" Please retry in {int(td.total_seconds())} seconds."` when `td` is truthy. -/
def retryHint (td : Option Int) : String :=
  match wholeSeconds td with
  | some s => " Please retry in " ++ toString s ++ " seconds."
  | none => ""

/-- `chat_fallback(message, mode, session_id)`, with the pre-flight check at `now` (both of
its clock readings taken as `now`): the response, or the text of the error it returns
instead. -/
def chatFallback (message mode : String) (sessionId : Option String) (now : Int)
    (engine : Completion) (w : World) : Value × World :=
  let w := hydrate sessionId w
  if w.breaker.state = .open ∧ w.breaker.shouldAttemptReset now = false then
    (.str ("❌ AI service temporarily unavailable. Circuit breaker is open." ++
      retryHint (w.breaker.getTimeUntilRetry now)), w)
  else
    let prompt := messageWithContext message mode
    let w := { w with messages := w.messages ++ engine.appended, log := w.log ++ [.runAsync prompt] }
    match engine.result with
    | .ok response => (response, persist sessionId w.recordSuccess)
    | .error (.circuitOpen e, _) =>
      (.str ("❌ AI service temporarily unavailable. Circuit breaker '" ++ e.circuitName ++
        "' is open." ++ retryHint e.timeUntilRetry), w)
    | .error (.error _, failedAt) =>
      (.str ("❌ I'm having trouble connecting to the AI service right now. However, all the " ++
        "data tools are working fine. Please try again in a moment."), w.recordFailure failedAt)

end Runsheet.Agent
