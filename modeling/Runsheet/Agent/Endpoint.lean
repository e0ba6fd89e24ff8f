import Runsheet.Agent.StreamingRun

/-!
# The streaming chat endpoint

`generate_response` of `chat_endpoint` in `main.py` consumes `chat_streaming` and writes
one SSE line `data: {json.dumps(payload)}` per recognised event. It knows the engine's
event keys only (`error`, `data`, `current_tool_use`, `current_tool_result`, `event`,
`result`), and it leaves the loop at the first `result` or `messageStop` event. An
exception inside the loop ends the response with one `{'error': str(e)}` line.

Two consequences are proved for every input. The error and status items that
`chat_streaming` builds itself carry none of those keys, so no line is ever written for
them (`handleEvent_orchestrator_item`). And the consumer leaves the generator suspended
at a yield, where `_on_success` and the session save have not run yet
(`generateResponse_stops_before_accounting`).
-/

namespace Runsheet.Agent

open Runsheet.Resilience

/-- `v == s` for a string `s`. -/
def Value.isStr (v : Value) (s : String) : Bool :=
  match v with
  | .str t => t == s
  | _ => false

/-- One SSE payload, encoded. -/
def sse (payload : Dict) : Except String (List Value) :=
  (jsonDumps (.dict payload)).map fun line => [line]

/-- The body of `generate_response`'s `async for` on one dict: the payloads it writes and
whether it breaks out, or the message of the exception it raises. -/
def handleEvent (event : Dict) : Except String (List Value × Bool) :=
  match Dict.lookup event "error" with
  | some error => (sse [("error", error)]).map (·, false)
  | none =>
  match Dict.lookup event "data" with
  | some text =>
    if text.truthy then (sse [("type", .str "text"), ("content", text)]).map (·, false)
    else .ok ([], false)
  | none =>
  match Dict.lookup event "current_tool_use" with
  | some toolInfo => do
    let name ← toolInfo.get "name" (.str "")
    let input ← toolInfo.get "input" (.dict [])
    let lines ← sse [("type", .str "tool"), ("tool_name", name), ("tool_input", input)]
    pure (lines, false)
  | none =>
  match Dict.lookup event "current_tool_result" with
  | some toolResult => do
    let name ← toolResult.get "name" (.str "")
    let output ← toolResult.get "output" (.str "")
    let lines ← sse [("type", .str "tool_result"), ("tool_name", name), ("tool_output", output)]
    pure (lines, false)
  | none =>
    if ((Dict.lookup event "event").getD .none).isStr "messageStop" || Dict.has event "result" then
      (sse [("type", .str "done")]).map (·, true)
    else .ok ([], false)

/-- `generate_response`: the SSE payloads written, and the world in which the consumed
generator is left, at the yield where the loop stopped or at its end. -/
def generateResponse : Run World Dict → List Value × World
  | .done w => ([], w)
  | .yield event w rest =>
    match handleEvent event with
    | .ok (lines, true) => (lines, w)
    | .ok (lines, false) => ((lines ++ (generateResponse rest).1), (generateResponse rest).2)
    | .error message => ([.dict [("error", .str message)]], w)

/-- The consumer leaves the generator at one of its yields, or drains it. -/
theorem generateResponse_world (r : Run World Dict) :
    (generateResponse r).2 ∈ r.suspensions ∨ (generateResponse r).2 = r.final := by
  induction r with
  | done w => exact .inr rfl
  | yield e w rest ih =>
    simp only [generateResponse, Run.suspensions, Run.final, List.mem_cons]
    split
    · exact .inl (.inl rfl)
    · exact ih.imp_left .inr
    · exact .inl (.inl rfl)

/-! ### The orchestrator's own items are dropped -/

/-- No SSE line is written for an error or status item of the orchestrator's making, and
the loop goes on. -/
theorem handleEvent_orchestrator_item {d : Dict} (h : OrchestratorItem d) :
    handleEvent d = .ok ([], false) := by
  cases h <;> rfl

theorem generateResponse_silent {r : Run World Dict}
    (h : ∀ d ∈ r.items, handleEvent d = .ok ([], false)) : generateResponse r = ([], r.final) := by
  induction r with
  | done w => rfl
  | yield e w rest ih =>
    have rest_silent := ih fun d member => h d (List.mem_cons_of_mem _ member)
    simp [generateResponse, h e (List.mem_cons_self _ _), rest_silent, Run.final]

/-- **A failed exchange streams nothing.** When no engine invocation yields an event,
`generate_response` writes no SSE line at all, neither the error that `chat_streaming`
yields nor any terminal event. -/
theorem failed_exchange_writes_nothing (message mode : String) (sessionId : Option String)
    (now : Int) (engine : Nat → Attempt) (w : World)
    (silent : ∀ n e, EngineStep.event e ∉ (engine n).steps) :
    (generateResponse (chatStreaming message mode sessionId now engine w)).1 = [] := by
  rw [generateResponse_silent]
  intro d member
  rcases chatStreaming_items member with ⟨n, found⟩ | built
  · exact absurd found (silent n d)
  · exact handleEvent_orchestrator_item built

/-- The engine raises a non-transient error before yielding anything. -/
def failingEngine : Nat → Attempt := fun _ => ⟨[], .raises (.error "boom") 0⟩

/-- A fresh `gemini_api` breaker, no conversation, no session store. -/
def freshWorld : World := ⟨CircuitBreaker.init "gemini_api" (some { failureThreshold := 3 }), [], none, []⟩

theorem failing_engine_writes_nothing :
    (∀ n e, EngineStep.event e ∉ (failingEngine n).steps) ∧
    (generateResponse (chatStreaming "hi" "chat" none 0 failingEngine freshWorld)).1 = [] :=
  have silent : ∀ n e, EngineStep.event e ∉ (failingEngine n).steps := by simp [failingEngine]
  ⟨silent, failed_exchange_writes_nothing "hi" "chat" none 0 failingEngine freshWorld silent⟩

theorem failed_exchange_has_no_terminal_event :
    (chatStreaming "hi" "chat" none 0 failingEngine freshWorld).items =
      [handleGeminiApiError "boom"] ∧
    (generateResponse (chatStreaming "hi" "chat" none 0 failingEngine freshWorld)).1 = [] :=
  ⟨rfl, rfl⟩

/-! ### The consumer stops the generator before its accounting -/

/-- When `generate_response` breaks out of its loop, it leaves the generator suspended at
the yield it broke on. -/
theorem generateResponse_suspended {r : Run World Dict}
    (h : ∃ d ∈ r.items, ∃ lines, handleEvent d = .ok (lines, true)) :
    (generateResponse r).2 ∈ r.suspensions := by
  induction r with
  | done w => simp [Run.items] at h
  | yield e w rest ih =>
    obtain ⟨d, member, lines, stops⟩ := h
    simp only [generateResponse, Run.suspensions, List.mem_cons]
    rcases handled : handleEvent e with message | ⟨ls, _ | _⟩
    · exact .inl rfl
    · rcases List.mem_cons.mp member with rfl | later
      · rw [stops] at handled; cases handled
      · exact .inr (ih ⟨d, later, lines, stops⟩)
    · exact .inl rfl

/-- **Success is never recorded when the stream ends with its result.** If any item of
the stream makes `generate_response` break out (a `result` or `messageStop` event), the
request ends with no `_on_success` call and no session save. -/
theorem generateResponse_stops_before_accounting (message mode : String)
    (sessionId : Option String) (now : Int) (engine : Nat → Attempt) (w : World)
    (stops : ∃ d ∈ (chatStreaming message mode sessionId now engine w).items, ∃ lines,
      handleEvent d = .ok (lines, true)) :
    Unaccounted w (generateResponse (chatStreaming message mode sessionId now engine w)).2 :=
  chatStreaming_suspensions (generateResponse_suspended stops)

/-- One clean invocation: a text chunk, then the final `result` event, with the user and
assistant messages appended on the way. -/
def greetingEngine : Nat → Attempt := fun _ =>
  ⟨[.append ⟨"user", "[Mode: CHAT] hi"⟩, .event [("data", .str "Hello")],
    .append ⟨"assistant", "Hello"⟩, .event [("result", .object "AgentResult")]], .clean⟩

/-- Two failures already counted, and an available, empty session store. -/
def twoFailuresWorld : World :=
  ⟨{ CircuitBreaker.init "gemini_api" (some { failureThreshold := 3 }) with failureCount := 2 },
    [], some [], []⟩

theorem greeting_stops_before_accounting :
    (∃ d ∈ (chatStreaming "hi" "chat" (some "s1") 0 greetingEngine twoFailuresWorld).items,
      ∃ lines, handleEvent d = .ok (lines, true)) ∧
    Unaccounted twoFailuresWorld
      (generateResponse (chatStreaming "hi" "chat" (some "s1") 0 greetingEngine twoFailuresWorld)).2 :=
  have stops : ∃ d ∈ (chatStreaming "hi" "chat" (some "s1") 0 greetingEngine twoFailuresWorld).items,
      ∃ lines, handleEvent d = .ok (lines, true) :=
    ⟨_, List.mem_cons_of_mem _ (List.mem_singleton_self _), _, rfl⟩
  ⟨stops, generateResponse_stops_before_accounting "hi" "chat" (some "s1") 0 greetingEngine
    twoFailuresWorld stops⟩

theorem result_event_skips_success :
    (chatStreaming "hi" "chat" (some "s1") 0 greetingEngine twoFailuresWorld).final.breaker.failureCount
      = 0 ∧
    (generateResponse (chatStreaming "hi" "chat" (some "s1") 0 greetingEngine
      twoFailuresWorld)).1 = [.dict [("type", .str "text"), ("content", .str "Hello")],
        .dict [("type", .str "done")]] ∧
    (generateResponse (chatStreaming "hi" "chat" (some "s1") 0 greetingEngine
      twoFailuresWorld)).2.breaker.failureCount = 2 ∧
    (generateResponse (chatStreaming "hi" "chat" (some "s1") 0 greetingEngine
      twoFailuresWorld)).2.store = some [] ∧
    (generateResponse (chatStreaming "hi" "chat" (some "s1") 0 greetingEngine
      twoFailuresWorld)).2.log = [.streamAsync "[Mode: CHAT] hi"] :=
  ⟨rfl, rfl, rfl, rfl, rfl⟩

end Runsheet.Agent
