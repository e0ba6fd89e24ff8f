import Runsheet.Agent.Endpoint

/-!
# The attempt loop of `chat_streaming`, drained

A drained run of `chat_streaming` in normal form, for every engine behaviour and every
starting breaker (`chatStreaming_attempts`). Either the pre-flight check rejects the request,
or there are `retries + 1 ≤ max_retries` invocations of `stream_async`. Each invocation but
the last ended in a transient error, after which the breaker was not OPEN. Each was
followed by `_on_failure()`, one status item and a sleep. The items are the engine's events,
attempt by attempt, with those status items between them and at most one error item at
the end.

The retry branch never looks at `got_response`. An attempt that fails after some of its
events were forwarded is therefore run again from the start, and the consumer receives the
partial output of the failed attempt followed by the output of the next one
(`partial_output_is_replayed`).
-/

namespace Runsheet.Agent

open Runsheet.Resilience

namespace EngineStep

/-- The events among the steps, in order. -/
def events : List EngineStep → List Dict
  | [] => []
  | .event e :: rest => e :: events rest
  | .append _ :: rest => events rest

/-- The messages the steps append to `agent.messages`, in order. -/
def appended : List EngineStep → List Message
  | [] => []
  | .event _ :: rest => appended rest
  | .append m :: rest => m :: appended rest

end EngineStep

/-- The breaker after `_on_failure()` at each of the first `j` failure times. -/
def failuresAfter (b : CircuitBreaker) (failedAt : Nat → Int) (j : Nat) : CircuitBreaker :=
  (List.range j).foldl (fun b i => b.onFailure (failedAt i)) b

/-- How the last attempt of a drained run ends. `last` holds the calls it makes after
`stream_async`, and `tail` the items yielded after its events. -/
def LastAttempt (a : Attempt) (last : List Interaction) (tail : List Dict) : Prop :=
  match a.ending with
  | .clean =>
    tail = [] ∧
      if (EngineStep.events a.steps).isEmpty then last = []
      else ∃ saves : List Interaction, last = .onSuccess :: saves ∧
        ∀ i ∈ saves, ∃ sessionId messages, i = .save sessionId messages
  | .raises (.circuitOpen e) _ => last = [] ∧ tail = [handleCircuitBreakerException e]
  | .raises (.error message) failedAt =>
    last = [.onFailure failedAt] ∧
      (tail = [handleGeminiApiError message] ∨ tail = [connectionFailed] ∨
        ∃ e, tail = [handleCircuitBreakerException e])

/-! ### One attempt -/

section Forward

variable {k : World → Bool → Run World Dict}

/-- What `forward` hands over to the rest of the attempt: the world with the appended
messages, and whether an event came. -/
def handover (steps : List EngineStep) (w : World) (got : Bool) : World × Bool :=
  ({ w with messages := w.messages ++ EngineStep.appended steps },
    got || !(EngineStep.events steps).isEmpty)

theorem forward_items_eq (steps : List EngineStep) (w : World) (got : Bool) :
    (forward k steps w got).items =
      EngineStep.events steps ++ (k (handover steps w got).1 (handover steps w got).2).items := by
  induction steps generalizing w got with
  | nil => simp [forward, handover, EngineStep.events, EngineStep.appended]
  | cons step rest ih =>
    cases step with
    | event e => simp [forward, Run.items, ih, handover, EngineStep.events, EngineStep.appended]
    | append m => simp [forward, ih, handover, EngineStep.events, EngineStep.appended]

theorem forward_final_eq (steps : List EngineStep) (w : World) (got : Bool) :
    (forward k steps w got).final = (k (handover steps w got).1 (handover steps w got).2).final := by
  induction steps generalizing w got with
  | nil => simp [forward, handover, EngineStep.events, EngineStep.appended]
  | cons step rest ih =>
    cases step with
    | event e => simp [forward, Run.final, ih, handover, EngineStep.events, EngineStep.appended]
    | append m => simp [forward, ih, handover, EngineStep.events, EngineStep.appended]

end Forward

theorem persist_log (sessionId : Option String) (w : World) :
    ∃ saves : List Interaction, (persist sessionId w).log = w.log ++ saves ∧
      ∀ i ∈ saves, ∃ sid messages, i = .save sid messages := by
  unfold persist saveConversationHistory
  split
  · split
    · exact ⟨[], by simp, by simp⟩
    · exact ⟨_, rfl, by simp⟩
  · exact ⟨[], by simp, by simp⟩

theorem failuresAfter_succ (b : CircuitBreaker) (failedAt : Nat → Int) (j : Nat) :
    failuresAfter b failedAt (j + 1) =
      failuresAfter (b.onFailure (failedAt 0)) (fun i => failedAt (i + 1)) j := by
  simp [failuresAfter, List.range_succ_eq_map, List.foldl_map]

/-- Where an attempt leaves the loop: it stops with its last calls and items, when the guard
of the retry branch does not hold, or it is retried after a transient failure that left the
breaker not OPEN. -/
theorem afterAttempt_cases (sessionId : Option String) (n : Nat) (next : World → Run World Dict)
    (a : Attempt) (w : World) :
    (∃ last tail,
      (afterAttempt sessionId n next a.ending w (!(EngineStep.events a.steps).isEmpty)).items
        = tail ∧
      (afterAttempt sessionId n next a.ending w (!(EngineStep.events a.steps).isEmpty)).final.log
        = w.log ++ last ∧
      LastAttempt a last tail ∧
      ∀ m t, a.ending = .raises (.error m) t → isConnectionError m →
        (w.breaker.onFailure t).state ≠ .open → maxRetries ≤ n + 1) ∨
    ∃ m t, a.ending = .raises (.error m) t ∧ isConnectionError m ∧
      (w.breaker.onFailure t).state ≠ .open ∧ n + 1 < maxRetries ∧
      (afterAttempt sessionId n next a.ending w (!(EngineStep.events a.steps).isEmpty)).items =
        retryStatus (n + 1) ::
          (next { w.recordFailure t with log := (w.recordFailure t).log ++ [.sleep (n + 1)] }).items ∧
      (afterAttempt sessionId n next a.ending w (!(EngineStep.events a.steps).isEmpty)).final =
        (next { w.recordFailure t with log := (w.recordFailure t).log ++ [.sleep (n + 1)] }).final := by
  obtain ⟨steps, ending⟩ := a
  cases ending with
  | clean =>
    refine .inl ?_
    cases quiet : (EngineStep.events steps).isEmpty
    · obtain ⟨saves, saved, only⟩ := persist_log sessionId w.recordSuccess
      refine ⟨.onSuccess :: saves, [], rfl, ?_, ⟨rfl, ?_⟩, fun _ _ h => nomatch h⟩
      · simp only [afterAttempt, quiet, Bool.not_false, if_true, Run.final, saved]
        simp [World.recordSuccess]
      · simp only [quiet, Bool.false_eq_true, if_false]
        exact ⟨saves, rfl, only⟩
    · exact ⟨[], [], rfl, by simp [afterAttempt, quiet, Run.final], ⟨rfl, by simp [quiet]⟩,
        fun _ _ h => nomatch h⟩
  | raises failure t =>
    cases failure with
    | circuitOpen e =>
      exact .inl ⟨[], _, rfl, by simp [afterAttempt, Run.final], ⟨rfl, rfl⟩, fun _ _ h => nomatch h⟩
    | error m =>
      simp only [afterAttempt, World.recordFailure]
      by_cases transient : isConnectionError m = true
      · by_cases opened : (w.breaker.onFailure t).state = .open
        · exact .inl ⟨[.onFailure t],
            [handleCircuitBreakerException ((w.breaker.onFailure t).openException t)],
            by simp [transient, opened, Run.items], by simp [transient, opened, Run.final],
            ⟨rfl, .inr (.inr ⟨_, rfl⟩)⟩, fun _ _ h _ closed => by cases h; exact absurd opened closed⟩
        · by_cases room : n + 1 < maxRetries
          · exact .inr ⟨m, t, rfl, transient, opened, room,
              by simp [transient, opened, room, Run.items],
              by simp [transient, opened, room, Run.final]⟩
          · exact .inl ⟨[.onFailure t], [connectionFailed],
              by simp [transient, opened, room, Run.items],
              by simp [transient, opened, room, Run.final], ⟨rfl, .inr (.inl rfl)⟩,
              fun _ _ _ _ _ => Nat.le_of_not_lt room⟩
      · exact .inl ⟨[.onFailure t], [handleGeminiApiError m], by simp [transient, Run.items],
          by simp [transient, Run.final], ⟨rfl, .inl rfl⟩,
          fun _ _ h retryable => by cases h; exact absurd retryable transient⟩

/-! ### The loop -/

section Loop

variable (prompt : String) (sessionId : Option String) (engine : Nat → Attempt)

/-- The world the retry of attempt `n` starts from: the attempt's messages appended, and
`stream_async`, `_on_failure()` at `t` and the sleep done. -/
def retried (n : Nat) (t : Int) (w : World) : World :=
  { breaker := w.breaker.onFailure t, messages := w.messages ++ EngineStep.appended (engine n).steps,
    store := w.store, log := w.log ++ [.streamAsync prompt, .onFailure t, .sleep (n + 1)] }

/-- One pass of the loop at `retry_count = n`: it stops, and the guard of the retry branch
does not hold, or it yields one status item and goes on from `retried`. -/
theorem attemptLoop_cases (n fuel : Nat) (w : World) :
    (∃ last tail,
      (attemptLoop prompt sessionId engine n (fuel + 1) w).items =
        EngineStep.events (engine n).steps ++ tail ∧
      (attemptLoop prompt sessionId engine n (fuel + 1) w).final.log =
        w.log ++ .streamAsync prompt :: last ∧
      LastAttempt (engine n) last tail ∧
      ∀ m t, (engine n).ending = .raises (.error m) t → isConnectionError m →
        (w.breaker.onFailure t).state ≠ .open → maxRetries ≤ n + 1) ∨
    ∃ m t, (engine n).ending = .raises (.error m) t ∧ isConnectionError m ∧
      (w.breaker.onFailure t).state ≠ .open ∧ n + 1 < maxRetries ∧
      (attemptLoop prompt sessionId engine n (fuel + 1) w).items =
        EngineStep.events (engine n).steps ++ retryStatus (n + 1) ::
          (attemptLoop prompt sessionId engine (n + 1) fuel (retried prompt engine n t w)).items ∧
      (attemptLoop prompt sessionId engine n (fuel + 1) w).final =
        (attemptLoop prompt sessionId engine (n + 1) fuel (retried prompt engine n t w)).final := by
  have got : (handover (engine n).steps { w with log := w.log ++ [.streamAsync prompt] } false).2 =
      !(EngineStep.events (engine n).steps).isEmpty := by simp [handover]
  simp only [attemptLoop, forward_items_eq, forward_final_eq, got]
  rcases afterAttempt_cases sessionId n (attemptLoop prompt sessionId engine (n + 1) fuel) (engine n)
      (handover (engine n).steps { w with log := w.log ++ [.streamAsync prompt] } false).1 with
    ⟨last, tail, items, log, stop, guard⟩ | ⟨m, t, failed, transient, closed, room, items, final⟩
  · exact .inl ⟨last, tail, by rw [items], by rw [log]; simp [handover], stop, guard⟩
  · refine .inr ⟨m, t, failed, transient, closed, room, ?_, ?_⟩
    · rw [items]
      simp [retried, handover, World.recordFailure]
    · rw [final]
      simp [retried, handover, World.recordFailure]

/-- A drained run of the attempt loop from `retry_count = n` and world `w`, in normal form:
`retries` transient failures, each followed by a status item and a sleep, then a last
attempt, all with `retry_count < max_retries`. -/
def LoopShape (n : Nat) (w : World) (run : Run World Dict) : Prop :=
  ∃ (retries : Nat) (failedAt : Nat → Int) (last : List Interaction) (tail : List Dict),
    n + retries < maxRetries ∧
    (∀ i < retries, ∃ m, (engine (n + i)).ending = .raises (.error m) (failedAt i) ∧
      isConnectionError m ∧ (failuresAfter w.breaker failedAt (i + 1)).state ≠ .open) ∧
    run.items =
      (List.range retries).flatMap (fun i =>
        EngineStep.events (engine (n + i)).steps ++ [retryStatus (n + i + 1)]) ++
      EngineStep.events (engine (n + retries)).steps ++ tail ∧
    run.final.log =
      w.log ++ (List.range retries).flatMap (fun i =>
        [.streamAsync prompt, .onFailure (failedAt i), .sleep (n + i + 1)]) ++
      .streamAsync prompt :: last ∧
    LastAttempt (engine (n + retries)) last tail

/-- One pass of the loop: a run from `n` is in normal form when every run the retry branch
may go on with is. -/
theorem attemptLoop_step (n fuel : Nat) (w : World) (within : n < maxRetries)
    (rest : n + 1 < maxRetries → ∀ w',
      LoopShape prompt engine (n + 1) w' (attemptLoop prompt sessionId engine (n + 1) fuel w')) :
    LoopShape prompt engine n w (attemptLoop prompt sessionId engine n (fuel + 1) w) := by
  rcases attemptLoop_cases prompt sessionId engine n fuel w with
    ⟨last, tail, items, log, stop, -⟩ | ⟨m, t, failed, transient, closed, room, items, final⟩
  · exact ⟨0, fun _ => 0, last, tail, within, fun _ h => absurd h (Nat.not_lt_zero _),
      by simp [items], by simp [log], stop⟩
  · obtain ⟨r, f, last, tail, hr, hf, hitems, hlog, hlast⟩ := rest room (retried prompt engine n t w)
    have shift : ∀ i, n + 1 + i = n + (i + 1) := fun i => by omega
    refine ⟨r + 1, fun | 0 => t | i + 1 => f i, last, tail, by omega, ?_, ?_, ?_, by rwa [shift] at hlast⟩
    · rintro (_ | i) hi
      · exact ⟨m, failed, transient, closed⟩
      · obtain ⟨m', failed', transient', closed'⟩ := hf i (by omega)
        exact ⟨m', by rwa [shift] at failed', transient', by rw [failuresAfter_succ]; exact closed'⟩
    · rw [items, hitems, List.range_succ_eq_map, List.flatMap_cons, List.flatMap_map]
      simp [shift]
    · rw [final, hlog, List.range_succ_eq_map, List.flatMap_cons, List.flatMap_map]
      simp [shift, retried]

theorem attemptLoop_shape : ∀ fuel n w, n + fuel + 1 = maxRetries →
    LoopShape prompt engine n w (attemptLoop prompt sessionId engine n (fuel + 1) w) := by
  intro fuel
  induction fuel with
  | zero =>
    intro n w bound
    exact attemptLoop_step prompt sessionId engine n 0 w (by omega) fun room => absurd room (by omega)
  | succ fuel ih =>
    intro n w bound
    exact attemptLoop_step prompt sessionId engine n (fuel + 1) w (by omega)
      fun _ w' => ih (n + 1) w' (by omega)

/-- The loop only appends to the log. -/
theorem attemptLoop_log : ∀ fuel n w,
    ∃ later, (attemptLoop prompt sessionId engine n fuel w).final.log = w.log ++ later := by
  intro fuel
  induction fuel with
  | zero => exact fun n w => ⟨[], by simp [attemptLoop, Run.final]⟩
  | succ fuel ih =>
    intro n w
    rcases attemptLoop_cases prompt sessionId engine n fuel w with
      ⟨last, -, -, log, -⟩ | ⟨m, t, -, -, -, -, -, final⟩
    · exact ⟨_, log⟩
    · obtain ⟨later, log⟩ := ih (n + 1) (retried prompt engine n t w)
      exact ⟨[.streamAsync prompt, .onFailure t, .sleep (n + 1)] ++ later,
        by rw [final, log]; simp [retried]⟩

end Loop

/-! ### `chat_streaming`, drained -/

/-- **The attempt loop of `chat_streaming`.** For every starting world and every engine
behaviour, a drained request is either rejected by the pre-flight check, with one error
item and no call, or it invokes `stream_async` `retries + 1 ≤ max_retries` times. Each
re-invocation follows a transient error after which the breaker is not OPEN, one
`_on_failure()`, one status item and a `sleep(retry_count)`. The last attempt ends as
`LastAttempt` says, with at most one error item, after all its events. -/
theorem chatStreaming_attempts (message mode : String) (sessionId : Option String) (now : Int)
    (engine : Nat → Attempt) (w : World) :
    ((chatStreaming message mode sessionId now engine w).items =
        [handleCircuitBreakerException (w.breaker.openException now)] ∧
      (chatStreaming message mode sessionId now engine w).final.log = w.log) ∨
    ∃ (retries : Nat) (failedAt : Nat → Int) (last : List Interaction) (tail : List Dict),
      retries + 1 ≤ maxRetries ∧
      (∀ i < retries, ∃ m, (engine i).ending = .raises (.error m) (failedAt i) ∧
        isConnectionError m ∧ (failuresAfter w.breaker failedAt (i + 1)).state ≠ .open) ∧
      (chatStreaming message mode sessionId now engine w).items =
        (List.range retries).flatMap (fun i =>
          EngineStep.events (engine i).steps ++ [retryStatus (i + 1)]) ++
        EngineStep.events (engine retries).steps ++ tail ∧
      (chatStreaming message mode sessionId now engine w).final.log =
        w.log ++ (List.range retries).flatMap (fun i =>
          [.streamAsync (messageWithContext message mode), .onFailure (failedAt i),
            .sleep (i + 1)]) ++
        .streamAsync (messageWithContext message mode) :: last ∧
      LastAttempt (engine retries) last tail := by
  obtain ⟨ms, hydrated⟩ := hydrate_frame sessionId w
  simp only [chatStreaming, hydrated]
  split
  · exact .inl ⟨rfl, rfl⟩
  · obtain ⟨r, f, last, tail, within, failed, items, log, lastAttempt⟩ :=
      attemptLoop_shape (messageWithContext message mode) sessionId engine 2 0
        { w with messages := ms } rfl
    simp only [Nat.zero_add] at within failed items log lastAttempt
    exact .inr ⟨r, f, last, tail, within, failed, items, log, lastAttempt⟩

/-- **A failed attempt is run again after its output was forwarded.** The retry branch never
reads `got_response`: when the first attempt forwards its events and then fails with a
transient error that leaves the breaker not OPEN, `stream_async` is invoked a second time,
and the consumer receives the first attempt's events, a status item, and then the second
attempt's events. -/
theorem chatStreaming_replays (message mode : String) (sessionId : Option String) (now : Int)
    (engine : Nat → Attempt) (w : World) (m : String) (t : Int)
    (admitted : ¬(w.breaker.state = .open ∧ w.breaker.shouldAttemptReset now = false))
    (failed : (engine 0).ending = .raises (.error m) t) (transient : isConnectionError m)
    (closed : (w.breaker.onFailure t).state ≠ .open) :
    (∃ rest, (chatStreaming message mode sessionId now engine w).items =
        EngineStep.events (engine 0).steps ++ retryStatus 1 ::
          EngineStep.events (engine 1).steps ++ rest) ∧
    ∃ later, (chatStreaming message mode sessionId now engine w).final.log =
      w.log ++ [.streamAsync (messageWithContext message mode), .onFailure t, .sleep 1,
        .streamAsync (messageWithContext message mode)] ++ later := by
  obtain ⟨ms, hydrated⟩ := hydrate_frame sessionId w
  have three : maxRetries = 2 + 1 := rfl
  simp only [chatStreaming, hydrated, if_neg admitted, three]
  rcases attemptLoop_cases (messageWithContext message mode) sessionId engine 0 2
      { w with messages := ms } with
    ⟨-, -, -, -, -, guard⟩ | ⟨m', t', failed', -, -, -, items, final⟩
  · exact absurd (guard m t failed transient closed) (by decide)
  rw [failed] at failed'
  cases failed'
  rw [items, final]
  rcases attemptLoop_cases (messageWithContext message mode) sessionId engine 1 1
      (retried (messageWithContext message mode) engine 0 t { w with messages := ms }) with
    ⟨last, tail, items, log, -, -⟩ | ⟨-, t', -, -, -, -, items, final⟩
  · exact ⟨⟨tail, by rw [items]; simp⟩, ⟨last, by rw [log]; simp [retried]⟩⟩
  · obtain ⟨later, log⟩ := attemptLoop_log (messageWithContext message mode) sessionId engine 1 2
      (retried (messageWithContext message mode) engine 1 t'
        (retried (messageWithContext message mode) engine 0 t { w with messages := ms }))
    exact ⟨⟨_, by rw [items]; simp only [List.append_assoc, List.cons_append]; rfl⟩,
      ⟨[.onFailure t', .sleep 2] ++ later, by rw [final, log]; simp [retried]⟩⟩

/-- The first invocation streams part of the answer before the connection drops; the
second streams the whole answer. -/
def droppedEngine : Nat → Attempt
  | 0 => ⟨[.event [("data", .str "Truck 7 is")]], .raises (.error "Connection closed by peer") 0⟩
  | _ => ⟨[.event [("data", .str "Truck 7 is at the depot.")]], .clean⟩

theorem dropped_engine_replays :
    ¬(freshWorld.breaker.state = .open ∧ freshWorld.breaker.shouldAttemptReset 0 = false) ∧
    (droppedEngine 0).ending = .raises (.error "Connection closed by peer") 0 ∧
    isConnectionError "Connection closed by peer" ∧
    (freshWorld.breaker.onFailure 0).state ≠ .open ∧
    ((∃ rest, (chatStreaming "where is truck 7?" "chat" none 0 droppedEngine freshWorld).items =
        EngineStep.events (droppedEngine 0).steps ++ retryStatus 1 ::
          EngineStep.events (droppedEngine 1).steps ++ rest) ∧
      ∃ later, (chatStreaming "where is truck 7?" "chat" none 0 droppedEngine freshWorld).final.log =
        freshWorld.log ++ [.streamAsync (messageWithContext "where is truck 7?" "chat"), .onFailure 0,
          .sleep 1, .streamAsync (messageWithContext "where is truck 7?" "chat")] ++ later) :=
  ⟨by decide, rfl, rfl, by decide,
    chatStreaming_replays "where is truck 7?" "chat" none 0 droppedEngine freshWorld _ _ (by decide) rfl
      rfl (by decide)⟩

end Runsheet.Agent
