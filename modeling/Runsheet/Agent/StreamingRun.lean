import Runsheet.Agent.Orchestrator

/-!
# Runs of `chat_streaming`

What every run of `chat_streaming` yields, where it can be suspended, and how it can move
the breaker, for every engine behaviour and every world. `forward` only appends the
engine's messages and `afterAttempt` does one of a few things before it hands over to the
next pass, so each fact is proved once for each of them, then for the attempt loop by
induction on its passes, and then for `chat_streaming`.
-/

namespace Runsheet.Agent

open Runsheet.Resilience

/-- An item `chat_streaming` builds itself rather than forwards from the engine. -/
inductive OrchestratorItem : Dict → Prop
  | circuitOpen (e : CircuitOpenException) : OrchestratorItem (handleCircuitBreakerException e)
  | apiError (message : String) : OrchestratorItem (handleGeminiApiError message)
  | status (retryCount : Nat) : OrchestratorItem (retryStatus retryCount)
  | exhausted : OrchestratorItem connectionFailed

/-- The calls that account for a finished exchange: `_on_success` and the session save. -/
def Interaction.IsAccounting : Interaction → Bool
  | .onSuccess => true
  | .save _ _ => true
  | _ => false

/-- `w'` is `w` with more calls made, none of them accounting for a finished exchange. -/
def Unaccounted (w w' : World) : Prop :=
  ∃ extra, w'.log = w.log ++ extra ∧ ∀ i ∈ extra, i.IsAccounting = false

/-- `b'` is `b` after some `_on_success()` and `_on_failure()` calls. -/
inductive Hooked : CircuitBreaker → CircuitBreaker → Prop
  | refl (b : CircuitBreaker) : Hooked b b
  | success {b b' : CircuitBreaker} : Hooked b b' → Hooked b b'.onSuccess
  | failure {b b' : CircuitBreaker} (now : Int) : Hooked b b' → Hooked b (b'.onFailure now)

namespace Unaccounted

theorem refl (w : World) : Unaccounted w w := ⟨[], by simp, by simp⟩

theorem trans {w₁ w₂ w₃ : World} (h₁ : Unaccounted w₁ w₂) (h₂ : Unaccounted w₂ w₃) :
    Unaccounted w₁ w₃ := by
  obtain ⟨e₁, l₁, q₁⟩ := h₁
  obtain ⟨e₂, l₂, q₂⟩ := h₂
  exact ⟨e₁ ++ e₂, by rw [l₂, l₁, List.append_assoc], by simp only [List.mem_append]; tauto⟩

theorem push (w : World) (i : Interaction) (quiet : i.IsAccounting = false) :
    Unaccounted w { w with log := w.log ++ [i] } := ⟨[i], rfl, by simpa using quiet⟩

theorem recordFailure (w : World) (now : Int) : Unaccounted w (w.recordFailure now) :=
  push w (.onFailure now) rfl

theorem messages (w : World) (ms : List Message) : Unaccounted w { w with messages := ms } :=
  ⟨[], by simp, by simp⟩

end Unaccounted

theorem Hooked.trans {b₁ b₂ b₃ : CircuitBreaker} (h₁ : Hooked b₁ b₂) (h₂ : Hooked b₂ b₃) :
    Hooked b₁ b₃ := by
  induction h₂ with
  | refl => exact h₁
  | success _ ih => exact .success ih
  | failure now _ ih => exact .failure now ih

/-- Hydration changes nothing but `agent.messages`. -/
theorem hydrate_frame (sessionId : Option String) (w : World) :
    ∃ ms, hydrate sessionId w = { w with messages := ms } := by
  unfold hydrate
  split
  · split
    · exact ⟨_, rfl⟩
    · split <;> exact ⟨_, rfl⟩
  · exact ⟨_, rfl⟩

theorem hydrate_breaker (sessionId : Option String) (w : World) :
    (hydrate sessionId w).breaker = w.breaker := by
  obtain ⟨ms, hydrated⟩ := hydrate_frame sessionId w
  rw [hydrated]

theorem persist_breaker (sessionId : Option String) (w : World) :
    (persist sessionId w).breaker = w.breaker := by
  unfold persist saveConversationHistory
  split
  · split <;> rfl
  · rfl

/-! ### `forward` -/

section Forward

variable {k : World → Bool → Run World Dict} {steps : List EngineStep} {w : World} {got : Bool}

/-- `forward` yields the engine's events, and otherwise what `k` yields. -/
theorem forward_items {d : Dict} (h : d ∈ (forward k steps w got).items) :
    EngineStep.event d ∈ steps ∨ ∃ ms g, d ∈ (k { w with messages := ms } g).items := by
  induction steps generalizing w got with
  | nil => exact .inr ⟨w.messages, got, by simpa [forward] using h⟩
  | cons step rest ih =>
    cases step with
    | event e =>
      simp only [forward, Run.items, List.mem_cons] at h
      rcases h with rfl | h
      · exact .inl (List.mem_cons_self _ _)
      · exact (ih h).imp_left (List.mem_cons_of_mem _)
    | append m => exact (ih h).imp_left (List.mem_cons_of_mem _)

/-- `forward` changes nothing but `agent.messages` before it hands over to `k`. -/
theorem forward_suspensions {w'' : World} (h : w'' ∈ (forward k steps w got).suspensions) :
    (∃ ms, w'' = { w with messages := ms }) ∨
      ∃ ms g, w'' ∈ (k { w with messages := ms } g).suspensions := by
  induction steps generalizing w got with
  | nil => exact .inr ⟨w.messages, got, by simpa [forward] using h⟩
  | cons step rest ih =>
    cases step with
    | event e =>
      simp only [forward, Run.suspensions, List.mem_cons] at h
      rcases h with rfl | h
      · exact .inl ⟨_, rfl⟩
      · exact ih h
    | append m =>
      rcases ih h with ⟨ms, rfl⟩ | later
      · exact .inl ⟨ms, rfl⟩
      · exact .inr later

/-- Every world `forward` passes through is `w` with other messages, or one of `k`'s. -/
theorem forward_worlds {w'' : World}
    (h : w'' ∈ (forward k steps w got).suspensions ∨ w'' = (forward k steps w got).final) :
    (∃ ms, w'' = { w with messages := ms }) ∨ ∃ ms g,
      w'' ∈ (k { w with messages := ms } g).suspensions ∨
        w'' = (k { w with messages := ms } g).final := by
  induction steps generalizing w got with
  | nil => exact .inr ⟨w.messages, got, h⟩
  | cons step rest ih =>
    cases step with
    | event e =>
      simp only [forward, Run.suspensions, Run.final, List.mem_cons] at h
      rcases h with (rfl | h) | h
      · exact .inl ⟨_, rfl⟩
      · exact ih (.inl h)
      · exact ih (.inr h)
    | append m =>
      rcases ih h with ⟨ms, rfl⟩ | later
      · exact .inl ⟨ms, rfl⟩
      · exact .inr later

end Forward

/-! ### After an attempt -/

section AfterAttempt

variable {sessionId : Option String} {retryCount : Nat} {next : World → Run World Dict}
  {ending : Ending} {w : World} {got : Bool}

theorem afterAttempt_items {d : Dict}
    (h : d ∈ (afterAttempt sessionId retryCount next ending w got).items) :
    OrchestratorItem d ∨ ∃ w', d ∈ (next w').items := by
  cases ending with
  | clean => cases got <;> simp [afterAttempt, Run.items] at h
  | raises failure now =>
    cases failure with
    | circuitOpen e =>
      simp only [afterAttempt, Run.items, List.mem_singleton] at h
      exact .inl (h ▸ .circuitOpen e)
    | error message =>
      simp only [afterAttempt] at h
      split_ifs at h <;>
        simp only [Run.items, List.mem_cons, List.mem_singleton, List.not_mem_nil, or_false] at h
      · exact .inl (h ▸ .circuitOpen _)
      · rcases h with rfl | later
        · exact .inl (.status _)
        · exact .inr ⟨_, later⟩
      · exact .inl (h ▸ .exhausted)
      · exact .inl (h ▸ .apiError _)

theorem afterAttempt_suspensions {w'' : World}
    (h : w'' ∈ (afterAttempt sessionId retryCount next ending w got).suspensions) :
    Unaccounted w w'' ∨ ∃ w', Unaccounted w w' ∧ w'' ∈ (next w').suspensions := by
  cases ending with
  | clean => cases got <;> simp [afterAttempt, Run.suspensions] at h
  | raises failure now =>
    cases failure with
    | circuitOpen e =>
      simp only [afterAttempt, Run.suspensions, List.mem_singleton] at h
      exact .inl (h ▸ .refl w)
    | error message =>
      simp only [afterAttempt] at h
      split_ifs at h <;>
        simp only [Run.suspensions, List.mem_cons, List.mem_singleton, List.not_mem_nil,
          or_false] at h
      · exact .inl (h ▸ .recordFailure w now)
      · rcases h with rfl | later
        · exact .inl (.recordFailure w now)
        · exact .inr ⟨_, (Unaccounted.recordFailure w now).trans (.push _ (.sleep _) rfl), later⟩
      · exact .inl (h ▸ .recordFailure w now)
      · exact .inl (h ▸ .recordFailure w now)

theorem afterAttempt_hooked {w'' : World}
    (h : w'' ∈ (afterAttempt sessionId retryCount next ending w got).suspensions ∨
      w'' = (afterAttempt sessionId retryCount next ending w got).final) :
    Hooked w.breaker w''.breaker ∨ ∃ w', Hooked w.breaker w'.breaker ∧
      (w'' ∈ (next w').suspensions ∨ w'' = (next w').final) := by
  have failed : ∀ now (w' : World), w'.breaker = w.breaker.onFailure now →
      Hooked w.breaker w'.breaker := fun now _ same => same ▸ .failure now (.refl _)
  cases ending with
  | clean =>
    cases got <;> simp only [afterAttempt, Run.suspensions, Run.final, List.not_mem_nil,
      false_or, if_true, Bool.false_eq_true, if_false] at h <;> subst h
    · exact .inl (.refl _)
    · exact .inl (by rw [persist_breaker]; exact .success (.refl _))
  | raises failure now =>
    cases failure with
    | circuitOpen e =>
      simp only [afterAttempt, Run.suspensions, Run.final, List.mem_singleton, or_self] at h
      exact .inl (h ▸ .refl _)
    | error message =>
      simp only [afterAttempt] at h
      split_ifs at h <;>
        simp only [Run.suspensions, Run.final, List.mem_cons, List.mem_singleton,
          List.not_mem_nil, or_false, or_self] at h
      · exact .inl (h ▸ failed now _ rfl)
      · rcases h with (rfl | later) | final
        · exact .inl (failed now _ rfl)
        · exact .inr ⟨_, failed now _ rfl, .inl later⟩
        · exact .inr ⟨_, failed now _ rfl, .inr final⟩
      · exact .inl (h ▸ failed now _ rfl)
      · exact .inl (h ▸ failed now _ rfl)

end AfterAttempt

/-! ### The attempt loop and `chat_streaming` -/

section Loop

variable {prompt : String} {sessionId : Option String} {engine : Nat → Attempt} {w : World}

/-- Every item of the attempt loop is an engine event or one the orchestrator builds. -/
theorem attemptLoop_items {retryCount fuel : Nat} {d : Dict}
    (h : d ∈ (attemptLoop prompt sessionId engine retryCount fuel w).items) :
    (∃ n, EngineStep.event d ∈ (engine n).steps) ∨ OrchestratorItem d := by
  induction fuel generalizing retryCount w with
  | zero => simp [attemptLoop, Run.items] at h
  | succ fuel ih =>
    rcases forward_items h with found | ⟨ms, got, later⟩
    · exact .inl ⟨retryCount, found⟩
    · rcases afterAttempt_items later with built | ⟨w', again⟩
      · exact .inr built
      · exact ih again

/-- The attempt loop is suspended only in worlds where it has made no accounting call. -/
theorem attemptLoop_suspensions {retryCount fuel : Nat} {w'' : World}
    (h : w'' ∈ (attemptLoop prompt sessionId engine retryCount fuel w).suspensions) :
    Unaccounted w w'' := by
  induction fuel generalizing retryCount w with
  | zero => simp [attemptLoop, Run.suspensions] at h
  | succ fuel ih =>
    have started : Unaccounted w { w with log := w.log ++ [.streamAsync prompt] } :=
      .push w (.streamAsync prompt) rfl
    rcases forward_suspensions h with ⟨ms, rfl⟩ | ⟨ms, got, later⟩
    · exact started.trans (.messages _ ms)
    · rcases afterAttempt_suspensions later with quiet | ⟨w', quiet, again⟩
      · exact (started.trans (.messages _ ms)).trans quiet
      · exact ((started.trans (.messages _ ms)).trans quiet).trans (ih again)

/-- Every world of the attempt loop has the breaker it started with, after hook calls. -/
theorem attemptLoop_hooked {retryCount fuel : Nat} {w'' : World}
    (h : w'' ∈ (attemptLoop prompt sessionId engine retryCount fuel w).suspensions ∨
      w'' = (attemptLoop prompt sessionId engine retryCount fuel w).final) :
    Hooked w.breaker w''.breaker := by
  induction fuel generalizing retryCount w with
  | zero =>
    simp only [attemptLoop, Run.suspensions, Run.final, List.not_mem_nil, false_or] at h
    exact h ▸ .refl _
  | succ fuel ih =>
    rcases forward_worlds h with ⟨ms, rfl⟩ | ⟨ms, got, later⟩
    · exact .refl _
    · rcases afterAttempt_hooked later with hooked | ⟨w', hooked, again⟩
      · exact hooked
      · exact hooked.trans (ih again)

variable {message mode : String} {now : Int}

/-- Every item of `chat_streaming` is an engine event or one the orchestrator builds. -/
theorem chatStreaming_items {d : Dict}
    (h : d ∈ (chatStreaming message mode sessionId now engine w).items) :
    (∃ n, EngineStep.event d ∈ (engine n).steps) ∨ OrchestratorItem d := by
  dsimp only [chatStreaming] at h
  split at h
  · simp only [Run.items, List.mem_singleton] at h
    exact .inr (h ▸ .circuitOpen _)
  · exact attemptLoop_items h

/-- `chat_streaming` is suspended only in worlds where it has made no accounting call. -/
theorem chatStreaming_suspensions {w'' : World}
    (h : w'' ∈ (chatStreaming message mode sessionId now engine w).suspensions) :
    Unaccounted w w'' := by
  have hydrated : Unaccounted w (hydrate sessionId w) := by
    obtain ⟨ms, e⟩ := hydrate_frame sessionId w
    exact e ▸ .messages w ms
  dsimp only [chatStreaming] at h
  split at h
  · simp only [Run.suspensions, List.mem_singleton] at h
    exact h ▸ hydrated
  · exact hydrated.trans (attemptLoop_suspensions h)

/-- `chat_streaming` moves the breaker by hook calls only. -/
theorem chatStreaming_hooked {w'' : World}
    (h : w'' ∈ (chatStreaming message mode sessionId now engine w).suspensions ∨
      w'' = (chatStreaming message mode sessionId now engine w).final) :
    Hooked w.breaker w''.breaker := by
  rw [← hydrate_breaker sessionId w]
  dsimp only [chatStreaming] at h
  split at h
  · simp only [Run.suspensions, Run.final, List.mem_singleton, or_self] at h
    exact h ▸ .refl _
  · exact attemptLoop_hooked h

end Loop

end Runsheet.Agent
