import Runsheet.Resilience.Interleaving
import Runsheet.Agent.Orchestrator

/-!
# The retry time of a rejection

A call that `execute` turns away raises `CircuitOpenException(name, _get_time_until_retry())`,
and both `_handle_circuit_breaker_exception` handlers report its whole seconds as
`time_until_retry_seconds`. `_get_time_until_retry` reads `datetime.utcnow()` once more after
`_should_attempt_reset` has, so what it returns depends on the clock readings of the whole
run: the failure time it subtracts was read by an earlier critical section.

## Main result

`rejection_retry_hint`: along any interleaving whose clock readings never go back, a rejected
call carries a retry time exactly when the circuit was OPEN and its recovery timeout had not
elapsed at the second reading. That time is positive and at most `recovery_timeout`, and its
whole seconds are between `0` and those of `recovery_timeout`. A call turned away by the
HALF_OPEN trial limit carries none.

## Proof strategy

`Settled b clock` says what a clock that has reached `clock` knows of the breaker: the failure
time was read by then, and in HALF_OPEN the recovery timeout had elapsed by then. Every
operation whose readings the clock has reached keeps it (`step_settled`), so every run does
(`run_settled`). The rejection is then read off `admission`.
-/

namespace Runsheet.Resilience

namespace CircuitBreaker

/-- What a clock that has reached `clock` knows of the breaker: its failure time was read by
`clock`, and a HALF_OPEN circuit's recovery timeout had elapsed by `clock`. -/
structure Settled (b : CircuitBreaker) (clock : Int) : Prop where
  past : ∀ t, b.lastFailureTime = some t → t ≤ clock
  recovered : b.state = .halfOpen → ∀ t, b.lastFailureTime = some t →
    t + b.config.recoveryTimeout ≤ clock

variable {b : CircuitBreaker} {clock now : Int}

theorem Settled.mono (h : b.Settled clock) (later : clock ≤ now) : b.Settled now :=
  ⟨fun t stamp => Int.le_trans (h.past t stamp) later,
    fun half t stamp => Int.le_trans (h.recovered half t stamp) later⟩

theorem init_settled (name : String) (config : Option CircuitBreakerConfig) (clock : Int) :
    (init name config).Settled clock :=
  ⟨fun _ stamp => (nomatch stamp), fun half => nomatch half⟩

theorem onSuccess_settled (h : b.Settled clock) : b.onSuccess.Settled clock := by
  unfold onSuccess
  split
  · exact ⟨h.past, by simp⟩
  · exact ⟨h.past, h.recovered⟩
  · exact h

/-- A failure stamps the breaker with the reading of its own critical section. -/
theorem onFailure_settled (b : CircuitBreaker) (read : now ≤ clock) :
    (b.onFailure now).Settled clock :=
  ⟨fun t stamp => by simp only [onFailure_lastFailureTime, Option.some.injEq] at stamp; omega,
    fun half => absurd half (onFailure_ne_halfOpen now)⟩

theorem reset_settled (b : CircuitBreaker) (clock : Int) : b.reset.Settled clock :=
  ⟨fun _ stamp => (nomatch stamp), fun half => nomatch half⟩

theorem limitHalfOpen_settled (h : b.Settled clock) (reread : Int) :
    (b.limitHalfOpen reread).1.Settled clock := by
  unfold limitHalfOpen
  split_ifs
  · exact h
  · exact ⟨h.past, h.recovered⟩
  · exact h

/-- The admission moves an OPEN circuit to HALF_OPEN only once its recovery timeout has
elapsed at `now`, which the clock has reached. -/
theorem admission_settled (h : b.Settled clock) (read : now ≤ clock) (reread : Int) :
    (b.admission now reread).1.Settled clock := by
  unfold admission
  split_ifs with opened ready
  · apply limitHalfOpen_settled _ reread
    refine ⟨h.past, fun _ t stamp => ?_⟩
    dsimp only at stamp ⊢
    simp only [shouldAttemptReset, stamp, decide_eq_true_eq] at ready
    omega
  · exact h
  · exact limitHalfOpen_settled h reread

theorem complete_settled {α ε : Type} (h : b.Settled clock) (read : now ≤ clock)
    (outcome : Outcome α ε) : (b.complete now outcome).Settled clock := by
  cases outcome with
  | returns _ => exact onSuccess_settled h
  | raises _ => exact onFailure_settled b read
  | cancelled => exact h

/-! ### The rejection -/

/-- `_get_time_until_retry` returns a time exactly when `_should_attempt_reset` says no. -/
theorem getTimeUntilRetry_isSome (b : CircuitBreaker) (now : Int) :
    (∃ r, b.getTimeUntilRetry now = some r) ↔ b.shouldAttemptReset now = false := by
  unfold getTimeUntilRetry shouldAttemptReset
  cases b.lastFailureTime with
  | none => simp
  | some t =>
    by_cases elapsed : b.config.recoveryTimeout - (now - t) ≤ 0
    · simp only [elapsed, if_true, reduceCtorEq, exists_false, false_iff,
        decide_eq_false_iff_not, not_not]
      omega
    · simp only [elapsed, if_false, Option.some.injEq, exists_eq', true_iff,
        decide_eq_false_iff_not]
      omega

/-- A time `_get_time_until_retry` returns is positive, and no longer than the recovery
timeout when the failure time was read by `now`. -/
theorem getTimeUntilRetry_bounds (past : ∀ t, b.lastFailureTime = some t → t ≤ now) :
    ∀ r, b.getTimeUntilRetry now = some r → 0 < r ∧ r ≤ b.config.recoveryTimeout := by
  intro r remaining
  unfold getTimeUntilRetry at remaining
  cases stamp : b.lastFailureTime with
  | none => simp [stamp] at remaining
  | some t =>
    have read := past t stamp
    simp only [stamp] at remaining
    split_ifs at remaining
    cases remaining
    omega

/-- A settled HALF_OPEN circuit is due for a trial. -/
theorem shouldAttemptReset_of_halfOpen (h : b.Settled now) (half : b.state = .halfOpen) :
    b.shouldAttemptReset now = true := by
  unfold shouldAttemptReset
  cases stamp : b.lastFailureTime with
  | none => rfl
  | some t =>
    have elapsed := h.recovered half t stamp
    simp only [decide_eq_true_eq]
    omega

/-- A circuit due for a trial at `now` is still due at a later reading. -/
theorem shouldAttemptReset_mono (ready : b.shouldAttemptReset now = true) {reread : Int}
    (again : now ≤ reread) : b.shouldAttemptReset reread = true := by
  unfold shouldAttemptReset at ready ⊢
  cases stamp : b.lastFailureTime with
  | none => rfl
  | some t =>
    simp only [stamp, decide_eq_true_eq] at ready ⊢
    omega

theorem limitHalfOpen_rejected {reread : Int} {e : CircuitOpenException}
    (rejected : (b.limitHalfOpen reread).2 = .rejected e) :
    b.state = .halfOpen ∧ e = b.openException reread := by
  unfold limitHalfOpen at rejected
  split_ifs at rejected with half
  cases rejected
  exact ⟨half, rfl⟩

/-- The exception of a rejected admission, on a breaker settled at its first reading: it
carries a retry time exactly when the circuit was OPEN and still waiting at the second
reading, and that time is positive and no longer than the recovery timeout. -/
theorem admission_rejected (h : b.Settled now) {reread : Int} (again : now ≤ reread)
    {e : CircuitOpenException} (rejected : (b.admission now reread).2 = .rejected e) :
    ((∃ r, e.timeUntilRetry = some r) ↔
      b.state = .open ∧ b.shouldAttemptReset reread = false) ∧
    ∀ r, e.timeUntilRetry = some r → 0 < r ∧ r ≤ b.config.recoveryTimeout := by
  have bounds := getTimeUntilRetry_bounds (h.mono again).past
  unfold admission at rejected
  split_ifs at rejected with opened ready
  · obtain ⟨-, rfl⟩ := limitHalfOpen_rejected rejected
    have due := shouldAttemptReset_mono ready again
    have due' : shouldAttemptReset { b with state := .halfOpen, halfOpenCalls := 0 } reread =
        true := due
    exact ⟨(getTimeUntilRetry_isSome _ reread).trans (by simp [due, due']), bounds⟩
  · cases rejected
    exact ⟨(getTimeUntilRetry_isSome b reread).trans (by simp [opened]), bounds⟩
  · obtain ⟨half, rfl⟩ := limitHalfOpen_rejected rejected
    have due := shouldAttemptReset_mono (shouldAttemptReset_of_halfOpen h half) again
    exact ⟨(getTimeUntilRetry_isSome b reread).trans (by simp [opened, due]), bounds⟩

/-- The whole seconds both handlers report of a positive time no longer than `bound`. -/
theorem wholeSeconds_bounds {r bound : Int} (positive : 0 < r) (within : r ≤ bound) :
    ∀ seconds, Agent.wholeSeconds (some r) = some seconds →
      0 ≤ seconds ∧ seconds ≤ bound.tdiv 1000000 := by
  intro seconds whole
  rw [Agent.wholeSeconds, if_neg (by omega), Option.some.injEq] at whole
  subst whole
  have nonneg : 0 ≤ r := Int.le_of_lt positive
  rw [Int.tdiv_eq_ediv nonneg (by decide), Int.tdiv_eq_ediv (by omega) (by decide)]
  exact ⟨Int.ediv_nonneg nonneg (by decide), Int.ediv_le_ediv (by decide) within⟩

end CircuitBreaker

namespace System

open CircuitBreaker

/-- The clock readings of a run, in order. -/
def readings (acts : List Action) : List Int := acts.flatMap Action.readings

theorem step_config {s s' : System} {a : Action} (stepped : s.step a = some s') :
    s'.breaker.config = s.breaker.config := by
  rcases step_breaker stepped with ⟨now, reread, e⟩ | ⟨now, o, e⟩ | e <;> simp [e]

theorem run_config {s s' : System} {acts : List Action} (ran : s.run acts = some s') :
    s'.breaker.config = s.breaker.config := by
  induction acts generalizing s with
  | nil => cases ran; rfl
  | cons a as ih =>
    simp only [run_cons, Option.bind_eq_some] at ran
    obtain ⟨mid, first, rest⟩ := ran
    exact (ih rest).trans (step_config first)

/-- A step whose readings the clock has reached keeps the breaker settled. -/
theorem step_settled {s s' : System} {a : Action} {clock : Int} (h : s.breaker.Settled clock)
    (read : ∀ x ∈ a.readings, x ≤ clock) (stepped : s.step a = some s') :
    s'.breaker.Settled clock := by
  cases a with
  | enter now reread =>
    simp only [step] at stepped
    split at stepped <;> cases stepped <;>
      exact admission_settled h (read now (by simp [Action.readings])) reread
  | complete i o now =>
    simp only [step, Option.map_eq_some'] at stepped
    obtain ⟨_, _, rfl⟩ := stepped
    exact complete_settled h (read now (by simp [Action.readings])) o
  | onSuccess =>
    cases stepped
    exact onSuccess_settled h
  | onFailure now =>
    cases stepped
    exact onFailure_settled _ (read now (by simp [Action.readings]))
  | reset =>
    cases stepped
    exact reset_settled _ clock

/-- A run whose readings the clock has reached ends settled. -/
theorem run_settled {s s' : System} {acts : List Action} {clock : Int}
    (h : s.breaker.Settled clock) (read : ∀ x ∈ readings acts, x ≤ clock)
    (ran : s.run acts = some s') : s'.breaker.Settled clock := by
  induction acts generalizing s with
  | nil => cases ran; exact h
  | cons a as ih =>
    simp only [run_cons, Option.bind_eq_some] at ran
    obtain ⟨mid, first, rest⟩ := ran
    exact ih (step_settled h (fun x mem => read x (by simp [readings, mem])) first)
      (fun x mem => read x (by simp [readings] at mem ⊢; exact .inr mem)) rest

/-- **The retry time of a rejection.** Along any interleaving of callers of a fresh breaker
whose clock readings never go back, a call that the admission turns away, after reading the
clock at `now` in `_should_attempt_reset` and at `reread` in `_get_time_until_retry`, raises
a `CircuitOpenException` with a retry time exactly when the circuit is OPEN and its recovery
timeout has not elapsed at `reread`. That time is positive and at most `recovery_timeout`,
and the whole seconds both `_handle_circuit_breaker_exception` handlers report lie between
`0` and those of `recovery_timeout`. A call turned away by the HALF_OPEN trial limit gets no
retry time. -/
theorem rejection_retry_hint {name : String} {config : Option CircuitBreakerConfig}
    {acts : List Action} {s : System} (reached : (init name config).run acts = some s)
    {now reread : Int} (ordered : (readings acts ++ [now, reread]).Pairwise (· ≤ ·))
    {e : CircuitOpenException} (rejected : (s.breaker.admission now reread).2 = .rejected e) :
    ((∃ r, e.timeUntilRetry = some r) ↔
      s.breaker.state = .open ∧ s.breaker.shouldAttemptReset reread = false) ∧
    (∀ r, e.timeUntilRetry = some r → 0 < r ∧ r ≤ (config.getD {}).recoveryTimeout) ∧
    ∀ seconds, Agent.wholeSeconds e.timeUntilRetry = some seconds →
      0 ≤ seconds ∧ seconds ≤ (config.getD {}).recoveryTimeout.tdiv 1000000 := by
  rw [List.pairwise_append] at ordered
  have settled : s.breaker.Settled now := run_settled (init_settled name config now)
    (fun x mem => ordered.2.2 x mem now (by simp)) reached
  have again : now ≤ reread := List.rel_of_pairwise_cons ordered.2.1 (by simp)
  have config_eq : s.breaker.config = config.getD {} := run_config reached
  obtain ⟨present, bounds⟩ := admission_rejected settled again rejected
  rw [config_eq] at bounds
  refine ⟨present, bounds, fun seconds whole => ?_⟩
  cases retry : e.timeUntilRetry with
  | none => simp [retry, Agent.wholeSeconds] at whole
  | some r =>
    rw [retry] at whole
    exact wholeSeconds_bounds (bounds r retry).1 (bounds r retry).2 seconds whole

/-- Three failures reported to the default breaker open it at time `2`; a call at time `10`
is turned away with `29999992` µs to wait, which the handlers report as `29` seconds. -/
theorem tripped_breaker_retry_hint :
    let s : System := ⟨{ CircuitBreaker.init "gemini_api" none with
      state := .open, failureCount := 3, lastFailureTime := some 2 }, [], 0⟩
    let e : CircuitOpenException := ⟨"gemini_api", some 29999992⟩
    (init "gemini_api" none).run [.onFailure 0, .onFailure 1, .onFailure 2] = some s ∧
    (readings [.onFailure 0, .onFailure 1, .onFailure 2] ++ [10, 10]).Pairwise (· ≤ ·) ∧
    (s.breaker.admission 10 10).2 = .rejected e ∧
    ((∃ r, e.timeUntilRetry = some r) ↔
      s.breaker.state = .open ∧ s.breaker.shouldAttemptReset 10 = false) ∧
    (∀ r, e.timeUntilRetry = some r →
      0 < r ∧ r ≤ ((none : Option CircuitBreakerConfig).getD {}).recoveryTimeout) ∧
    ∀ seconds, Agent.wholeSeconds e.timeUntilRetry = some seconds →
      0 ≤ seconds ∧
        seconds ≤ ((none : Option CircuitBreakerConfig).getD {}).recoveryTimeout.tdiv 1000000 :=
  have reached : (init "gemini_api" none).run [.onFailure 0, .onFailure 1, .onFailure 2] =
      some ⟨{ CircuitBreaker.init "gemini_api" none with
        state := .open, failureCount := 3, lastFailureTime := some 2 }, [], 0⟩ := rfl
  have ordered : (readings [.onFailure 0, .onFailure 1, .onFailure 2] ++ [10, 10]).Pairwise
      (· ≤ ·) := by decide
  ⟨reached, ordered, rfl, rejection_retry_hint reached ordered rfl⟩

end System

end Runsheet.Resilience
