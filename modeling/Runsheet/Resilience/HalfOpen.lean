import Runsheet.Resilience.Invariant

/-!
# Half-open trials under interleaving

`_on_success` and `_on_failure` branch on the state the breaker is in when a call
completes, not on the state it was admitted in. A call admitted while CLOSED that is
still running when the breaker trips and recovers therefore ends the half-open period
of a trial it has nothing to do with: its failure reopens the breaker and zeroes
`_half_open_calls` while the trial still runs, so a second trial is admitted next to the
first; its success closes the breaker before the trial's result is known.

A cancelled trial runs neither hook, so it keeps its slot forever: once no call is in
flight, the breaker stays HALF_OPEN with a full trial count and every later `execute`
is rejected (`wedged_rejects_forever`).
-/

namespace Runsheet.Resilience

/-- The steps of `execute` itself: admissions and completions. -/
def Action.IsExecute : Action → Prop
  | .enter _ _ => True
  | .complete _ _ _ => True
  | _ => False

namespace System

/-- Calls admitted while HALF_OPEN whose `func` is still running. -/
def trials (s : System) : Nat := s.inflight.countP (·.trial)

/-- A threshold of one failure, the default 30 s recovery and one trial call. -/
def tripOnce : CircuitBreakerConfig := { failureThreshold := 1 }

/-! ### Trials of two half-open periods in flight at once -/

/-- Two calls are admitted while CLOSED; the first fails and trips the breaker; after
the recovery timeout a trial is admitted; the second CLOSED call then fails, which
reopens the breaker and zeroes the trial count; after another timeout a second trial is
admitted while the first is still running. -/
def staleFailureTrace : List Action :=
  [.enter 0 0, .enter 0 0, .complete 0 (.raises ()) 0, .enter 30000000 30000000,
   .complete 0 (.raises ()) 30000000, .enter 60000000 60000000]

theorem stale_failure_admits_second_trial :
    (staleFailureTrace.flatMap Action.readings).Pairwise (· ≤ ·) ∧
    ∃ s, (init "test" (some tripOnce)).run staleFailureTrace = some s ∧
      s.breaker.state = .halfOpen ∧ s.inflight = [⟨true, 1⟩, ⟨true, 2⟩] ∧
      s.breaker.config.halfOpenMaxCalls < s.trials :=
  ⟨by decide, _, rfl, rfl, rfl, by decide⟩

/-! ### A stale success closes a half-open breaker -/

/-- Two calls admitted while CLOSED, a trip by the first, and a trial after the recovery
timeout: the second CLOSED call and the trial are both in flight. -/
def staleSuccessTrace : List Action :=
  [.enter 0 0, .enter 0 0, .complete 0 (.raises ()) 0, .enter 30000000 30000000]

theorem stale_success_closes_half_open :
    (staleSuccessTrace.flatMap Action.readings).Pairwise (· ≤ ·) ∧
    ∃ s s', (init "test" (some tripOnce)).run staleSuccessTrace = some s ∧
      s.breaker.state = .halfOpen ∧ s.period = 1 ∧ s.inflight = [⟨false, 0⟩, ⟨true, 1⟩] ∧
      s.step (.complete 0 (.returns ()) 30000000) = some s' ∧
      s'.breaker.state = .closed ∧ s'.breaker.halfOpenCalls = 0 ∧ s'.inflight = [⟨true, 1⟩] :=
  ⟨by decide, _, _, rfl, rfl, rfl, rfl, rfl, rfl, rfl, rfl⟩

/-! ### A cancelled trial wedges the breaker -/

/-- A failure trips the breaker; after the recovery timeout a trial is admitted and then
cancelled. -/
def cancelledTrialTrace : List Action :=
  [.enter 0 0, .complete 0 (.raises ()) 0, .enter 30000000 30000000,
   .complete 0 .cancelled 30000000]

theorem cancelled_trial_keeps_slot :
    (cancelledTrialTrace.flatMap Action.readings).Pairwise (· ≤ ·) ∧
    ∃ s, (init "test" (some tripOnce)).run cancelledTrialTrace = some s ∧
      s.inflight = [] ∧ s.breaker.state = .halfOpen ∧
      s.breaker.halfOpenCalls = s.breaker.config.halfOpenMaxCalls :=
  ⟨by decide, _, rfl, rfl, rfl, rfl⟩

/-- A HALF_OPEN breaker with a full trial count rejects every admission and is left
as it was. -/
theorem admission_of_full {b : CircuitBreaker} (half : b.state = .halfOpen)
    (full : b.config.halfOpenMaxCalls ≤ b.halfOpenCalls) (now reread : Int) :
    b.admission now reread = (b, .rejected (b.openException reread)) := by
  simp [CircuitBreaker.admission, CircuitBreaker.limitHalfOpen, half, full]

/-- **Wedge.** A HALF_OPEN breaker with a full trial count and no call in flight is
left unchanged by every run of `execute` steps, and rejects every admission. -/
theorem wedged_rejects_forever (s : System) (idle : s.inflight = [])
    (half : s.breaker.state = .halfOpen)
    (full : s.breaker.config.halfOpenMaxCalls ≤ s.breaker.halfOpenCalls)
    (acts : List Action) (executes : ∀ a ∈ acts, a.IsExecute) (s' : System)
    (h : s.run acts = some s') :
    s' = s ∧
      ∀ now reread, s'.breaker.admission now reread =
        (s'.breaker, .rejected (s'.breaker.openException reread)) := by
  suffices s' = s by subst this; exact ⟨rfl, admission_of_full half full⟩
  induction acts with
  | nil => cases h; rfl
  | cons a as ih =>
    have rest := fun a member => executes a (List.mem_cons_of_mem _ member)
    cases a with
    | enter now reread =>
      simp only [run_cons, step, admission_of_full half full, half] at h
      exact ih rest (by simpa using h)
    | complete i o now => simp [step, idle] at h
    | _ => exact absurd (executes _ (List.mem_cons_self _ _)) id

/-- Where `cancelledTrialTrace` leaves the system. -/
def wedgedSystem : System :=
  ⟨{ CircuitBreaker.init "test" (some tripOnce) with
      state := .halfOpen, failureCount := 1, lastFailureTime := some 0, halfOpenCalls := 1 },
    [], 1⟩

theorem wedged_after_cancelled_trial :
    (init "test" (some tripOnce)).run cancelledTrialTrace = some wedgedSystem ∧
    wedgedSystem.run [.enter 60000000 60000000, .enter 90000000 90000000] = some wedgedSystem ∧
    ∀ now reread, wedgedSystem.breaker.admission now reread =
      (wedgedSystem.breaker, .rejected (wedgedSystem.breaker.openException reread)) :=
  ⟨rfl, rfl, (wedged_rejects_forever wedgedSystem rfl rfl (by decide)
    [.enter 60000000 60000000, .enter 90000000 90000000]
    (by simp [Action.IsExecute]) wedgedSystem rfl).2⟩

end System

end Runsheet.Resilience
