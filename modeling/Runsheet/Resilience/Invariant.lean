import Runsheet.Resilience.Interleaving

/-!
# The representation invariant

The breaker's fields agree with its state: CLOSED keeps the failure count under the
threshold, OPEN and HALF_OPEN carry a failure time, only HALF_OPEN counts trial calls,
and the trial count stays within `half_open_max_calls`. Every operation keeps it, so
every state reached by any interleaving of critical sections does, and the failure count
only moves by one while CLOSED or drops to zero.
-/

namespace Runsheet.Resilience

namespace CircuitBreaker

/-- The representation invariant, with the config bound it needs (`1 ≤ threshold`). -/
structure Invariant (b : CircuitBreaker) : Prop where
  threshold_pos : 1 ≤ b.config.failureThreshold
  closed_below : b.state = .closed → b.failureCount < b.config.failureThreshold
  stamped : b.state ≠ .closed → b.lastFailureTime ≠ none
  idle : b.state ≠ .halfOpen → b.halfOpenCalls = 0
  nonneg : 0 ≤ b.halfOpenCalls
  bounded : b.halfOpenCalls ≤ b.config.halfOpenMaxCalls

/-- How one operation may move the failure count: not at all, up by one while CLOSED,
or back to zero. -/
def CountStep (b b' : CircuitBreaker) : Prop :=
  b'.failureCount = b.failureCount ∨
    (b.state = .closed ∧ b'.failureCount = b.failureCount + 1) ∨ b'.failureCount = 0

variable {b : CircuitBreaker}

theorem init_invariant (name : String) (config : Option CircuitBreakerConfig)
    (positive : 1 ≤ (config.getD {}).failureThreshold)
    (trials : 0 ≤ (config.getD {}).halfOpenMaxCalls) : (init name config).Invariant :=
  ⟨positive, fun _ => positive, fun h => absurd rfl h, fun _ => rfl, Int.le_refl 0, trials⟩

theorem onSuccess_invariant (h : b.Invariant) : b.onSuccess.Invariant := by
  unfold onSuccess
  split
  next => exact ⟨h.threshold_pos, fun _ => h.threshold_pos, fun c => absurd rfl c, fun _ => rfl,
    Int.le_refl 0, Int.le_trans h.nonneg h.bounded⟩
  next => exact { h with closed_below := fun _ => h.threshold_pos }
  next => exact h

theorem onFailure_invariant (now : Int) (h : b.Invariant) : (b.onFailure now).Invariant := by
  unfold onFailure
  split
  next => exact ⟨h.threshold_pos, nofun, fun _ => Option.some_ne_none _, fun _ => rfl,
    Int.le_refl 0, Int.le_trans h.nonneg h.bounded⟩
  next closed =>
    split
    next =>
      exact { h with closed_below := nofun, stamped := fun _ => Option.some_ne_none _,
                     idle := fun _ => h.idle (by simp [closed]) }
    next below =>
      exact { h with closed_below := fun _ => by dsimp only; omega,
                     stamped := fun _ => Option.some_ne_none _ }
  next => exact { h with stamped := fun _ => Option.some_ne_none _ }

theorem reset_invariant (h : b.Invariant) : b.reset.Invariant :=
  ⟨h.threshold_pos, fun _ => h.threshold_pos, fun c => absurd rfl c, fun _ => rfl,
    Int.le_refl 0, Int.le_trans h.nonneg h.bounded⟩

theorem limitHalfOpen_invariant (now : Int) (h : b.Invariant) :
    (b.limitHalfOpen now).1.Invariant := by
  unfold limitHalfOpen
  split_ifs with half full
  · exact h
  · have := h.nonneg
    exact { h with idle := fun c => absurd half c, nonneg := by dsimp only; omega,
                   bounded := by dsimp only; omega }
  · exact h

theorem admission_invariant (now reread : Int) (h : b.Invariant) :
    (b.admission now reread).1.Invariant := by
  unfold admission
  split_ifs with opened
  · apply limitHalfOpen_invariant
    exact { h with closed_below := nofun, stamped := fun _ => h.stamped (by simp [opened]),
                   idle := fun c => absurd rfl c, nonneg := Int.le_refl 0,
                   bounded := Int.le_trans h.nonneg h.bounded }
  · exact h
  · exact limitHalfOpen_invariant reread h

theorem complete_invariant {α ε : Type} (now : Int) (o : Outcome α ε) (h : b.Invariant) :
    (b.complete now o).Invariant := by
  cases o with
  | returns => exact onSuccess_invariant h
  | raises => exact onFailure_invariant now h
  | cancelled => exact h

theorem admission_countStep (now reread : Int) : CountStep b (b.admission now reread).1 := by
  left
  unfold admission limitHalfOpen
  split_ifs <;> rfl

theorem onSuccess_countStep : CountStep b b.onSuccess := by
  unfold onSuccess
  split
  · exact .inr (.inr rfl)
  · exact .inr (.inr rfl)
  · exact .inl rfl

theorem onFailure_countStep (now : Int) : CountStep b (b.onFailure now) := by
  unfold onFailure
  split
  · exact .inl rfl
  · next closed => split <;> exact .inr (.inl ⟨closed, rfl⟩)
  · exact .inl rfl

theorem complete_countStep {α ε : Type} (now : Int) (o : Outcome α ε) :
    CountStep b (b.complete now o) := by
  cases o with
  | returns => exact onSuccess_countStep
  | raises => exact onFailure_countStep now
  | cancelled => exact .inl rfl

theorem reset_countStep : CountStep b b.reset := .inr (.inr rfl)

end CircuitBreaker

namespace System

open CircuitBreaker

theorem step_invariant {s s' : System} {a : Action} (h : s.step a = some s')
    (inv : s.breaker.Invariant) : s'.breaker.Invariant := by
  rcases step_breaker h with ⟨now, reread, e⟩ | ⟨now, o, e⟩ | e <;> rw [e]
  · exact admission_invariant now reread inv
  · exact complete_invariant now o inv
  · exact reset_invariant inv

theorem step_countStep {s s' : System} {a : Action} (h : s.step a = some s') :
    CountStep s.breaker s'.breaker := by
  rcases step_breaker h with ⟨now, reread, e⟩ | ⟨now, o, e⟩ | e <;> rw [e]
  · exact admission_countStep now reread
  · exact complete_countStep now o
  · exact reset_countStep

theorem run_invariant {s s' : System} {acts : List Action} (h : s.run acts = some s')
    (inv : s.breaker.Invariant) : s'.breaker.Invariant := by
  induction acts generalizing s with
  | nil => cases h; exact inv
  | cons a as ih =>
    simp only [run_cons, Option.bind_eq_some] at h
    obtain ⟨mid, first, rest⟩ := h
    exact ih rest (step_invariant first inv)

/-- **Representation invariant.** In every state that any interleaving of admissions,
completions, direct hook calls and `reset()` reaches from a fresh breaker: CLOSED keeps
the count under the threshold, OPEN and HALF_OPEN carry a failure time, only HALF_OPEN
counts trials, and `0 ≤ half_open_calls ≤ half_open_max_calls`. Every further step
moves the failure count by `+1` while CLOSED, resets it to `0`, or leaves it. -/
theorem reachable_invariant (name : String) (config : Option CircuitBreakerConfig)
    (positive : 1 ≤ (config.getD {}).failureThreshold)
    (trials : 0 ≤ (config.getD {}).halfOpenMaxCalls)
    (acts : List Action) (s : System) (reached : (init name config).run acts = some s) :
    (s.breaker.state = .closed → s.breaker.failureCount < s.breaker.config.failureThreshold) ∧
    (s.breaker.state ≠ .closed → s.breaker.lastFailureTime ≠ none) ∧
    (s.breaker.state ≠ .halfOpen → s.breaker.halfOpenCalls = 0) ∧
    (0 ≤ s.breaker.halfOpenCalls ∧
      s.breaker.halfOpenCalls ≤ s.breaker.config.halfOpenMaxCalls) ∧
    ∀ a s', s.step a = some s' → CountStep s.breaker s'.breaker := by
  have inv := run_invariant reached (init_invariant name config positive trials)
  exact ⟨inv.closed_below, inv.stamped, inv.idle, ⟨inv.nonneg, inv.bounded⟩,
    fun _ _ => step_countStep⟩

/-- The default breaker after one call that failed: the invariant at a reached state. -/
theorem reachable_invariant_after_failure :
    let s : System := ⟨{ CircuitBreaker.init "gemini_api" none with
      failureCount := 1, lastFailureTime := some 5 }, [], 0⟩
    1 ≤ ((none : Option CircuitBreakerConfig).getD {}).failureThreshold ∧
    0 ≤ ((none : Option CircuitBreakerConfig).getD {}).halfOpenMaxCalls ∧
    (init "gemini_api" none).run [.enter 0 0, .complete 0 (.raises ()) 5] = some s ∧
    (s.breaker.state = .closed → s.breaker.failureCount < s.breaker.config.failureThreshold) ∧
    (s.breaker.state ≠ .closed → s.breaker.lastFailureTime ≠ none) ∧
    (s.breaker.state ≠ .halfOpen → s.breaker.halfOpenCalls = 0) ∧
    (0 ≤ s.breaker.halfOpenCalls ∧
      s.breaker.halfOpenCalls ≤ s.breaker.config.halfOpenMaxCalls) ∧
    ∀ a s', s.step a = some s' → CountStep s.breaker s'.breaker :=
  ⟨by decide, by decide, rfl,
    reachable_invariant "gemini_api" none (by decide) (by decide)
      [.enter 0 0, .complete 0 (.raises ()) 5] _ rfl⟩

end System

end Runsheet.Resilience
