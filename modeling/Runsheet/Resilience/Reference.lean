import Runsheet.Resilience.CircuitBreaker

/-!
# Sequential `execute` against the reference automaton

A sequential run is a list of `execute` calls, each finishing before the next begins,
and `reset()`s. The reference automaton is the breaker the spec describes: it counts the
consecutive failures since the last success or reset and remembers when the last failure
happened; it is tripped once the count reaches the threshold, and a tripped breaker lets
a call through only once the recovery timeout has passed since that failure.

`Abstracts` says which reference state a breaker between two sequential calls stands for:
the same failure time, CLOSED exactly when the reference is not tripped (with the same
count), OPEN otherwise, never HALF_OPEN. Each call keeps it (`execute_abstracts`), so
along every run the code admits, rejects and reports exactly as the reference does
(`execute_refines_reference`).

A rejected call reads the clock twice: `_should_attempt_reset` decides at `now`, and
`_get_time_until_retry` computes the retry time at a later `reread`. The reference reports
what is left of the recovery timeout at `reread`, which is nothing when the timeout ran out
between the two readings (`rejection_between_readings`).
-/

namespace Runsheet.Resilience

/-- A step of a sequential run: an `execute` call whose first critical section reads the
clock at `now` and, to turn it away, at `reread`, and whose `func`, if invoked, has ended
by `later`; or `reset()`. -/
inductive Request (α ε : Type) where
  | call (now reread later : Int) (outcome : Outcome α ε)
  | reset
  deriving DecidableEq, Repr

namespace Request

variable {α ε : Type}

/-- The clock readings of a request, in order. -/
def times : Request α ε → List Int
  | .call now reread later _ => [now, reread, later]
  | .reset => []

/-- A call whose `func` returns or raises an `Exception`, rather than being cancelled. -/
def Completes : Request α ε → Prop
  | .call _ _ _ .cancelled => False
  | _ => True

end Request

/-- The breaker after serving one request of a sequential run. -/
def CircuitBreaker.serve {α ε : Type} (b : CircuitBreaker) : Request α ε → CircuitBreaker
  | .call now reread later o => (b.execute now reread later o).1
  | .reset => b.reset

/-- The reference breaker: consecutive failures since the last success or reset, and the
time of the last failure since the last reset. -/
structure Reference where
  failures : Nat
  lastFailure : Option Int
  deriving DecidableEq, Repr

namespace Reference

variable {α ε : Type}

def start : Reference := ⟨0, none⟩

/-- A call at `now` goes through unless the breaker is tripped and the recovery timeout
has not passed since the last failure. -/
def admits (cfg : CircuitBreakerConfig) (r : Reference) (now : Int) : Bool :=
  decide ((r.failures : Int) < cfg.failureThreshold) ||
    match r.lastFailure with
    | some t => decide (cfg.recoveryTimeout ≤ now - t)
    | none => false

/-- What is left of the recovery timeout at `reread`, if anything. -/
def remaining (cfg : CircuitBreakerConfig) (r : Reference) (reread : Int) : Option Int :=
  r.lastFailure.bind fun t =>
    if cfg.recoveryTimeout - (reread - t) ≤ 0 then none
    else some (cfg.recoveryTimeout - (reread - t))

/-- What the caller sees: `func`'s own outcome, or a rejection at `now` that says how long
remains of the recovery timeout at `reread`. -/
def respond (cfg : CircuitBreakerConfig) (name : String) (r : Reference) (now reread : Int)
    (o : Outcome α ε) : Except CircuitOpenException (Outcome α ε) :=
  if r.admits cfg now then .ok o else .error ⟨name, r.remaining cfg reread⟩

def serve (cfg : CircuitBreakerConfig) (r : Reference) : Request α ε → Reference
  | .call now _ later o =>
    if r.admits cfg now then
      match o with
      | .returns _ => ⟨0, r.lastFailure⟩
      | .raises _ => ⟨r.failures + 1, some later⟩
      | .cancelled => r
    else r
  | .reset => start

end Reference

/-- The reference state a breaker stands for between two calls of a sequential run. -/
structure Abstracts (cfg : CircuitBreakerConfig) (name : String) (b : CircuitBreaker)
    (r : Reference) : Prop where
  config : b.config = cfg
  named : b.name = name
  idle : b.halfOpenCalls = 0
  failed_at : b.lastFailureTime = r.lastFailure
  closed_iff : b.state = .closed ↔ (r.failures : Int) < cfg.failureThreshold
  counted : b.state = .closed → b.failureCount = r.failures
  settled : b.state ≠ .halfOpen
  stamped : b.state = .open → r.lastFailure ≠ none

section Refinement

variable {α ε : Type} {cfg : CircuitBreakerConfig} {name : String}
  (positive : 1 ≤ cfg.failureThreshold) (room : 1 ≤ cfg.halfOpenMaxCalls)

include positive in
theorem start_abstracts : Abstracts cfg name (CircuitBreaker.init name (some cfg)) .start :=
  ⟨rfl, rfl, rfl, rfl, by simp [CircuitBreaker.init, Reference.start]; omega,
    fun _ => rfl, nofun, nofun⟩

include positive in
theorem reset_abstracts {b : CircuitBreaker} {r : Reference} (h : Abstracts cfg name b r) :
    Abstracts cfg name b.reset .start :=
  ⟨h.config, h.named, rfl, rfl, by simp [CircuitBreaker.reset, Reference.start, h.config]; omega,
    fun _ => rfl, nofun, nofun⟩

include positive room in
/-- **One sequential call.** From a breaker that stands for `r`, a call that returns or
raises answers what the reference answers, and leaves a breaker that stands for the
reference's next state. -/
theorem execute_abstracts {b : CircuitBreaker} {r : Reference} (h : Abstracts cfg name b r)
    (now reread later : Int) {o : Outcome α ε} (completes : o ≠ .cancelled) :
    (b.execute now reread later o).2 = r.respond cfg name now reread o ∧
      Abstracts cfg name (b.execute now reread later o).1
        (r.serve cfg (.call now reread later o)) := by
  cases hs : b.state with
  | closed =>
    have through : r.admits cfg now = true := by simp [Reference.admits, h.closed_iff.mp hs]
    have counted := h.counted hs
    rw [CircuitBreaker.execute_closed hs]
    refine ⟨by simp [Reference.respond, through], ?_⟩
    simp only [Reference.serve, through, if_true]
    cases o with
    | returns v =>
      simp only [CircuitBreaker.complete, CircuitBreaker.onSuccess, hs]
      exact ⟨h.config, h.named, h.idle, h.failed_at, by simp [hs]; omega, fun _ => rfl,
        by simp [hs], by simp [hs]⟩
    | raises e =>
      simp only [CircuitBreaker.complete, CircuitBreaker.onFailure, hs, h.config, counted]
      split
      next reached =>
        exact ⟨rfl, h.named, h.idle, rfl, by simp; omega, nofun, nofun, by simp⟩
      next below =>
        exact ⟨rfl, h.named, h.idle, rfl, by simp; omega, fun _ => by simp, nofun, nofun⟩
    | cancelled => exact absurd rfl completes
  | «open» =>
    obtain ⟨t, ht⟩ := Option.ne_none_iff_exists'.mp (h.stamped hs)
    have tripped : ¬(r.failures : Int) < cfg.failureThreshold := fun c => by
      simp [h.closed_iff.mpr c] at hs
    have failed : b.lastFailureTime = some t := h.failed_at.trans ht
    by_cases ready : cfg.recoveryTimeout ≤ now - t
    · have through : r.admits cfg now = true := by simp [Reference.admits, ht, ready]
      rw [CircuitBreaker.execute_ready hs (by simp [CircuitBreaker.shouldAttemptReset, failed,
        h.config, ready]) (by rw [h.config]; omega)]
      refine ⟨by simp [Reference.respond, through], ?_⟩
      simp only [Reference.serve, through, if_true]
      cases o with
      | returns v =>
        simp only [CircuitBreaker.complete, CircuitBreaker.onSuccess]
        exact ⟨h.config, h.named, rfl, h.failed_at, by simp; omega, fun _ => rfl, nofun, nofun⟩
      | raises e =>
        simp only [CircuitBreaker.complete, CircuitBreaker.onFailure]
        exact ⟨h.config, h.named, rfl, rfl, by simp; omega, nofun, nofun, by simp⟩
      | cancelled => exact absurd rfl completes
    · have waiting : r.admits cfg now = false := by simp [Reference.admits, ht, ready, tripped]
      rw [CircuitBreaker.execute_waiting hs (by simp [CircuitBreaker.shouldAttemptReset, failed,
        h.config, ready])]
      refine ⟨?_, by simpa [Reference.serve, waiting] using h⟩
      simp [Reference.respond, Reference.remaining, waiting, ht, CircuitBreaker.openException,
        CircuitBreaker.getTimeUntilRetry, failed, h.config, h.named]
  | halfOpen => exact absurd hs h.settled

include positive room in
theorem run_abstracts {b : CircuitBreaker} {r : Reference} (pre : List (Request α ε))
    (h : Abstracts cfg name b r) (completes : ∀ q ∈ pre, q.Completes) :
    Abstracts cfg name (pre.foldl CircuitBreaker.serve b) (pre.foldl (Reference.serve cfg) r) := by
  induction pre generalizing b r with
  | nil => exact h
  | cons q qs ih =>
    have rest := fun q member => completes q (List.mem_cons_of_mem _ member)
    cases q with
    | call now reread later o =>
      have finished : o ≠ .cancelled := by
        rintro rfl; exact completes _ (List.mem_cons_self _ _)
      exact ih (execute_abstracts positive room h now reread later finished).2 rest
    | reset => exact ih (reset_abstracts positive h) rest

theorem serve_lastFailure {r : Reference} {q : Request α ε} {t : Int}
    (h : (r.serve cfg q).lastFailure = some t) : r.lastFailure = some t ∨ t ∈ q.times := by
  cases q with
  | call now reread later o =>
    simp only [Reference.serve] at h
    split_ifs at h
    · cases o <;> simp_all [Request.times]
    · exact .inl h
  | reset => simp [Reference.serve, Reference.start] at h

/-- The reference's failure time is a clock reading of the run. -/
theorem lastFailure_mem (pre : List (Request α ε)) {t : Int}
    (h : (pre.foldl (Reference.serve cfg) .start).lastFailure = some t) :
    t ∈ pre.flatMap Request.times := by
  induction pre using List.reverseRecOn generalizing t with
  | nil => simp [Reference.start] at h
  | append_singleton qs q ih =>
    rw [List.foldl_append, List.foldl_cons, List.foldl_nil] at h
    rw [List.flatMap_append, List.mem_append]
    exact (serve_lastFailure h).imp ih (by simpa using ·)

theorem Abstracts.open_iff {b : CircuitBreaker} {r : Reference} (h : Abstracts cfg name b r) :
    b.state = .open ↔ cfg.failureThreshold ≤ (r.failures : Int) := by
  cases hs : b.state with
  | closed =>
    have below := h.closed_iff.mp hs
    exact ⟨nofun, fun above => by omega⟩
  | «open» =>
    have above := mt h.closed_iff.mpr (by simp [hs])
    exact ⟨fun _ => by omega, fun _ => rfl⟩
  | halfOpen => exact absurd hs h.settled

theorem admits_iff {b : CircuitBreaker} {r : Reference} (h : Abstracts cfg name b r)
    (now : Int) : r.admits cfg now = true ↔ b.state = .closed ∨
      b.state = .open ∧ ∃ t, b.lastFailureTime = some t ∧ cfg.recoveryTimeout ≤ now - t := by
  cases hs : b.state with
  | closed => simp [Reference.admits, h.closed_iff.mp hs]
  | «open» =>
    have tripped : ¬(r.failures : Int) < cfg.failureThreshold := fun c => by
      simp [h.closed_iff.mpr c] at hs
    cases ht : r.lastFailure <;> simp [Reference.admits, tripped, h.failed_at, ht]
  | halfOpen => exact absurd hs h.settled

theorem respond_ok_iff {r : Reference} {now reread : Int} {o : Outcome α ε} :
    (∃ v, r.respond cfg name now reread o = .ok v) ↔ r.admits cfg now = true := by
  unfold Reference.respond
  split <;> simp_all

/-- A call the reference rejects finds the breaker OPEN with the recovery timeout not passed at
`now`, and carries what is left of it at `reread`, no later than the last failure. -/
theorem respond_rejected {b : CircuitBreaker} {r : Reference} (h : Abstracts cfg name b r)
    {now reread : Int} {o : Outcome α ε} {e : CircuitOpenException}
    (read : ∀ t, r.lastFailure = some t → t ≤ reread)
    (rejected : r.respond cfg name now reread o = .error e) :
    ∃ t, b.lastFailureTime = some t ∧ now - t < cfg.recoveryTimeout ∧
      e = ⟨name, if cfg.recoveryTimeout - (reread - t) ≤ 0 then none
        else some (cfg.recoveryTimeout - (reread - t))⟩ ∧
      ∀ left, e.timeUntilRetry = some left → 0 < left ∧ left ≤ cfg.recoveryTimeout := by
  unfold Reference.respond at rejected
  split at rejected
  · cases rejected
  next waiting =>
    have hs : b.state = .open := h.open_iff.mpr (by
      by_contra below
      exact waiting ((admits_iff h now).mpr (.inl (h.closed_iff.mpr (by omega)))))
    obtain ⟨t, ht⟩ := Option.ne_none_iff_exists'.mp (h.stamped hs)
    have early : ¬cfg.recoveryTimeout ≤ now - t := fun ready =>
      waiting ((admits_iff h now).mpr (.inr ⟨hs, t, h.failed_at.trans ht, ready⟩))
    have later := read t ht
    cases rejected
    refine ⟨t, h.failed_at.trans ht, by omega, by simp [Reference.remaining, ht],
      fun left hint => ?_⟩
    simp only [Reference.remaining, ht, Option.some_bind] at hint
    split at hint
    · cases hint
    · cases hint
      omega

include positive room in
/-- **Sequential `execute` refines the reference automaton.** For the call that follows
any sequential run from a fresh breaker (every call returning or raising, the clock never
going back): the caller sees what the reference answers; (i) `func` runs exactly when the
breaker is CLOSED, or OPEN with the recovery timeout passed at `now`; (ii) otherwise the
timeout had not passed at `now`, and the `CircuitOpenException` carries what is left of it
at the second reading `reread`, `recovery_timeout - (reread - last_failure_time)`, when that
is positive and `None` otherwise, so a time it carries is in `(0, recovery_timeout]`;
(iii) the breaker is OPEN afterwards exactly when the consecutive failures reached the
threshold or the call was an admitted recovery call that failed; (iv) a successful recovery
call leaves it CLOSED with a zero count; (v) the caller gets `func`'s outcome unchanged. -/
theorem execute_refines_reference (pre : List (Request α ε)) (now reread later : Int)
    (o : Outcome α ε) (completes : ∀ q ∈ pre ++ [.call now reread later o], q.Completes)
    (chronological :
      ((pre ++ [Request.call now reread later o]).flatMap Request.times).Pairwise (· ≤ ·)) :
    let b := pre.foldl CircuitBreaker.serve (CircuitBreaker.init name (some cfg))
    let r := pre.foldl (Reference.serve cfg) .start
    let b' := (b.execute now reread later o).1
    let result := (b.execute now reread later o).2
    result = r.respond cfg name now reread o ∧
    ((∃ v, result = .ok v) ↔ b.state = .closed ∨
      b.state = .open ∧ ∃ t, b.lastFailureTime = some t ∧ cfg.recoveryTimeout ≤ now - t) ∧
    (∀ e, result = .error e → ∃ t, b.lastFailureTime = some t ∧
      now - t < cfg.recoveryTimeout ∧
      e = ⟨name, if cfg.recoveryTimeout - (reread - t) ≤ 0 then none
        else some (cfg.recoveryTimeout - (reread - t))⟩ ∧
      ∀ left, e.timeUntilRetry = some left → 0 < left ∧ left ≤ cfg.recoveryTimeout) ∧
    (b'.state = .open ↔
      cfg.failureThreshold ≤ ((r.serve cfg (.call now reread later o)).failures : Int) ∨
        b.state = .open ∧ (∃ v, result = .ok v) ∧ ∃ e, o = .raises e) ∧
    (b.state = .open → (∃ v, result = .ok v) → (∃ v, o = .returns v) →
      b'.state = .closed ∧ b'.failureCount = 0) ∧
    (∀ v, result = .ok v → v = o) := by
  intro b r b' result
  have finished : o ≠ .cancelled := by
    rintro rfl; exact completes _ (List.mem_append_right _ (List.mem_singleton_self _))
  have h : Abstracts cfg name b r := run_abstracts positive room pre (start_abstracts positive)
    fun q member => completes q (List.mem_append_left _ member)
  have read : ∀ t, r.lastFailure = some t → t ≤ reread := fun t ht => by
    rw [List.flatMap_append, List.pairwise_append] at chronological
    exact chronological.2.2 t (lastFailure_mem pre ht) reread (by simp [Request.times])
  have answer : result = r.respond cfg name now reread o :=
    (execute_abstracts positive room h now reread later finished).1
  have h' : Abstracts cfg name b' (r.serve cfg (.call now reread later o)) :=
    (execute_abstracts positive room h now reread later finished).2
  refine ⟨answer, ?_, ?_, ?_, ?_, ?_⟩
  · rw [answer, respond_ok_iff, admits_iff h]
  · intro e rejected
    rw [answer] at rejected
    exact respond_rejected h read rejected
  · rw [h'.open_iff]
    refine ⟨.inl, ?_⟩
    rintro (reached | ⟨hs, admitted, e, rfl⟩)
    · exact reached
    · rw [answer, respond_ok_iff] at admitted
      have := h.open_iff.mp hs
      simp [Reference.serve, admitted]
      omega
  · rintro - admitted ⟨v, rfl⟩
    rw [answer, respond_ok_iff] at admitted
    have closed : b'.state = .closed :=
      h'.closed_iff.mpr (by simp [Reference.serve, admitted]; omega)
    exact ⟨closed, by simpa [Reference.serve, admitted] using h'.counted closed⟩
  · intro v ok
    rw [answer] at ok
    unfold Reference.respond at ok
    split at ok <;> cases ok
    rfl

/-- Three failed calls trip the default breaker; thirty seconds after the last one a call
that succeeds is the recovery call. -/
theorem recovery_call_refines_reference :
    let pre : List (Request String String) :=
      [.call 0 0 1 (.raises "timeout"), .call 2 2 3 (.raises "timeout"),
        .call 4 4 5 (.raises "timeout")]
    let o : Outcome String String := .returns "ok"
    let cfg : CircuitBreakerConfig := {}
    let b := pre.foldl CircuitBreaker.serve (CircuitBreaker.init "gemini_api" (some cfg))
    let r := pre.foldl (Reference.serve cfg) .start
    let b' := (b.execute 30000005 30000005 30000006 o).1
    let result := (b.execute 30000005 30000005 30000006 o).2
    (∀ q ∈ pre ++ [Request.call 30000005 30000005 30000006 o], q.Completes) ∧
    ((pre ++ [Request.call 30000005 30000005 30000006 o]).flatMap Request.times).Pairwise
      (· ≤ ·) ∧
    result = r.respond cfg "gemini_api" 30000005 30000005 o ∧
    ((∃ v, result = .ok v) ↔ b.state = .closed ∨
      b.state = .open ∧
        ∃ t, b.lastFailureTime = some t ∧ cfg.recoveryTimeout ≤ 30000005 - t) ∧
    (∀ e, result = .error e → ∃ t, b.lastFailureTime = some t ∧
      30000005 - t < cfg.recoveryTimeout ∧
      e = ⟨"gemini_api", if cfg.recoveryTimeout - (30000005 - t) ≤ 0 then none
        else some (cfg.recoveryTimeout - (30000005 - t))⟩ ∧
      ∀ left, e.timeUntilRetry = some left → 0 < left ∧ left ≤ cfg.recoveryTimeout) ∧
    (b'.state = .open ↔
      cfg.failureThreshold ≤
          ((r.serve cfg (.call 30000005 30000005 30000006 o)).failures : Int) ∨
        b.state = .open ∧ (∃ v, result = .ok v) ∧ ∃ e, o = .raises e) ∧
    (b.state = .open → (∃ v, result = .ok v) → (∃ v, o = .returns v) →
      b'.state = .closed ∧ b'.failureCount = 0) ∧
    (∀ v, result = .ok v → v = o) :=
  have completes : ∀ q ∈ [Request.call 0 0 1 (.raises "timeout"),
      .call 2 2 3 (.raises "timeout"), .call 4 4 5 (.raises "timeout"),
      Request.call 30000005 30000005 30000006 (Outcome.returns "ok")], q.Completes := by
    simp [Request.Completes]
  ⟨completes, by decide,
    execute_refines_reference (by decide) (by decide) _ _ _ _ _ completes (by decide)⟩

end Refinement

/-- A failure at `0` trips a breaker of threshold one. The next call reads `29999999` in
`_should_attempt_reset`, one microsecond before the recovery timeout runs out, and is turned
away; `_get_time_until_retry` then reads `30000000` and finds nothing left, so the exception
carries no retry time, not the one microsecond left at the first reading. -/
theorem rejection_between_readings :
    let pre : List (Request String String) := [.call 0 0 0 (.raises "timeout")]
    let cfg : CircuitBreakerConfig := { failureThreshold := 1 }
    let b := pre.foldl CircuitBreaker.serve (CircuitBreaker.init "gemini_api" (some cfg))
    ((pre ++ [Request.call 29999999 30000000 30000000 (.returns "ok")]).flatMap
      Request.times).Pairwise (· ≤ ·) ∧
    b.lastFailureTime = some 0 ∧ cfg.recoveryTimeout - (29999999 - 0) = 1 ∧
    b.execute 29999999 30000000 30000000 (.returns "ok" : Outcome String String) =
      (b, .error ⟨"gemini_api", none⟩) :=
  ⟨by decide, rfl, rfl, rfl⟩

end Runsheet.Resilience
