import Mathlib.Data.List.Basic

/-!
# The circuit breaker

`resilience/circuit_breaker.py` as a record and pure functions on it. A `datetime`
reading and a `timedelta` are both integers of microseconds. Every function that reads
`datetime.utcnow()` takes the reading as an argument. The first critical section of `execute`
reads the clock in `_should_attempt_reset` (`now`) and, when it turns the call away, again
in `_get_time_until_retry` (`reread`), so the two are separate readings.

`execute` awaits twice, so it is split where other callers can interleave: `admission` is
its first critical section and `complete` the second, entered with the way `func`
ended. `execute` composes the two for a caller that nothing interleaves with.
-/

namespace Runsheet.Resilience

/-- `CircuitState`. -/
inductive CircuitState where
  | closed
  | «open»
  | halfOpen
  deriving DecidableEq, Repr

/-- `CircuitBreakerConfig`, with its dataclass defaults (30 s is `30000000` µs). -/
structure CircuitBreakerConfig where
  failureThreshold : Int := 3
  recoveryTimeout : Int := 30000000
  halfOpenMaxCalls : Int := 1
  deriving DecidableEq, Repr

/-- `CircuitOpenException(circuit_name, time_until_retry)`. -/
structure CircuitOpenException where
  circuitName : String
  timeUntilRetry : Option Int
  deriving DecidableEq, Repr

structure CircuitBreaker where
  name : String
  config : CircuitBreakerConfig
  state : CircuitState
  failureCount : Int
  lastFailureTime : Option Int
  halfOpenCalls : Int
  deriving DecidableEq, Repr

/-- How the awaited `func` of an admitted call ended. `CancelledError` is a
`BaseException`, which `except Exception` in `execute` does not catch. -/
inductive Outcome (α ε : Type) where
  | returns (value : α)
  | raises (error : ε)
  | cancelled
  deriving DecidableEq, Repr

/-- The verdict of the first critical section of `execute`. -/
inductive Admission where
  | admitted
  | rejected (e : CircuitOpenException)
  deriving DecidableEq, Repr

namespace CircuitBreaker

/-- `CircuitBreaker.__init__`: a missing config is `CircuitBreakerConfig()`. -/
def init (name : String) (config : Option CircuitBreakerConfig) : CircuitBreaker :=
  { name, config := config.getD {}, state := .closed, failureCount := 0,
    lastFailureTime := none, halfOpenCalls := 0 }

def shouldAttemptReset (b : CircuitBreaker) (now : Int) : Bool :=
  match b.lastFailureTime with
  | none => true
  | some t => decide (b.config.recoveryTimeout ≤ now - t)

def getTimeUntilRetry (b : CircuitBreaker) (now : Int) : Option Int :=
  match b.lastFailureTime with
  | none => none
  | some t => if b.config.recoveryTimeout - (now - t) ≤ 0 then none
    else some (b.config.recoveryTimeout - (now - t))

/-- The exception `execute` raises when it rejects a call. -/
def openException (b : CircuitBreaker) (now : Int) : CircuitOpenException :=
  ⟨b.name, b.getTimeUntilRetry now⟩

def onSuccess (b : CircuitBreaker) : CircuitBreaker :=
  match b.state with
  | .halfOpen => { b with state := .closed, failureCount := 0, halfOpenCalls := 0 }
  | .closed => { b with failureCount := 0 }
  | .open => b

def onFailure (b : CircuitBreaker) (now : Int) : CircuitBreaker :=
  match b.state with
  | .halfOpen => { b with lastFailureTime := some now, state := .open, halfOpenCalls := 0 }
  | .closed =>
    if b.config.failureThreshold ≤ b.failureCount + 1 then
      { b with lastFailureTime := some now, failureCount := b.failureCount + 1, state := .open }
    else { b with lastFailureTime := some now, failureCount := b.failureCount + 1 }
  | .open => { b with lastFailureTime := some now }

def reset (b : CircuitBreaker) : CircuitBreaker :=
  { b with state := .closed, failureCount := 0, lastFailureTime := none, halfOpenCalls := 0 }

/-- The half-open call limit: the second `if` of the first critical section. A rejection
reads the clock at `reread`. -/
def limitHalfOpen (b : CircuitBreaker) (reread : Int) : CircuitBreaker × Admission :=
  if b.state = .halfOpen then
    if b.config.halfOpenMaxCalls ≤ b.halfOpenCalls then (b, .rejected (b.openException reread))
    else ({ b with halfOpenCalls := b.halfOpenCalls + 1 }, .admitted)
  else (b, .admitted)

/-- The first critical section of `execute`, under `_lock`: `_should_attempt_reset` reads
the clock at `now`, and `_get_time_until_retry` of a rejection at `reread`. -/
def admission (b : CircuitBreaker) (now reread : Int) : CircuitBreaker × Admission :=
  if b.state = .open then
    if b.shouldAttemptReset now then
      limitHalfOpen { b with state := .halfOpen, halfOpenCalls := 0 } reread
    else (b, .rejected (b.openException reread))
  else limitHalfOpen b reread

/-- The second critical section of `execute`, after `func` ended with `outcome`. A
cancelled `func` skips it. -/
def complete {α ε : Type} (b : CircuitBreaker) (now : Int) : Outcome α ε → CircuitBreaker
  | .returns _ => b.onSuccess
  | .raises _ => b.onFailure now
  | .cancelled => b

/-- `execute` for a caller that no other call interleaves with: admission with the readings
`now` and `reread`, completion at `later`. The result is the exception of a rejection or what
`func` did, re-raised unchanged. -/
def execute {α ε : Type} (b : CircuitBreaker) (now reread later : Int) (outcome : Outcome α ε) :
    CircuitBreaker × Except CircuitOpenException (Outcome α ε) :=
  match b.admission now reread with
  | (b, .rejected e) => (b, .error e)
  | (b, .admitted) => (b.complete later outcome, .ok outcome)

/-! ### The admission, by state -/

variable {b : CircuitBreaker} {now reread : Int}

theorem admission_closed (closed : b.state = .closed) :
    b.admission now reread = (b, .admitted) := by
  simp [admission, limitHalfOpen, closed]

theorem admission_ready (opened : b.state = .open) (ready : b.shouldAttemptReset now = true)
    (room : 0 < b.config.halfOpenMaxCalls) :
    b.admission now reread =
      ({ b with state := .halfOpen, halfOpenCalls := 1 }, .admitted) := by
  simp [admission, limitHalfOpen, opened, ready, Int.not_le.mpr room]

theorem admission_waiting (opened : b.state = .open) (waiting : b.shouldAttemptReset now = false) :
    b.admission now reread = (b, .rejected (b.openException reread)) := by
  simp [admission, opened, waiting]

theorem execute_closed {α ε : Type} {later : Int} {o : Outcome α ε}
    (closed : b.state = .closed) : b.execute now reread later o = (b.complete later o, .ok o) := by
  simp [execute, admission_closed closed]

theorem execute_ready {α ε : Type} {later : Int} {o : Outcome α ε} (opened : b.state = .open)
    (ready : b.shouldAttemptReset now = true) (room : 0 < b.config.halfOpenMaxCalls) :
    b.execute now reread later o =
      (({ b with state := .halfOpen, halfOpenCalls := 1 } : CircuitBreaker).complete later o,
        .ok o) := by
  simp [execute, admission_ready opened ready room]

theorem execute_waiting {α ε : Type} {later : Int} {o : Outcome α ε} (opened : b.state = .open)
    (waiting : b.shouldAttemptReset now = false) :
    b.execute now reread later o = (b, .error (b.openException reread)) := by
  simp [execute, admission_waiting opened waiting]

/-! ### Frame lemmas -/

@[simp] theorem onSuccess_config (b : CircuitBreaker) : b.onSuccess.config = b.config := by
  unfold onSuccess; split <;> rfl

@[simp] theorem onSuccess_name (b : CircuitBreaker) : b.onSuccess.name = b.name := by
  unfold onSuccess; split <;> rfl

@[simp] theorem onFailure_config (b : CircuitBreaker) (now : Int) :
    (b.onFailure now).config = b.config := by
  unfold onFailure; split <;> (try split) <;> rfl

@[simp] theorem onFailure_name (b : CircuitBreaker) (now : Int) :
    (b.onFailure now).name = b.name := by
  unfold onFailure; split <;> (try split) <;> rfl

@[simp] theorem onFailure_lastFailureTime (b : CircuitBreaker) (now : Int) :
    (b.onFailure now).lastFailureTime = some now := by
  unfold onFailure; split <;> (try split) <;> rfl

@[simp] theorem reset_config (b : CircuitBreaker) : b.reset.config = b.config := rfl

@[simp] theorem reset_name (b : CircuitBreaker) : b.reset.name = b.name := rfl

@[simp] theorem limitHalfOpen_config (b : CircuitBreaker) (now : Int) :
    (b.limitHalfOpen now).1.config = b.config := by
  unfold limitHalfOpen; split_ifs <;> rfl

@[simp] theorem limitHalfOpen_name (b : CircuitBreaker) (now : Int) :
    (b.limitHalfOpen now).1.name = b.name := by
  unfold limitHalfOpen; split_ifs <;> rfl

@[simp] theorem admission_config (b : CircuitBreaker) (now reread : Int) :
    (b.admission now reread).1.config = b.config := by
  unfold admission; split_ifs <;> simp only [limitHalfOpen_config]

@[simp] theorem admission_name (b : CircuitBreaker) (now reread : Int) :
    (b.admission now reread).1.name = b.name := by
  unfold admission; split_ifs <;> simp only [limitHalfOpen_name]

@[simp] theorem complete_config {α ε : Type} (b : CircuitBreaker) (now : Int)
    (outcome : Outcome α ε) : (b.complete now outcome).config = b.config := by
  cases outcome <;> simp [complete]

@[simp] theorem complete_name {α ε : Type} (b : CircuitBreaker) (now : Int)
    (outcome : Outcome α ε) : (b.complete now outcome).name = b.name := by
  cases outcome <;> simp [complete]

/-! ### What the hooks can do to the state -/

theorem onSuccess_of_open (opened : b.state = .open) : b.onSuccess = b := by
  simp [onSuccess, opened]

theorem onFailure_state_of_open (now : Int) (opened : b.state = .open) :
    (b.onFailure now).state = .open := by
  simp [onFailure, opened]

theorem onSuccess_ne_halfOpen (h : b.state ≠ .halfOpen) : b.onSuccess.state ≠ .halfOpen := by
  unfold onSuccess
  split <;> simp_all

theorem onFailure_ne_halfOpen (now : Int) : (b.onFailure now).state ≠ .halfOpen := by
  unfold onFailure
  split <;> (try split) <;> simp_all

end CircuitBreaker

end Runsheet.Resilience
