import AiEnterpriseOs.Library.Outcome
import AiEnterpriseOs.Runtime.Supervision

/-!
# Protected starts

An engine with a circuit breaker is started through it. The breaker counts the
exceptions that the call lets through; the start of an engine catches those of
the engine's own `start()`. The states of the engines are persisted without an
exception.
-/

namespace AiEnterpriseOs.Runtime

open Library

inductive BreakerState where
  | closed
  | opened
  | halfOpen
  deriving DecidableEq

/-- Times are in microseconds. -/
structure CircuitBreaker where
  componentName : String
  timeoutSeconds : Nat := 60
  failureCount : Nat := 0
  lastFailureTime : Option Int := none
  state : BreakerState := .closed
  successThreshold : Nat := 3

namespace CircuitBreaker

def timeout (breaker : CircuitBreaker) : Int := breaker.timeoutSeconds * 1000000

def onSuccess (breaker : CircuitBreaker) : CircuitBreaker :=
  match breaker.state with
  | .halfOpen => { breaker with failureCount := 0, state := .closed }
  | .closed => { breaker with failureCount := 0 }
  | .opened => breaker

def onFailure (breaker : CircuitBreaker) (now : Int) : CircuitBreaker :=
  let failureCount := breaker.failureCount + 1
  { breaker with
    failureCount := failureCount
    lastFailureTime := some now
    state := if breaker.successThreshold ≤ failureCount then .opened else breaker.state }

def canReconnect (breaker : CircuitBreaker) (now : Int) : Bool :=
  if breaker.state ≠ .opened then true
  else
    match breaker.lastFailureTime with
    | none => false
    | some failure => breaker.timeout < now - failure

/-- The breaker as the call finds it; `none` is the `CircuitBreakerOpenError`. -/
def admitted (breaker : CircuitBreaker) (now : Int) : Option CircuitBreaker :=
  if breaker.state = .opened then
    if breaker.canReconnect now then some { breaker with state := .halfOpen } else none
  else some breaker

/-- `call` on a function that changes a state: the breaker, and what became of the
function if it was called. -/
def call {State : Type} (breaker : CircuitBreaker) (begins ends : Int)
    (func : State → Outcome State) (state : State) : CircuitBreaker × Option (Outcome State) :=
  match breaker.admitted begins with
  | none => (breaker, none)
  | some breaker =>
    let outcome := func state
    if outcome.returned then (breaker.onSuccess, some outcome)
    else (breaker.onFailure ends, some outcome)

end CircuitBreaker

/-- What `_start_engine` sees of the engine's `start`. -/
structure StartMethod where
  callable : Bool
  /-- Whether `inspect.signature` finds its signature. -/
  inspectable : Bool
  requiresParams : Bool

/-- A protected start: when it begins and ends, and whether the engine's `start()`
raises in it. -/
structure StartAttempt where
  begins : Int
  ends : Int
  raises : Option String

structure ProtectedEngine where
  name : String
  startMethod : StartMethod
  breaker : CircuitBreaker
  status : EngineStateStatus
  health : HealthStatus
  message : String
  /-- The calls of the engine's `start()`. -/
  starts : List StartAttempt

namespace ProtectedEngine

/-- `register_engine_with_circuit_breaker`. -/
def registered (name : String) (startMethod : StartMethod) : ProtectedEngine where
  name := name
  startMethod := startMethod
  breaker := { componentName := name }
  status := .registered
  health := .healthy
  message := ""
  starts := []

def mark (engine : ProtectedEngine) (status : EngineStateStatus) (health : HealthStatus)
    (message : String) : ProtectedEngine :=
  { engine with
    status := status
    health := health
    message := if message = "" then engine.message else message }

/-- `_start_engine`; the exceptions of `start()` and of `inspect.signature` end here. -/
def startEngine (attempt : StartAttempt) (engine : ProtectedEngine) : Outcome ProtectedEngine :=
  if engine.name = "event_bus" then .returning engine
  else if engine.startMethod.callable = false then
    .returning (engine.mark .running .healthy "")
  else if engine.startMethod.inspectable = false then
    .returning (engine.mark .degraded .degraded "no signature found")
  else if engine.startMethod.requiresParams then
    .returning (engine.mark .running .healthy "")
  else
    let engine := { engine with starts := engine.starts ++ [attempt] }
    match attempt.raises with
    | none => .returning (engine.mark .running .healthy "")
    | some message => .returning (engine.mark .degraded .degraded message)

/-- `_start_engine_with_protection`. -/
def startWithProtection (engine : ProtectedEngine) (attempt : StartAttempt) :
    ProtectedEngine :=
  match engine.breaker.call attempt.begins attempt.ends (startEngine attempt) engine with
  | (breaker, some outcome) => { outcome.state with breaker := breaker }
  | (breaker, none) =>
    ({ engine with breaker := breaker }).mark .failed .unhealthy "Circuit breaker is open"

/-- The engine's `start()` is called by a start of the engine. -/
def CallsStart (name : String) (startMethod : StartMethod) : Prop :=
  name ≠ "event_bus" ∧ startMethod.callable = true ∧ startMethod.inspectable = true ∧
    startMethod.requiresParams = false

instance (name : String) (startMethod : StartMethod) : Decidable (CallsStart name startMethod) :=
  inferInstanceAs (Decidable (_ ∧ _))

end ProtectedEngine

/-- The time since the last failure in which `start()` must not be called again, after
that many failures in a row: up to the timeout and with it after three of them, up to the
timeout after one more. -/
def Blocked (timeout : Int) (failures : Nat) (elapsed : Int) : Prop :=
  (failures = 3 ∧ elapsed ≤ timeout) ∨ (3 < failures ∧ elapsed < timeout)

/-- No start of the list falls into a time that is blocked by those before. -/
def SafeStarts (timeout : Int) : Nat → Int → List StartAttempt → Prop
  | _, _, [] => True
  | failures, last, attempt :: rest =>
    ¬Blocked timeout failures (attempt.begins - last) ∧
      if attempt.raises.isSome then SafeStarts timeout (failures + 1) attempt.ends rest
      else SafeStarts timeout 0 last rest

namespace ProtectedEngine

/-- A breaker that has counted no failure. -/
def Fresh (breaker : CircuitBreaker) : Prop :=
  breaker.state = .closed ∧ breaker.failureCount = 0

theorem fresh_success {breaker : CircuitBreaker} (fresh : Fresh breaker) :
    breaker.onSuccess = breaker := by
  obtain ⟨component, timeout, count, failure, state, threshold⟩ := breaker
  obtain ⟨closed, none⟩ := fresh
  dsimp only at closed none
  rw [closed, none]
  rfl

theorem start_engine_returned (attempt : StartAttempt) (engine : ProtectedEngine) :
    (startEngine attempt engine).returned = true := by
  unfold startEngine
  split_ifs
  · rfl
  · rfl
  · rfl
  · rfl
  · dsimp only
    split
    · rfl
    · rfl

theorem start_with_protection_fresh {engine : ProtectedEngine} (fresh : Fresh engine.breaker)
    (attempt : StartAttempt) :
    engine.startWithProtection attempt =
      { (startEngine attempt engine).state with breaker := engine.breaker } := by
  have admitted : engine.breaker.admitted attempt.begins = some engine.breaker := by
    rw [CircuitBreaker.admitted, fresh.1, if_neg nofun]
  unfold startWithProtection CircuitBreaker.call
  rw [admitted]
  dsimp only
  rw [if_pos (start_engine_returned attempt engine), fresh_success fresh]

theorem start_engine_frame (attempt : StartAttempt) (engine : ProtectedEngine) :
    (startEngine attempt engine).state.name = engine.name ∧
      (startEngine attempt engine).state.startMethod = engine.startMethod := by
  unfold startEngine
  split_ifs
  · exact ⟨rfl, rfl⟩
  · exact ⟨rfl, rfl⟩
  · exact ⟨rfl, rfl⟩
  · exact ⟨rfl, rfl⟩
  · dsimp only
    split
    · exact ⟨rfl, rfl⟩
    · exact ⟨rfl, rfl⟩

theorem start_engine_starts (attempt : StartAttempt) (engine : ProtectedEngine) :
    (startEngine attempt engine).state.starts =
      if CallsStart engine.name engine.startMethod then engine.starts ++ [attempt]
      else engine.starts := by
  unfold startEngine
  by_cases bus : engine.name = "event_bus"
  · rw [if_pos bus, if_neg fun calls => calls.1 bus]
    rfl
  rw [if_neg bus]
  by_cases uncallable : engine.startMethod.callable = false
  · rw [if_pos uncallable, if_neg fun calls => Bool.eq_false_iff.mp uncallable calls.2.1]
    rfl
  rw [if_neg uncallable]
  by_cases uninspectable : engine.startMethod.inspectable = false
  · rw [if_pos uninspectable, if_neg fun calls => Bool.eq_false_iff.mp uninspectable calls.2.2.1]
    rfl
  rw [if_neg uninspectable]
  by_cases required : engine.startMethod.requiresParams = true
  · rw [if_pos required, if_neg fun calls => Bool.eq_false_iff.mp calls.2.2.2 required]
    rfl
  · have calls : CallsStart engine.name engine.startMethod :=
      ⟨bus, Bool.of_not_eq_false uncallable, Bool.of_not_eq_false uninspectable,
        Bool.of_not_eq_true required⟩
    rw [if_neg required, if_pos calls]
    dsimp only
    split
    · rfl
    · rfl

/-- Every protected start reaches the engine: the breaker never opens. -/
theorem run_starts (attempts : List StartAttempt) (engine : ProtectedEngine)
    (fresh : Fresh engine.breaker) :
    (attempts.foldl startWithProtection engine).starts =
      if CallsStart engine.name engine.startMethod then engine.starts ++ attempts
      else engine.starts := by
  induction attempts generalizing engine with
  | nil => simp
  | cons attempt rest ih =>
    obtain ⟨name, startMethod⟩ := start_engine_frame attempt engine
    have next := start_with_protection_fresh fresh attempt
    rw [List.foldl_cons, ih _ (by rw [next]; exact fresh), next]
    dsimp only
    rw [name, startMethod, start_engine_starts]
    split_ifs
    · rw [List.append_assoc, List.singleton_append]
    · rfl

/-- Over every sequence of protected starts, `start()` is kept from being called after three
failures exactly when it is never called at all or the sequence itself leaves the time. -/
theorem protected_starts_safe_iff (name : String) (startMethod : StartMethod)
    (attempts : List StartAttempt) :
    SafeStarts (registered name startMethod).breaker.timeout 0 0
        (attempts.foldl startWithProtection (registered name startMethod)).starts ↔
      (CallsStart name startMethod →
        SafeStarts (registered name startMethod).breaker.timeout 0 0 attempts) := by
  rw [run_starts attempts (registered name startMethod) ⟨rfl, rfl⟩]
  change SafeStarts _ 0 0 (if CallsStart name startMethod then [] ++ attempts else []) ↔ _
  split_ifs with calls
  · exact ⟨fun safe _ => safe, fun safe => safe calls⟩
  · exact iff_of_true trivial fun other => absurd other calls

def failingStart (seconds : Int) : StartAttempt where
  begins := seconds * 1000000
  ends := seconds * 1000000
  raises := some "no connection"

/-- Four starts of an engine within three seconds, each of which raises. -/
theorem fourth_start_is_called :
    let attempts := [failingStart 0, failingStart 1, failingStart 2, failingStart 3]
    let engine := attempts.foldl startWithProtection
      (registered "memory" { callable := true, inspectable := true, requiresParams := false })
    engine.starts.length = 4 ∧ engine.breaker.state = .closed ∧
      ¬SafeStarts engine.breaker.timeout 0 0 engine.starts := by
  refine ⟨rfl, rfl, ?_⟩
  rintro ⟨_, _, _, blocked, _⟩
  exact blocked (.inl ⟨rfl, by decide⟩)

end ProtectedEngine

end AiEnterpriseOs.Runtime
