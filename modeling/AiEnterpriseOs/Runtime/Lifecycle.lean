import Mathlib.Data.List.Basic

/-!
# Runtime lifecycle

The phases of the runtime and the moves between them.
-/

namespace AiEnterpriseOs.Runtime

inductive RuntimePhase where
  | stopped
  | starting
  | running
  | degraded
  | recovering
  | stopping
  | failed
  deriving DecidableEq

def runtimeTransitions : RuntimePhase → List RuntimePhase
  | .stopped => [.starting]
  | .starting => [.running, .failed, .stopping]
  | .running => [.degraded, .recovering, .stopping, .failed]
  | .degraded => [.running, .recovering, .stopping, .failed]
  | .recovering => [.running, .degraded, .stopping]
  | .stopping => [.stopped, .failed]
  | .failed => [.starting, .stopped]

namespace RuntimePhase

def canTransition (phase newPhase : RuntimePhase) : Bool :=
  newPhase ∈ runtimeTransitions phase

/-- `none` is the `InvalidRuntimeTransitionError`. -/
def transition (phase newPhase : RuntimePhase) : Option RuntimePhase :=
  if newPhase = phase then some phase
  else if phase.canTransition newPhase then some newPhase
  else none

def isActive (phase : RuntimePhase) : Bool :=
  phase ∈ [starting, running, degraded, recovering, stopping]

end RuntimePhase

end AiEnterpriseOs.Runtime
