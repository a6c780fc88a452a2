import AiEnterpriseOs.Runtime.DependencyGraph
import AiEnterpriseOs.Runtime.Heartbeat
import Mathlib.Data.Finset.Basic

/-!
# Supervision of the runtime

The tables of the runtime that a registration or a failure touches: the engines
with their states, their dependency graph, both monitors, the recovery manager
and the supervisor. What the components themselves do, raise and report is
`Outside`.
-/

namespace AiEnterpriseOs.Runtime

open Library

inductive EngineStateStatus where
  | registered
  | starting
  | running
  | degraded
  | failed
  | stopping
  | stopped
  deriving DecidableEq

inductive HealthStatus where
  | healthy
  | degraded
  | unhealthy
  deriving DecidableEq

def HealthStatus.value : HealthStatus → String
  | healthy => "healthy"
  | degraded => "degraded"
  | unhealthy => "unhealthy"

structure EngineState where
  name : String
  status : EngineStateStatus
  health : HealthStatus
  message : String

structure RecoveryPolicy where
  name : String
  enabled : Bool
  maxAttempts : Option Nat
  actions : List String

structure RecoveryResult where
  component : String
  success : Bool
  actionsTaken : List String
  attempts : Nat
  message : String
  deriving DecidableEq

/-- The factory that `register_engine` leaves, or a caller's own. -/
inductive RestartFactory where
  | engine
  | other
  deriving DecidableEq

structure RecoveryManager where
  defaultMaxAttempts : Int
  /-- Whether an event bus was given. -/
  eventBus : Bool
  policies : OrderedDict String RecoveryPolicy
  factories : OrderedDict String RestartFactory
  attempts : OrderedDict String Nat
  results : OrderedDict String (List RecoveryResult)

/-- An entry of `engines` with its entry of `_engine_states`; the two tables
have the same keys. -/
structure RegisteredEngine (Instance : Type) where
  engine : Instance
  state : EngineState

structure RuntimeEngine (Instance : Type) where
  engines : OrderedDict String (RegisteredEngine Instance)
  dependencyGraph : RuntimeDependencyGraph
  healthMonitor : OrderedDict String Instance
  heartbeats : HeartbeatManager
  recovery : RecoveryManager
  /-- The names the process manager knows. -/
  processes : Finset String
  isolated : Finset String
  clock : Int
  /-- The components that were restarted, in order. -/
  restarted : List String

/-- What the code outside the runtime does: whether its part of a recovery
action raises in an attempt, and what its health probes report. -/
structure Outside where
  raises : String → Nat → String → Bool
  probe : String → HealthStatus
  system : HealthStatus

/-- Nothing raises, and every probe finds its component healthy. -/
def Outside.quiet : Outside :=
  { raises := fun _ _ _ => false, probe := fun _ => .healthy, system := .healthy }

/-- The policies of `recovery.yaml`. -/
def shippedPolicies : OrderedDict String RecoveryPolicy :=
  let engine : RecoveryPolicy :=
    { name := "engine"
      enabled := true
      maxAttempts := some 3
      actions := ["restart", "reload_state", "isolate"] }
  let process : RecoveryPolicy :=
    { name := "process"
      enabled := true
      maxAttempts := some 2
      actions := ["restart", "isolate"] }
  (OrderedDict.empty.set "engine" engine).set "process" process

/-- `pattern.endswith("*") and component.startswith(pattern[:-1])`. -/
def wildcardCovers (pattern component : String) : Bool :=
  match pattern.toList.reverse with
  | '*' :: front => front.reverse.isPrefixOf component.toList
  | _ => false

namespace RuntimeEngine

variable {Instance : Type}

section Registry

/-- A runtime without engines, with the settings that supervision reads. -/
def created (timeoutSeconds missedThreshold defaultMaxAttempts : Int)
    (onFailure eventBus : Bool) (policies : OrderedDict String RecoveryPolicy) :
    RuntimeEngine Instance :=
  { engines := OrderedDict.empty
    dependencyGraph := RuntimeDependencyGraph.created
    healthMonitor := OrderedDict.empty
    heartbeats :=
      { intervalSeconds := 5
        timeoutSeconds := timeoutSeconds
        missedThreshold := missedThreshold
        onFailure := onFailure
        heartbeats := OrderedDict.empty
        consecutiveMisses := OrderedDict.empty }
    recovery :=
      { defaultMaxAttempts := defaultMaxAttempts
        eventBus := eventBus
        policies := policies
        factories := OrderedDict.empty
        attempts := OrderedDict.empty
        results := OrderedDict.empty }
    processes := ∅
    isolated := ∅
    clock := 0
    restarted := [] }

def markEngineStatus (runtime : RuntimeEngine Instance) (name : String)
    (status : EngineStateStatus) (health : HealthStatus) (message : String) :
    RuntimeEngine Instance :=
  { runtime with
    engines := runtime.engines.modify name fun entry =>
      { entry with
        state :=
          { entry.state with
            status := status
            health := health
            message := if message = "" then entry.state.message else message } } }

def unregisterEngine (runtime : RuntimeEngine Instance) (name : String) :
    RuntimeEngine Instance :=
  match runtime.engines.get? name with
  | none => runtime
  | some _ =>
    { runtime with
      engines := runtime.engines.erase name
      dependencyGraph := runtime.dependencyGraph.removeComponent name
      healthMonitor := runtime.healthMonitor.erase name
      heartbeats := runtime.heartbeats.unregister name }

def registerEngine (runtime : RuntimeEngine Instance) (name : String) (engine : Instance) :
    RuntimeEngine Instance :=
  let runtime := runtime.unregisterEngine name
  let state : EngineState :=
    { name := name, status := .registered, health := .healthy, message := "" }
  { runtime with
    engines := runtime.engines.set name { engine := engine, state := state }
    dependencyGraph := runtime.dependencyGraph.addComponent name []
    healthMonitor := runtime.healthMonitor.set name engine
    heartbeats := (runtime.heartbeats.register name runtime.clock).1
    recovery :=
      { runtime.recovery with factories := runtime.recovery.factories.set name .engine } }

def addDependency (runtime : RuntimeEngine Instance) (component dependsOn : String) :
    RuntimeEngine Instance :=
  { runtime with
    dependencyGraph := runtime.dependencyGraph.addDependency component dependsOn }

def beat (runtime : RuntimeEngine Instance) (component : String) : RuntimeEngine Instance :=
  { runtime with heartbeats := runtime.heartbeats.beat component runtime.clock }

end Registry

section Recovery

def policyFor (runtime : RuntimeEngine Instance) (component : String) : Option RecoveryPolicy :=
  let policies := runtime.recovery.policies
  match policies.get? component with
  | some policy => some policy
  | none =>
    match policies.entries.find? fun entry => wildcardCovers entry.1 component with
    | some entry => some entry.2
    | none =>
      if (runtime.engines.get? component).isSome then policies.get? "engine"
      else if component ∈ runtime.processes then policies.get? "process"
      else none

variable (outside : Outside)

/-- `none` where the action raises. An engine's own `restart()` may raise; that
is caught before the beat. -/
def restart (runtime : RuntimeEngine Instance) (component : String) (attempts : Nat) :
    Option (RuntimeEngine Instance) :=
  let log := runtime.restarted ++ [component]
  if component ∈ runtime.processes then
    if outside.raises component attempts "restart" then none
    else some { runtime with restarted := log }
  else
    match runtime.recovery.factories.get? component with
    | some .engine =>
      if (runtime.engines.get? component).isSome then
        some { runtime.beat component with restarted := log }
      else none
    | some .other =>
      if outside.raises component attempts "restart" then none
      else some { runtime with restarted := log }
    | none => none

def takeAction (runtime : RuntimeEngine Instance) (component : String) (attempts : Nat)
    (action : String) : Option (RuntimeEngine Instance) :=
  if action = "restart" then runtime.restart outside component attempts
  else if action = "reload_state" then none
  else if action = "isolate" then
    if component ∈ runtime.processes ∧ outside.raises component attempts "isolate" = false then
      some runtime
    else none
  else if action = "escalate" then if runtime.recovery.eventBus then some runtime else none
  else none

/-- The runtime after the actions, and those that were taken. -/
def execute (component : String) (attempts : Nat) :
    List String → RuntimeEngine Instance → RuntimeEngine Instance × List String
  | [], runtime => (runtime, [])
  | action :: rest, runtime =>
    match runtime.takeAction outside component attempts action with
    | none => execute component attempts rest runtime
    | some runtime =>
      if action ≠ "escalate" then (runtime, [action])
      else
        let (runtime, taken) := execute component attempts rest runtime
        (runtime, action :: taken)

def maxAttempts (runtime : RuntimeEngine Instance) (policy : RecoveryPolicy) : Int :=
  match policy.maxAttempts with
  | some attempts => attempts
  | none => runtime.recovery.defaultMaxAttempts

def refusal (component : String) (attempts : Nat) (message : String) : RecoveryResult :=
  { component := component
    success := false
    actionsTaken := []
    attempts := attempts
    message := message }

/-- The result of `_execute` for the actions taken. -/
def executed (component : String) (policy : RecoveryPolicy) (attempts : Nat)
    (taken : List String) : RecoveryResult :=
  if taken ≠ [] then
    { component := component
      success := true
      actionsTaken := taken
      attempts := attempts
      message := "Recovery succeeded via: " ++ ", ".intercalate taken }
  else
    refusal component attempts ("All recovery actions failed for " ++ component ++ ": " ++
      ", ".intercalate policy.actions)

/-- The part of `recover` between the counting of the attempt and the filing of
the result. -/
def attemptRecovery (runtime : RuntimeEngine Instance) (component : String) (attempts : Nat) :
    RuntimeEngine Instance × RecoveryResult :=
  match runtime.policyFor component with
  | none => (runtime, refusal component attempts "No enabled recovery policy configured")
  | some policy =>
    if policy.enabled = false then
      (runtime, refusal component attempts "No enabled recovery policy configured")
    else if runtime.maxAttempts policy < attempts then
      (runtime, refusal component attempts
        ("Max attempts (" ++ toString (runtime.maxAttempts policy) ++
          ") exceeded; actions attempted: " ++ ", ".intercalate policy.actions))
    else
      let (runtime, taken) := execute outside component attempts policy.actions runtime
      (runtime, executed component policy attempts taken)

def countAttempt (runtime : RuntimeEngine Instance) (component : String) (attempts : Nat) :
    RuntimeEngine Instance :=
  { runtime with
    recovery :=
      { runtime.recovery with attempts := runtime.recovery.attempts.set component attempts } }

def fileResult (runtime : RuntimeEngine Instance) (component : String)
    (result : RecoveryResult) : RuntimeEngine Instance :=
  let results := runtime.recovery.results
  { runtime with
    recovery :=
      { runtime.recovery with
        results := results.set component (results.getD component [] ++ [result]) } }

/-- `RecoveryManager.recover`. -/
def recover (runtime : RuntimeEngine Instance) (component : String) :
    RuntimeEngine Instance × RecoveryResult :=
  let attempts := runtime.recovery.attempts.getD component 0 + 1
  let (runtime, result) :=
    (runtime.countAttempt component attempts).attemptRecovery outside component attempts
  (runtime.fileResult component result, result)

end Recovery

section Supervisor

/-- `Supervisor.isolate`. -/
def isolate (runtime : RuntimeEngine Instance) (component : String) : RuntimeEngine Instance :=
  { runtime with
    isolated := insert component runtime.isolated
    heartbeats := runtime.heartbeats.unregister component
    healthMonitor := runtime.healthMonitor.erase component }

def unisolate (runtime : RuntimeEngine Instance) (component : String) :
    RuntimeEngine Instance :=
  { runtime with
    isolated := runtime.isolated.erase component
    recovery :=
      { runtime.recovery with attempts := runtime.recovery.attempts.set component 0 } }

def onEngineFailed (runtime : RuntimeEngine Instance) (name reason : String)
    (result : RecoveryResult) : RuntimeEngine Instance :=
  if result.success then
    let actions := ", ".intercalate result.actionsTaken
    runtime.markEngineStatus name .running .healthy
      ("recovered via " ++ if actions = "" then "none" else actions)
  else runtime.markEngineStatus name .failed .unhealthy reason

/-- A recovery after which the supervisor isolates the component. -/
def Isolates (result : RecoveryResult) : Prop :=
  result.success = false ∨ "isolate" ∈ result.actionsTaken

instance (result : RecoveryResult) : Decidable (Isolates result) :=
  inferInstanceAs (Decidable (_ ∨ _))

variable (outside : Outside)

/-- `Supervisor.on_failure`. -/
def onFailure (runtime : RuntimeEngine Instance) (component reason : String) :
    RuntimeEngine Instance :=
  if component ∈ runtime.isolated then runtime
  else
    let (runtime, result) := runtime.recover outside component
    let runtime := if Isolates result then runtime.isolate component else runtime
    runtime.onEngineFailed component reason result

def setMisses (runtime : RuntimeEngine Instance) (component : String) (misses : Nat) :
    RuntimeEngine Instance :=
  { runtime with heartbeats := runtime.heartbeats.setMisses component misses }

/-- One component in `HeartbeatManager.check`. -/
def checkComponent (now : Int) (pass : RuntimeEngine Instance × List String)
    (component : String) : RuntimeEngine Instance × List String :=
  let (runtime, failures) := pass
  if runtime.heartbeats.isStale component now then
    let misses := runtime.heartbeats.consecutiveMisses.getD component 0 + 1
    let runtime := runtime.setMisses component misses
    if runtime.heartbeats.missedThreshold ≤ (misses : Int) then
      let runtime :=
        if runtime.heartbeats.onFailure then
          runtime.onFailure outside component "heartbeat_timeout"
        else runtime
      (runtime.setMisses component 0, failures ++ [component])
    else (runtime, failures)
  else (runtime.setMisses component 0, failures)

/-- `HeartbeatManager.check` with the components it declares failed. -/
def heartbeatCheck (runtime : RuntimeEngine Instance) (now : Int) :
    RuntimeEngine Instance × List String :=
  runtime.heartbeats.heartbeats.keys.foldl (checkComponent outside now) (runtime, [])

/-- `check_all`: the checks of the components and of the system. -/
def checkAll (runtime : RuntimeEngine Instance) : List (String × HealthStatus) :=
  runtime.healthMonitor.keys.map (fun name => (name, outside.probe name)) ++
    [("system", outside.system)]

def HealthProblem (check : String × HealthStatus) : Prop :=
  check.2 = .unhealthy ∨ check.2 = .degraded

instance (check : String × HealthStatus) : Decidable (HealthProblem check) :=
  inferInstanceAs (Decidable (_ ∨ _))

def healthProblems (runtime : RuntimeEngine Instance) : List (String × HealthStatus) :=
  (runtime.checkAll outside).filter fun check => HealthProblem check

/-- `Supervisor.check_once` with the components it returns. -/
def checkOnce (runtime : RuntimeEngine Instance) (now : Int) :
    RuntimeEngine Instance × List String :=
  let (runtime, failures) := runtime.heartbeatCheck outside now
  let runtime := failures.foldl
    (fun runtime component => runtime.onFailure outside component "heartbeat_timeout") runtime
  let problems := runtime.healthProblems outside
  let runtime := problems.foldl
    (fun runtime check => runtime.onFailure outside check.1 check.2.value) runtime
  (runtime, failures ++ problems.map Prod.fst)

end Supervisor

end RuntimeEngine

end AiEnterpriseOs.Runtime
