import AiEnterpriseOs.PyValue
import AiEnterpriseOs.Runtime.Lifecycle
import Mathlib.Data.Finset.Basic

/-!
# Start and stop of the runtime

The startup sequence with the background workers that its `start_runtime` step
starts, and the shutdown sequence. What a step calls outside of the runtime may
raise; which of these calls do is an input.
-/

namespace AiEnterpriseOs.Runtime

inductive Worker where
  | heartbeatSender
  | scheduler
  | watchdog
  | supervisor
  deriving DecidableEq

def workers : List Worker := [.heartbeatSender, .scheduler, .watchdog, .supervisor]

/-- The parts of `start_workers`, in its order. -/
inductive WorkerPart where
  | eventBus
  | engines
  | worker (worker : Worker)
  | configJobs
  deriving DecidableEq

def workerParts : List WorkerPart :=
  [.eventBus, .engines] ++ workers.map .worker ++ [.configJobs]

structure BootRuntime where
  phase : RuntimePhase
  /-- The names of the registered engines. -/
  engines : List String
  /-- The workers whose thread is alive. -/
  running : Finset Worker
  watchdogEnabled : Bool

/-- A step of `startup.yaml`. -/
structure StepDefinition where
  name : String := "unnamed"
  target : Option String := none
  moduleName : Option String := none
  className : Option String := none
  engine : Option String := none
  params : List (String × PyValue) := []

/-- What happens outside of the runtime in one execution of a step: whether what
it loads, imports or creates raises, and which part of `start_workers` does. -/
structure StepCourse where
  raises : Bool := false
  failingPart : Option WorkerPart := none

structure StartupStep where
  definition : StepDefinition
  course : StepCourse

def internalTargets : List String :=
  ["load_constitution", "load_project_state", "load_configuration", "start_runtime", "ready"]

/-- `value or fallback` of an optional text. -/
def textOr (value : Option String) (fallback : String) : String :=
  match value with
  | some text => if text = "" then fallback else text
  | none => fallback

def defaultEngineName (stepName : String) : String :=
  textOr (some (stepName.dropPrefix "initialize_").toString) stepName

mutual

/-- Every `@engine:` reference in the value names a registered engine. -/
def resolves (engines : List String) : PyValue → Bool
  | .str text =>
    let (marker, rest) := text.toList.span (· ≠ ':')
    if marker = "@engine".toList then String.ofList (rest.drop 1) ∈ engines else true
  | .list items => resolvesAll engines items
  | .dict items => resolvesEntries engines items
  | _ => true

def resolvesAll (engines : List String) : List PyValue → Bool
  | [] => true
  | value :: rest => resolves engines value && resolvesAll engines rest

def resolvesEntries (engines : List String) : List (String × PyValue) → Bool
  | [] => true
  | (_, value) :: rest => resolves engines value && resolvesEntries engines rest

end

namespace BootRuntime

/-- One part of `start_workers`; `none` where it raises. A worker that is running is
left alone, and so is a watchdog that is disabled. -/
def startPart (failing : Option WorkerPart) (runtime : BootRuntime) :
    WorkerPart → Option BootRuntime
  | .worker worker =>
    if worker = .watchdog ∧ runtime.watchdogEnabled = false then some runtime
    else if worker ∈ runtime.running then some runtime
    else if failing = some (.worker worker) then none
    else some { runtime with running := insert worker runtime.running }
  | part => if failing = some part then none else some runtime

/-- The parts from the given ones on, and whether all of them returned. -/
def startParts (failing : Option WorkerPart) : List WorkerPart → BootRuntime → BootRuntime × Bool
  | [], runtime => (runtime, true)
  | part :: rest, runtime =>
    match runtime.startPart failing part with
    | none => (runtime, false)
    | some runtime => startParts failing rest runtime

def startWorkers (runtime : BootRuntime) (failing : Option WorkerPart) : BootRuntime × Bool :=
  startParts failing workerParts runtime

/-- The phase is set first, by force if need be. -/
def markReady (runtime : BootRuntime) : BootRuntime :=
  { runtime with phase := .running }

def runClassStep (runtime : BootRuntime) (definition : StepDefinition) (course : StepCourse) :
    BootRuntime × Bool :=
  let engineName := textOr definition.engine (defaultEngineName definition.name)
  if textOr definition.moduleName "" = "" ∨ textOr definition.className "" = "" then
    (runtime, false)
  else if engineName ∈ runtime.engines then (runtime, true)
  else if course.raises ∨ resolvesEntries runtime.engines definition.params = false then
    (runtime, false)
  else ({ runtime with engines := runtime.engines ++ [engineName] }, true)

def runInternal (runtime : BootRuntime) (target : String) (course : StepCourse) :
    BootRuntime × Bool :=
  if target = "start_runtime" then runtime.startWorkers course.failingPart
  else if target = "ready" then (runtime.markReady, !course.raises)
  else (runtime, !course.raises)

/-- `_run_step`: whether the step completed. -/
def runStep (runtime : BootRuntime) (step : StartupStep) : BootRuntime × Bool :=
  match step.definition.target with
  | some target =>
    if target ∈ internalTargets then runtime.runInternal target step.course
    else runtime.runClassStep step.definition step.course
  | none => runtime.runClassStep step.definition step.course

/-- `StartupExecutor.run`: the number of steps that completed before the one that
failed, if one did. -/
def runSteps : List StartupStep → BootRuntime → BootRuntime × Option Nat
  | [], runtime => (runtime, none)
  | step :: rest, runtime =>
    let (runtime, completed) := runtime.runStep step
    if completed then
      let (runtime, failed) := runSteps rest runtime
      (runtime, failed.map (· + 1))
    else (runtime, some 0)

inductive StartResult where
  | alreadyActive
  | started
  /-- `StartupError` at the step of this index. -/
  | startupError (failed : Nat)
  | invalidTransition
  deriving DecidableEq

/-- `RuntimeEngine.start` without `continue_on_error`. -/
def start (runtime : BootRuntime) (steps : List StartupStep) : BootRuntime × StartResult :=
  if runtime.phase.isActive then (runtime, .alreadyActive)
  else
    match runtime.phase.transition .starting with
    | none => (runtime, .invalidTransition)
    | some phase =>
      match runSteps steps { runtime with phase := phase } with
      | (runtime, none) => (runtime.markReady, .started)
      | (runtime, some failed) =>
        match runtime.phase.transition .failed with
        | none => (runtime, .invalidTransition)
        | some phase => ({ runtime with phase := phase }, .startupError failed)

end BootRuntime

/-- What stopping a worker comes to: its thread ends in the time that `stop` waits, or
outlives it, or `stop` raises. -/
inductive WorkerStop where
  | ends
  | outlives
  | raises
  deriving DecidableEq

inductive ShutdownStep where
  | notify
  | stopWorkers
  | stopEngines
  | stopProcesses
  | saveState
  | finalize
  deriving DecidableEq

def shutdownSteps : List ShutdownStep :=
  [.notify, .stopWorkers, .stopEngines, .stopProcesses, .saveState, .finalize]

structure StopCourse where
  force : Bool := false
  raises : ShutdownStep → Bool := fun _ => false
  workerStop : Worker → WorkerStop := fun _ => .ends

namespace BootRuntime

/-- `_stop_workers`: whether it returned. -/
def stopWorkers (course : StopCourse) : List Worker → BootRuntime → BootRuntime × Bool
  | [], runtime => (runtime, true)
  | worker :: rest, runtime =>
    if worker ∉ runtime.running then stopWorkers course rest runtime
    else
      match course.workerStop worker with
      | .ends =>
        stopWorkers course rest { runtime with running := runtime.running.erase worker }
      | .outlives => stopWorkers course rest runtime
      | .raises => (runtime, false)

def runShutdownStep (course : StopCourse) (runtime : BootRuntime) :
    ShutdownStep → BootRuntime × Bool
  | .stopWorkers => stopWorkers course workers runtime
  | .finalize => ({ runtime with phase := .stopped }, !course.raises .finalize)
  | step => (runtime, !course.raises step)

/-- `ShutdownExecutor.run`: whether it returned. -/
def runShutdown (course : StopCourse) : List ShutdownStep → BootRuntime → BootRuntime × Bool
  | [], runtime => (runtime, true)
  | step :: rest, runtime =>
    let (runtime, completed) := runtime.runShutdownStep course step
    if completed ∨ course.force then runShutdown course rest runtime else (runtime, false)

inductive StopResult where
  | notActive
  | stopped
  | shutdownError
  | invalidTransition
  deriving DecidableEq

/-- `RuntimeEngine.stop`. -/
def stop (runtime : BootRuntime) (course : StopCourse) : BootRuntime × StopResult :=
  if runtime.phase.isActive = false then (runtime, .notActive)
  else
    match runtime.phase.transition .stopping with
    | none => (runtime, .invalidTransition)
    | some phase =>
      match runShutdown course shutdownSteps { runtime with phase := phase } with
      | (runtime, true) => (runtime, .stopped)
      | (runtime, false) =>
        match runtime.phase.transition .failed with
        | none => (runtime, .invalidTransition)
        | some phase => ({ runtime with phase := phase }, .shutdownError)

end BootRuntime

end AiEnterpriseOs.Runtime
