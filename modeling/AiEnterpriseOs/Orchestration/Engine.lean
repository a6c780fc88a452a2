import AiEnterpriseOs.Orchestration.Models
import AiEnterpriseOs.Orchestration.PipelineLedger
import AiEnterpriseOs.Orchestration.Recovery
import AiEnterpriseOs.Orchestration.StateDump

/-!
# Enterprise Orchestration Engine

The engine as a machine. A step is one call of its interface, the next due
plan of a tick, one iteration of the auto-recovery loop, or the end of a run.
-/

/-!
## Scheduler for orchestration plans

The plan registry, the run bookkeeping and the due-plan computation. The
registry holds the plan objects themselves, which the engine shares; `events`
records the bookkeeping calls in order.
-/

namespace AiEnterpriseOs.Orchestration

open Library

inductive ScheduleEvent where
  | registered (planId : String) (now : Time)
  | due (planId : String) (now : Time)
  | marked (planId : String) (now : Time)
  | completed (planId : String)
  deriving DecidableEq

structure OrchestrationScheduler where
  plans : OrderedDict String OrchestrationPlan := OrderedDict.empty
  lastRun : OrderedDict String Time := OrderedDict.empty
  completed : List String := []
  scheduledAt : OrderedDict String Time := OrderedDict.empty
  defaultInterval : Time := 3600
  events : List ScheduleEvent := []

namespace OrchestrationScheduler

/-- Register a plan; computes its trigger time. -/
def register (scheduler : OrchestrationScheduler) (plan : OrchestrationPlan)
    (now : Time) : OrchestrationScheduler :=
  { scheduler with
    plans := scheduler.plans.set plan.id plan
    scheduledAt :=
      match plan.scheduleMode with
      | .scheduled => scheduler.scheduledAt.set plan.id (plan.scheduledAt.getD now)
      | .immediate => scheduler.scheduledAt.set plan.id now
      | .recurring => scheduler.scheduledAt.set plan.id now
      | .dependency => scheduler.scheduledAt.erase plan.id
    events := scheduler.events ++ [.registered plan.id now] }

/-- Record that a plan was executed; advances recurring counters. -/
def markRun (scheduler : OrchestrationScheduler) (planId : String) (now : Time) :
    OrchestrationScheduler :=
  { scheduler with
    lastRun := scheduler.lastRun.set planId now
    plans := scheduler.plans.modify planId fun plan =>
      { plan with runCount := plan.runCount + 1 }
    events := scheduler.events ++ [.marked planId now] }

/-- Record that a plan finished (unblocks dependency-mode plans). -/
def notifyCompleted (scheduler : OrchestrationScheduler) (planId : String) :
    OrchestrationScheduler :=
  { scheduler with
    completed := if planId ∈ scheduler.completed then scheduler.completed
      else scheduler.completed ++ [planId]
    events := scheduler.events ++ [.completed planId] }

/-- `plan.interval_seconds or default_interval_seconds`. -/
def intervalOf (scheduler : OrchestrationScheduler) (plan : OrchestrationPlan) :
    Time :=
  match plan.intervalSeconds with
  | none => scheduler.defaultInterval
  | some interval => if interval = 0 then scheduler.defaultInterval else interval

def isDue (scheduler : OrchestrationScheduler) (plan : OrchestrationPlan) (now : Time) : Bool :=
  let lastRun := scheduler.lastRun.get? plan.id
  match plan.scheduleMode with
  | .immediate => lastRun.isNone
  | .scheduled =>
    if lastRun.isSome then false
    else
      match scheduler.scheduledAt.get? plan.id with
      | none => false
      | some trigger => decide (trigger ≤ now)
  | .recurring =>
    if plan.maxRuns ≠ 0 ∧ plan.maxRuns ≤ plan.runCount then false
    else
      match lastRun with
      | none => true
      | some last => decide (last + scheduler.intervalOf plan ≤ now)
  | .dependency =>
    if plan.dependsOn.any fun dep => decide (dep ∉ scheduler.completed) then false
    else lastRun.isNone

/-- Return registered plans that are due for execution. -/
def duePlans (scheduler : OrchestrationScheduler) (now : Time) :
    List OrchestrationPlan :=
  scheduler.plans.values.filter fun plan => scheduler.isDue plan now

section Fields

variable (scheduler : OrchestrationScheduler) (plan : OrchestrationPlan) (planId : String)
  (now : Time)

@[simp] theorem register_plans :
    (scheduler.register plan now).plans = scheduler.plans.set plan.id plan := rfl

@[simp] theorem register_events : (scheduler.register plan now).events =
      scheduler.events ++ [.registered plan.id now] := rfl

@[simp] theorem mark_run_plans : (scheduler.markRun planId now).plans =
      scheduler.plans.modify planId fun plan =>
        { plan with runCount := plan.runCount + 1 } := rfl

@[simp] theorem mark_run_last_run :
    (scheduler.markRun planId now).lastRun = scheduler.lastRun.set planId now := rfl

@[simp] theorem mark_run_events :
    (scheduler.markRun planId now).events = scheduler.events ++ [.marked planId now] := rfl

@[simp] theorem notify_completed_completed : (scheduler.notifyCompleted planId).completed =
      if planId ∈ scheduler.completed then scheduler.completed
      else scheduler.completed ++ [planId] := rfl

@[simp] theorem notify_completed_events : (scheduler.notifyCompleted planId).events =
      scheduler.events ++ [.completed planId] := rfl

end Fields

end OrchestrationScheduler

end AiEnterpriseOs.Orchestration

namespace AiEnterpriseOs.Orchestration

open Library

structure EngineConfig where
  runner : RunnerConfig := {}
  recovery : RecoveryConfig := {}
  defaultInterval : Time := 3600

/-- The surroundings of one execution attempt: how its tasks turn out, how
the undo handlers behave, and the time that passes before it is marked. -/
structure Execution where
  env : RunEnv
  choices : List WaveChoice := []
  undo : UndoFunction
  delay : Nat := 0

/-- A run after its latest execution attempt. -/
structure Attempt where
  plan : OrchestrationPlan
  state : ExecutionState
  metrics : ExecutionMetrics
  attempts : Nat := 0
  recovery : Option RecoveryResult := none

/-- `due` holds the plans that the current tick has still to run. -/
inductive EngineControl where
  | ready (due : List OrchestrationPlan)
  | attempted (attempt : Attempt) (due : List OrchestrationPlan)

structure Engine where
  control : EngineControl := .ready []
  scheduler : OrchestrationScheduler := {}
  store : ExecutionStateStore := {}
  shared : RunnerShared := {}
  clock : Time := 0

/-- Calls of the engine's interface. A plan is created under a fresh id, so
`plan` with an id in use does not arise and changes nothing. -/
inductive EngineOp where
  | plan (plan : OrchestrationPlan)
  | start (planId : String)
  | resume (planId : String) (checkpointId : Option CheckpointId)
  | retry (planId : String)
  | rollback (planId : String) (reason : String)
  | tick
  | markRun (planId : String)
  | notifyCompleted (planId : String)

/-- `elapsed` is the time that passes before the call. -/
structure EngineInput where
  op : EngineOp
  execution : Execution
  elapsed : Nat := 0

namespace Engine

/-- A new engine, with or without a Memory Engine behind its checkpoints. -/
def new (config : EngineConfig) (hasMemory : Bool) : Engine where
  scheduler := { defaultInterval := config.defaultInterval }
  shared :=
    { checkpointManager :=
        { config := config.runner.checkpoints
          memory := if hasMemory then some OrderedDict.empty else none } }

/-- `_get_plan`: by id, else the first plan of that name. -/
def getPlan (engine : Engine) (planId : String) : Option OrchestrationPlan :=
  match engine.scheduler.plans.get? planId with
  | some plan => some plan
  | none => engine.scheduler.plans.values.find? fun plan => plan.name = planId

def passTime (engine : Engine) (elapsed : Nat) : Engine :=
  { engine with clock := engine.clock + elapsed }

section Steps

variable (config : EngineConfig)

/-- One call of the runner; an exception of the restart leaves the run. -/
def execute (plan : OrchestrationPlan) (checkpoint : Option Checkpoint)
    (execution : Execution) (attempts : Nat) (recovery : Option RecoveryResult)
    (due : List OrchestrationPlan) (engine : Engine) : Engine :=
  match runPipeline plan config.runner execution.env execution.choices checkpoint engine.shared with
  | .error _ => { engine with control := .ready due }
  | .ok (result, shared) =>
    { engine with
      shared := shared
      control := .attempted
        { plan := plan
          state := result.state
          metrics := result.metrics
          attempts := attempts
          recovery := recovery } due }

/-- `run` up to the end of its first execution attempt. -/
def run (plan : OrchestrationPlan) (checkpoint : Option Checkpoint)
    (execution : Execution) (due : List OrchestrationPlan) (engine : Engine) :
    Engine :=
  let engine := engine.passTime execution.delay
  execute config plan checkpoint execution 0 none due
    { engine with scheduler := engine.scheduler.markRun plan.id engine.clock }

def shouldRecover (attempt : Attempt) : Bool :=
  decide (attempt.state.status = .failed) && config.recovery.autoRecover &&
    config.recovery.enabled &&
    decide ((attempt.attempts : Int) < config.recovery.maxRecoveryAttempts)

/-- Save the state and the record of a run, and report its completion. -/
def finishRun (attempt : Attempt) (due : List OrchestrationPlan) (engine : Engine) : Engine :=
  let saved := engine.store.saveState attempt.state
  { engine with
    control := .ready due
    store := saved.record
      { planId := attempt.plan.id
        planName := attempt.plan.name
        pipelineId := attempt.plan.pipeline.id
        state := attempt.state
        metrics := attempt.metrics
        rollbackPlan :=
          engine.shared.rollbackManager.getRollbackPlan attempt.plan.id
        recovery := attempt.recovery }
    scheduler :=
      if attempt.state.status = .completed then
        engine.scheduler.notifyCompleted attempt.plan.id
      else engine.scheduler }

def recoveryReason (attempts : Nat) : String :=
  "auto-recovery (attempt " ++ toString attempts ++ ")"

/-- One iteration of the auto-recovery loop. The failed state is marked as
recovering and dropped: the next attempt's state replaces it. -/
def recoverRun (attempt : Attempt) (due : List OrchestrationPlan)
    (execution : Execution) (engine : Engine) : Engine :=
  match recover attempt.plan config.recovery
      (recoveryReason (attempt.attempts + 1)) execution.undo engine.shared with
  | (progress, false) =>
    finishRun attempt due { engine with shared := progress.shared }
  | (progress, true) =>
    let recovered : Engine := { engine with shared := progress.shared }
    if progress.result.success then
      execute config attempt.plan progress.checkpoint execution
        (attempt.attempts + 1) (some progress.result) due recovered
    else
      finishRun { attempt with recovery := some progress.result } due recovered

/-- `resume`: the checkpoint by its id, else the latest of the pipeline. -/
def findCheckpoint (plan : OrchestrationPlan)
    (checkpointId : Option CheckpointId) (shared : RunnerShared) :
    RunnerShared × Option Checkpoint :=
  match checkpointId with
  | some checkpointId =>
    match shared.checkpointManager.restore checkpointId with
    | (manager, checkpoint) =>
      ({ shared with checkpointManager := manager }, checkpoint)
  | none => (shared, shared.checkpointManager.latest plan.pipeline.id)

def call (op : EngineOp) (execution : Execution) (engine : Engine) : Engine :=
  match op with
  | .plan plan =>
    match engine.scheduler.plans.get? plan.id with
    | some _ => engine
    | none =>
      { engine with
        scheduler := engine.scheduler.register { plan with runCount := 0 } engine.clock }
  | .start planId =>
    match engine.getPlan planId with
    | none => engine
    | some plan =>
      if plan.scheduleMode = .immediate then
        run config plan none execution [] engine
      else
        { engine with scheduler := engine.scheduler.register plan engine.clock }
  | .resume planId checkpointId =>
    match engine.getPlan planId with
    | none => engine
    | some plan =>
      match findCheckpoint plan checkpointId engine.shared with
      | (shared, none) => { engine with shared := shared }
      | (shared, some checkpoint) =>
        run config plan (some checkpoint) execution [] { engine with shared := shared }
  | .retry planId =>
    match engine.getPlan planId with
    | none => engine
    | some plan => run config plan none execution [] engine
  | .rollback planId reason =>
    match engine.getPlan planId with
    | none => engine
    | some plan =>
      match engine.shared.executeRollback plan reason execution.undo with
      | none => engine
      | some (shared, _) => { engine with shared := shared }
  | .tick =>
    let due := engine.scheduler.duePlans engine.clock
    { engine with
      control := .ready due
      scheduler := { engine.scheduler with
        events := engine.scheduler.events ++ due.map fun plan => .due plan.id engine.clock } }
  | .markRun planId =>
    match engine.getPlan planId with
    | none => engine
    | some plan =>
      { engine with
        scheduler := engine.scheduler.markRun plan.id engine.clock }
  | .notifyCompleted planId =>
    { engine with scheduler := engine.scheduler.notifyCompleted planId }

def step (engine : Engine) (input : EngineInput) : Engine :=
  match engine.control with
  | .ready [] => call config input.op input.execution (engine.passTime input.elapsed)
  | .ready (plan :: due) => run config plan none input.execution due engine
  | .attempted attempt due =>
    if shouldRecover config attempt then
      recoverRun config attempt due input.execution engine
    else finishRun attempt due engine

def runs (engine : Engine) (inputs : List EngineInput) : Engine :=
  runInputs (step config) engine inputs

end Steps

end Engine

end AiEnterpriseOs.Orchestration
