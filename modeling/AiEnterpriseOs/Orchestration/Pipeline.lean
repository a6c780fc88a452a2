import AiEnterpriseOs.Library.Runs
import AiEnterpriseOs.Orchestration.Checkpoint
import AiEnterpriseOs.Orchestration.Dependencies
import AiEnterpriseOs.Orchestration.Models
import Mathlib.Algebra.GroupWithZero.Nat

/-!
# Pipeline execution runtime

The runner as a machine. A step is one iteration of a loop of the source: the
next stage, the next task of a sequential stage, the next wave of a parallel
stage, or one event of the thread pool during a wave. Condition evaluation,
task outcomes, clock readings and checkpoint failures come from the
environment; the order of pool events is the machine's input.
-/

/-!
## Lifecycle state machine for pipelines and tasks

The transition tables and the checked transition of each.
-/

namespace AiEnterpriseOs.Orchestration

namespace TaskStatus

def text : TaskStatus → String
  | pending => "pending"
  | ready => "ready"
  | running => "running"
  | completed => "completed"
  | failed => "failed"
  | skipped => "skipped"
  | cancelled => "cancelled"

/-- A status in which nothing is left to do for the task. -/
def isTerminal : TaskStatus → Bool
  | completed | failed | skipped | cancelled => true
  | pending | ready | running => false

end TaskStatus

namespace PipelineStatus

def text : PipelineStatus → String
  | pending => "pending"
  | scheduled => "scheduled"
  | running => "running"
  | completed => "completed"
  | failed => "failed"
  | cancelled => "cancelled"
  | paused => "paused"
  | recovering => "recovering"

end PipelineStatus

def taskTransitions : TaskStatus → List TaskStatus
  | .pending => [.ready, .running, .skipped, .cancelled]
  | .ready => [.running, .skipped, .cancelled]
  | .running => [.completed, .failed, .skipped, .cancelled]
  | .failed => [.ready, .cancelled]
  | .completed => []
  | .skipped => []
  | .cancelled => []

def pipelineTransitions : PipelineStatus → List PipelineStatus
  | .pending => [.scheduled, .running, .cancelled]
  | .scheduled => [.running, .cancelled]
  | .running => [.completed, .failed, .paused, .recovering]
  | .paused => [.running, .recovering, .cancelled]
  | .recovering => [.running, .failed, .paused]
  | .failed => [.running, .cancelled]
  | .completed => []
  | .cancelled => []

def transitionTask (current new : TaskStatus) : Except String TaskStatus :=
  if new ∈ taskTransitions current then .ok new
  else .error ("ValueError: Invalid task transition: " ++ current.text ++ " -> " ++ new.text)

def transitionPipeline (current new : PipelineStatus) :
    Except String PipelineStatus :=
  if new ∈ pipelineTransitions current then .ok new
  else .error ("ValueError: Invalid pipeline transition: " ++ current.text ++ " -> " ++ new.text)

theorem transition_task_ok_iff {current new reached : TaskStatus} :
    transitionTask current new = .ok reached ↔ new ∈ taskTransitions current ∧ reached = new := by
  unfold transitionTask
  split
  next allowed => simp [allowed, eq_comm]
  next refused => simp [refused]

theorem running_of_transition {current reached : TaskStatus}
    (moved : transitionTask current .running = .ok reached) :
    (current = .pending ∨ current = .ready) ∧ reached = .running := by
  obtain ⟨allowed, reachedEq⟩ := transition_task_ok_iff.mp moved
  refine ⟨?_, reachedEq⟩
  cases current <;> simp [taskTransitions] at allowed ⊢

theorem transition_pipeline_ok_iff {current new reached : PipelineStatus} :
    transitionPipeline current new = .ok reached ↔
      new ∈ pipelineTransitions current ∧ reached = new := by
  unfold transitionPipeline
  split
  next allowed => simp [allowed, eq_comm]
  next refused => simp [refused]

end AiEnterpriseOs.Orchestration

/-!
## Rollback management

Undo handlers registered by completed tasks, executed in reverse order of
registration when a plan is rolled back.
-/

namespace AiEnterpriseOs.Orchestration

open Library

structure Handler where
  action : String
  params : PyValue

/-- The registration order lists exactly the keys of the handler table. -/
structure RollbackManager where
  handlers : OrderedDict String Handler
  order : List String
  rollbackPlans : OrderedDict String RollbackPlan
  aligned : order = handlers.keys

/-- `undo_func(task_id, action, params)`; an error is the exception raised. -/
abbrev UndoFunction := String → String → PyValue → Except String Unit

namespace RollbackManager

def new : RollbackManager where
  handlers := OrderedDict.empty
  order := []
  rollbackPlans := OrderedDict.empty
  aligned := rfl

instance : Inhabited RollbackManager := ⟨new⟩

/-- Register an undo handler for a completed task. -/
def registerHandler (manager : RollbackManager) (taskId action : String)
    (params : PyValue) : RollbackManager where
  handlers := manager.handlers.set taskId { action := action, params := params.orEmptyDict }
  order := if taskId ∈ manager.order then manager.order
    else manager.order ++ [taskId]
  rollbackPlans := manager.rollbackPlans
  aligned := by
    rw [manager.aligned]
    exact (OrderedDict.assign_keys taskId _ manager.handlers.entries).symm

def hasHandlers (manager : RollbackManager) : Bool :=
  !manager.handlers.entries.isEmpty

def clearHandlers (manager : RollbackManager) : RollbackManager where
  handlers := OrderedDict.empty
  order := []
  rollbackPlans := manager.rollbackPlans
  aligned := rfl

def getRollbackPlan (manager : RollbackManager) (planId : String) :
    Option RollbackPlan :=
  manager.rollbackPlans.get? planId

def handlerOf (manager : RollbackManager) (taskId : String) : Handler :=
  manager.handlers.getD taskId { action := "", params := .dict [] }

/-- Build a rollback plan from registered handlers. -/
def createRollbackPlan (manager : RollbackManager) (pipeline : Pipeline)
    (planId reason : String) : RollbackPlan where
  pipelineId := pipeline.id
  planId := planId
  reason := reason
  steps := manager.order.reverse.map fun taskId =>
    { taskId := taskId, action := (manager.handlerOf taskId).action }

def executeStep (manager : RollbackManager) (undo : UndoFunction)
    (step : RollbackStep) : RollbackStep :=
  let handler := manager.handlerOf step.taskId
  match undo step.taskId handler.action handler.params with
  | .ok _ => { step with status := .executed }
  | .error error => { step with status := .failed, error := some error }

/-- Execute registered undo handlers in reverse order; `none` when no handler
is registered, where the source raises. -/
def executeRollback (manager : RollbackManager) (plan : OrchestrationPlan)
    (reason : String) (undo : UndoFunction) :
    Option (RollbackManager × RollbackPlan) :=
  if manager.hasHandlers then
    let created := manager.createRollbackPlan plan.pipeline plan.id reason
    let steps := created.steps.map (manager.executeStep undo)
    let finished : RollbackPlan :=
      { created with
        steps := steps
        status := if steps.any (fun step => step.status = .failed)
          then .failed else .completed }
    let stored : RollbackManager :=
      { manager with
        rollbackPlans := manager.rollbackPlans.set plan.id finished }
    some (stored.clearHandlers, finished)
  else none

@[simp] theorem execute_step_task (manager : RollbackManager)
    (undo : UndoFunction) (step : RollbackStep) :
    (manager.executeStep undo step).taskId = step.taskId := by
  simp only [executeStep]
  split <;> rfl

theorem execute_rollback_steps {manager cleared : RollbackManager}
    {plan : OrchestrationPlan} {reason : String} {undo : UndoFunction}
    {finished : RollbackPlan}
    (executed : manager.executeRollback plan reason undo = some (cleared, finished)) :
    finished.steps.map RollbackStep.taskId = manager.order.reverse ∧ cleared.order = [] := by
  unfold executeRollback at executed
  split at executed
  · simp only [Option.some.injEq, Prod.mk.injEq] at executed
    obtain ⟨rfl, rfl⟩ := executed
    refine ⟨?_, rfl⟩
    simp [createRollbackPlan, Function.comp_def]
  · cases executed

theorem mem_order_register (manager : RollbackManager)
    (taskId other action : String) (params : PyValue) :
    other ∈ (manager.registerHandler taskId action params).order ↔
      other = taskId ∨ other ∈ manager.order := by
  simp only [registerHandler]
  split
  next present =>
    constructor
    · exact Or.inr
    · rintro (rfl | old)
      · exact present
      · exact old
  · simp [or_comm]

end RollbackManager

end AiEnterpriseOs.Orchestration

namespace AiEnterpriseOs.Orchestration

open Library

/-- What `executor.execute_task` does when called. -/
inductive TaskOutcome where
  | returned (result : TaskResult)
  | taskExecutionError (cause : String) (attempts : Int)
  | raised (error : String)

structure RunEnv where
  evaluateCondition : String → OrderedDict String PyValue → Except String Bool
  outcome : String → TaskOutcome
  now : Nat → Time
  checkpointFault : Nat → CheckpointFault

structure RunnerConfig where
  dependencies : DependencyConfig := {}
  checkpoints : CheckpointConfig := {}
  maxWorkers : Int := 4
  hasCheckpointManager : Bool := true
  hasRollbackManager : Bool := true

/-- Calls that leave the runner, in the order they are made. -/
inductive Effect where
  | runStarted (planId : String) (checkpoint : Option Checkpoint)
  | submitted (stageIndex : Nat) (taskIds : List String)
  | executed (task : PipelineTask) (state : ExecutionState)
  | registered (planId taskId : String)
  | checkpointed (checkpoint : Checkpoint)
  | runFinished (planId : String) (status : PipelineStatus)
  | undone (planId taskId action : String) (status : StepStatus)

/-- What outlives a run: the managers, the runner's task index and the calls
made so far. -/
structure RunnerShared where
  checkpointManager : CheckpointManager := {}
  rollbackManager : RollbackManager := RollbackManager.new
  taskIndex : Nat := 0
  log : List Effect := []

structure RunnerState extends RunnerShared where
  state : ExecutionState
  metrics : ExecutionMetrics
  stageIndex : Nat

/-- Futures of the current wave: not yet started, in their executor call, and
done but not yet yielded by `as_completed`. -/
structure Pool where
  queued : List PipelineTask
  running : List PipelineTask := []
  finished : List (PipelineTask × TaskResult) := []

inductive Control where
  | stages (remaining : List PipelineStage)
  | sequential (graph : DependencyGraph) (index : Nat)
      (tasks : List PipelineTask) (rest : List PipelineStage)
  | waves (graph : DependencyGraph) (stage : PipelineStage) (rest : List PipelineStage)
  | wave (graph : DependencyGraph) (stage : PipelineStage)
      (rest : List PipelineStage) (ready : List String) (pool : Pool)
  | halted

structure Machine where
  control : Control
  runner : RunnerState

inductive WaveChoice where
  | begin
  | finish (index : Nat)
  | yield (index : Nat)
  deriving DecidableEq, Repr

structure PipelineResult where
  state : ExecutionState
  metrics : ExecutionMetrics

/-- `text or fallback`. -/
def orText (text : Option String) (fallback : String) : String :=
  match text with
  | none => fallback
  | some text => if text = "" then fallback else text

def failedResult (error : String) : TaskResult :=
  { status := .failed, error := some error }

/-- The value or exception of `_run_task` once the executor call ends. -/
def TaskOutcome.result : TaskOutcome → Except String TaskResult
  | .returned result => .ok result
  | .taskExecutionError cause attempts =>
    .ok { status := .failed
          error := some cause
          attempts := attempts
          retried := decide (1 < attempts) }
  | .raised error => .error error

def TaskResultStatus.taskStatus : TaskResultStatus → TaskStatus
  | .completed => .completed
  | .failed => .failed
  | .skipped => .skipped

namespace RunnerState

def setStatus (runner : RunnerState) (taskId : String) (status : TaskStatus) :
    RunnerState :=
  { runner with
    state := { runner.state with
      taskStatuses := runner.state.taskStatuses.set taskId status } }

def record (runner : RunnerState) (effect : Effect) : RunnerState :=
  { runner with log := runner.log ++ [effect] }

end RunnerState

section Runner

variable (plan : OrchestrationPlan) (config : RunnerConfig) (env : RunEnv)

def stageCheckpointEnabled : Bool :=
  config.checkpoints.autoCheckpointOnStageCompleted

def taskCheckpointEnabled (metrics : ExecutionMetrics) : Bool :=
  config.checkpoints.autoCheckpointOnTaskCompleted &&
    (decide (config.checkpoints.intervalTasks ≤ 0) ||
      decide ((metrics.tasksCompleted : Int) % config.checkpoints.intervalTasks = 0))

def writeCheckpoint (runner : RunnerState) : RunnerState :=
  if config.hasCheckpointManager && config.checkpoints.enabled then
    let attempt := runner.checkpointManager.nextId
    match runner.checkpointManager.create plan runner.state runner.stageIndex
        runner.taskIndex (env.now attempt) (env.checkpointFault attempt) with
    | (manager, some checkpoint) =>
      { runner with
        checkpointManager := manager
        metrics := { runner.metrics with
          checkpointsCreated := runner.metrics.checkpointsCreated + 1 }
        log := runner.log ++ [.checkpointed checkpoint] }
    | (manager, none) => { runner with checkpointManager := manager }
  else runner

def markSkipped (taskId : String) (runner : RunnerState) : RunnerState :=
  { runner.setStatus taskId .skipped with
    metrics := { runner.metrics with
      tasksSkipped := runner.metrics.tasksSkipped + 1 } }

/-- `_run_task` up to and including the executor call. -/
def runTask (task : PipelineTask) (runner : RunnerState) :
    Except String RunnerState :=
  match transitionTask (runner.state.taskStatus task.id) .running with
  | .error error => .error error
  | .ok status =>
    let begun := runner.setStatus task.id status
    let counted : RunnerState :=
      { begun with
        state := { begun.state with
          attempts := begun.state.attempts.set task.id (begun.state.attempts.getD task.id 0 + 1) } }
    .ok (counted.record (.executed task counted.state))

def registerRollback (task : PipelineTask) (runner : RunnerState) :
    RunnerState :=
  match task.rollbackAction with
  | none => runner
  | some action =>
    if action ≠ "" ∧ config.hasRollbackManager then
      { runner with
        rollbackManager := runner.rollbackManager.registerHandler task.id action task.rollbackParams
        log := runner.log ++ [.registered plan.id task.id] }
    else runner

def retriesOf (result : TaskResult) : Int :=
  if result.retried then result.attempts - 1 else 0

def mergeOutput (task : PipelineTask) (result : TaskResult) (runner : RunnerState) : RunnerState :=
  let settled := runner.setStatus task.id .completed
  { settled with
    state := { settled.state with
      taskResults := settled.state.taskResults.set task.id result.output.orEmptyDict } }

def countCompleted (result : TaskResult) (runner : RunnerState) : RunnerState :=
  { runner with
    metrics := { runner.metrics with
      tasksCompleted := runner.metrics.tasksCompleted + 1
      retriesTotal := runner.metrics.retriesTotal + retriesOf result } }

/-- Merge a TaskResult into the execution state. -/
def applyTaskResult (task : PipelineTask) (result : TaskResult)
    (runner : RunnerState) : RunnerState :=
  match result.status with
  | .completed =>
    let counted := countCompleted result
      (registerRollback plan config task (mergeOutput task result runner))
    if taskCheckpointEnabled config counted.metrics then
      writeCheckpoint plan config env counted
    else counted
  | .failed =>
    let settled := runner.setStatus task.id .failed
    { settled with
      state := { settled.state with
        taskErrors := settled.state.taskErrors.set task.id (orText result.error "unknown error") }
      metrics := { settled.metrics with
        tasksFailed := settled.metrics.tasksFailed + 1
        retriesTotal := settled.metrics.retriesTotal + retriesOf result } }
  | .skipped => markSkipped task.id runner

/-- `_fail`, reached by every exception inside the stage loop. -/
def failRun (error : String) (runner : RunnerState) : Machine where
  control := .halted
  runner :=
    { runner with
      state := { runner.state with
        status := .failed
        error := some error }
      log := runner.log ++ [.runFinished plan.id .failed] }

def completeRun (runner : RunnerState) : Machine :=
  match transitionPipeline runner.state.status .completed with
  | .error error => failRun plan error runner
  | .ok status =>
    { control := .halted
      runner :=
        { runner with
          state := { runner.state with status := status }
          log := runner.log ++ [.runFinished plan.id status] } }

def endStage (rest : List PipelineStage) (runner : RunnerState) : Machine :=
  let advanced : RunnerState := { runner with stageIndex := runner.stageIndex + 1 }
  { control := .stages rest
    runner :=
      if stageCheckpointEnabled config then writeCheckpoint plan config env advanced
      else advanced }

def pipelineExecutionError (task : PipelineTask) (result : TaskResult) : String :=
  "Pipeline " ++ quoted plan.pipeline.id ++ " failed at " ++ task.id ++ ": " ++
    orText result.error "unknown task failure"

def stopsRun (task : PipelineTask) (result : TaskResult) : Prop :=
  result.status = .failed ∧ task.onFailure = .fail

instance (task : PipelineTask) (result : TaskResult) : Decidable (stopsRun task result) :=
  inferInstanceAs (Decidable (_ ∧ _))

/-- One iteration of the loop of `_execute_sequential`. -/
def executeSequential (graph : DependencyGraph) (index : Nat)
    (task : PipelineTask) (tasks : List PipelineTask)
    (rest : List PipelineStage) (started : RunnerState) : Machine :=
  let runner : RunnerState := { started with taskIndex := index }
  let next := Control.sequential graph (index + 1) tasks rest
  let status := runner.state.taskStatus task.id
  if status = .completed then ⟨next, runner⟩
  else if status = .skipped ∨ status = .cancelled then ⟨next, runner⟩
  else if status = .failed ∧ task.onFailure = .fail then ⟨next, runner⟩
  else if task.id ∉ graph.readyTasks (runner.state.tasksWith .completed)
      (runner.state.tasksWith .failed) then
    ⟨next, markSkipped task.id runner⟩
  else
    match runTask task runner with
    | .error error => failRun plan error runner
    | .ok begun =>
      match (env.outcome task.id).result with
      | .error error => failRun plan error begun
      | .ok result =>
        let applied := applyTaskResult plan config env task result begun
        if stopsRun task result then
          failRun plan (pipelineExecutionError plan task result)
            (writeCheckpoint plan config env applied)
        else ⟨next, applied⟩

def maxWorkersOf : Int :=
  min (max 1 config.maxWorkers) config.dependencies.maxParallelTasks

def waveReady (graph : DependencyGraph) (stage : PipelineStage)
    (runner : RunnerState) : List String :=
  (graph.readyTasks (runner.state.tasksWith .completed) []).filter fun taskId =>
    decide (taskId ∈ stage.tasks.map fun task => task.id) &&
      decide (runner.state.taskStatus taskId = .pending)

/-- Head of the loop of `_execute_parallel`: submit the ready tasks, or leave
the loop when there are none. -/
def executeParallel (graph : DependencyGraph) (stage : PipelineStage)
    (rest : List PipelineStage) (runner : RunnerState) : Machine :=
  let ready := waveReady graph stage runner
  if ready = [] then endStage plan config env rest runner
  else
    { control := .wave graph stage rest ready
        { queued := stage.tasks.filter fun task => task.id ∈ ready }
      runner := runner.record (.submitted runner.stageIndex ready) }

def Pool.enabled (pool : Pool) : WaveChoice → Bool
  | .begin => !pool.queued.isEmpty &&
      decide ((pool.running.length : Int) < maxWorkersOf config)
  | .finish index => decide (index < pool.running.length)
  | .yield index => decide (index < pool.finished.length)

/-- A choice that the pool cannot make is replaced by one that it can. -/
def Pool.effective (pool : Pool) (choice : WaveChoice) : WaveChoice :=
  if pool.enabled config choice then choice
  else if !pool.finished.isEmpty then .yield 0
  else if !pool.running.isEmpty then .finish 0
  else .begin

def Pool.isDone (pool : Pool) : Bool :=
  pool.queued.isEmpty && pool.running.isEmpty && pool.finished.isEmpty

def waveControl (graph : DependencyGraph) (stage : PipelineStage)
    (rest : List PipelineStage) (ready : List String) (pool : Pool) : Control :=
  if pool.isDone then .waves graph stage rest
  else .wave graph stage rest ready pool

/-- A worker takes the next future. An exception of the status transition
ends the future before any executor call. -/
def poolBegin (pool : Pool) (runner : RunnerState) : Pool × RunnerState :=
  match pool.queued with
  | [] => (pool, runner)
  | task :: queued =>
    match runTask task runner with
    | .error error =>
      ({ pool with
         queued := queued
         finished := pool.finished ++ [(task, failedResult error)] }, runner)
    | .ok begun =>
      ({ pool with queued := queued, running := pool.running ++ [task] }, begun)

def resultOf (task : PipelineTask) : TaskResult :=
  match (env.outcome task.id).result with
  | .ok result => result
  | .error error => failedResult error

def poolFinish (index : Nat) (pool : Pool) : Pool :=
  match pool.running[index]? with
  | none => pool
  | some task =>
    { pool with
      running := pool.running.eraseIdx index
      finished := pool.finished ++ [(task, resultOf env task)] }

/-- One pool event of `_execute_parallel` between two heads of its loop. -/
def executeWave (graph : DependencyGraph) (stage : PipelineStage)
    (rest : List PipelineStage) (ready : List String) (pool : Pool)
    (runner : RunnerState) (choice : WaveChoice) : Machine :=
  match pool.effective config choice with
  | .begin =>
    let moved := poolBegin pool runner
    ⟨waveControl graph stage rest ready moved.1, moved.2⟩
  | .finish index =>
    ⟨waveControl graph stage rest ready (poolFinish env index pool), runner⟩
  | .yield index =>
    match pool.finished[index]? with
    | none => ⟨waveControl graph stage rest ready pool, runner⟩
    | some (task, result) =>
      let applied := applyTaskResult plan config env task result runner
      -- cancelling the futures not yet started discards the queue
      if stopsRun task result then
        failRun plan (pipelineExecutionError plan task result) applied
      else
        ⟨waveControl graph stage rest ready
          { pool with finished := pool.finished.eraseIdx index }, applied⟩

def gateOpen (stage : PipelineStage) (state : ExecutionState) :
    Except String Bool :=
  match stage.condition with
  | none => .ok true
  | some condition =>
    if condition = "" then .ok true
    else env.evaluateCondition condition state.taskResults

/-- Both condition branches of `_execute_stage` skip alike. -/
def skipStage (stage : PipelineStage) (runner : RunnerState) : RunnerState :=
  stage.tasks.foldl (fun current task =>
      if current.state.taskStatus task.id = .pending then
        markSkipped task.id current
      else current)
    runner

/-- Execute one stage according to its mode. -/
def executeStage (stage : PipelineStage) (rest : List PipelineStage)
    (runner : RunnerState) : Machine :=
  match DependencyGraph.build plan.pipeline config.dependencies with
  | .error error => failRun plan error.text runner
  | .ok graph =>
    match gateOpen env stage runner.state with
    | .error error => failRun plan error runner
    | .ok false => endStage plan config env rest (skipStage stage runner)
    | .ok true =>
      if stage.mode = .parallel then
        if maxWorkersOf config ≤ 0 then
          failRun plan "ValueError: max_workers must be greater than 0" runner
        else ⟨.waves graph stage rest, runner⟩
      else ⟨.sequential graph 0 stage.tasks rest, runner⟩

def Machine.step (machine : Machine) (choice : WaveChoice) : Machine :=
  match machine.control with
  | .stages [] => completeRun plan machine.runner
  | .stages (stage :: rest) => executeStage plan config env stage rest machine.runner
  | .sequential _ _ [] rest => endStage plan config env rest machine.runner
  | .sequential graph index (task :: tasks) rest =>
    executeSequential plan config env graph index task tasks rest machine.runner
  | .waves graph stage rest =>
    executeParallel plan config env graph stage rest machine.runner
  | .wave graph stage rest ready pool =>
    executeWave plan config env graph stage rest ready pool machine.runner choice
  | .halted => machine

def Machine.pendingOutside (stage : PipelineStage) (ready : List String)
    (state : ExecutionState) : Nat :=
  stage.tasks.countP fun task =>
    decide (task.id ∉ ready) && decide (state.taskStatus task.id = .pending)

def stagesWork (stages : List PipelineStage) : Nat :=
  1 + (stages.map fun stage => 5 * stage.tasks.length + 3).sum

/-- A bound on the steps left before the machine halts. -/
def Machine.work (machine : Machine) : Nat :=
  match machine.control with
  | .stages remaining => stagesWork remaining
  | .sequential _ _ tasks rest => tasks.length + 1 + stagesWork rest
  | .waves _ stage rest =>
    5 * Machine.pendingOutside stage [] machine.runner.state + 1 + stagesWork rest
  | .wave _ stage rest ready pool =>
    5 * Machine.pendingOutside stage ready machine.runner.state +
      3 * pool.queued.length + 2 * pool.running.length +
      pool.finished.length + 2 + stagesWork rest
  | .halted => 0

/-- The state a run starts in, fresh or restored from a checkpoint. -/
def Machine.start (checkpoint : Option Checkpoint) (shared : RunnerShared) :
    Except String Machine :=
  let metrics : ExecutionMetrics :=
    { tasksTotal := plan.pipeline.allTasks.length }
  let begun : RunnerShared :=
    { shared with log := shared.log ++ [.runStarted plan.id checkpoint] }
  match checkpoint with
  | some checkpoint =>
    let restart :=
      if checkpoint.state.status ≠ .running then
        transitionPipeline checkpoint.state.status .running
      else .ok .running
    match restart with
    | .error error => .error error
    | .ok status =>
      .ok { control := .stages (plan.pipeline.stages.drop checkpoint.stageIndex)
            runner :=
              { begun with
                state := { checkpoint.state with status := status }
                metrics := metrics
                stageIndex := checkpoint.stageIndex } }
  | none =>
    .ok { control := .stages plan.pipeline.stages
          runner :=
            { begun with
              state :=
                { pipelineId := plan.pipeline.id
                  planId := plan.id
                  status := .running
                  taskStatuses := OrderedDict.empty.setAll (plan.pipeline.allTasks.map fun task =>
                      (task.id, TaskStatus.pending)) }
              metrics := metrics
              stageIndex := 0 } }

/-- Pool choices of a run: the given ones, then enough to drain the pool. -/
def schedule (choices : List WaveChoice) (machine : Machine) : List WaveChoice :=
  choices ++ List.replicate (machine.work + 1) .begin

def Machine.run (machine : Machine) (choices : List WaveChoice) : Machine :=
  runInputs (Machine.step plan config env) machine (schedule choices machine)

/-- `PipelineRunner.run`; an error is the exception of the restart. -/
def runPipeline (choices : List WaveChoice) (checkpoint : Option Checkpoint)
    (shared : RunnerShared) : Except String (PipelineResult × RunnerShared) :=
  match Machine.start plan checkpoint shared with
  | .error error => .error error
  | .ok machine =>
    let final := (Machine.run plan config env machine choices).runner
    .ok ({ state := final.state, metrics := final.metrics }, final.toRunnerShared)

end Runner

end AiEnterpriseOs.Orchestration
