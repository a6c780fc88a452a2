import AiEnterpriseOs.Library.OrderedDict
import AiEnterpriseOs.PyValue

/-!
# Orchestration models

Pipelines, plans, execution state, checkpoints and rollback plans. Generated
uuid identifiers of checkpoints are fresh numbers; clock readings are
integers. Display fields that no modelled function reads are left out.
-/

namespace AiEnterpriseOs.Orchestration

open Library

abbrev Time := Int

inductive ScheduleMode where
  | immediate
  | scheduled
  | recurring
  | dependency
  deriving DecidableEq, Repr

inductive StageMode where
  | sequential
  | parallel
  | conditional
  deriving DecidableEq, Repr

inductive TaskStatus where
  | pending
  | ready
  | running
  | completed
  | failed
  | skipped
  | cancelled
  deriving DecidableEq, Repr

inductive PipelineStatus where
  | pending
  | scheduled
  | running
  | completed
  | failed
  | cancelled
  | paused
  | recovering
  deriving DecidableEq, Repr

inductive RecoveryAction where
  | checkpointRestore
  | rollback
  | retry
  | fail
  deriving DecidableEq, Repr

/-- Policy of a task whose dispatch failed. -/
inductive OnFailure where
  | fail
  | skip
  | continue
  deriving DecidableEq, Repr

/-- A resolved dependency; `type` is "required" or "optional". -/
structure TaskDependency where
  taskId : String
  type : String := "required"
  deriving DecidableEq

structure PipelineTask where
  id : String
  dependencies : List String := []
  rollbackAction : Option String := none
  rollbackParams : PyValue := .dict []
  onFailure : OnFailure := .fail

structure PipelineStage where
  id : String
  mode : StageMode := .sequential
  tasks : List PipelineTask := []
  condition : Option String := none

structure Pipeline where
  id : String
  name : String := ""
  stages : List PipelineStage := []

def Pipeline.allTasks (pipeline : Pipeline) : List PipelineTask :=
  pipeline.stages.flatMap (fun stage => stage.tasks)

def Pipeline.taskMap (pipeline : Pipeline) : OrderedDict String PipelineTask :=
  OrderedDict.empty.setAll (pipeline.allTasks.map fun task => (task.id, task))

structure OrchestrationPlan where
  id : String
  name : String := ""
  pipeline : Pipeline
  scheduleMode : ScheduleMode := .immediate
  scheduledAt : Option Time := none
  intervalSeconds : Option Time := none
  maxRuns : Int := 0
  dependsOn : List String := []
  runCount : Int := 0

abbrev CheckpointId := Nat

structure ExecutionState where
  pipelineId : String
  planId : String
  status : PipelineStatus := .pending
  taskStatuses : OrderedDict String TaskStatus := OrderedDict.empty
  taskResults : OrderedDict String PyValue := OrderedDict.empty
  taskErrors : OrderedDict String String := OrderedDict.empty
  attempts : OrderedDict String Nat := OrderedDict.empty
  error : Option String := none
  recoveredFrom : Option CheckpointId := none
  metadata : OrderedDict String PyValue := OrderedDict.empty

/-- `state.task_statuses.get(task_id, TaskStatus.PENDING)`. -/
def ExecutionState.taskStatus (state : ExecutionState) (taskId : String) :
    TaskStatus :=
  state.taskStatuses.getD taskId .pending

/-- The set of ids whose stored status is the given one. -/
def ExecutionState.tasksWith (state : ExecutionState) (status : TaskStatus) :
    List String :=
  (state.taskStatuses.entries.filter fun entry => entry.2 = status).map Prod.fst

theorem ExecutionState.mem_tasks_with (state : ExecutionState)
    {status : TaskStatus} (started : status ≠ .pending) (taskId : String) :
    taskId ∈ state.tasksWith status ↔ state.taskStatus taskId = status := by
  have stored : taskId ∈ state.tasksWith status ↔ state.taskStatuses.get? taskId = some status := by
    rw [OrderedDict.get_eq_some_iff]
    simp [tasksWith]
  rw [stored, taskStatus, OrderedDict.getD]
  cases state.taskStatuses.get? taskId with
  | none => simp [started.symm]
  | some present => simp

structure Checkpoint where
  id : CheckpointId
  pipelineId : String
  planId : String
  state : ExecutionState
  stageIndex : Nat := 0
  taskIndex : Nat := 0
  createdAt : Time

inductive StepStatus where
  | pending
  | executed
  | failed
  deriving DecidableEq, Repr

structure RollbackStep where
  taskId : String
  action : String
  status : StepStatus := .pending
  error : Option String := none
  deriving DecidableEq

inductive RollbackStatus where
  | pending
  | completed
  | failed
  deriving DecidableEq, Repr

structure RollbackPlan where
  pipelineId : String
  planId : String
  reason : String
  steps : List RollbackStep := []
  status : RollbackStatus := .pending
  deriving DecidableEq

structure RecoveryResult where
  planId : String
  success : Bool := false
  actionsTaken : List RecoveryAction := []
  checkpointId : Option CheckpointId := none
  rolledBack : List String := []
  deriving DecidableEq

structure ExecutionMetrics where
  tasksTotal : Nat := 0
  tasksCompleted : Nat := 0
  tasksFailed : Nat := 0
  tasksSkipped : Nat := 0
  retriesTotal : Int := 0
  checkpointsCreated : Nat := 0
  deriving DecidableEq

inductive TaskResultStatus where
  | completed
  | failed
  | skipped
  deriving DecidableEq, Repr

/-- Outcome of executing a single pipeline task. -/
structure TaskResult where
  status : TaskResultStatus := .failed
  output : PyValue := .none
  error : Option String := none
  attempts : Int := 1
  retried : Bool := false

end AiEnterpriseOs.Orchestration
