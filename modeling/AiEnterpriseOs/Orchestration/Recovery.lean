import AiEnterpriseOs.Orchestration.PipelineLedger

/-!
# Recovery for failed or interrupted pipeline runs

The configured action sequence: restore the latest checkpoint, roll back
completed tasks, retry.
-/

namespace AiEnterpriseOs.Orchestration

open Library

structure RecoveryConfig where
  enabled : Bool := true
  autoRecover : Bool := false
  maxRecoveryAttempts : Int := 3
  strategy : String := "checkpoint_first"
  actionSequence : List String := ["checkpoint_restore", "rollback", "retry"]
  restoreLatestCheckpoint : Bool := true
  retryFailedTasks : Bool := true
  deriving DecidableEq

/-- `RecoveryAction(action)`; `none` where the enumeration raises. -/
def RecoveryAction.parse (action : String) : Option RecoveryAction :=
  if action = "checkpoint_restore" then some .checkpointRestore
  else if action = "rollback" then some .rollback
  else if action = "retry" then some .retry
  else if action = "fail" then some .fail
  else none

/-- The sequence after the strategy has overridden it. -/
def RecoveryConfig.sequence (config : RecoveryConfig) : List String :=
  if config.strategy = "retry_only" then ["retry"]
  else if config.strategy = "rollback_then_retry" then ["rollback", "retry"]
  else config.actionSequence

/-- Run the undo handlers and log each executed step. -/
def RunnerShared.executeRollback (shared : RunnerShared)
    (plan : OrchestrationPlan) (reason : String) (undo : UndoFunction) :
    Option (RunnerShared × RollbackPlan) :=
  match shared.rollbackManager.executeRollback plan reason undo with
  | none => none
  | some (manager, finished) =>
    some ({ shared with
      rollbackManager := manager
      log := shared.log ++ finished.steps.map fun step =>
        .undone plan.id step.taskId step.action step.status }, finished)

structure RecoveryProgress where
  shared : RunnerShared
  result : RecoveryResult
  checkpoint : Option Checkpoint := none

section Recover

variable (plan : OrchestrationPlan) (config : RecoveryConfig)

def restoreLatest (progress : RecoveryProgress) : RecoveryProgress :=
  match progress.shared.checkpointManager.latest plan.pipeline.id with
  | none => { progress with checkpoint := none }
  | some checkpoint =>
    { progress with
      result := { progress.result with
        actionsTaken := progress.result.actionsTaken ++ [.checkpointRestore]
        checkpointId := some checkpoint.id }
      checkpoint := some checkpoint }

def rollbackCompleted (reason : String) (undo : UndoFunction)
    (progress : RecoveryProgress) : RecoveryProgress :=
  match progress.shared.executeRollback plan reason undo with
  | none => progress
  | some (shared, finished) =>
    { progress with
      shared := shared
      result := { progress.result with
        actionsTaken := progress.result.actionsTaken ++ [.rollback]
        rolledBack := finished.steps.map fun step => step.taskId } }

def prepareRetry (progress : RecoveryProgress) : RecoveryProgress :=
  if config.retryFailedTasks then
    { progress with
      result := { progress.result with
        actionsTaken := progress.result.actionsTaken ++ [.retry] } }
  else progress

/-- The loop over the action sequence; the flag is false when an action is
not a known one, where the source raises with the earlier actions done. -/
def recoverActions (reason : String) (undo : UndoFunction) :
    List String → RecoveryProgress → RecoveryProgress × Bool
  | [], progress => (progress, true)
  | action :: rest, progress =>
    match RecoveryAction.parse action with
    | none => (progress, false)
    | some .checkpointRestore =>
      recoverActions reason undo rest
        (if config.restoreLatestCheckpoint then restoreLatest plan progress
        else progress)
    | some .rollback =>
      recoverActions reason undo rest (rollbackCompleted plan reason undo progress)
    | some .retry =>
      recoverActions reason undo rest (prepareRetry config progress)
    | some .fail => recoverActions reason undo rest progress

/-- Attempt recovery for a failed plan run. -/
def recover (reason : String) (undo : UndoFunction) (shared : RunnerShared) :
    RecoveryProgress × Bool :=
  let start : RecoveryProgress :=
    { shared := shared, result := { planId := plan.id } }
  if config.enabled then
    match recoverActions plan config reason undo config.sequence start with
    | (progress, false) => (progress, false)
    | (progress, true) =>
      ({ progress with
        result := { progress.result with
          success := !progress.result.actionsTaken.isEmpty ||
            progress.checkpoint.isSome } }, true)
  else (start, false)

end Recover

end AiEnterpriseOs.Orchestration
