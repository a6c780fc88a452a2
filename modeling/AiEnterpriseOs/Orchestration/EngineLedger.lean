import AiEnterpriseOs.Orchestration.Engine
import AiEnterpriseOs.Orchestration.PipelineCompletion
import AiEnterpriseOs.Orchestration.PipelineResume

/-!
# What an engine step does to the managers and the call log

A step executes a run, or calls the undo handlers and possibly executes a run
after them, or leaves the log as it was.
-/

namespace AiEnterpriseOs.Orchestration

open Library

/-- The state that a run carries its identity from. -/
def originState (plan : OrchestrationPlan) : Option Checkpoint → ExecutionState
  | none => { pipelineId := plan.pipeline.id, planId := plan.id }
  | some checkpoint => checkpoint.state

/-- The ledger of a whole run, from the shared managers before it to those
after it. -/
structure RunLedger (plan : OrchestrationPlan) (checkpoint : Option Checkpoint)
    (before after : RunnerShared) (state : ExecutionState)
    (effects : List Effect) : Prop where
  log : after.log = before.log ++ .runStarted plan.id checkpoint :: effects
  identity : SameIdentity (originState plan checkpoint) state
  completions : Completions (originState plan checkpoint) effects state
  written : ∀ written, Effect.checkpointed written ∈ effects →
    written.planId = plan.id ∧ written.pipelineId = plan.pipeline.id ∧
      SameIdentity (originState plan checkpoint) written.state
  held : ∀ held, after.checkpointManager.Holds held →
    before.checkpointManager.Holds held ∨ Effect.checkpointed held ∈ effects
  handlers : ∀ taskId, taskId ∈ after.rollbackManager.order ↔
    taskId ∈ before.rollbackManager.order ∨ Effect.registered plan.id taskId ∈ effects
  owner : ∀ planId taskId, Effect.registered planId taskId ∈ effects → planId = plan.id
  undone : ∀ planId taskId action status, Effect.undone planId taskId action status ∉ effects
  started : ∀ planId resumed, Effect.runStarted planId resumed ∉ effects

theorem start_completed {plan : OrchestrationPlan} {checkpoint : Option Checkpoint}
    {shared : RunnerShared} {machine : Machine}
    (started : Machine.start plan checkpoint shared = .ok machine)
    (taskId : String) :
    (originState plan checkpoint).taskStatus taskId = .completed ↔
      machine.runner.state.taskStatus taskId = .completed := by
  cases checkpoint with
  | none =>
    have pending := fresh_status plan shared started taskId
    have origin : (originState plan none).taskStatus taskId = .pending := rfl
    rw [pending, origin]
  | some checkpoint =>
    have statuses := (start_resumed started).2.2.2.2
    simp only [originState, ExecutionState.taskStatus, statuses]

theorem start_shared {plan : OrchestrationPlan} {checkpoint : Option Checkpoint}
    {shared : RunnerShared} {machine : Machine}
    (started : Machine.start plan checkpoint shared = .ok machine) :
    machine.runner.log = shared.log ++ [.runStarted plan.id checkpoint] ∧
      machine.runner.checkpointManager = shared.checkpointManager ∧
      machine.runner.rollbackManager = shared.rollbackManager ∧
      SameIdentity (originState plan checkpoint) machine.runner.state := by
  cases checkpoint with
  | none =>
    cases started
    exact ⟨rfl, rfl, rfl, rfl, rfl, rfl, rfl⟩
  | some checkpoint =>
    unfold Machine.start at started
    simp only at started
    split at started
    · cases started
    · cases started
      exact ⟨rfl, rfl, rfl, rfl, rfl, rfl, rfl⟩

theorem run_pipeline_ledger {plan : OrchestrationPlan} {config : RunnerConfig}
    {env : RunEnv} {choices : List WaveChoice} {checkpoint : Option Checkpoint}
    {before after : RunnerShared} {result : PipelineResult}
    (ran : runPipeline plan config env choices checkpoint before = .ok (result, after)) :
    ∃ effects, RunLedger plan checkpoint before after result.state effects := by
  unfold runPipeline at ran
  split at ran
  · cases ran
  next machine started =>
    obtain ⟨logEq, checkpoints, rollback, identity⟩ := start_shared started
    obtain ⟨effects, ledger⟩ := run_ledger plan config env machine choices
    obtain ⟨calls, run⟩ := run_completion plan config env started choices
    have sameCalls : calls = effects := by
      have logs := run.log
      rw [ledger.log, logEq] at logs
      exact (List.append_cancel_left logs).symm
    subst sameCalls
    cases ran
    refine ⟨calls, ?_⟩
    constructor
    · rw [ledger.log, logEq, List.append_assoc]
      rfl
    · exact identity.trans ledger.identity
    · exact run.completions.congr_origin (start_completed started)
    · intro written member
      obtain ⟨planEq, pipelineEq, same⟩ := ledger.written written member
      exact ⟨planEq, pipelineEq, identity.trans same⟩
    · intro held holds
      rw [← checkpoints]
      exact ledger.held held holds
    · intro taskId
      rw [← rollback]
      exact ledger.handlers taskId
    · exact ledger.owner
    · exact ledger.undone
    · exact ledger.started

theorem execute_cases (config : EngineConfig) (plan : OrchestrationPlan)
    (checkpoint : Option Checkpoint) (execution : Execution) (attempts : Nat)
    (recovery : Option RecoveryResult) (due : List OrchestrationPlan)
    (engine : Engine) :
    Engine.execute config plan checkpoint execution attempts recovery due engine =
        { engine with control := .ready due } ∨
      ∃ attempt shared effects,
        Engine.execute config plan checkpoint execution attempts recovery due engine =
          { engine with
            shared := shared
            control := .attempted attempt due } ∧
        attempt.plan = plan ∧ attempt.attempts = attempts ∧
        RunLedger plan checkpoint engine.shared shared attempt.state effects := by
  unfold Engine.execute
  split
  · exact Or.inl rfl
  next result shared ran =>
    obtain ⟨effects, ledger⟩ := run_pipeline_ledger ran
    exact Or.inr ⟨_, shared, effects, rfl, rfl, rfl, ledger⟩

/-- What undo handlers a rollback ran, and the registry it left. -/
structure RollbackLedger (plan : OrchestrationPlan) (before after : RunnerShared)
    (effects : List Effect) : Prop where
  log : after.log = before.log ++ effects
  checkpoints : after.checkpointManager = before.checkpointManager
  handled : ∀ taskId, taskId ∈ before.rollbackManager.order ↔
    ∃ action status, Effect.undone plan.id taskId action status ∈ effects
  only : ∀ effect ∈ effects, ∃ taskId action status, effect = .undone plan.id taskId action status
  cleared : after.rollbackManager.order = []

theorem execute_rollback_ledger {plan : OrchestrationPlan} {reason : String}
    {undo : UndoFunction} {before after : RunnerShared}
    {finished : RollbackPlan}
    (executed : before.executeRollback plan reason undo = some (after, finished)) :
    ∃ effects, RollbackLedger plan before after effects ∧ effects ≠ [] := by
  unfold RunnerShared.executeRollback at executed
  split at executed
  · cases executed
  next manager done ran =>
    cases executed
    obtain ⟨steps, cleared⟩ := RollbackManager.execute_rollback_steps ran
    refine ⟨_, ⟨rfl, rfl, ?_, ?_, cleared⟩, ?_⟩
    · intro taskId
      rw [← List.mem_reverse, ← steps, List.mem_map]
      constructor
      · rintro ⟨step, member, rfl⟩
        exact ⟨step.action, step.status, List.mem_map.mpr ⟨step, member, rfl⟩⟩
      · rintro ⟨action, status, member⟩
        obtain ⟨step, stepMember, same⟩ := List.mem_map.mp member
        cases same
        exact ⟨step, stepMember, rfl⟩
    · intro effect member
      obtain ⟨step, _, same⟩ := List.mem_map.mp member
      exact ⟨step.taskId, step.action, step.status, same.symm⟩
    · intro none
      have stepsNil : finished.steps = [] := List.map_eq_nil_iff.mp none
      rw [stepsNil] at steps
      have orderNil : before.rollbackManager.order = [] :=
        List.reverse_eq_nil_iff.mp steps.symm
      unfold RollbackManager.executeRollback at ran
      split at ran
      next handlers =>
        have keysNil := before.rollbackManager.aligned
        rw [orderNil] at keysNil
        have entriesNil : before.rollbackManager.handlers.entries = [] :=
          List.map_eq_nil_iff.mp keysNil.symm
        simp [RollbackManager.hasHandlers, entriesNil] at handlers
      · cases ran

section Recovery

variable (plan : OrchestrationPlan) (config : RecoveryConfig)

/-- The actions of the sequence that are reached: those before the first
unknown one. -/
def RecoveryConfig.reached (config : RecoveryConfig) : List String :=
  config.sequence.takeWhile fun action => (RecoveryAction.parse action).isSome

/-- What a recovery did so far. -/
structure RecoverLedger (before : RunnerShared) (progress : RecoveryProgress)
    (effects : List Effect) : Prop where
  rollback : effects = [] ∧ progress.shared.log = before.log ∧
      progress.shared.checkpointManager = before.checkpointManager ∧
      progress.shared.rollbackManager.order = before.rollbackManager.order ∨
    RollbackLedger plan before progress.shared effects
  checkpoint : progress.checkpoint = none ∨
    progress.checkpoint = before.checkpointManager.latest plan.pipeline.id

variable {plan config}

theorem RecoverLedger.log {before : RunnerShared} {progress : RecoveryProgress}
    {effects : List Effect} (ledger : RecoverLedger plan before progress effects) :
    progress.shared.log = before.log ++ effects ∧
      progress.shared.checkpointManager = before.checkpointManager := by
  rcases ledger.rollback with ⟨none, log, checkpoints, _⟩ | rolled
  · exact ⟨by rw [none, log, List.append_nil], checkpoints⟩
  · exact ⟨rolled.log, rolled.checkpoints⟩

theorem restore_latest_ledger {before : RunnerShared}
    {progress : RecoveryProgress} {effects : List Effect}
    (ledger : RecoverLedger plan before progress effects) :
    RecoverLedger plan before (restoreLatest plan progress) effects := by
  have checkpoints := ledger.log.2
  unfold restoreLatest
  split
  · exact ⟨ledger.rollback, Or.inl rfl⟩
  next checkpoint found =>
    refine ⟨ledger.rollback, Or.inr ?_⟩
    rw [← checkpoints, found]

theorem rollback_completed_ledger (reason : String) (undo : UndoFunction)
    {before : RunnerShared} {progress : RecoveryProgress} {effects : List Effect}
    (ledger : RecoverLedger plan before progress effects) :
    ∃ later, RecoverLedger plan before (rollbackCompleted plan reason undo progress) later := by
  unfold rollbackCompleted
  split
  · exact ⟨effects, ledger⟩
  next shared finished executed =>
    obtain ⟨undone, rolled, nonempty⟩ := execute_rollback_ledger executed
    rcases ledger.rollback with ⟨none, log, checkpoints, order⟩ | earlier
    · refine ⟨undone, Or.inr ?_, ledger.checkpoint⟩
      constructor
      · rw [rolled.log, log]
      · exact rolled.checkpoints.trans checkpoints
      · intro taskId
        rw [← order]
        exact rolled.handled taskId
      · exact rolled.only
      · exact rolled.cleared
    · -- an emptied registry has no handlers for a second rollback
      obtain ⟨effect, member⟩ := List.exists_mem_of_ne_nil undone nonempty
      obtain ⟨taskId, action, status, same⟩ := rolled.only effect member
      rw [same] at member
      have handled := (rolled.handled taskId).mpr ⟨action, status, member⟩
      rw [earlier.cleared] at handled
      cases handled

theorem recover_actions_ledger (config : RecoveryConfig) (reason : String)
    (undo : UndoFunction) (actions : List String) {before : RunnerShared}
    {progress : RecoveryProgress} {effects : List Effect}
    (ledger : RecoverLedger plan before progress effects) :
    ∃ later, RecoverLedger plan before
      (recoverActions plan config reason undo actions progress).1 later := by
  induction actions generalizing progress effects with
  | nil => exact ⟨effects, ledger⟩
  | cons action rest ih =>
    unfold recoverActions
    split
    · exact ⟨effects, ledger⟩
    · apply ih
      split
      · exact restore_latest_ledger ledger
      · exact ledger
    · obtain ⟨later, rolled⟩ := rollback_completed_ledger reason undo ledger
      exact ih rolled
    · apply ih
      unfold prepareRetry
      split
      · exact ⟨ledger.rollback, ledger.checkpoint⟩
      · exact ledger
    · exact ih ledger

theorem recover_ledger (plan : OrchestrationPlan) (config : RecoveryConfig)
    (reason : String) (undo : UndoFunction) (shared : RunnerShared) :
    ∃ effects, RecoverLedger plan shared (recover plan config reason undo shared).1 effects := by
  have start : RecoverLedger plan shared { shared := shared, result := { planId := plan.id } } [] :=
    ⟨Or.inl ⟨rfl, rfl, rfl, rfl⟩, Or.inl rfl⟩
  unfold recover
  simp only
  split
  · obtain ⟨effects, ledger⟩ := recover_actions_ledger config reason undo config.sequence start
    split
    next progress stopped =>
      rw [stopped] at ledger
      exact ⟨effects, ledger⟩
    next progress finished =>
      rw [finished] at ledger
      exact ⟨effects, ledger.rollback, ledger.checkpoint⟩
  · exact ⟨[], start⟩

theorem no_handlers_left {manager : RollbackManager}
    (none : manager.hasHandlers = false) : manager.order = [] := by
  have entriesNil : manager.handlers.entries = [] := by
    simpa [RollbackManager.hasHandlers] using none
  rw [manager.aligned, OrderedDict.keys, entriesNil]
  rfl

theorem rollback_completed_empties (reason : String) (undo : UndoFunction)
    (progress : RecoveryProgress) :
    (rollbackCompleted plan reason undo progress).shared.rollbackManager.order = [] := by
  unfold rollbackCompleted
  split
  next none =>
    apply no_handlers_left
    unfold RunnerShared.executeRollback RollbackManager.executeRollback at none
    cases handlers : progress.shared.rollbackManager.hasHandlers with
    | false => rfl
    | true => simp [handlers] at none
  next shared finished executed =>
    obtain ⟨effects, rolled, _⟩ := execute_rollback_ledger executed
    exact rolled.cleared

theorem recover_actions_stay_empty (config : RecoveryConfig) (reason : String)
    (undo : UndoFunction) (actions : List String) {progress : RecoveryProgress}
    (empty : progress.shared.rollbackManager.order = []) :
    (recoverActions plan config reason undo actions
      progress).1.shared.rollbackManager.order = [] := by
  induction actions generalizing progress with
  | nil => exact empty
  | cons action rest ih =>
    unfold recoverActions
    split
    · exact empty
    · apply ih
      split
      · unfold restoreLatest
        split <;> exact empty
      · exact empty
    · exact ih (rollback_completed_empties reason undo progress)
    · apply ih
      unfold prepareRetry
      split <;> exact empty
    · exact ih empty

theorem recover_actions_empties (plan : OrchestrationPlan)
    (config : RecoveryConfig) (reason : String)
    (undo : UndoFunction) (actions : List String) (progress : RecoveryProgress)
    (reached : "rollback" ∈ actions.takeWhile fun action => (RecoveryAction.parse action).isSome) :
    (recoverActions plan config reason undo actions
      progress).1.shared.rollbackManager.order = [] := by
  induction actions generalizing progress with
  | nil => cases reached
  | cons action rest ih =>
    rw [List.takeWhile_cons] at reached
    unfold recoverActions
    cases known : RecoveryAction.parse action with
    | none =>
      rw [known] at reached
      cases reached
    | some parsed =>
      rw [known] at reached
      have later : parsed ≠ .rollback → "rollback" ∈
          rest.takeWhile fun action => (RecoveryAction.parse action).isSome := by
        intro other
        rcases List.mem_cons.mp reached with here | there
        · rw [← here] at known
          have isRollback : parsed = .rollback := by
            have self : RecoveryAction.parse "rollback" = some .rollback := by
              decide
            rw [self] at known
            exact (Option.some.inj known).symm
          exact absurd isRollback other
        · exact there
      cases parsed with
      | checkpointRestore => exact ih _ (later (by decide))
      | rollback =>
        apply recover_actions_stay_empty
        exact rollback_completed_empties reason undo progress
      | retry => exact ih _ (later (by decide))
      | fail => exact ih _ (later (by decide))

theorem recover_empties (plan : OrchestrationPlan) {config : RecoveryConfig}
    (reason : String) (undo : UndoFunction)
    (shared : RunnerShared) (enabled : config.enabled = true)
    (reached : "rollback" ∈ config.reached) :
    (recover plan config reason undo shared).1.shared.rollbackManager.order = [] := by
  have empties := recover_actions_empties plan config reason undo config.sequence
    { shared := shared, result := { planId := plan.id } } reached
  unfold recover
  simp only [enabled, if_true]
  split
  next progress stopped =>
    rw [stopped] at empties
    exact empties
  next progress finished =>
    rw [finished] at empties
    exact empties

end Recovery

section Steps

variable (config : EngineConfig)

def Engine.isAttempted (engine : Engine) : Prop :=
  ∃ attempt due, engine.control = .attempted attempt due

/-- A run that the step executed, from the shared managers it started with. -/
structure RanStep (plan : OrchestrationPlan) (checkpoint : Option Checkpoint)
    (attempts : Nat) (before : RunnerShared) (after : Engine)
    (attempt : Attempt) (effects : List Effect) : Prop where
  ledger : RunLedger plan checkpoint before after.shared attempt.state effects
  plan : attempt.plan = plan
  attempts : attempt.attempts = attempts
  control : ∃ due, after.control = .attempted attempt due

/-- One iteration of the auto-recovery loop: a recovery, and then the next
attempt or the end of the run. -/
inductive RecoveryStep (engine : Engine) (input : EngineInput) (after : Engine) : Prop
  | recovered (failed next : Attempt) (due : List OrchestrationPlan)
      (progress : RecoveryProgress) (effects later : List Effect)
      (control : engine.control = .attempted failed due)
      (recovers : Engine.shouldRecover config failed = true)
      (result : progress = (recover failed.plan config.recovery
        (Engine.recoveryReason (failed.attempts + 1)) input.execution.undo
        engine.shared).1)
      (ledger : RecoverLedger failed.plan engine.shared progress effects)
      (ran : RanStep failed.plan progress.checkpoint (failed.attempts + 1)
        progress.shared after next later)
  | unrecovered (failed : Attempt) (due : List OrchestrationPlan)
      (progress : RecoveryProgress) (effects : List Effect)
      (control : engine.control = .attempted failed due)
      (recovers : Engine.shouldRecover config failed = true)
      (result : progress = (recover failed.plan config.recovery
        (Engine.recoveryReason (failed.attempts + 1)) input.execution.undo
        engine.shared).1)
      (ledger : RecoverLedger failed.plan engine.shared progress effects)
      (same : after.shared = progress.shared)
      (ended : ¬after.isAttempted)

/-- How a step changes what the runs share. -/
inductive EngineStep (engine : Engine) (input : EngineInput) (after : Engine) : Prop
  | settled (same : after.shared = engine.shared) (ended : ¬after.isAttempted)
  | missed (checkpointId : CheckpointId)
      (same : after.shared = { engine.shared with
        checkpointManager :=
          (engine.shared.checkpointManager.restore checkpointId).1 })
      (ended : ¬after.isAttempted)
  | fresh (plan : OrchestrationPlan) (attempt : Attempt) (effects : List Effect)
      (ran : RanStep plan none 0 engine.shared after attempt effects)
  | named (planId : String) (checkpointId : CheckpointId)
      (plan : OrchestrationPlan) (checkpoint : Checkpoint) (attempt : Attempt)
      (effects : List Effect)
      (idle : engine.control = .ready [])
      (op : input.op = .resume planId (some checkpointId))
      (known : engine.getPlan planId = some plan)
      (found : (engine.shared.checkpointManager.restore checkpointId).2 = some checkpoint)
      (ran : RanStep plan (some checkpoint) 0
        { engine.shared with
          checkpointManager :=
            (engine.shared.checkpointManager.restore checkpointId).1 }
        after attempt effects)
  | newest (planId : String) (plan : OrchestrationPlan) (checkpoint : Checkpoint)
      (attempt : Attempt) (effects : List Effect)
      (idle : engine.control = .ready [])
      (op : input.op = .resume planId none)
      (known : engine.getPlan planId = some plan)
      (found : engine.shared.checkpointManager.latest plan.pipeline.id = some checkpoint)
      (ran : RanStep plan (some checkpoint) 0 engine.shared after attempt effects)
  | rolledBack (planId reason : String) (plan : OrchestrationPlan) (effects : List Effect)
      (idle : engine.control = .ready [])
      (op : input.op = .rollback planId reason)
      (known : engine.getPlan planId = some plan)
      (rolled : RollbackLedger plan engine.shared after.shared effects)
      (ended : ¬after.isAttempted)
  | recovery (step : RecoveryStep config engine input after)

theorem not_attempted_of_ready {engine : Engine} {due : List OrchestrationPlan}
    (ready : engine.control = .ready due) : ¬engine.isAttempted := by
  rintro ⟨attempt, other, attempted⟩
  rw [ready] at attempted
  cases attempted

theorem run_cases (plan : OrchestrationPlan) (checkpoint : Option Checkpoint)
    (execution : Execution) (due : List OrchestrationPlan) (engine : Engine) :
    (Engine.run config plan checkpoint execution due engine).shared = engine.shared ∧
        ¬(Engine.run config plan checkpoint execution due engine).isAttempted ∨
      ∃ attempt effects, RanStep plan checkpoint 0 engine.shared
        (Engine.run config plan checkpoint execution due engine) attempt effects := by
  unfold Engine.run
  simp only
  rcases execute_cases config plan checkpoint execution 0 none due
      { engine.passTime execution.delay with
        scheduler := (engine.passTime execution.delay).scheduler.markRun plan.id
          (engine.passTime execution.delay).clock } with
    raised | ⟨attempt, shared, effects, executed, planEq, attemptsEq, ledger⟩
  · left
    rw [raised]
    exact ⟨rfl, not_attempted_of_ready rfl⟩
  · right
    rw [executed]
    exact ⟨attempt, effects, ledger, planEq, attemptsEq, due, rfl⟩

variable {config}

theorem run_fresh_step (plan : OrchestrationPlan) (input : EngineInput) (engine : Engine) :
    EngineStep config engine input (Engine.run config plan none input.execution []
      (engine.passTime input.elapsed)) := by
  rcases run_cases config plan none input.execution []
      (engine.passTime input.elapsed) with ⟨same, ended⟩ | ⟨attempt, effects, ran⟩
  · exact .settled same ended
  · exact .fresh plan attempt effects ran

theorem call_step (input : EngineInput) (engine : Engine) (idle : engine.control = .ready []) :
    EngineStep config engine input (Engine.call config input.op input.execution
        (engine.passTime input.elapsed)) := by
  have ready : ∀ after : Engine, after.shared = engine.shared →
      after.control = engine.control → EngineStep config engine input after := by
    intro after same control
    rw [idle] at control
    exact .settled same (not_attempted_of_ready control)
  unfold Engine.call
  split
  next plan op =>
    split
    · exact ready _ rfl rfl
    · exact ready _ rfl rfl
  next planId op =>
    split
    · exact ready _ rfl rfl
    next plan known =>
      split
      · exact run_fresh_step plan input engine
      · exact ready _ rfl rfl
  next planId checkpointId op =>
    split
    · exact ready _ rfl rfl
    next plan known =>
      cases checkpointId with
      | none =>
        simp only [Engine.findCheckpoint]
        split
        next shared absent =>
          rw [Prod.mk.injEq] at absent
          obtain ⟨same, absent⟩ := absent
          subst same
          exact ready _ rfl rfl
        next shared checkpoint found =>
          rw [Prod.mk.injEq] at found
          obtain ⟨same, found⟩ := found
          subst same
          rcases run_cases config plan (some checkpoint)
              input.execution [] (engine.passTime input.elapsed) with
            ⟨same, ended⟩ | ⟨attempt, effects, ran⟩
          · exact .settled same ended
          · exact .newest planId plan checkpoint attempt effects idle op known found ran
      | some checkpointId =>
        simp only [Engine.findCheckpoint]
        split
        next shared absent =>
          rw [Prod.mk.injEq] at absent
          obtain ⟨same, absent⟩ := absent
          subst same
          exact .missed checkpointId rfl (not_attempted_of_ready idle)
        next shared checkpoint found =>
          rw [Prod.mk.injEq] at found
          obtain ⟨same, found⟩ := found
          subst same
          rcases run_cases config plan (some checkpoint) input.execution []
              { engine.passTime input.elapsed with
                shared := { engine.shared with
                  checkpointManager :=
                    (engine.shared.checkpointManager.restore checkpointId).1 } } with
            ⟨same, ended⟩ | ⟨attempt, effects, ran⟩
          · exact .missed checkpointId same ended
          · exact .named planId checkpointId plan checkpoint attempt effects idle op known found ran
  next planId op =>
    split
    · exact ready _ rfl rfl
    next plan known => exact run_fresh_step plan input engine
  next planId reason op =>
    split
    · exact ready _ rfl rfl
    next plan known =>
      split
      · exact ready _ rfl rfl
      next shared finished executed =>
        obtain ⟨effects, rolled, _⟩ := execute_rollback_ledger executed
        exact .rolledBack planId reason plan effects idle op known rolled
          (not_attempted_of_ready idle)
  · exact .settled rfl (not_attempted_of_ready rfl)
  next planId op =>
    split
    · exact ready _ rfl rfl
    · exact ready _ rfl rfl
  · exact ready _ rfl rfl

theorem recover_step (input : EngineInput) (engine : Engine) (failed : Attempt)
    (due : List OrchestrationPlan)
    (control : engine.control = .attempted failed due)
    (recovers : Engine.shouldRecover config failed = true) :
    RecoveryStep config engine input
      (Engine.recoverRun config failed due input.execution engine) := by
  obtain ⟨effects, ledger⟩ := recover_ledger failed.plan config.recovery
    (Engine.recoveryReason (failed.attempts + 1)) input.execution.undo
    engine.shared
  unfold Engine.recoverRun
  split
  next progress stopped =>
    rw [stopped] at ledger
    refine .unrecovered failed due progress effects control recovers ?_ ledger rfl
      (not_attempted_of_ready rfl)
    rw [stopped]
  next progress prepared =>
    rw [prepared] at ledger
    have result : progress = (recover failed.plan config.recovery
        (Engine.recoveryReason (failed.attempts + 1)) input.execution.undo
        engine.shared).1 := by
      rw [prepared]
    simp only
    split
    · rcases execute_cases config failed.plan progress.checkpoint input.execution
          (failed.attempts + 1) (some progress.result) due
          { engine with shared := progress.shared } with
        raised | ⟨next, shared, later, executed, planEq, attemptsEq, ran⟩
      · rw [raised]
        exact .unrecovered failed due progress effects control recovers result
          ledger rfl (not_attempted_of_ready rfl)
      · rw [executed]
        exact .recovered failed next due progress effects later control recovers
          result ledger ⟨ran, planEq, attemptsEq, due, rfl⟩
    · exact .unrecovered failed due progress effects control recovers result
        ledger rfl (not_attempted_of_ready rfl)

theorem engine_step_cases (config : EngineConfig) (engine : Engine) (input : EngineInput) :
    EngineStep config engine input (engine.step config input) := by
  unfold Engine.step
  split
  next idle => exact call_step input engine idle
  next plan due waiting =>
    rcases run_cases config plan none input.execution due engine with
      ⟨same, ended⟩ | ⟨attempt, effects, ran⟩
    · exact .settled same ended
    · exact .fresh plan attempt effects ran
  next attempt due attempted =>
    split
    next recovers =>
      exact .recovery (recover_step input engine attempt due attempted recovers)
    · exact .settled rfl (not_attempted_of_ready rfl)

theorem step_log (config : EngineConfig) (engine : Engine) (input : EngineInput) :
    ∃ effects, (engine.step config input).shared.log = engine.shared.log ++ effects := by
  cases engine_step_cases config engine input with
  | settled same ended => exact ⟨[], by rw [same, List.append_nil]⟩
  | missed checkpointId same ended => exact ⟨[], by rw [same, List.append_nil]⟩
  | fresh plan attempt effects ran => exact ⟨_, ran.ledger.log⟩
  | named planId checkpointId plan checkpoint attempt effects idle op known found ran =>
      exact ⟨_, ran.ledger.log⟩
  | newest planId plan checkpoint attempt effects idle op known found ran =>
    exact ⟨_, ran.ledger.log⟩
  | rolledBack planId reason plan effects idle op known rolled ended =>
    exact ⟨effects, rolled.log⟩
  | recovery step =>
    cases step with
    | recovered failed next due progress effects later control recovers result ledger ran =>
        refine ⟨effects ++ .runStarted failed.plan.id progress.checkpoint :: later, ?_⟩
        rw [ran.ledger.log, ledger.log.1, List.append_assoc]
    | unrecovered failed due progress effects control recovers result ledger same ended =>
        refine ⟨effects, ?_⟩
        rw [same, ledger.log.1]

theorem runs_log (config : EngineConfig) (engine : Engine) (inputs : List EngineInput) :
    ∃ effects, (engine.runs config inputs).shared.log = engine.shared.log ++ effects := by
  have preserved : ∀ state input, (∃ effects, state.shared.log = engine.shared.log ++ effects) →
      ∃ effects, (Engine.step config state input).shared.log = engine.shared.log ++ effects := by
    intro state input reached
    obtain ⟨effects, logEq⟩ := reached
    obtain ⟨later, stepEq⟩ := step_log config state input
    exact ⟨effects ++ later, by rw [stepEq, logEq, List.append_assoc]⟩
  exact invariant_of_steps (Engine.step config) preserved engine inputs
    ⟨[], (List.append_nil _).symm⟩

theorem new_holds_none (config : EngineConfig) (hasMemory : Bool) (checkpoint : Checkpoint) :
    ¬(Engine.new config hasMemory).shared.checkpointManager.Holds checkpoint := by
  rintro (table | ⟨entries, mirrored, member⟩)
  · cases table
  · cases hasMemory with
    | false => cases mirrored
    | true =>
      cases mirrored
      cases member

end Steps

end AiEnterpriseOs.Orchestration
