import AiEnterpriseOs.Orchestration.EngineOwnership

/-!
# Ownership of checkpoints

A checkpoint carries the id of the plan whose run wrote it, while the latest
checkpoint is looked up by pipeline id and a named one by its own id.
-/

namespace AiEnterpriseOs.Orchestration

open Library

section Lookup

/-- Each checkpoint of another plan under the pipeline id of this plan is
outranked by one of this plan: a later one listed after it, or one as late
listed before it. -/
def OwnNewest (manager : CheckpointManager) (plan : OrchestrationPlan) : Prop :=
  ∀ early foreign late, manager.matching plan.pipeline.id = early ++ foreign :: late →
    foreign.planId ≠ plan.id →
    (∃ own ∈ early, own.planId = plan.id ∧ sortKey foreign ≤ sortKey own) ∨
      ∃ own ∈ late, own.planId = plan.id ∧ sortKey foreign < sortKey own

theorem OwnNewest.latest {manager : CheckpointManager} {plan : OrchestrationPlan}
    {checkpoint : Checkpoint} (newest : OwnNewest manager plan)
    (found : manager.latest plan.pipeline.id = some checkpoint) :
    checkpoint.planId = plan.id := by
  obtain ⟨early, late, split, below, above⟩ := first_max_split sortKey found
  by_contra foreign
  rcases newest early checkpoint late split foreign with
    ⟨own, member, _, outranks⟩ | ⟨own, member, _, outranks⟩
  · exact absurd (below own member) (not_lt.mpr outranks)
  · exact absurd (above own member) (not_le.mpr outranks)

theorem recover_actions_restore_nothing (plan : OrchestrationPlan)
    (config : RecoveryConfig) (reason : String) (undo : UndoFunction)
    (actions : List String) {progress : RecoveryProgress}
    (nothing : progress.checkpoint = none)
    (avoids : config.restoreLatestCheckpoint = true → "checkpoint_restore" ∉
        actions.takeWhile fun action => (RecoveryAction.parse action).isSome) :
    (recoverActions plan config reason undo actions progress).1.checkpoint =
      none := by
  induction actions generalizing progress with
  | nil => exact nothing
  | cons action rest ih =>
    unfold recoverActions
    cases known : RecoveryAction.parse action with
    | none => exact nothing
    | some parsed =>
      have later : config.restoreLatestCheckpoint = true →
          "checkpoint_restore" ∉ rest.takeWhile fun action =>
            (RecoveryAction.parse action).isSome := by
        intro allowed member
        apply avoids allowed
        rw [List.takeWhile_cons, known]
        exact List.mem_cons_of_mem _ member
      cases parsed with
      | checkpointRestore =>
        have disallowed : config.restoreLatestCheckpoint = false := by
          by_contra allowed
          rw [Bool.not_eq_false] at allowed
          apply avoids allowed
          rw [List.takeWhile_cons, known]
          have isRestore : action = "checkpoint_restore" := by
            unfold RecoveryAction.parse at known
            split at known
            next same => exact same
            · split at known
              · cases known
              · split at known
                · cases known
                · split at known <;> cases known
          rw [isRestore]
          exact List.mem_cons_self
        simp only [disallowed]
        exact ih nothing later
      | rollback =>
        apply ih _ later
        unfold rollbackCompleted
        split <;> exact nothing
      | retry =>
        apply ih _ later
        unfold prepareRetry
        split <;> exact nothing
      | fail => exact ih nothing later

theorem recover_restores_nothing (plan : OrchestrationPlan)
    {config : RecoveryConfig} (reason : String) (undo : UndoFunction)
    (shared : RunnerShared)
    (avoids : config.restoreLatestCheckpoint = true → "checkpoint_restore" ∉ config.reached) :
    (recover plan config reason undo shared).1.checkpoint = none := by
  have start : ({ shared := shared, result := { planId := plan.id } } :
      RecoveryProgress).checkpoint = none := rfl
  have nothing := recover_actions_restore_nothing plan config reason undo
    config.sequence start avoids
  unfold recover
  simp only
  split
  · split
    next progress stopped =>
      rw [stopped] at nothing
      exact nothing
    next progress finished =>
      rw [finished] at nothing
      exact nothing
  · rfl

end Lookup

section Steps

/-- A named checkpoint belongs to the resumed plan, and where the latest one
is looked up for a plan, it is one of that plan. -/
structure LooksUpOwn (config : EngineConfig) (engine : Engine) (input : EngineInput) : Prop where
  named : ∀ planId checkpointId plan checkpoint, engine.control = .ready [] →
    input.op = .resume planId (some checkpointId) →
    engine.getPlan planId = some plan →
    (engine.shared.checkpointManager.restore checkpointId).2 = some checkpoint →
    checkpoint.planId = plan.id
  newest : ∀ planId plan, engine.control = .ready [] → input.op = .resume planId none →
    engine.getPlan planId = some plan →
    OwnNewest engine.shared.checkpointManager plan
  recovery : ∀ attempt due, engine.control = .attempted attempt due →
    Engine.shouldRecover config attempt = true →
    config.recovery.restoreLatestCheckpoint = true →
    "checkpoint_restore" ∈ config.recovery.reached →
    OwnNewest engine.shared.checkpointManager attempt.plan

/-- The runs of the log were resumed from checkpoints that runs of the same
plan wrote. -/
def ResumesOwn (calls : List Effect) : Prop :=
  ∀ planId checkpoint, Effect.runStarted planId (some checkpoint) ∈ calls →
    Effect.checkpointed checkpoint ∈ calls ∧ checkpoint.planId = planId ∧
      checkpoint.state.planId = planId

structure CheckpointsOwned (shared : RunnerShared) : Prop where
  held : ∀ checkpoint, shared.checkpointManager.Holds checkpoint →
    Effect.checkpointed checkpoint ∈ shared.log ∧ checkpoint.state.planId = checkpoint.planId
  resumed : ResumesOwn shared.log

theorem CheckpointsOwned.congr {before after : RunnerShared}
    (owned : CheckpointsOwned before) (log : after.log = before.log)
    (holds : ∀ checkpoint, after.checkpointManager.Holds checkpoint →
      before.checkpointManager.Holds checkpoint) :
    CheckpointsOwned after := by
  constructor
  · intro checkpoint held
    rw [log]
    exact owned.held checkpoint (holds checkpoint held)
  · rw [log]
    exact owned.resumed

theorem RunLedger.checkpoints_owned {plan : OrchestrationPlan}
    {checkpoint : Option Checkpoint} {before after : RunnerShared}
    {state : ExecutionState} {effects : List Effect}
    (ledger : RunLedger plan checkpoint before after state effects)
    (owned : CheckpointsOwned before)
    (own : ∀ restored, checkpoint = some restored →
      before.checkpointManager.Holds restored ∧ restored.planId = plan.id) :
    CheckpointsOwned after := by
  have origin : (originState plan checkpoint).planId = plan.id := by
    cases checkpoint with
    | none => rfl
    | some restored =>
      obtain ⟨held, planEq⟩ := own restored rfl
      exact (owned.held restored held).2.trans planEq
  have kept : ∀ effect, effect ∈ before.log → effect ∈ after.log := by
    intro effect member
    rw [ledger.log]
    exact List.mem_append_left _ member
  constructor
  · intro other held
    rcases ledger.held other held with old | written
    · exact ⟨kept _ (owned.held other old).1, (owned.held other old).2⟩
    · obtain ⟨planEq, _, same⟩ := ledger.written other written
      refine ⟨?_, by rw [same.planId, origin, planEq]⟩
      rw [ledger.log]
      exact List.mem_append_right _ (List.mem_cons_of_mem _ written)
  · intro planId other member
    rw [ledger.log] at member
    rcases List.mem_append.mp member with old | fresh
    · obtain ⟨written, planEq, stateEq⟩ := owned.resumed planId other old
      exact ⟨kept _ written, planEq, stateEq⟩
    · rcases List.mem_cons.mp fresh with here | later
      · cases here
        obtain ⟨held, planEq⟩ := own other rfl
        obtain ⟨written, same⟩ := owned.held other held
        exact ⟨kept _ written, planEq, same.trans planEq⟩
      · exact absurd later (ledger.started planId (some other))

theorem RecoverLedger.checkpoints_owned {plan : OrchestrationPlan}
    {before : RunnerShared} {progress : RecoveryProgress} {effects : List Effect}
    (ledger : RecoverLedger plan before progress effects)
    (owned : CheckpointsOwned before) : CheckpointsOwned progress.shared := by
  obtain ⟨log, checkpoints⟩ := ledger.log
  have undone : ∀ effect ∈ effects, ∃ taskId action status,
      effect = .undone plan.id taskId action status := by
    intro effect member
    rcases ledger.rollback with ⟨none, _⟩ | rolled
    · rw [none] at member
      cases member
    · exact rolled.only effect member
  constructor
  · intro checkpoint held
    rw [checkpoints] at held
    obtain ⟨written, same⟩ := owned.held checkpoint held
    rw [log]
    exact ⟨List.mem_append_left _ written, same⟩
  · intro planId checkpoint member
    rw [log] at member
    rcases List.mem_append.mp member with old | fresh
    · obtain ⟨written, rest⟩ := owned.resumed planId checkpoint old
      rw [log]
      exact ⟨List.mem_append_left _ written, rest⟩
    · obtain ⟨_, _, _, impossible⟩ := undone _ fresh
      cases impossible

theorem step_checkpoints_owned (config : EngineConfig) (engine : Engine)
    (input : EngineInput) (owned : CheckpointsOwned engine.shared)
    (looksUp : LooksUpOwn config engine input) :
    CheckpointsOwned (engine.step config input).shared := by
  have restored : ∀ checkpointId, CheckpointsOwned { engine.shared with
      checkpointManager :=
        (engine.shared.checkpointManager.restore checkpointId).1 } :=
    fun checkpointId => owned.congr rfl fun _ => CheckpointManager.holds_restore
  cases engine_step_cases config engine input with
  | settled same ended =>
    rw [same]
    exact owned
  | missed checkpointId same ended =>
    rw [same]
    exact restored checkpointId
  | fresh plan attempt effects ran =>
    apply ran.ledger.checkpoints_owned owned
    intro other impossible
    cases impossible
  | named planId checkpointId plan checkpoint attempt effects idle op known found ran =>
      apply ran.ledger.checkpoints_owned (restored checkpointId)
      intro other same
      cases same
      constructor
      · exact CheckpointManager.restored_holds found
      · exact looksUp.named planId checkpointId plan checkpoint idle op known found
  | newest planId plan checkpoint attempt effects idle op known found ran =>
    apply ran.ledger.checkpoints_owned owned
    intro other same
    cases same
    constructor
    · exact Or.inl (CheckpointManager.latest_held found).1
    · exact (looksUp.newest planId plan idle op known).latest found
  | rolledBack planId reason plan effects idle op known rolled ended =>
    have ledger : RecoverLedger plan engine.shared
        { shared := (engine.step config input).shared
          result := { planId := plan.id } } effects :=
      ⟨Or.inr rolled, Or.inl rfl⟩
    exact ledger.checkpoints_owned owned
  | recovery step =>
    cases step with
    | recovered failed next due progress effects later control recovers result ledger ran =>
        apply ran.ledger.checkpoints_owned (ledger.checkpoints_owned owned)
        intro other same
        have selected : engine.shared.checkpointManager.latest
            failed.plan.pipeline.id = some other := by
          rcases ledger.checkpoint with none | latest
          · rw [none] at same
            cases same
          · rw [← latest, same]
        constructor
        · rw [ledger.log.2]
          exact Or.inl (CheckpointManager.latest_held selected).1
        · by_cases restores : config.recovery.restoreLatestCheckpoint = true ∧
              "checkpoint_restore" ∈ config.recovery.reached
          · exact (looksUp.recovery failed due control recovers restores.1
              restores.2).latest selected
          · have nothing := recover_restores_nothing failed.plan
              (Engine.recoveryReason (failed.attempts + 1)) input.execution.undo
              engine.shared fun allowed member => restores ⟨allowed, member⟩
            rw [← result, same] at nothing
            cases nothing
    | unrecovered failed due progress effects control recovers result ledger same ended =>
        rw [same]
        exact ledger.checkpoints_owned owned

/-- In every run whose lookups meet the condition, plans are resumed and
recovered from checkpoints of their own runs only. -/
theorem plans_resume_own_checkpoints (config : EngineConfig) (hasMemory : Bool)
    (inputs : List EngineInput)
    (meets : StepsMeet (Engine.step config) (LooksUpOwn config)
      (Engine.new config hasMemory) inputs) :
    ResumesOwn ((Engine.new config hasMemory).runs config inputs).shared.log := by
  have initial : CheckpointsOwned (Engine.new config hasMemory).shared := by
    constructor
    · intro checkpoint holds
      exact absurd holds (new_holds_none config hasMemory checkpoint)
    · intro planId checkpoint member
      cases member
  have preserved : ∀ engine input, CheckpointsOwned engine.shared → LooksUpOwn config engine input →
      CheckpointsOwned (Engine.step config engine input).shared :=
    fun engine input => step_checkpoints_owned config engine input
  have reached : CheckpointsOwned ((Engine.new config hasMemory).runs config inputs).shared :=
    invariant_of_steps_meet (Engine.step config) preserved _ inputs initial meets
  exact reached.resumed

def failedThenResumed (planId : String) : List EngineInput :=
  [callUnder secondFailsEnv (.plan undoablePlan), callUnder secondFailsEnv (.start "plan-1"),
    callUnder secondFailsEnv .tick,
    callUnder completingEnv (.resume planId none)]

theorem undoable_plan_resumes_own : ResumesOwn ((Engine.new {} false).runs {}
      (failedThenResumed "plan-1")).shared.log := by
  apply plans_resume_own_checkpoints {} false
  have quiet : ∀ engine input, (∀ planId checkpointId, input.op ≠ .resume planId checkpointId) →
      LooksUpOwn {} engine input := by
    intro engine input other
    constructor
    · intro planId checkpointId plan checkpoint idle op
      exact absurd op (other planId (some checkpointId))
    · intro planId plan idle op
      exact absurd op (other planId none)
    · intro attempt due control recovers
      have manual : Engine.shouldRecover {} attempt = false := by
        unfold Engine.shouldRecover
        simp
      rw [manual] at recovers
      cases recovers
  refine ⟨quiet _ _ ?_, quiet _ _ ?_, quiet _ _ ?_, ?_, trivial⟩
  · intro planId checkpointId same
    cases same
  · intro planId checkpointId same
    cases same
  · intro planId checkpointId same
    cases same
  · constructor
    · intro planId checkpointId plan checkpoint idle op
      cases op
    · intro planId plan idle op known early foreign late split foreignPlan
      cases op
      cases known
      have own : ∀ checkpoint ∈ early ++ foreign :: late, checkpoint.planId = "plan-1" := by
        rw [← split]
        decide
      exact absurd (own foreign (by simp)) foreignPlan
    · intro attempt due control
      cases control

/-- A second plan over the pipeline of the first. -/
def samePipelinePlan : OrchestrationPlan :=
  { undoablePlan with id := "plan-3" }

/-- Resuming a plan that shares its pipeline id with a failed one starts from
the checkpoint of the failed one. -/
theorem resume_takes_foreign_checkpoint : ¬∀ config hasMemory inputs,
      ResumesOwn ((Engine.new config hasMemory).runs config inputs).shared.log := by
  intro claim
  have own := claim {} false
    (callUnder completingEnv (.plan samePipelinePlan) :: failedThenResumed "plan-3")
    "plan-3" _ (List.mem_of_getElem? (i := 7) rfl)
  exact absurd own.2.1 (by decide)

end Steps

end AiEnterpriseOs.Orchestration
