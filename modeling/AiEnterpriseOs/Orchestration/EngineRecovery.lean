import AiEnterpriseOs.Orchestration.EngineLedger

/-!
# Auto-recovery of a run

What the end of an auto-recovered run saves. The bookkeeping of the recovery
is written to the failed state, which the next attempt replaces; and a task
that the recovery undid is left completed exactly when the restored checkpoint
holds it completed.
-/

namespace AiEnterpriseOs.Orchestration

open Library

section Records

/-- No recovery is recorded on the state. -/
structure Unrecorded (state : ExecutionState) : Prop where
  metadata : state.metadata = OrderedDict.empty
  recoveredFrom : state.recoveredFrom = none

theorem SameIdentity.unrecorded {before after : ExecutionState}
    (same : SameIdentity before after) (unrecorded : Unrecorded before) :
    Unrecorded after :=
  ⟨same.metadata.trans unrecorded.metadata, same.recoveredFrom.trans unrecorded.recoveredFrom⟩

/-- No checkpoint that the managers hold records a recovery. -/
def HeldUnrecorded (shared : RunnerShared) : Prop :=
  ∀ checkpoint, shared.checkpointManager.Holds checkpoint → Unrecorded checkpoint.state

structure EngineUnrecorded (engine : Engine) : Prop where
  held : HeldUnrecorded engine.shared
  attempt : ∀ attempt due, engine.control = .attempted attempt due → Unrecorded attempt.state

theorem HeldUnrecorded.congr {before after : RunnerShared} (held : HeldUnrecorded before)
    (same : after.checkpointManager = before.checkpointManager) :
    HeldUnrecorded after := by
  intro checkpoint holds
  rw [same] at holds
  exact held checkpoint holds

theorem not_attempted_unrecorded {engine : Engine}
    (held : HeldUnrecorded engine.shared) (ended : ¬engine.isAttempted) :
    EngineUnrecorded engine :=
  ⟨held, fun attempt due control => absurd ⟨attempt, due, control⟩ ended⟩

theorem RanStep.unrecorded {plan : OrchestrationPlan}
    {checkpoint : Option Checkpoint} {attempts : Nat} {before : RunnerShared}
    {after : Engine} {attempt : Attempt} {effects : List Effect}
    (ran : RanStep plan checkpoint attempts before after attempt effects)
    (held : HeldUnrecorded before)
    (restored : ∀ found, checkpoint = some found → Unrecorded found.state) :
    EngineUnrecorded after := by
  have origin : Unrecorded (originState plan checkpoint) := by
    cases checkpoint with
    | none => exact ⟨rfl, rfl⟩
    | some found => exact restored found rfl
  constructor
  · intro other holds
    rcases ran.ledger.held other holds with old | written
    · exact held other old
    · exact (ran.ledger.written other written).2.2.unrecorded origin
  · intro other due control
    obtain ⟨later, ranControl⟩ := ran.control
    rw [ranControl] at control
    cases control
    exact ran.ledger.identity.unrecorded origin

theorem step_unrecorded (config : EngineConfig) (engine : Engine)
    (input : EngineInput) (unrecorded : EngineUnrecorded engine) :
    EngineUnrecorded (engine.step config input) := by
  have held := unrecorded.held
  have latest : ∀ pipelineId found, engine.shared.checkpointManager.latest pipelineId = some found →
      Unrecorded found.state := by
    intro pipelineId found selected
    exact held found (Or.inl (CheckpointManager.latest_held selected).1)
  have restored : ∀ checkpointId, HeldUnrecorded { engine.shared with
      checkpointManager :=
        (engine.shared.checkpointManager.restore checkpointId).1 } := by
    intro checkpointId found holds
    exact held found (CheckpointManager.holds_restore holds)
  cases engine_step_cases config engine input with
  | settled same ended =>
    apply not_attempted_unrecorded _ ended
    rw [same]
    exact held
  | missed checkpointId same ended =>
    apply not_attempted_unrecorded _ ended
    rw [same]
    exact restored checkpointId
  | fresh plan attempt effects ran =>
    apply ran.unrecorded held
    intro found impossible
    cases impossible
  | named planId checkpointId plan checkpoint attempt effects idle op known found ran =>
      apply ran.unrecorded (restored checkpointId)
      intro other same
      cases same
      exact held checkpoint (CheckpointManager.restore_held found)
  | newest planId plan checkpoint attempt effects idle op known found ran =>
    apply ran.unrecorded held
    intro other same
    cases same
    exact latest plan.pipeline.id checkpoint found
  | rolledBack planId reason plan effects idle op known rolled ended =>
    exact not_attempted_unrecorded (held.congr rolled.checkpoints) ended
  | recovery step =>
    cases step with
    | recovered failed next due progress effects later control recovers result ledger ran =>
        apply ran.unrecorded (held.congr ledger.log.2)
        intro found same
        rcases ledger.checkpoint with none | selected
        · rw [none] at same
          cases same
        · rw [selected] at same
          exact latest failed.plan.pipeline.id found same
    | unrecovered failed due progress effects control recovers result ledger same ended =>
        apply not_attempted_unrecorded _ ended
        rw [same]
        exact held.congr ledger.log.2

theorem new_unrecorded (config : EngineConfig) (hasMemory : Bool) :
    EngineUnrecorded (Engine.new config hasMemory) := by
  constructor
  · intro checkpoint holds
    exact absurd holds (new_holds_none config hasMemory checkpoint)
  · intro attempt due control
    cases control

end Records

section Undone

/-- The undo handler of the task ran, and the task was not dispatched since. -/
def StaleUndo (effects : List Effect) (taskId : String) : Prop :=
  ∃ early planId action late, effects = early ++ .undone planId taskId action .executed :: late ∧
      taskId ∉ dispatchedIds late

/-- No task that a rollback undid is completed without a later dispatch. -/
def UndoneExecutedAgain (effects : List Effect) (state : ExecutionState) : Prop :=
  ∀ taskId, StaleUndo effects taskId → state.taskStatus taskId ≠ .completed

theorem stale_undo_append {effects later : List Effect} {taskId : String}
    (quiet : ∀ planId other action status, Effect.undone planId other action status ∉ later) :
    StaleUndo (effects ++ later) taskId ↔
      StaleUndo effects taskId ∧ taskId ∉ dispatchedIds later := by
  constructor
  · intro stale
    obtain ⟨early, planId, action, late, split, idle⟩ := stale
    rcases List.append_eq_append_iff.mp split with
      ⟨between, earlyEq, laterEq⟩ | ⟨between, effectsEq, tailEq⟩
    · have member : Effect.undone planId taskId action .executed ∈ later := by
        rw [laterEq]
        exact List.mem_append_right _ List.mem_cons_self
      exact absurd member (quiet _ _ _ _)
    · cases between with
      | nil =>
        have member : Effect.undone planId taskId action .executed ∈ later := by
          rw [List.nil_append] at tailEq
          rw [← tailEq]
          exact List.mem_cons_self
        exact absurd member (quiet _ _ _ _)
      | cons head between =>
        rw [List.cons_append] at tailEq
        obtain ⟨headEq, lateEq⟩ := List.cons.inj tailEq
        rw [lateEq, dispatched_ids_append, List.mem_append, not_or] at idle
        refine ⟨⟨early, planId, action, between, ?_, idle.1⟩, idle.2⟩
        rw [effectsEq, headEq]
  · intro stale
    obtain ⟨⟨early, planId, action, late, split, idle⟩, unmatched⟩ := stale
    refine ⟨early, planId, action, late ++ later, ?_, ?_⟩
    · rw [split, List.append_assoc]
      rfl
    · rw [dispatched_ids_append, List.mem_append, not_or]
      exact ⟨idle, unmatched⟩

theorem undone_executed_again_iff {plan : OrchestrationPlan}
    {checkpoint : Option Checkpoint} {before after : RunnerShared}
    {state : ExecutionState} {effects later : List Effect}
    (ledger : RunLedger plan checkpoint before after state later) :
    UndoneExecutedAgain (effects ++ .runStarted plan.id checkpoint :: later) state ↔
      ∀ taskId, StaleUndo effects taskId →
        (originState plan checkpoint).taskStatus taskId ≠ .completed := by
  have quiet : ∀ planId other action status, Effect.undone planId other action status ∉
        .runStarted plan.id checkpoint :: later := by
    intro planId other action status member
    rcases List.mem_cons.mp member with same | listed
    · cases same
    · exact ledger.undone planId other action status listed
  have ids : dispatchedIds (.runStarted plan.id checkpoint :: later) =
      dispatchedIds later := rfl
  constructor
  · intro again taskId stale completed
    obtain ⟨kept, idle⟩ := ledger.completions.kept taskId completed
    apply again taskId _ kept
    apply (stale_undo_append quiet).mpr
    rw [ids]
    exact ⟨stale, idle⟩
  · intro clean taskId stale completed
    obtain ⟨earlier, idle⟩ := (stale_undo_append quiet).mp stale
    rw [ids] at idle
    rcases ledger.completions.earned taskId completed with old | dispatched
    · exact clean taskId earlier old
    · exact idle dispatched

end Undone

section Runs

/-- What the end of an auto-recovered run has to save. -/
structure RecoveryConsistent (effects : List Effect) (attempt : Attempt)
    (saved : ExecutionState) : Prop where
  executedAgain : UndoneExecutedAgain effects saved
  attempts : saved.metadata.get? "recovery_attempts" = some (.int attempt.attempts)
  recoveredFrom : saved.recoveredFrom = attempt.recovery.bind RecoveryResult.checkpointId

/-- The retries are the iterations of one auto-recovery loop, and the last
attempt completes. -/
structure AutoRecovered (config : EngineConfig) (begun : Engine)
    (retries : List EngineInput) (attempt : Attempt) : Prop where
  first : ∃ first due, begun.control = .attempted first due ∧ first.attempts = 0
  last : ∃ due, (begun.runs config retries).control = .attempted attempt due
  retried : retries ≠ []
  each : attempt.attempts = retries.length
  completed : attempt.state.status = .completed

/-- The calls made since the first attempt of the run. -/
def recoveryEffects (config : EngineConfig) (begun : Engine)
    (retries : List EngineInput) : List Effect :=
  (begun.runs config retries).shared.log.drop begun.shared.log.length

theorem finish_saves (config : EngineConfig) {engine : Engine} {attempt : Attempt}
    {due : List OrchestrationPlan} (input : EngineInput)
    (control : engine.control = .attempted attempt due)
    (completed : attempt.state.status = .completed) :
    (engine.step config input).store.getState attempt.state.planId = some attempt.state := by
  have final : Engine.shouldRecover config attempt = false := by
    unfold Engine.shouldRecover
    rw [completed]
    rfl
  unfold Engine.step
  rw [control]
  simp only [final]
  exact OrderedDict.get_set_self _ _ _

theorem last_recovery {config : EngineConfig} {begun : Engine} {retries : List EngineInput}
    {attempt : Attempt} (recovered : AutoRecovered config begun retries attempt) :
    ∃ early resumed late before after, recoveryEffects config begun retries =
        early ++ .runStarted attempt.plan.id resumed :: late ∧
      RunLedger attempt.plan resumed before after attempt.state late := by
  obtain ⟨retriesInit, input, split⟩ :=
    List.eq_nil_or_concat retries |>.resolve_left recovered.retried
  rw [List.concat_eq_append] at split
  obtain ⟨due, control⟩ := recovered.last
  have stepEq : begun.runs config retries = (begun.runs config retriesInit).step config input := by
    rw [split]
    exact run_inputs_append (Engine.step config) begun retriesInit [input]
  have positive : attempt.attempts ≠ 0 := by
    rw [recovered.each, split, List.length_append, List.length_singleton]
    omega
  obtain ⟨sofar, sofarEq⟩ := runs_log config begun retriesInit
  have active : (begun.runs config retries).isAttempted := ⟨attempt, due, control⟩
  unfold recoveryEffects
  rw [stepEq] at control active ⊢
  generalize begun.runs config retriesInit = engine at control active sofarEq ⊢
  have first : ∀ plan checkpoint before other effects,
      RanStep plan checkpoint 0 before (engine.step config input) other effects →
      False := by
    intro plan checkpoint before other effects ran
    obtain ⟨later, ranControl⟩ := ran.control
    rw [control] at ranControl
    cases ranControl
    exact positive ran.attempts
  cases engine_step_cases config engine input with
  | settled same ended => exact absurd active ended
  | missed checkpointId same ended => exact absurd active ended
  | fresh plan other effects ran => exact (first _ _ _ _ _ ran).elim
  | named planId checkpointId plan checkpoint other effects idle op known found ran =>
      exact (first _ _ _ _ _ ran).elim
  | newest planId plan checkpoint other effects idle op known found ran =>
    exact (first _ _ _ _ _ ran).elim
  | rolledBack planId reason plan effects idle op known rolled ended =>
    exact absurd active ended
  | recovery step =>
    cases step with
    | recovered failed next waiting progress effects later failedControl recovers
        result ledger ran =>
        obtain ⟨after, ranControl⟩ := ran.control
        rw [control] at ranControl
        cases ranControl
        refine ⟨sofar ++ effects, progress.checkpoint, later, progress.shared,
          (engine.step config input).shared, ?_, ?_⟩
        · rw [ran.ledger.log, ledger.log.1, sofarEq, ran.plan]
          simp only [List.append_assoc, List.drop_left]
        · rw [ran.plan]
          exact ran.ledger
    | unrecovered failed due progress effects control recovers result ledger same ended =>
        exact absurd active ended

/-- No auto-recovered run that completes saves the record of its recovery.
Its undone tasks have been executed again exactly when the state that the last
attempt started in held none of them completed. -/
theorem recovered_run_inconsistent (config : EngineConfig) (hasMemory : Bool)
    (inputs retries : List EngineInput) (attempt : Attempt) (input : EngineInput)
    (recovered : AutoRecovered config
      ((Engine.new config hasMemory).runs config inputs) retries attempt) :
    let begun := (Engine.new config hasMemory).runs config inputs
    let effects := recoveryEffects config begun retries
    ∃ saved, (((begun.runs config retries).step config input).store.getState
        attempt.state.planId = some saved) ∧
      ¬RecoveryConsistent effects attempt saved ∧
      ∃ early resumed late, effects = early ++ .runStarted attempt.plan.id resumed :: late ∧
        (∀ planId other, Effect.runStarted planId other ∉ late) ∧
        (UndoneExecutedAgain effects saved ↔ ∀ taskId, StaleUndo early taskId →
            (originState attempt.plan resumed).taskStatus taskId ≠ .completed) := by
  intro begun effects
  obtain ⟨due, control⟩ := recovered.last
  have reached : EngineUnrecorded (begun.runs config retries) := by
    have initial : EngineUnrecorded begun :=
      invariant_of_steps (Engine.step config) (step_unrecorded config) _ inputs
        (new_unrecorded config hasMemory)
    exact invariant_of_steps (Engine.step config) (step_unrecorded config) _ retries initial
  have unrecorded := reached.attempt attempt due control
  refine ⟨attempt.state, finish_saves config input control recovered.completed, ?_, ?_⟩
  · intro consistent
    have recorded := consistent.attempts
    rw [unrecorded.metadata] at recorded
    cases recorded
  · obtain ⟨early, resumed, late, before, after, split, ledger⟩ :=
      last_recovery recovered
    refine ⟨early, resumed, late, split, ledger.started, ?_⟩
    change UndoneExecutedAgain (recoveryEffects config begun retries) _ ↔ _
    rw [split]
    exact undone_executed_again_iff ledger

/-- Two sequential tasks, the first with an undo handler. -/
def undoablePlan : OrchestrationPlan where
  id := "plan-1"
  pipeline :=
    { id := "pipe-1"
      stages := [{ id := "s1"
                   tasks := [{ id := "a", rollbackAction := some "undo" }, { id := "b" }] }] }

def recoveringConfig : EngineConfig where
  recovery := { autoRecover := true }

/-- An engine call under given task outcomes; every undo handler succeeds. -/
def callUnder (env : RunEnv) (op : EngineOp) : EngineInput where
  op := op
  execution := { env := env, undo := fun _ _ _ => .ok () }

/-- Calls that create the plan and start it; its second task fails. -/
def failingStart : List EngineInput :=
  [callUnder secondFailsEnv (.plan undoablePlan), callUnder secondFailsEnv (.start "plan-1")]

theorem undoable_plan_recovers : ∃ attempt, AutoRecovered recoveringConfig
        ((Engine.new recoveringConfig false).runs recoveringConfig failingStart)
        [callUnder completingEnv .tick] attempt ∧
      attempt.state.taskStatus "a" = .completed ∧
      StaleUndo (recoveryEffects recoveringConfig
        ((Engine.new recoveringConfig false).runs recoveringConfig failingStart)
        [callUnder completingEnv .tick]) "a" := by
  refine ⟨_, ⟨⟨_, _, rfl, rfl⟩, ⟨_, rfl⟩, by decide, rfl, rfl⟩, by decide, ?_⟩
  exact ⟨[], _, _, _, rfl, by decide⟩

theorem undoable_plan_saves_no_recovery : ∃ attempt saved,
      (((((Engine.new recoveringConfig false).runs recoveringConfig
        failingStart).runs recoveringConfig
        [callUnder completingEnv .tick]).step recoveringConfig
        (callUnder completingEnv .tick)).store.getState attempt.state.planId = some saved) ∧
      ¬RecoveryConsistent (recoveryEffects recoveringConfig
        ((Engine.new recoveringConfig false).runs recoveringConfig failingStart)
        [callUnder completingEnv .tick]) attempt saved := by
  obtain ⟨attempt, recovered, _⟩ := undoable_plan_recovers
  obtain ⟨saved, stored, inconsistent, _⟩ :=
    recovered_run_inconsistent recoveringConfig false failingStart
      [callUnder completingEnv .tick] attempt (callUnder completingEnv .tick) recovered
  exact ⟨attempt, saved, stored, inconsistent⟩

/-- The default recovery restores the latest checkpoint, in which the first
task is completed, undoes that task, and resumes past it. -/
theorem undone_task_left_completed : ¬∀ config inputs retries attempt input,
      AutoRecovered config ((Engine.new config false).runs config inputs) retries attempt →
      ∀ saved, (((Engine.new config false).runs config inputs).runs config
          retries |>.step config input).store.getState attempt.state.planId = some saved →
        RecoveryConsistent (recoveryEffects config
          ((Engine.new config false).runs config inputs) retries) attempt saved := by
  intro claim
  obtain ⟨attempt, recovered, done, stale⟩ := undoable_plan_recovers
  obtain ⟨due, control⟩ := recovered.last
  have saves := finish_saves recoveringConfig (callUnder completingEnv .tick) control
    recovered.completed
  have consistent := claim recoveringConfig failingStart
    [callUnder completingEnv .tick] attempt (callUnder completingEnv .tick)
    recovered attempt.state saves
  exact consistent.executedAgain "a" stale done

end Runs

end AiEnterpriseOs.Orchestration
