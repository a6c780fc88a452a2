import AiEnterpriseOs.Orchestration.EngineRecovery

/-!
# Ownership of undo handlers

The plans of an engine share one handler table, keyed by task id. The call
log tells which run registered the handler of a task last; a rollback runs
every handler there is.
-/

namespace AiEnterpriseOs.Orchestration

open Library

section Origins

/-- The plan whose run registered a handler, and whether a run of that plan
has completed since. -/
structure HandlerOrigin where
  planId : String
  runCompleted : Bool := false
  deriving DecidableEq

def HandlerOrigin.afterEffect (taskId : String)
    (origin : Option HandlerOrigin) : Effect → Option HandlerOrigin
  | .registered planId other =>
    if other = taskId then some { planId := planId } else origin
  | .undone _ other _ _ => if other = taskId then none else origin
  | .runFinished planId .completed =>
    origin.map fun found =>
      if found.planId = planId then { found with runCompleted := true } else found
  | _ => origin

/-- The origin of the handler that the calls have left for a task. -/
def handlerOrigin (calls : List Effect) (taskId : String) : Option HandlerOrigin :=
  calls.foldl (HandlerOrigin.afterEffect taskId) none

variable {taskId : String}

theorem origin_present (origin : Option HandlerOrigin) (effects : List Effect)
    (quiet : ∀ planId action status, Effect.undone planId taskId action status ∉ effects) :
    (effects.foldl (HandlerOrigin.afterEffect taskId) origin).isSome ↔
      origin.isSome ∨ ∃ planId, Effect.registered planId taskId ∈ effects := by
  induction effects generalizing origin with
  | nil => simp
  | cons effect rest ih =>
    have later : ∀ planId action status, Effect.undone planId taskId action status ∉ rest :=
      fun planId action status member =>
        quiet planId action status (List.mem_cons_of_mem _ member)
    have head : (HandlerOrigin.afterEffect taskId origin effect).isSome ↔
        origin.isSome ∨ ∃ planId, effect = .registered planId taskId := by
      cases effect with
      | registered planId other =>
        by_cases same : other = taskId
        · simp [HandlerOrigin.afterEffect, same]
        · simp [HandlerOrigin.afterEffect, same]
      | undone planId other action status =>
        have different : other ≠ taskId := by
          intro same
          apply quiet planId action status
          rw [same]
          exact List.mem_cons_self
        simp [HandlerOrigin.afterEffect, different]
      | runFinished planId status =>
        cases status <;> simp [HandlerOrigin.afterEffect]
      | runStarted planId checkpoint => simp [HandlerOrigin.afterEffect]
      | submitted stageIndex taskIds => simp [HandlerOrigin.afterEffect]
      | executed task state => simp [HandlerOrigin.afterEffect]
      | checkpointed checkpoint => simp [HandlerOrigin.afterEffect]
    rw [List.foldl_cons, ih _ later, head, or_assoc]
    simp only [List.mem_cons, exists_or, eq_comm]

theorem origin_undone (origin : Option HandlerOrigin) (effects : List Effect)
    (only : ∀ effect ∈ effects, ∃ planId other action status,
      effect = Effect.undone planId other action status)
    (handled : origin.isSome → ∃ planId action status,
      Effect.undone planId taskId action status ∈ effects) :
    effects.foldl (HandlerOrigin.afterEffect taskId) origin = none := by
  induction effects generalizing origin with
  | nil =>
    cases origin with
    | none => rfl
    | some found =>
      obtain ⟨_, _, _, impossible⟩ := handled rfl
      cases impossible
  | cons effect rest ih =>
    rw [List.foldl_cons]
    apply ih
    · exact fun other member => only other (List.mem_cons_of_mem _ member)
    · intro present
      obtain ⟨planId, other, action, status, shape⟩ :=
        only effect List.mem_cons_self
      rw [shape] at present
      by_cases same : other = taskId
      · simp [HandlerOrigin.afterEffect, same] at present
      · simp only [HandlerOrigin.afterEffect, if_neg same] at present
        obtain ⟨undoer, undo, result, member⟩ := handled present
        rcases List.mem_cons.mp member with here | later
        · rw [shape] at here
          cases here
          exact absurd rfl same
        · exact ⟨undoer, undo, result, later⟩

/-- The handler table holds a handler exactly for the tasks with an origin. -/
def OriginsKnown (shared : RunnerShared) : Prop :=
  ∀ taskId, taskId ∈ shared.rollbackManager.order ↔ (handlerOrigin shared.log taskId).isSome

theorem OriginsKnown.congr {before after : RunnerShared}
    (known : OriginsKnown before) (log : after.log = before.log)
    (order : after.rollbackManager.order = before.rollbackManager.order) :
    OriginsKnown after := by
  intro taskId
  rw [log, order]
  exact known taskId

theorem RunLedger.origins_known {plan : OrchestrationPlan}
    {checkpoint : Option Checkpoint} {before after : RunnerShared}
    {state : ExecutionState} {effects : List Effect}
    (ledger : RunLedger plan checkpoint before after state effects)
    (known : OriginsKnown before) : OriginsKnown after := by
  intro taskId
  have quiet : ∀ planId action status, Effect.undone planId taskId action status ∉
      .runStarted plan.id checkpoint :: effects := by
    intro planId action status member
    rcases List.mem_cons.mp member with same | listed
    · cases same
    · exact ledger.undone planId taskId action status listed
  unfold handlerOrigin
  rw [ledger.handlers, ledger.log, List.foldl_append, origin_present _ _ quiet, known]
  apply or_congr Iff.rfl
  constructor
  · intro registered
    exact ⟨plan.id, List.mem_cons_of_mem _ registered⟩
  · intro registered
    obtain ⟨planId, member⟩ := registered
    rcases List.mem_cons.mp member with same | listed
    · cases same
    · rw [← ledger.owner planId taskId listed]
      exact listed

theorem RollbackLedger.origins_known {plan : OrchestrationPlan}
    {before after : RunnerShared} {effects : List Effect}
    (ledger : RollbackLedger plan before after effects)
    (known : OriginsKnown before) : OriginsKnown after := by
  intro taskId
  have gone : handlerOrigin after.log taskId = none := by
    unfold handlerOrigin
    rw [ledger.log, List.foldl_append]
    apply origin_undone
    · intro effect member
      obtain ⟨other, action, status, shape⟩ := ledger.only effect member
      exact ⟨plan.id, other, action, status, shape⟩
    · intro present
      obtain ⟨action, status, member⟩ :=
        (ledger.handled taskId).mp ((known taskId).mpr present)
      exact ⟨plan.id, action, status, member⟩
  rw [ledger.cleared, gone]
  simp

theorem RecoverLedger.origins_known {plan : OrchestrationPlan}
    {before : RunnerShared} {progress : RecoveryProgress} {effects : List Effect}
    (ledger : RecoverLedger plan before progress effects)
    (known : OriginsKnown before) : OriginsKnown progress.shared := by
  rcases ledger.rollback with ⟨_, log, _, order⟩ | rolled
  · exact known.congr log order
  · exact rolled.origins_known known

theorem step_origins_known (config : EngineConfig) (engine : Engine)
    (input : EngineInput) (known : OriginsKnown engine.shared) :
    OriginsKnown (engine.step config input).shared := by
  cases engine_step_cases config engine input with
  | settled same ended =>
    rw [same]
    exact known
  | missed checkpointId same ended =>
    rw [same]
    exact known.congr rfl rfl
  | fresh plan attempt effects ran => exact ran.ledger.origins_known known
  | named planId checkpointId plan checkpoint attempt effects idle op stored found ran =>
      exact ran.ledger.origins_known (known.congr rfl rfl)
  | newest planId plan checkpoint attempt effects idle op stored found ran =>
    exact ran.ledger.origins_known known
  | rolledBack planId reason plan effects idle op stored rolled ended =>
    exact rolled.origins_known known
  | recovery step =>
    cases step with
    | recovered failed next due progress effects later control recovers result ledger ran =>
        exact ran.ledger.origins_known (ledger.origins_known known)
    | unrecovered failed due progress effects control recovers result ledger same ended =>
        rw [same]
        exact ledger.origins_known known

end Origins

section Rollbacks

/-- The latest saved state of the plan is a failed one. -/
def Engine.hasFailed (engine : Engine) (plan : OrchestrationPlan) : Prop :=
  ∃ state, engine.store.getState plan.id = some state ∧ state.status = .failed

/-- The step rolls back a failed plan: on request, or within a recovery. -/
inductive FailedRollback (config : EngineConfig) (engine : Engine)
    (input : EngineInput) (plan : OrchestrationPlan) : Prop
  | requested (planId reason : String) (idle : engine.control = .ready [])
      (op : input.op = .rollback planId reason)
      (known : engine.getPlan planId = some plan)
      (failed : engine.hasFailed plan)
  | recovering (attempt : Attempt) (due : List OrchestrationPlan)
      (control : engine.control = .attempted attempt due)
      (recovers : Engine.shouldRecover config attempt = true)
      (reached : "rollback" ∈ config.recovery.reached)
      (same : attempt.plan = plan)

/-- The calls that a step adds to the log. -/
def stepEffects (config : EngineConfig) (engine : Engine) (input : EngineInput) :
    List Effect :=
  (engine.step config input).shared.log.drop engine.shared.log.length

/-- A rollback of a failed plan runs only handlers that runs of this plan
registered since the last of them that completed. -/
def RollsBackOwn (config : EngineConfig) (engine : Engine) (input : EngineInput) :
    Prop :=
  ∀ plan, FailedRollback config engine input plan → ∀ taskId action status,
      Effect.undone plan.id taskId action status ∈ stepEffects config engine input →
      handlerOrigin engine.shared.log taskId = some { planId := plan.id }

/-- When a failed plan is rolled back, every registration that no rollback has
undone since comes from a run of this plan, and none of its runs has completed
after it. -/
def RegistryOwn (config : EngineConfig) (engine : Engine) (input : EngineInput) :
    Prop :=
  ∀ plan, FailedRollback config engine input plan →
    ∀ taskId origin, handlerOrigin engine.shared.log taskId = some origin →
      origin = { planId := plan.id }

variable {config : EngineConfig} {engine : Engine} {input : EngineInput} {plan : OrchestrationPlan}

theorem execute_rollback_handled (plan : OrchestrationPlan) (reason : String)
    (undo : UndoFunction) (shared : RunnerShared) :
    (shared.executeRollback plan reason undo = none ∧ shared.rollbackManager.order = []) ∨
    ∃ after finished effects, shared.executeRollback plan reason undo = some (after, finished) ∧
      RollbackLedger plan shared after effects := by
  cases executed : shared.executeRollback plan reason undo with
  | none =>
    refine Or.inl ⟨rfl, no_handlers_left ?_⟩
    unfold RunnerShared.executeRollback RollbackManager.executeRollback at executed
    cases handlers : shared.rollbackManager.hasHandlers with
    | false => rfl
    | true => simp [handlers] at executed
  | some outcome =>
    obtain ⟨after, finished⟩ := outcome
    obtain ⟨effects, rolled, _⟩ := execute_rollback_ledger executed
    exact Or.inr ⟨after, finished, effects, rfl, rolled⟩

theorem undone_append {planId taskId : String} {effects rest : List Effect}
    (quiet : ∀ action status, Effect.undone planId taskId action status ∉ rest) :
    (∃ action status, Effect.undone planId taskId action status ∈ effects ++ rest) ↔
      ∃ action status, Effect.undone planId taskId action status ∈ effects := by
  constructor
  · rintro ⟨action, status, member⟩
    rcases List.mem_append.mp member with early | late
    · exact ⟨action, status, early⟩
    · exact absurd late (quiet action status)
  · rintro ⟨action, status, member⟩
    exact ⟨action, status, List.mem_append_left _ member⟩

theorem requested_rollback_effects {planId reason : String}
    (idle : engine.control = .ready []) (op : input.op = .rollback planId reason)
    (known : engine.getPlan planId = some plan) (taskId : String) :
    taskId ∈ engine.shared.rollbackManager.order ↔
      ∃ action status, Effect.undone plan.id taskId action status ∈
        stepEffects config engine input := by
  have stepEq : engine.step config input =
      Engine.call config (.rollback planId reason) input.execution
        (engine.passTime input.elapsed) := by
    unfold Engine.step
    rw [idle, op]
  have found : (engine.passTime input.elapsed).getPlan planId = some plan := known
  rcases execute_rollback_handled plan reason input.execution.undo
      engine.shared with ⟨none, empty⟩ | ⟨after, finished, effects, executed, rolled⟩
  · have added : stepEffects config engine input = [] := by
      unfold stepEffects
      rw [stepEq]
      simp only [Engine.call, found]
      simp [Engine.passTime, none]
    rw [added, empty]
    simp
  · have added : stepEffects config engine input = effects := by
      unfold stepEffects
      rw [stepEq]
      simp only [Engine.call, found]
      simp [Engine.passTime, executed, rolled.log]
    rw [added]
    exact rolled.handled taskId

theorem recovery_handled {attempt : Attempt} {undo : UndoFunction} {shared : RunnerShared}
    (enabled : config.recovery.enabled = true) (reached : "rollback" ∈ config.recovery.reached)
    {progress : RecoveryProgress} {effects : List Effect}
    (result : progress = (recover attempt.plan config.recovery
      (Engine.recoveryReason (attempt.attempts + 1)) undo shared).1)
    (ledger : RecoverLedger attempt.plan shared progress effects) (taskId : String) :
    taskId ∈ shared.rollbackManager.order ↔
      ∃ action status, Effect.undone attempt.plan.id taskId action status ∈ effects := by
  rcases ledger.rollback with ⟨none, _, _, order⟩ | rolled
  · have emptied := recover_empties attempt.plan
      (Engine.recoveryReason (attempt.attempts + 1)) undo shared enabled reached
    rw [← result, order] at emptied
    rw [emptied, none]
    simp
  · exact rolled.handled taskId

theorem recovering_rollback_effects {attempt : Attempt} {waiting : List OrchestrationPlan}
    (control : engine.control = .attempted attempt waiting)
    (recovers : Engine.shouldRecover config attempt = true)
    (reached : "rollback" ∈ config.recovery.reached) (taskId : String) :
    taskId ∈ engine.shared.rollbackManager.order ↔
      ∃ action status, Effect.undone attempt.plan.id taskId action status ∈
        stepEffects config engine input := by
  have enabled : config.recovery.enabled = true := by
    unfold Engine.shouldRecover at recovers
    simp only [Bool.and_eq_true] at recovers
    exact recovers.1.2
  have stepEq : engine.step config input =
      Engine.recoverRun config attempt waiting input.execution engine := by
    unfold Engine.step
    rw [control]
    simp only [recovers, if_true]
  have step := recover_step input engine attempt waiting control recovers
  rw [← stepEq] at step
  cases step with
  | recovered failed next waiting progress effects later failedControl recovers result ledger ran =>
      rw [control] at failedControl
      cases failedControl
      have added : stepEffects config engine input = effects ++
          .runStarted attempt.plan.id progress.checkpoint :: later := by
        unfold stepEffects
        rw [ran.ledger.log, ledger.log.1, List.append_assoc, List.drop_left]
      rw [added, undone_append]
      · exact recovery_handled enabled reached result ledger taskId
      · intro action status member
        rcases List.mem_cons.mp member with same | listed
        · cases same
        · exact ran.ledger.undone _ _ _ _ listed
  | unrecovered failed waiting progress effects failedControl recovers result ledger same ended =>
      rw [control] at failedControl
      cases failedControl
      have added : stepEffects config engine input = effects := by
        unfold stepEffects
        rw [same, ledger.log.1, List.drop_left]
      rw [added]
      exact recovery_handled enabled reached result ledger taskId

theorem failed_rollback_effects (rollback : FailedRollback config engine input plan)
    (taskId : String) :
    taskId ∈ engine.shared.rollbackManager.order ↔
      ∃ action status, Effect.undone plan.id taskId action status ∈
        stepEffects config engine input := by
  cases rollback with
  | requested planId reason idle op known failed =>
    exact requested_rollback_effects idle op known taskId
  | recovering attempt due control recovers reached same =>
    subst same
    exact recovering_rollback_effects control recovers reached taskId

theorem rolls_back_own_iff (known : OriginsKnown engine.shared) :
    RollsBackOwn config engine input ↔ RegistryOwn config engine input := by
  constructor
  · intro own plan rollback taskId origin found
    have listed : taskId ∈ engine.shared.rollbackManager.order := by
      rw [known, found]
      rfl
    obtain ⟨action, status, member⟩ :=
      (failed_rollback_effects rollback taskId).mp listed
    have origins := own plan rollback taskId action status member
    rw [found] at origins
    exact Option.some.inj origins
  · intro registry plan rollback taskId action status member
    have listed := (failed_rollback_effects rollback taskId).mpr ⟨action, status, member⟩
    obtain ⟨origin, found⟩ := Option.isSome_iff_exists.mp ((known taskId).mp listed)
    rw [found, registry plan rollback taskId origin found]

/-- In exactly those runs whose rollbacks of failed plans meet the condition,
each such rollback runs only handlers of the plan's own runs. -/
theorem rollbacks_run_own_handlers (config : EngineConfig) (hasMemory : Bool)
    (inputs : List EngineInput) :
    StepsMeet (Engine.step config) (RollsBackOwn config) (Engine.new config hasMemory) inputs ↔
      StepsMeet (Engine.step config) (RegistryOwn config) (Engine.new config hasMemory) inputs := by
  apply steps_meet_congr (Engine.step config) (fun engine => OriginsKnown engine.shared)
  · exact fun engine input known => step_origins_known config engine input known
  · exact fun engine input known => rolls_back_own_iff known
  · intro taskId
    constructor
    · intro member
      cases member
    · intro present
      cases present

/-- A plan without undo handlers whose only task fails. -/
def failingPlan : OrchestrationPlan where
  id := "plan-2"
  pipeline :=
    { id := "pipe-2"
      stages := [{ id := "s1", tasks := [{ id := "c" }] }] }

/-- One plan completes, a second one fails and is rolled back. -/
def rollbackAfterSuccess : List EngineInput :=
  [callUnder completingEnv (.plan undoablePlan), callUnder completingEnv (.start "plan-1"),
    callUnder completingEnv .tick,
    callUnder failingEnv (.plan failingPlan),
    callUnder failingEnv (.start "plan-2"),
    callUnder failingEnv .tick,
    callUnder failingEnv (.rollback "plan-2" "manual rollback")]

/-- Rolling back the failed plan runs the handler of the completed one. -/
theorem rollback_runs_foreign_handler : ¬∀ config hasMemory inputs,
      StepsMeet (Engine.step config) (RollsBackOwn config)
        (Engine.new config hasMemory) inputs := by
  intro claim
  have rollsBack := (claim {} false rollbackAfterSuccess).2.2.2.2.2.2.1
  have own := rollsBack { failingPlan with runCount := 1 }
    (.requested "plan-2" "manual rollback" rfl rfl rfl ⟨_, rfl, rfl⟩)
    "a" "undo" .executed (List.mem_of_getElem? (i := 0) rfl)
  exact absurd own (by decide)

end Rollbacks

end AiEnterpriseOs.Orchestration
