import AiEnterpriseOs.Orchestration.PipelineSettlement

/-!
# What a run leaves behind

The ledger of a run: the calls it made, the checkpoints it wrote, the undo
handlers it registered, and the part of the execution state that the runner
never rewrites.
-/

namespace AiEnterpriseOs.Orchestration

open Library

/-- The fields of an execution state that a run only carries along. -/
structure SameIdentity (before after : ExecutionState) : Prop where
  planId : after.planId = before.planId
  pipelineId : after.pipelineId = before.pipelineId
  metadata : after.metadata = before.metadata
  recoveredFrom : after.recoveredFrom = before.recoveredFrom

theorem SameIdentity.refl (state : ExecutionState) : SameIdentity state state :=
  ⟨rfl, rfl, rfl, rfl⟩

theorem SameIdentity.trans {first second third : ExecutionState}
    (early : SameIdentity first second) (late : SameIdentity second third) :
    SameIdentity first third :=
  ⟨late.planId.trans early.planId, late.pipelineId.trans early.pipelineId,
    late.metadata.trans early.metadata,
    late.recoveredFrom.trans early.recoveredFrom⟩

/-- The effects of a stretch of a run and what they left in the managers. -/
structure Ledger (plan : OrchestrationPlan) (before after : RunnerState)
    (effects : List Effect) : Prop where
  log : after.log = before.log ++ effects
  identity : SameIdentity before.state after.state
  written : ∀ checkpoint, Effect.checkpointed checkpoint ∈ effects →
    checkpoint.planId = plan.id ∧ checkpoint.pipelineId = plan.pipeline.id ∧
      SameIdentity before.state checkpoint.state
  held : ∀ checkpoint, after.checkpointManager.Holds checkpoint →
    before.checkpointManager.Holds checkpoint ∨ Effect.checkpointed checkpoint ∈ effects
  handlers : ∀ taskId, taskId ∈ after.rollbackManager.order ↔
    taskId ∈ before.rollbackManager.order ∨ Effect.registered plan.id taskId ∈ effects
  owner : ∀ planId taskId, Effect.registered planId taskId ∈ effects → planId = plan.id
  finished : ∀ planId status, Effect.runFinished planId status ∈ effects → planId = plan.id
  undone : ∀ planId taskId action status, Effect.undone planId taskId action status ∉ effects
  started : ∀ planId checkpoint, Effect.runStarted planId checkpoint ∉ effects

/-- An effect of a run that leaves the managers alone. -/
def Effect.isPlain (plan : OrchestrationPlan) : Effect → Prop
  | .submitted _ _ | .executed _ _ => True
  | .runFinished planId _ => planId = plan.id
  | .runStarted _ _ | .registered _ _ | .checkpointed _ | .undone _ _ _ _ => False

section Operations

variable {plan : OrchestrationPlan}

theorem Ledger.of_fields {before after : RunnerState} {effects : List Effect}
    (log : after.log = before.log ++ effects)
    (identity : SameIdentity before.state after.state)
    (checkpoints : after.checkpointManager = before.checkpointManager)
    (rollback : after.rollbackManager = before.rollbackManager)
    (plain : ∀ effect ∈ effects, effect.isPlain plan) :
    Ledger plan before after effects where
  log := log
  identity := identity
  written := fun _ member => (plain _ member).elim
  held := by
    intro checkpoint held
    rw [checkpoints] at held
    exact Or.inl held
  handlers := by
    intro taskId
    rw [rollback]
    constructor
    · exact Or.inl
    · intro present
      rcases present with old | fresh
      · exact old
      · exact (plain _ fresh).elim
  owner := fun _ _ member => (plain _ member).elim
  finished := fun _ _ member => plain _ member
  undone := fun _ _ _ _ member => plain _ member
  started := fun _ _ member => plain _ member

theorem Ledger.silent {before after : RunnerState} (log : after.log = before.log)
    (identity : SameIdentity before.state after.state)
    (checkpoints : after.checkpointManager = before.checkpointManager)
    (rollback : after.rollbackManager = before.rollbackManager) :
    Ledger plan before after [] := by
  apply Ledger.of_fields _ identity checkpoints rollback
  · intro effect member
    cases member
  · rw [log, List.append_nil]

theorem Ledger.refl (runner : RunnerState) : Ledger plan runner runner [] :=
  Ledger.silent rfl (SameIdentity.refl _) rfl rfl

theorem Ledger.trans {first second third : RunnerState}
    {effects later : List Effect} (early : Ledger plan first second effects)
    (late : Ledger plan second third later) :
    Ledger plan first third (effects ++ later) where
  log := by rw [late.log, early.log, List.append_assoc]
  identity := early.identity.trans late.identity
  written := by
    intro checkpoint member
    rcases List.mem_append.mp member with old | fresh
    · exact early.written checkpoint old
    · obtain ⟨planEq, pipelineEq, identity⟩ := late.written checkpoint fresh
      exact ⟨planEq, pipelineEq, early.identity.trans identity⟩
  held := by
    intro checkpoint held
    rcases late.held checkpoint held with middle | fresh
    · rcases early.held checkpoint middle with old | written
      · exact Or.inl old
      · exact Or.inr (List.mem_append_left _ written)
    · exact Or.inr (List.mem_append_right _ fresh)
  handlers := by
    intro taskId
    rw [late.handlers, early.handlers, List.mem_append, or_assoc]
  owner := by
    intro planId taskId member
    rcases List.mem_append.mp member with old | fresh
    · exact early.owner planId taskId old
    · exact late.owner planId taskId fresh
  finished := by
    intro planId status member
    rcases List.mem_append.mp member with old | fresh
    · exact early.finished planId status old
    · exact late.finished planId status fresh
  undone := by
    intro planId taskId action status member
    rcases List.mem_append.mp member with old | fresh
    · exact early.undone planId taskId action status old
    · exact late.undone planId taskId action status fresh
  started := by
    intro planId checkpoint member
    rcases List.mem_append.mp member with old | fresh
    · exact early.started planId checkpoint old
    · exact late.started planId checkpoint fresh

variable (plan) (config : RunnerConfig) (env : RunEnv)

theorem write_checkpoint_ledger (runner : RunnerState) :
    ∃ effects, Ledger plan runner (writeCheckpoint plan config env runner) effects := by
  rcases write_checkpoint_cases plan config env runner with
    same | ⟨manager, created, same⟩ | ⟨manager, checkpoint, created, same⟩
  · rw [same]
    exact ⟨[], Ledger.refl runner⟩
  · rw [same]
    refine ⟨[], ?_⟩
    constructor
    · exact (List.append_nil _).symm
    · exact SameIdentity.refl _
    · intro checkpoint member
      cases member
    · intro checkpoint held
      have kept := congrArg Prod.fst created
      have origin := CheckpointManager.holds_create (by rw [kept]; exact held)
      rw [created] at origin
      rcases origin with written | old
      · cases written
      · exact Or.inl old
    · intro taskId
      simp
    · intro planId taskId member
      cases member
    · intro planId status member
      cases member
    · intro planId taskId action status member
      cases member
    · intro planId checkpoint member
      cases member
  · rw [same]
    refine ⟨[.checkpointed checkpoint], ?_⟩
    constructor
    · rfl
    · exact SameIdentity.refl _
    · intro written member
      cases List.mem_singleton.mp member
      rw [CheckpointManager.create_snapshot created]
      exact ⟨rfl, rfl, SameIdentity.refl _⟩
    · intro other held
      have kept := congrArg Prod.fst created
      have origin := CheckpointManager.holds_create (by rw [kept]; exact held)
      rw [created] at origin
      rcases origin with written | old
      · cases written
        exact Or.inr List.mem_cons_self
      · exact Or.inl old
    · intro taskId
      simp
    · intro planId taskId member
      cases List.mem_singleton.mp member
    · intro planId status member
      cases List.mem_singleton.mp member
    · intro planId taskId action status member
      cases List.mem_singleton.mp member
    · intro planId started member
      cases List.mem_singleton.mp member

theorem register_rollback_ledger (task : PipelineTask) (runner : RunnerState) :
    ∃ effects, Ledger plan runner (registerRollback plan config task runner)
      effects := by
  rcases register_rollback_cases plan config task runner with
    same | ⟨action, _, same⟩
  · rw [same]
    exact ⟨[], Ledger.refl runner⟩
  · rw [same]
    refine ⟨[.registered plan.id task.id], ?_⟩
    constructor
    · rfl
    · exact SameIdentity.refl _
    · intro checkpoint member
      cases List.mem_singleton.mp member
    · exact fun checkpoint held => Or.inl held
    · intro taskId
      rw [RollbackManager.mem_order_register, or_comm]
      simp
    · intro planId taskId member
      cases List.mem_singleton.mp member
      rfl
    · intro planId status member
      cases List.mem_singleton.mp member
    · intro planId taskId action status member
      cases List.mem_singleton.mp member
    · intro planId started member
      cases List.mem_singleton.mp member

theorem apply_task_result_ledger (task : PipelineTask) (result : TaskResult)
    (runner : RunnerState) :
    ∃ effects, Ledger plan runner (applyTaskResult plan config env task result runner) effects := by
  unfold applyTaskResult
  split
  · have start : Ledger plan runner (mergeOutput task result runner) [] :=
      Ledger.silent rfl ⟨rfl, rfl, rfl, rfl⟩ rfl rfl
    obtain ⟨effects, registered⟩ := register_rollback_ledger plan config task
      (mergeOutput task result runner)
    have counting : Ledger plan (registerRollback plan config task (mergeOutput task result runner))
        (countCompleted result (registerRollback plan config task
          (mergeOutput task result runner))) [] :=
      Ledger.silent rfl (SameIdentity.refl _) rfl rfl
    have upTo := (start.trans registered).trans counting
    simp only
    split
    · obtain ⟨later, written⟩ := write_checkpoint_ledger plan config env
        (countCompleted result (registerRollback plan config task (mergeOutput task result runner)))
      exact ⟨_, upTo.trans written⟩
    · exact ⟨_, upTo⟩
  · exact ⟨[], Ledger.silent rfl ⟨rfl, rfl, rfl, rfl⟩ rfl rfl⟩
  · exact ⟨[], Ledger.silent rfl ⟨rfl, rfl, rfl, rfl⟩ rfl rfl⟩

theorem run_task_ledger {task : PipelineTask} {runner begun : RunnerState}
    (started : runTask task runner = .ok begun) :
    ∃ effects, Ledger plan runner begun effects := by
  unfold runTask at started
  split at started
  · cases started
  · cases started
    refine ⟨_, Ledger.of_fields rfl ⟨rfl, rfl, rfl, rfl⟩ rfl rfl ?_⟩
    intro effect member
    rw [List.mem_singleton.mp member]
    trivial

theorem fail_run_ledger (error : String) (runner : RunnerState) :
    ∃ effects, Ledger plan runner (failRun plan error runner).runner effects := by
  refine ⟨_, Ledger.of_fields rfl ⟨rfl, rfl, rfl, rfl⟩ rfl rfl ?_⟩
  intro effect member
  rw [List.mem_singleton.mp member]
  rfl

theorem end_stage_ledger (rest : List PipelineStage) (runner : RunnerState) :
    ∃ effects, Ledger plan runner (endStage plan config env rest runner).runner
      effects := by
  have advanced : Ledger plan runner { runner with stageIndex := runner.stageIndex + 1 } [] :=
    Ledger.silent rfl (SameIdentity.refl _) rfl rfl
  simp only [endStage]
  split
  · obtain ⟨effects, written⟩ := write_checkpoint_ledger plan config env
      { runner with stageIndex := runner.stageIndex + 1 }
    exact ⟨_, advanced.trans written⟩
  · exact ⟨_, advanced⟩

theorem skip_stage_ledger (stage : PipelineStage) (runner : RunnerState) :
    Ledger plan runner (skipStage stage runner) [] := by
  unfold skipStage
  induction stage.tasks generalizing runner with
  | nil => exact Ledger.refl runner
  | cons task rest ih =>
    rw [List.foldl_cons]
    split
    · have marked : Ledger plan runner (markSkipped task.id runner) [] :=
        Ledger.silent rfl ⟨rfl, rfl, rfl, rfl⟩ rfl rfl
      exact marked.trans (ih (markSkipped task.id runner))
    · exact ih runner

theorem sequential_ledger {graph : DependencyGraph} {index : Nat}
    {task : PipelineTask} {tasks : List PipelineTask}
    {rest : List PipelineStage} {runner : RunnerState} {after : Machine}
    (moved : SequentialStep plan config env graph index task tasks rest
      { runner with taskIndex := index } after) :
    ∃ effects, Ledger plan runner after.runner effects := by
  have entered : Ledger plan runner { runner with taskIndex := index } [] :=
    Ledger.silent rfl (SameIdentity.refl _) rfl rfl
  cases moved with
  | kept settled => exact ⟨_, entered⟩
  | skipped unsettled blocked => exact ⟨[], Ledger.silent rfl ⟨rfl, rfl, rfl, rfl⟩ rfl rfl⟩
  | refused unsettled ready error refusal =>
    obtain ⟨effects, failed⟩ := fail_run_ledger plan error { runner with taskIndex := index }
    exact ⟨_, entered.trans failed⟩
  | raised unsettled ready begun started error raises =>
    obtain ⟨effects, dispatched⟩ := run_task_ledger plan started
    obtain ⟨later, failed⟩ := fail_run_ledger plan error begun
    exact ⟨_, (entered.trans dispatched).trans failed⟩
  | stopped unsettled ready begun started result returns stops =>
    obtain ⟨effects, dispatched⟩ := run_task_ledger plan started
    obtain ⟨merging, merged⟩ :=
      apply_task_result_ledger plan config env task result begun
    obtain ⟨writing, written⟩ := write_checkpoint_ledger plan config env
      (applyTaskResult plan config env task result begun)
    obtain ⟨later, failed⟩ := fail_run_ledger plan (pipelineExecutionError plan task result)
      (writeCheckpoint plan config env (applyTaskResult plan config env task result begun))
    exact ⟨_, (((entered.trans dispatched).trans merged).trans written).trans failed⟩
  | applied unsettled ready begun started result returns continues =>
    obtain ⟨effects, dispatched⟩ := run_task_ledger plan started
    obtain ⟨merging, merged⟩ :=
      apply_task_result_ledger plan config env task result begun
    exact ⟨_, (entered.trans dispatched).trans merged⟩

theorem wave_ledger {graph : DependencyGraph} {stage : PipelineStage}
    {rest : List PipelineStage} {ready : List String} {pool : Pool}
    {runner : RunnerState} {choice : WaveChoice} {after : Machine}
    (moved : WaveStep plan config env graph stage rest ready pool runner choice after) :
    ∃ effects, Ledger plan runner after.runner effects := by
  cases moved with
  | drained empty => exact ⟨[], Ledger.refl runner⟩
  | begun task queued next begun started => exact run_task_ledger plan started
  | refused task queued next error refusal => exact ⟨[], Ledger.refl runner⟩
  | finished index task inside => exact ⟨[], Ledger.refl runner⟩
  | yielded index task result inside continues =>
    exact apply_task_result_ledger plan config env task result runner
  | stopped index task result chosen inside stops =>
    obtain ⟨effects, merged⟩ :=
      apply_task_result_ledger plan config env task result runner
    obtain ⟨later, failed⟩ := fail_run_ledger plan (pipelineExecutionError plan task result)
      (applyTaskResult plan config env task result runner)
    exact ⟨_, merged.trans failed⟩

theorem complete_run_ledger (runner : RunnerState) :
    ∃ effects, Ledger plan runner (completeRun plan runner).runner effects := by
  unfold completeRun
  split
  · exact fail_run_ledger plan _ runner
  · refine ⟨_, Ledger.of_fields rfl ⟨rfl, rfl, rfl, rfl⟩ rfl rfl ?_⟩
    intro effect member
    rw [List.mem_singleton.mp member]
    rfl

theorem submit_ledger (runner : RunnerState) (ready : List String) :
    Ledger plan runner (runner.record (.submitted runner.stageIndex ready))
      [.submitted runner.stageIndex ready] := by
  refine Ledger.of_fields rfl (SameIdentity.refl _) rfl rfl ?_
  intro effect member
  rw [List.mem_singleton.mp member]
  trivial

theorem stage_entry_ledger {stage : PipelineStage} {rest : List PipelineStage}
    {runner : RunnerState} {after : Machine}
    (entry : StageEntry plan config env stage rest runner after) :
    ∃ effects, Ledger plan runner after.runner effects := by
  cases entry with
  | rejected error => exact fail_run_ledger plan error runner
  | closed graph built gate =>
    obtain ⟨effects, ended⟩ := end_stage_ledger plan config env rest (skipStage stage runner)
    exact ⟨_, (skip_stage_ledger plan stage runner).trans ended⟩
  | parallel graph built gate mode workers => exact ⟨[], Ledger.refl runner⟩
  | sequential graph built gate mode => exact ⟨[], Ledger.refl runner⟩

theorem step_ledger (machine : Machine) (choice : WaveChoice) :
    ∃ effects, Ledger plan machine.runner (machine.step plan config env choice).runner effects := by
  have stepped := step_cases plan config env machine choice
  generalize machine.step plan config env choice = next at stepped ⊢
  cases stepped with
  | halted runner => exact ⟨[], Ledger.refl runner⟩
  | completed runner => exact complete_run_ledger plan runner
  | entered stage rest runner next entry =>
    exact stage_entry_ledger plan config env entry
  | ended graph index rest runner => exact end_stage_ledger plan config env rest runner
  | visited graph index task tasks rest runner next moved =>
    exact sequential_ledger plan config env moved
  | exhausted graph stage rest runner idle =>
    exact end_stage_ledger plan config env rest runner
  | submitted graph stage rest runner due =>
    exact ⟨_, submit_ledger plan runner (waveReady graph stage runner)⟩
  | pooled graph stage rest ready pool runner next moved =>
    exact wave_ledger plan config env moved

theorem run_ledger (machine : Machine) (choices : List WaveChoice) :
    ∃ effects, Ledger plan machine.runner (machine.run plan config env choices).runner effects := by
  have preserved : ∀ (state : Machine) (choice : WaveChoice),
      (∃ effects, Ledger plan machine.runner state.runner effects) →
      ∃ effects, Ledger plan machine.runner (state.step plan config env choice).runner effects := by
    intro state choice reached
    obtain ⟨effects, early⟩ := reached
    obtain ⟨later, late⟩ := step_ledger plan config env state choice
    exact ⟨_, early.trans late⟩
  exact invariant_of_steps (Machine.step plan config env) preserved machine _
    ⟨[], Ledger.refl machine.runner⟩

end Operations

section Snapshots

variable (plan : OrchestrationPlan) (config : RunnerConfig) (env : RunEnv)

/-- The checkpoint holds the task statuses and the stage position of the
runner. -/
structure SnapshotOf (checkpoint : Checkpoint) (runner : RunnerState) : Prop where
  stageIndex : checkpoint.stageIndex = runner.stageIndex
  statuses : checkpoint.state.taskStatuses = runner.state.taskStatuses

/-- Every checkpoint added to the log is a snapshot of the runner reached. -/
def Snapshots (before after : RunnerState) : Prop :=
  ∀ checkpoint, Effect.checkpointed checkpoint ∈ after.log →
    Effect.checkpointed checkpoint ∈ before.log ∨ SnapshotOf checkpoint after

theorem Snapshots.of_log {before after : RunnerState}
    (log : ∀ checkpoint, Effect.checkpointed checkpoint ∈ after.log →
      Effect.checkpointed checkpoint ∈ before.log) : Snapshots before after :=
  fun checkpoint member => Or.inl (log checkpoint member)

theorem Snapshots.of_log_eq {before after : RunnerState}
    (log : after.log = before.log) : Snapshots before after := by
  apply Snapshots.of_log
  intro checkpoint member
  rw [log] at member
  exact member

theorem Snapshots.of_append {before after : RunnerState} {effect : Effect}
    (log : after.log = before.log ++ [effect])
    (plain : ∀ checkpoint, effect ≠ .checkpointed checkpoint) :
    Snapshots before after := by
  apply Snapshots.of_log
  intro checkpoint member
  rw [log] at member
  rcases List.mem_append.mp member with old | fresh
  · exact old
  · exact absurd (List.mem_singleton.mp fresh).symm (plain checkpoint)

theorem Snapshots.trans {first second third : RunnerState}
    (early : Snapshots first second) (late : Snapshots second third)
    (same : (∀ checkpoint, Effect.checkpointed checkpoint ∈ second.log →
        Effect.checkpointed checkpoint ∈ first.log) ∨
      third.stageIndex = second.stageIndex ∧ third.state.taskStatuses = second.state.taskStatuses) :
    Snapshots first third := by
  intro checkpoint member
  rcases late checkpoint member with middle | fresh
  · rcases early checkpoint middle with old | written
    · exact Or.inl old
    · rcases same with unwritten | ⟨position, statuses⟩
      · exact Or.inl (unwritten checkpoint middle)
      · exact Or.inr ⟨written.stageIndex.trans position.symm, written.statuses.trans statuses.symm⟩
  · exact Or.inr fresh

theorem write_checkpoint_snapshots (runner : RunnerState) :
    Snapshots runner (writeCheckpoint plan config env runner) := by
  rcases write_checkpoint_cases plan config env runner with
    same | ⟨_, _, same⟩ | ⟨manager, checkpoint, created, same⟩
  · rw [same]
    exact Snapshots.of_log_eq rfl
  · rw [same]
    exact Snapshots.of_log_eq rfl
  · rw [same]
    intro other member
    rcases List.mem_append.mp member with old | fresh
    · exact Or.inl old
    · cases List.mem_singleton.mp fresh
      rw [CheckpointManager.create_snapshot created]
      exact Or.inr ⟨rfl, rfl⟩

theorem register_rollback_log (task : PipelineTask) (runner : RunnerState) :
    ∀ checkpoint, Effect.checkpointed checkpoint ∈ (registerRollback plan config task runner).log →
      Effect.checkpointed checkpoint ∈ runner.log := by
  rcases register_rollback_cases plan config task runner with
    same | ⟨action, _, same⟩
  · rw [same]
    exact fun _ member => member
  · rw [same]
    intro checkpoint member
    rcases List.mem_append.mp member with old | fresh
    · exact old
    · cases List.mem_singleton.mp fresh

theorem apply_task_result_snapshots (task : PipelineTask) (result : TaskResult)
    (runner : RunnerState) :
    Snapshots runner (applyTaskResult plan config env task result runner) := by
  unfold applyTaskResult
  split
  · have counted : ∀ checkpoint, Effect.checkpointed checkpoint ∈
        (countCompleted result (registerRollback plan config task
          (mergeOutput task result runner))).log →
        Effect.checkpointed checkpoint ∈ runner.log :=
      register_rollback_log plan config task (mergeOutput task result runner)
    simp only
    split
    · exact (Snapshots.of_log counted).trans
        (write_checkpoint_snapshots plan config env _) (Or.inl counted)
    · exact Snapshots.of_log counted
  · exact Snapshots.of_log_eq rfl
  · exact Snapshots.of_log_eq rfl

theorem fail_run_snapshots {before runner : RunnerState} (error : String)
    (written : Snapshots before runner) :
    Snapshots before (failRun plan error runner).runner := by
  have failed : Snapshots runner (failRun plan error runner).runner := by
    apply Snapshots.of_append rfl
    intro checkpoint same
    cases same
  exact written.trans failed (Or.inr ⟨rfl, rfl⟩)

theorem end_stage_snapshots {before runner : RunnerState}
    (rest : List PipelineStage) (log : runner.log = before.log) :
    Snapshots before (endStage plan config env rest runner).runner := by
  have advanced : Snapshots before { runner with stageIndex := runner.stageIndex + 1 } :=
    Snapshots.of_log_eq log
  simp only [endStage]
  split
  · apply advanced.trans (write_checkpoint_snapshots plan config env _)
    left
    intro checkpoint member
    change Effect.checkpointed checkpoint ∈ runner.log at member
    rw [log] at member
    exact member
  · exact advanced

theorem begun_snapshots {task : PipelineTask} {before begun after : RunnerState}
    (begin : Begun task before begun) (later : Snapshots begun after) :
    Snapshots before after := by
  have plain : ∀ checkpoint, Effect.checkpointed checkpoint ∈ begun.log →
      Effect.checkpointed checkpoint ∈ before.log := by
    intro checkpoint member
    rw [begin.log] at member
    rcases List.mem_append.mp member with old | fresh
    · exact old
    · cases List.mem_singleton.mp fresh
  exact (Snapshots.of_log plain).trans later (Or.inl plain)

theorem sequential_snapshots {graph : DependencyGraph} {index : Nat}
    {task : PipelineTask} {tasks : List PipelineTask}
    {rest : List PipelineStage} {runner : RunnerState} {after : Machine}
    (moved : SequentialStep plan config env graph index task tasks rest
      { runner with taskIndex := index } after) :
    Snapshots runner after.runner := by
  have dispatched : ∀ begun final : RunnerState,
      runTask task { runner with taskIndex := index } = .ok begun →
      Snapshots begun final → Snapshots runner final := by
    intro begun final started later
    have begin := run_task_begun started
    have sameBegin : Begun task runner begun :=
      ⟨begin.startable, begin.status, begin.pipelineStatus, begin.stageIndex,
        begin.metrics, begin.log⟩
    exact begun_snapshots sameBegin later
  cases moved with
  | kept settled => exact Snapshots.of_log_eq rfl
  | skipped unsettled blocked => exact Snapshots.of_log_eq rfl
  | refused unsettled ready error refusal =>
    apply Snapshots.of_append rfl
    intro checkpoint same
    cases same
  | raised unsettled ready begun started error raises =>
    apply dispatched begun _ started
    exact fail_run_snapshots plan error (Snapshots.of_log_eq rfl)
  | stopped unsettled ready begun started result returns stops =>
    apply dispatched begun _ started
    apply fail_run_snapshots
    apply (apply_task_result_snapshots plan config env task result begun).trans
      (write_checkpoint_snapshots plan config env _)
    right
    rw [write_checkpoint_stage_index, write_checkpoint_state]
    exact ⟨rfl, rfl⟩
  | applied unsettled ready begun started result returns continues =>
    apply dispatched begun _ started
    exact apply_task_result_snapshots plan config env task result begun

theorem complete_run_snapshots (runner : RunnerState) :
    Snapshots runner (completeRun plan runner).runner := by
  unfold completeRun
  split
  · exact fail_run_snapshots plan _ (Snapshots.of_log_eq rfl)
  · apply Snapshots.of_append rfl
    intro checkpoint same
    cases same

theorem stage_entry_snapshots {stage : PipelineStage} {rest : List PipelineStage}
    {runner : RunnerState} {after : Machine}
    (entry : StageEntry plan config env stage rest runner after) :
    Snapshots runner after.runner := by
  cases entry with
  | rejected error => exact fail_run_snapshots plan error (Snapshots.of_log_eq rfl)
  | closed graph built gate =>
    exact end_stage_snapshots plan config env rest (skip_stage_fields stage runner).1
  | parallel graph built gate mode workers => exact Snapshots.of_log_eq rfl
  | sequential graph built gate mode => exact Snapshots.of_log_eq rfl

theorem wave_snapshots {graph : DependencyGraph} {stage : PipelineStage}
    {rest : List PipelineStage} {ready : List String} {pool : Pool} {runner : RunnerState}
    {choice : WaveChoice} {after : Machine}
    (moved : WaveStep plan config env graph stage rest ready pool runner choice after) :
    Snapshots runner after.runner := by
  cases moved with
  | drained empty => exact Snapshots.of_log_eq rfl
  | begun task queued next begun started =>
    exact begun_snapshots (run_task_begun started) (Snapshots.of_log_eq rfl)
  | refused task queued next error refusal => exact Snapshots.of_log_eq rfl
  | finished index task inside => exact Snapshots.of_log_eq rfl
  | yielded index task result inside continues =>
    exact apply_task_result_snapshots plan config env task result runner
  | stopped index task result chosen inside stops =>
    exact fail_run_snapshots plan _ (apply_task_result_snapshots plan config env task result runner)

theorem step_snapshots (machine : Machine) (choice : WaveChoice) :
    Snapshots machine.runner (machine.step plan config env choice).runner := by
  have stepped := step_cases plan config env machine choice
  generalize machine.step plan config env choice = next at stepped ⊢
  cases stepped with
  | halted runner => exact Snapshots.of_log_eq rfl
  | completed runner => exact complete_run_snapshots plan runner
  | entered stage rest runner next entry =>
    exact stage_entry_snapshots plan config env entry
  | ended graph index rest runner => exact end_stage_snapshots plan config env rest rfl
  | visited graph index task tasks rest runner next moved =>
    exact sequential_snapshots plan config env moved
  | exhausted graph stage rest runner idle =>
    exact end_stage_snapshots plan config env rest rfl
  | submitted graph stage rest runner due =>
    apply Snapshots.of_append rfl
    intro checkpoint same
    cases same
  | pooled graph stage rest ready pool runner next moved =>
    exact wave_snapshots plan config env moved

end Snapshots

end AiEnterpriseOs.Orchestration
