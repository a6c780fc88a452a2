import AiEnterpriseOs.Orchestration.PipelineCoherence

/-!
# Dependency safety of a pipeline run

What a step can add to the log, and from it: a dispatched task has all its
declared dependencies completed, no task is dispatched twice, and a parallel
stage submits at most as many waves as it has tasks.
-/

namespace AiEnterpriseOs.Orchestration

open Library

/-- No task returns to pending or ready. -/
def Advances (before after : ExecutionState) : Prop :=
  ∀ taskId, after.taskStatus taskId = .pending ∨ after.taskStatus taskId = .ready →
    after.taskStatus taskId = before.taskStatus taskId

theorem Advances.refl (state : ExecutionState) : Advances state state :=
  fun _ _ => rfl

theorem Advances.trans {first second third : ExecutionState}
    (early : Advances first second) (late : Advances second third) :
    Advances first third := by
  intro taskId unstarted
  have same := late taskId unstarted
  rw [same] at unstarted ⊢
  exact early taskId unstarted

theorem Advances.single {before after : ExecutionState} {taskId : String}
    {status : TaskStatus} (started : status ≠ .pending ∧ status ≠ .ready)
    (moved : ∀ other, after.taskStatus other =
      if other = taskId then status else before.taskStatus other) :
    Advances before after := by
  intro other unstarted
  rw [moved] at unstarted ⊢
  split at unstarted
  · rcases unstarted with pending | ready
    · exact absurd pending started.1
    · exact absurd ready started.2
  next different => rw [if_neg different]

theorem result_status_started (status : TaskResultStatus) :
    status.taskStatus ≠ .pending ∧ status.taskStatus ≠ .ready := by
  cases status <;> decide

theorem Applied.advances {task : PipelineTask} {result : TaskResult}
    {before after : RunnerState} (applied : Applied task result before after) :
    Advances before.state after.state :=
  Advances.single (result_status_started result.status) applied.status

theorem Begun.advances {task : PipelineTask} {before after : RunnerState}
    (begun : Begun task before after) : Advances before.state after.state :=
  Advances.single (by decide) begun.status

theorem mark_skipped_advances (taskId : String) (runner : RunnerState) :
    Advances runner.state (markSkipped taskId runner).state :=
  Advances.single (by decide) (mark_skipped_status runner taskId)

theorem skip_stage_advances (stage : PipelineStage) (runner : RunnerState) :
    Advances runner.state (skipStage stage runner).state := by
  intro taskId unstarted
  rw [skip_stage_status] at unstarted ⊢
  split at unstarted
  · rcases unstarted with pending | ready
    · cases pending
    · cases ready
  next kept => rw [if_neg kept]

section Steps

variable (plan : OrchestrationPlan) (config : RunnerConfig) (env : RunEnv)

/-- What a step other than a wave submission can do to the log and to the
stored statuses. -/
inductive StepEffect (before after : RunnerState) : Prop
  | quiet (log : LogExtends before after) (advances : Advances before.state after.state)
  | dispatched (task : PipelineTask) (snapshot : ExecutionState) (effects : List Effect)
      (listed : task ∈ plan.pipeline.allTasks)
      (dependencies : ∀ dep ∈ task.dependencies, snapshot.taskStatus dep = .completed)
      (startable : before.state.taskStatus task.id = .pending ∨
        before.state.taskStatus task.id = .ready)
      (started : after.state.taskStatus task.id ≠ .pending ∧
        after.state.taskStatus task.id ≠ .ready)
      (log : after.log = before.log ++ [.executed task snapshot] ++ effects)
      (bookkeeping : ∀ effect ∈ effects, effect.isBookkeeping)
      (advances : Advances before.state after.state)

variable {plan config}

theorem fail_run_log (error : String) (runner : RunnerState) :
    LogExtends runner (failRun plan error runner).runner :=
  LogExtends.single rfl trivial

theorem StepEffect.ended {before after : RunnerState} (log : LogExtends before after)
    (sameStatuses : after.state.taskStatuses = before.state.taskStatuses) :
    StepEffect plan before after := by
  apply StepEffect.quiet log
  intro taskId _
  simp only [ExecutionState.taskStatus, sameStatuses]

theorem StepEffect.of_begun {task : PipelineTask} {before begun after : RunnerState}
    (listed : task ∈ plan.pipeline.allTasks)
    (begin : Begun task before begun)
    (dependencies : ∀ dep ∈ task.dependencies, before.state.taskStatus dep = .completed)
    (log : LogExtends begun after)
    (advances : Advances begun.state after.state) :
    StepEffect plan before after := by
  obtain ⟨effects, logEq, bookkeeping⟩ := log
  apply StepEffect.dispatched task begun.state effects listed
  · intro dep member
    have completed := dependencies dep member
    have different : dep ≠ task.id := by
      intro same
      rw [same] at completed
      rcases begin.startable with pending | ready
      · rw [completed] at pending
        cases pending
      · rw [completed] at ready
        cases ready
    rw [begin.status, if_neg different]
    exact completed
  · exact begin.startable
  · have running := begin.status task.id
    rw [if_pos rfl] at running
    constructor
    · intro pending
      have same := advances task.id (Or.inl pending)
      rw [pending, running] at same
      cases same
    · intro ready
      have same := advances task.id (Or.inr ready)
      rw [ready, running] at same
      cases same
  · rw [logEq, begin.log]
  · exact bookkeeping
  · exact begin.advances.trans advances

theorem end_stage_effect (rest : List PipelineStage)
    {before runner : RunnerState} (log : LogExtends before runner)
    (advances : Advances before.state runner.state) :
    StepEffect plan before (endStage plan config env rest runner).runner := by
  apply StepEffect.quiet (log.trans (end_stage_log plan config env rest runner))
  rw [end_stage_state]
  exact advances

theorem listed_of_position {stage : PipelineStage} {rest : List PipelineStage}
    {index : Nat} {task : PipelineTask}
    (position : plan.pipeline.stages.drop index = stage :: rest)
    (member : task ∈ stage.tasks) : task ∈ plan.pipeline.allTasks := by
  have inPlan : stage ∈ plan.pipeline.stages := by
    apply List.mem_of_mem_drop (i := index)
    rw [position]
    exact List.mem_cons_self
  exact List.mem_flatMap.mpr ⟨stage, inPlan, member⟩

/-- The default policies: missing and self dependencies are rejected, so the
graph of an accepted plan has every declared dependency. -/
structure RaisingPolicies (config : RunnerConfig) : Prop where
  missing : config.dependencies.missingDependencyPolicy ≠ .skip
  self : config.dependencies.selfDependencyPolicy ≠ .ignore

theorem declared_in_graph (policies : RaisingPolicies config)
    {graph : DependencyGraph} (graphOf : GraphOf plan config graph)
    {task : PipelineTask} (listed : task ∈ plan.pipeline.allTasks)
    {dep : String} (declared : dep ∈ task.dependencies) :
    { taskId := dep } ∈ graph.dependenciesOf task.id := by
  obtain ⟨pipelineEq, configEq⟩ := graphOf
  apply graph.declared_dependency
  · rw [configEq]
    exact policies.missing
  · rw [configEq]
    exact policies.self
  · rw [pipelineEq]
    exact listed
  · exact declared

theorem ready_dependencies (policies : RaisingPolicies config)
    {graph : DependencyGraph} (graphOf : GraphOf plan config graph)
    {task : PipelineTask} (listed : task ∈ plan.pipeline.allTasks)
    {state : ExecutionState} {failed : List String}
    (ready : task.id ∈ graph.readyTasks (state.tasksWith .completed) failed) :
    ∀ dep ∈ task.dependencies, state.taskStatus dep = .completed := by
  obtain ⟨_, _, _, satisfied⟩ := (graph.mem_ready_tasks _ _ task.id).mp ready
  intro dep declared
  have stored := satisfied _ (declared_in_graph policies graphOf listed declared)
  exact (state.mem_tasks_with (by decide) dep).mp stored

theorem sequential_effect (policies : RaisingPolicies config)
    {graph : DependencyGraph} (graphOf : GraphOf plan config graph)
    {index : Nat} {task : PipelineTask} {tasks : List PipelineTask}
    {rest : List PipelineStage} {runner : RunnerState} {after : Machine}
    (listed : task ∈ plan.pipeline.allTasks)
    (moved : SequentialStep plan config env graph index task tasks rest
      { runner with taskIndex := index } after) :
    StepEffect plan runner after.runner := by
  have dispatched : ∀ begun final : RunnerState,
      task.id ∈ graph.readyTasks (runner.state.tasksWith .completed)
        (runner.state.tasksWith .failed) →
      runTask task { runner with taskIndex := index } = .ok begun →
      LogExtends begun final → Advances begun.state final.state →
      StepEffect plan runner final := by
    intro begun final ready started log advances
    have begin := run_task_begun started
    have sameBegin : Begun task runner begun :=
      ⟨begin.startable, begin.status, begin.pipelineStatus, begin.stageIndex,
        begin.metrics, begin.log⟩
    exact StepEffect.of_begun listed sameBegin
      (ready_dependencies policies graphOf listed ready) log advances
  cases moved with
  | kept settled => exact StepEffect.quiet (LogExtends.of_log_eq rfl) (Advances.refl _)
  | skipped unsettled blocked =>
    have advances := mark_skipped_advances task.id { runner with taskIndex := index }
    refine StepEffect.quiet (LogExtends.of_log_eq ?_) advances
    rfl
  | refused unsettled ready error refusal =>
    have log : LogExtends runner (failRun plan error { runner with taskIndex := index }).runner :=
      fail_run_log error { runner with taskIndex := index }
    exact StepEffect.ended log rfl
  | raised unsettled ready begun started error raises =>
    exact dispatched begun _ ready started (fail_run_log error begun) (Advances.refl _)
  | stopped unsettled ready begun started result returns stops =>
    have applied := apply_task_result_applied plan config env task result begun
    have written := write_checkpoint_log plan config env
      (applyTaskResult plan config env task result begun)
    apply dispatched begun _ ready started
    · exact (applied.log.trans written).trans (fail_run_log _ _)
    · change Advances begun.state (writeCheckpoint plan config env
        (applyTaskResult plan config env task result begun)).state
      rw [write_checkpoint_state]
      exact applied.advances
  | applied unsettled ready begun started result returns continues =>
    have applied := apply_task_result_applied plan config env task result begun
    exact dispatched begun _ ready started applied.log applied.advances

theorem wave_effect (policies : RaisingPolicies config)
    {graph : DependencyGraph} (graphOf : GraphOf plan config graph)
    {stage : PipelineStage} {rest : List PipelineStage} {ready : List String}
    {pool : Pool} {runner : RunnerState} {choice : WaveChoice} {after : Machine}
    (position : plan.pipeline.stages.drop runner.stageIndex = stage :: rest)
    (pooled : PoolCoherent graph stage ready pool runner.state)
    (moved : WaveStep plan config env graph stage rest ready pool runner choice after) :
    StepEffect plan runner after.runner := by
  cases moved with
  | drained empty => exact StepEffect.quiet (LogExtends.refl _) (Advances.refl _)
  | begun task queued next begun started =>
    have waiting := pooled.queued task (by rw [next]; exact List.mem_cons_self)
    have listed := listed_of_position position waiting.1
    apply StepEffect.of_begun listed (run_task_begun started)
    · intro dep declared
      exact (pooled.dependencies task.id waiting.2 _
        (declared_in_graph policies graphOf listed declared)).1
    · exact LogExtends.refl _
    · exact Advances.refl _
  | refused task queued next error refusal =>
    exact StepEffect.quiet (LogExtends.refl _) (Advances.refl _)
  | finished index task inside =>
    exact StepEffect.quiet (LogExtends.refl _) (Advances.refl _)
  | yielded index task result inside continues =>
    have applied := apply_task_result_applied plan config env task result runner
    exact StepEffect.quiet applied.log applied.advances
  | stopped index task result chosen inside stops =>
    have applied := apply_task_result_applied plan config env task result runner
    exact StepEffect.quiet (applied.log.trans (fail_run_log _ _)) applied.advances

/-- The step that submits a wave. -/
inductive Submission (machine : Machine) : Machine → Prop
  | wave (graph : DependencyGraph) (stage : PipelineStage) (rest : List PipelineStage)
      (head : machine.control = .waves graph stage rest)
      (nonempty : waveReady graph stage machine.runner ≠ []) :
      Submission machine
        { control := .wave graph stage rest
            (waveReady graph stage machine.runner)
            { queued := stage.tasks.filter fun task =>
                task.id ∈ waveReady graph stage machine.runner }
          runner := machine.runner.record (.submitted machine.runner.stageIndex
            (waveReady graph stage machine.runner)) }

theorem stage_entry_effect {stage : PipelineStage} {rest : List PipelineStage}
    {runner : RunnerState} {after : Machine}
    (entry : StageEntry plan config env stage rest runner after) :
    StepEffect plan runner after.runner := by
  cases entry with
  | rejected error => exact StepEffect.ended (fail_run_log _ _) rfl
  | closed graph built gate =>
    apply end_stage_effect env rest
    · exact LogExtends.of_log_eq (skip_stage_fields stage runner).1
    · exact skip_stage_advances stage runner
  | parallel graph built gate mode workers =>
    exact StepEffect.quiet (LogExtends.refl _) (Advances.refl _)
  | sequential graph built gate mode =>
    exact StepEffect.quiet (LogExtends.refl _) (Advances.refl _)

theorem complete_run_effect (runner : RunnerState) :
    StepEffect plan runner (completeRun plan runner).runner := by
  unfold completeRun
  split
  · exact StepEffect.ended (fail_run_log _ _) rfl
  · exact StepEffect.ended (LogExtends.single rfl trivial) rfl

theorem step_effect (policies : RaisingPolicies config) (machine : Machine)
    (choice : WaveChoice) (coherent : Coherent plan config machine) :
    Submission machine (machine.step plan config env choice) ∨ StepEffect plan machine.runner
        (machine.step plan config env choice).runner := by
  have stepped := step_cases plan config env machine choice
  generalize machine.step plan config env choice = next at stepped ⊢
  cases stepped with
  | halted runner => exact Or.inr (StepEffect.quiet (LogExtends.refl _) (Advances.refl _))
  | completed runner => exact Or.inr (complete_run_effect runner)
  | entered stage rest runner next entry => exact Or.inr (stage_entry_effect env entry)
  | ended graph index rest runner =>
    exact Or.inr (end_stage_effect env rest (LogExtends.refl _) (Advances.refl _))
  | visited graph index task tasks rest runner next moved =>
    obtain ⟨graphOf, stage, earlier, position, split⟩ := coherent
    have listed : task ∈ plan.pipeline.allTasks := by
      apply listed_of_position position
      rw [split]
      exact List.mem_append_right _ List.mem_cons_self
    exact Or.inr (sequential_effect env policies graphOf listed moved)
  | exhausted graph stage rest runner idle =>
    exact Or.inr (end_stage_effect env rest (LogExtends.refl _) (Advances.refl _))
  | submitted graph stage rest runner due =>
    exact Or.inl (Submission.wave graph stage rest rfl due)
  | pooled graph stage rest ready pool runner next moved =>
    obtain ⟨graphOf, position, pooled⟩ := coherent
    exact Or.inr (wave_effect env policies graphOf position pooled moved)

end Steps

section Dispatches

variable (plan : OrchestrationPlan)

def Effect.dispatchedId : Effect → Option String
  | .executed task _ => some task.id
  | _ => none

def dispatchedIds (calls : List Effect) : List String :=
  calls.filterMap Effect.dispatchedId

/-- The calls of a run so far: every dispatch found its dependencies
completed, and a dispatched task can neither be dispatched again nor return
to a status from which it could. -/
structure SafeCalls (calls : List Effect) (state : ExecutionState) : Prop where
  dependencies : ∀ task snapshot, Effect.executed task snapshot ∈ calls →
    task ∈ plan.pipeline.allTasks ∧ ∀ dep ∈ task.dependencies, snapshot.taskStatus dep = .completed
  once : (dispatchedIds calls).Nodup
  started : ∀ taskId ∈ dispatchedIds calls,
    state.taskStatus taskId ≠ .pending ∧ state.taskStatus taskId ≠ .ready

variable {plan}

theorem dispatched_ids_append (calls later : List Effect) :
    dispatchedIds (calls ++ later) = dispatchedIds calls ++ dispatchedIds later :=
  List.filterMap_append

theorem Advances.started {before after : ExecutionState} {taskId : String}
    (advances : Advances before after)
    (started : before.taskStatus taskId ≠ .pending ∧ before.taskStatus taskId ≠ .ready) :
    after.taskStatus taskId ≠ .pending ∧ after.taskStatus taskId ≠ .ready := by
  constructor
  · intro pending
    exact started.1 ((advances taskId (Or.inl pending)).symm.trans pending)
  · intro ready
    exact started.2 ((advances taskId (Or.inr ready)).symm.trans ready)

theorem SafeCalls.extend {calls effects : List Effect}
    {before after : ExecutionState} (safe : SafeCalls plan calls before)
    (silent : ∀ task snapshot, Effect.executed task snapshot ∉ effects)
    (advances : Advances before after) :
    SafeCalls plan (calls ++ effects) after := by
  have none : dispatchedIds effects = [] := by
    apply List.filterMap_eq_nil_iff.mpr
    intro effect member
    cases effect <;> first | rfl | exact absurd member (silent _ _)
  constructor
  · intro task snapshot member
    rcases List.mem_append.mp member with old | new
    · exact safe.dependencies task snapshot old
    · exact absurd new (silent task snapshot)
  · rw [dispatched_ids_append, none, List.append_nil]
    exact safe.once
  · intro taskId member
    rw [dispatched_ids_append, none, List.append_nil] at member
    exact advances.started (safe.started taskId member)

theorem StepEffect.safe_calls {before after : RunnerState}
    {prior calls : List Effect} (effect : StepEffect plan before after)
    (logEq : before.log = prior ++ calls)
    (safe : SafeCalls plan calls before.state) :
    ∃ later, after.log = prior ++ later ∧ SafeCalls plan later after.state := by
  cases effect with
  | quiet log advances =>
    obtain ⟨effects, afterEq, bookkeeping⟩ := log
    refine ⟨calls ++ effects, by rw [afterEq, logEq, List.append_assoc], ?_⟩
    apply safe.extend _ advances
    intro task snapshot member
    exact bookkeeping _ member
  | dispatched task snapshot effects listed dependencies startable started log
      bookkeeping advances =>
      have fresh : task.id ∉ dispatchedIds calls := by
        intro member
        have already := safe.started task.id member
        rcases startable with pending | ready
        · exact already.1 pending
        · exact already.2 ready
      have ids : dispatchedIds (calls ++ [.executed task snapshot]) =
          dispatchedIds calls ++ [task.id] := dispatched_ids_append calls _
      have extended : SafeCalls plan (calls ++ [.executed task snapshot])
          after.state := by
        constructor
        · intro other state member
          rcases List.mem_append.mp member with old | new
          · exact safe.dependencies other state old
          · cases List.mem_singleton.mp new
            exact ⟨listed, dependencies⟩
        · rw [ids]
          exact List.Nodup.append safe.once (List.nodup_singleton _) (by simpa using fresh)
        · intro taskId member
          rw [ids] at member
          rcases List.mem_append.mp member with old | new
          · exact advances.started (safe.started taskId old)
          · rw [List.mem_singleton.mp new]
            exact started
      refine ⟨calls ++ [.executed task snapshot] ++ effects, ?_, ?_⟩
      · rw [log, logEq]
        simp only [List.append_assoc]
      · apply extended.extend _ (Advances.refl _)
        intro other state member
        exact bookkeeping _ member

theorem Submission.safe_calls {before after : Machine}
    {prior calls : List Effect} (submission : Submission before after)
    (logEq : before.runner.log = prior ++ calls)
    (safe : SafeCalls plan calls before.runner.state) :
    ∃ later, after.runner.log = prior ++ later ∧ SafeCalls plan later after.runner.state := by
  cases submission with
  | wave graph stage rest head nonempty =>
    refine ⟨calls ++ [.submitted before.runner.stageIndex
      (waveReady graph stage before.runner)], ?_, ?_⟩
    · rw [← List.append_assoc, ← logEq]
      rfl
    · apply safe.extend _ (Advances.refl _)
      intro task snapshot member
      cases List.mem_singleton.mp member

end Dispatches

section Waves

variable (plan : OrchestrationPlan) (config : RunnerConfig) (env : RunEnv)

def Effect.isWaveOf (stageIndex : Nat) : Effect → Bool
  | .submitted index _ => decide (index = stageIndex)
  | _ => false

/-- Waves submitted for the stage at a position. -/
def wavesOf (stageIndex : Nat) (calls : List Effect) : Nat :=
  calls.countP (Effect.isWaveOf stageIndex)

theorem waves_of_append (stageIndex : Nat) (calls later : List Effect) :
    wavesOf stageIndex (calls ++ later) = wavesOf stageIndex calls + wavesOf stageIndex later :=
  List.countP_append

/-- The first stage position that has submitted nothing yet. -/
def Machine.untouchedFrom (machine : Machine) : Option Nat :=
  match machine.control with
  | .stages _ | .sequential _ _ _ _ => some machine.runner.stageIndex
  | .waves _ _ _ | .wave _ _ _ _ _ => some (machine.runner.stageIndex + 1)
  | .halted => none

structure WaveBound (calls : List Effect) (machine : Machine) : Prop where
  bounded : ∀ index stage, plan.pipeline.stages[index]? = some stage → wavesOf index calls +
        (if index = machine.runner.stageIndex then machine.openTasks else 0) ≤
      stage.tasks.length
  untouched : ∀ first, machine.untouchedFrom = some first →
    ∀ index, first ≤ index → wavesOf index calls = 0

variable {plan config}

theorem waves_of_bookkeeping {effects : List Effect} (stageIndex : Nat)
    (bookkeeping : ∀ effect ∈ effects, effect.isBookkeeping) :
    wavesOf stageIndex effects = 0 := by
  apply List.countP_eq_zero.mpr
  intro effect member isWave
  have kind := bookkeeping effect member
  cases effect <;> first | exact kind.elim | cases isWave

theorem WaveBound.quiet {calls effects : List Effect} {before after : Machine}
    (bound : WaveBound plan calls before)
    (silent : ∀ index, wavesOf index effects = 0)
    (idle : after.openTasks = 0 ∨ after.runner.stageIndex = before.runner.stageIndex ∧
        after.openTasks ≤ before.openTasks)
    (frontier : ∀ first, after.untouchedFrom = some first →
      ∃ earlier, before.untouchedFrom = some earlier ∧ earlier ≤ first) :
    WaveBound plan (calls ++ effects) after := by
  constructor
  · intro index stage found
    have old := bound.bounded index stage found
    rw [waves_of_append, silent]
    rcases idle with closed | ⟨sameIndex, fewer⟩
    · rw [closed, ite_self]
      omega
    · rw [sameIndex]
      split at old
      next here =>
        rw [if_pos here]
        omega
      next elsewhere =>
        rw [if_neg elsewhere]
        omega
  · intro first opened index later
    obtain ⟨earlier, frontierEq, below⟩ := frontier first opened
    rw [waves_of_append, silent, bound.untouched earlier frontierEq index (by omega)]

theorem position_index {stages : List PipelineStage} {stage : PipelineStage}
    {rest : List PipelineStage} {index : Nat}
    (position : stages.drop index = stage :: rest) :
    stages[index]? = some stage := by
  have head := congrArg (fun remaining => remaining[0]?) position
  simpa using head

theorem Submission.wave_bound {calls prior : List Effect}
    {before after : Machine} (submission : Submission before after)
    (coherent : Coherent plan config before)
    (logEq : before.runner.log = prior ++ calls)
    (bound : WaveBound plan calls before) :
    ∃ later, after.runner.log = prior ++ later ∧ WaveBound plan later after := by
  cases submission with
  | wave graph stage rest head nonempty =>
    obtain ⟨control, runner⟩ := before
    simp only at head
    subst head
    obtain ⟨graphOf, position⟩ := coherent
    change plan.pipeline.stages.drop runner.stageIndex = stage :: rest at position
    have taken := pending_outside_submit graph stage runner
    have some := submitted_nonempty graph stage runner nonempty
    let submitted : Effect :=
      .submitted runner.stageIndex (waveReady graph stage runner)
    refine ⟨calls ++ [submitted], ?_, ?_⟩
    · rw [← List.append_assoc, ← logEq]
      rfl
    constructor
    · intro index other found
      have old := bound.bounded index other found
      simp only [Machine.openTasks] at old
      change wavesOf index (calls ++ [submitted]) + (if index = runner.stageIndex then
          Machine.pendingOutside stage (waveReady graph stage runner) runner.state
        else 0) ≤ other.tasks.length
      rw [waves_of_append]
      by_cases here : index = runner.stageIndex
      · have one : wavesOf index [submitted] = 1 := by
          simp [wavesOf, Effect.isWaveOf, submitted, here]
        rw [if_pos here] at old ⊢
        omega
      · have none : wavesOf index [submitted] = 0 := by
          simp [wavesOf, Effect.isWaveOf, submitted, Ne.symm here]
        rw [if_neg here] at old ⊢
        omega
    · intro first opened index later
      cases Option.some.inj opened
      change runner.stageIndex + 1 ≤ index at later
      have none : wavesOf index [submitted] = 0 := by
        have other : runner.stageIndex ≠ index := by omega
        simp [wavesOf, Effect.isWaveOf, submitted, other]
      rw [waves_of_append, none, bound.untouched _ rfl index later]

theorem StepEffect.silent {before after : RunnerState} (effect : StepEffect plan before after) :
    ∃ effects, after.log = before.log ++ effects ∧ ∀ index, wavesOf index effects = 0 := by
  cases effect with
  | quiet log advances =>
    obtain ⟨effects, logEq, bookkeeping⟩ := log
    exact ⟨effects, logEq, fun index => waves_of_bookkeeping index bookkeeping⟩
  | dispatched task snapshot effects listed dependencies startable started log
      bookkeeping advances =>
      refine ⟨[.executed task snapshot] ++ effects, ?_, ?_⟩
      · rw [log, List.append_assoc]
      · intro index
        rw [waves_of_append, waves_of_bookkeeping index bookkeeping]
        rfl

/-- How a step that submits no wave moves the stage position: forward, or
into the stage at it. -/
inductive FrontierStep (before after : Machine) : Prop
  | idle (opened : after.openTasks = 0 ∨ after.runner.stageIndex = before.runner.stageIndex ∧
          after.openTasks ≤ before.openTasks)
      (frontier : ∀ first, after.untouchedFrom = some first →
        ∃ earlier, before.untouchedFrom = some earlier ∧ earlier ≤ first)
  | entered (graph : DependencyGraph) (stage : PipelineStage) (rest : List PipelineStage)
      (head : before.control = .stages (stage :: rest))
      (same : after = ⟨.waves graph stage rest, before.runner⟩)

theorem FrontierStep.halted {before after : Machine}
    (halted : after.control = .halted) : FrontierStep before after := by
  apply FrontierStep.idle
  · left
    simp only [Machine.openTasks, halted]
  · intro first opened
    simp only [Machine.untouchedFrom, halted] at opened
    cases opened

theorem end_stage_frontier {before : Machine} {first : Nat}
    (rest : List PipelineStage) (runner : RunnerState)
    (frontier : before.untouchedFrom = some first)
    (below : first ≤ runner.stageIndex + 1) :
    FrontierStep before (endStage plan config env rest runner) := by
  apply FrontierStep.idle (Or.inl rfl)
  intro reached opened
  have position : (endStage plan config env rest runner).untouchedFrom =
      some (runner.stageIndex + 1) :=
    congrArg some (end_stage_index plan config env rest runner)
  rw [position] at opened
  cases opened
  exact ⟨first, frontier, below⟩

theorem sequential_frontier {before : Machine} {graph : DependencyGraph}
    {index : Nat} {tasks : List PipelineTask} {rest : List PipelineStage}
    {runner : RunnerState}
    (frontier : before.untouchedFrom = some runner.stageIndex) :
    FrontierStep before ⟨.sequential graph index tasks rest, runner⟩ := by
  apply FrontierStep.idle (Or.inl rfl)
  intro reached opened
  cases opened
  exact ⟨runner.stageIndex, frontier, Nat.le_refl _⟩

theorem wave_control_untouched (graph : DependencyGraph)
    (stage : PipelineStage) (rest : List PipelineStage) (ready : List String)
    (pool : Pool) (runner : RunnerState) :
    Machine.untouchedFrom ⟨waveControl graph stage rest ready pool, runner⟩ =
      some (runner.stageIndex + 1) := by
  unfold waveControl
  split <;> rfl

theorem visited_frontier {graph : DependencyGraph} {index : Nat} {task : PipelineTask}
    {tasks : List PipelineTask} {rest : List PipelineStage} {runner : RunnerState}
    {before after : Machine} (frontier : before.untouchedFrom = some runner.stageIndex)
    (moved : SequentialStep plan config env graph index task tasks rest runner after) :
    FrontierStep before after := by
  cases moved with
  | kept settled => exact sequential_frontier frontier
  | skipped unsettled blocked => exact sequential_frontier frontier
  | refused unsettled ready error refusal => exact FrontierStep.halted rfl
  | raised unsettled ready begun started error raises => exact FrontierStep.halted rfl
  | stopped unsettled ready begun started result returns stops =>
    exact FrontierStep.halted rfl
  | applied unsettled ready begun started result returns continues =>
    have begin := run_task_begun started
    have applied := apply_task_result_applied plan config env task result begun
    apply sequential_frontier
    rw [applied.stageIndex, begin.stageIndex]
    exact frontier

theorem wave_frontier {graph : DependencyGraph} {stage : PipelineStage}
    {rest : List PipelineStage} {ready : List String} {pool : Pool} {runner : RunnerState}
    {choice : WaveChoice} {after : Machine}
    (pooled : PoolCoherent graph stage ready pool runner.state)
    (moved : WaveStep plan config env graph stage rest ready pool runner choice after) :
    FrontierStep ⟨.wave graph stage rest ready pool, runner⟩ after := by
  rcases wave_step_advance env pooled moved with
    halted | ⟨done, drained⟩ | ⟨next, control, advance⟩
  · exact FrontierStep.halted halted
  · rw [drained]
    apply FrontierStep.idle
    · exact Or.inr ⟨rfl, drained_open pooled done⟩
    · intro first opened
      exact ⟨first, opened, Nat.le_refl _⟩
  · obtain ⟨afterControl, afterRunner⟩ := after
    simp only at control
    subst control
    have opened := wave_control_open rest advance.pooled
    have fewer : Machine.pendingOutside stage ready afterRunner.state ≤
        Machine.pendingOutside stage ready runner.state :=
      pending_outside_unchanged advance.outside
    apply FrontierStep.idle
    · exact Or.inr ⟨advance.stageIndex, opened.trans fewer⟩
    · intro first reached
      refine ⟨runner.stageIndex + 1, rfl, ?_⟩
      rw [wave_control_untouched] at reached
      cases reached
      rw [advance.stageIndex]

theorem step_frontier (machine : Machine) (choice : WaveChoice)
    (coherent : Coherent plan config machine)
    (silent : ¬Submission machine (machine.step plan config env choice)) :
    FrontierStep machine (machine.step plan config env choice) := by
  have stepped := step_cases plan config env machine choice
  generalize machine.step plan config env choice = next at stepped silent ⊢
  cases stepped with
  | halted runner => exact FrontierStep.halted rfl
  | completed runner => exact FrontierStep.halted (complete_run_control plan runner)
  | entered stage rest runner next entry =>
    cases entry with
    | rejected error => exact FrontierStep.halted rfl
    | closed graph built gate =>
      apply end_stage_frontier env rest _ rfl
      rw [(skip_stage_fields stage runner).2.1]
      exact Nat.le_succ _
    | parallel graph built gate mode workers =>
      exact FrontierStep.entered graph stage rest rfl rfl
    | sequential graph built gate mode => exact sequential_frontier rfl
  | ended graph index rest runner =>
    exact end_stage_frontier env rest runner rfl (Nat.le_succ _)
  | visited graph index task tasks rest runner next moved =>
    apply visited_frontier env _ moved
    rfl
  | exhausted graph stage rest runner idle =>
    exact end_stage_frontier env rest runner rfl (Nat.le_refl _)
  | submitted graph stage rest runner due =>
    exact absurd (Submission.wave graph stage rest rfl due) silent
  | pooled graph stage rest ready pool runner next moved =>
    exact wave_frontier env coherent.2.2 moved

theorem step_wave_bound (policies : RaisingPolicies config)
    {machine : Machine} {prior calls : List Effect} (choice : WaveChoice)
    (coherent : Coherent plan config machine)
    (logEq : machine.runner.log = prior ++ calls)
    (bound : WaveBound plan calls machine) :
    ∃ later, (machine.step plan config env choice).runner.log = prior ++ later ∧
      WaveBound plan later (machine.step plan config env choice) := by
  by_cases submits : Submission machine (machine.step plan config env choice)
  · exact submits.wave_bound coherent logEq bound
  have effect := (step_effect env policies machine choice coherent).resolve_left submits
  obtain ⟨effects, afterLog, silent⟩ := effect.silent
  refine ⟨calls ++ effects, by rw [afterLog, logEq, List.append_assoc], ?_⟩
  have moved := step_frontier env machine choice coherent submits
  generalize machine.step plan config env choice = after at moved ⊢
  cases moved with
  | idle opened frontier => exact bound.quiet silent opened frontier
  | entered graph stage rest head same =>
    obtain ⟨control, runner⟩ := machine
    simp only at head
    subst head
    subst same
    have position : plan.pipeline.stages[runner.stageIndex]? = some stage :=
      position_index coherent.symm
    constructor
    · intro index other found
      rw [waves_of_append, silent]
      by_cases here : index = runner.stageIndex
      · have fresh := bound.untouched runner.stageIndex rfl index (by omega)
        rw [here, position] at found
        cases found
        rw [fresh]
        change 0 + 0 + (if index = runner.stageIndex then
          Machine.pendingOutside stage [] runner.state else 0) ≤ _
        rw [if_pos here]
        have fewer := pending_outside_le stage [] runner.state
        omega
      · have old := bound.bounded index other found
        change wavesOf index calls + 0 + (if index = runner.stageIndex then
          Machine.pendingOutside stage [] runner.state else 0) ≤ _
        rw [if_neg here] at old ⊢
        omega
    · intro first opened index later
      cases Option.some.inj opened
      change runner.stageIndex + 1 ≤ index at later
      rw [waves_of_append, silent, bound.untouched runner.stageIndex rfl index (by omega)]

end Waves

section Runs

variable (plan : OrchestrationPlan) (config : RunnerConfig) (env : RunEnv)

/-- The invariant of a run that started after the calls in `prior`. -/
structure SafeRun (prior : List Effect) (machine : Machine) : Prop where
  coherent : Coherent plan config machine
  dispatches : ∃ calls, machine.runner.log = prior ++ calls ∧
    SafeCalls plan calls machine.runner.state
  waves : ∃ calls, machine.runner.log = prior ++ calls ∧ WaveBound plan calls machine

variable {plan config}

theorem step_safe (policies : RaisingPolicies config) {prior : List Effect}
    (machine : Machine) (choice : WaveChoice)
    (safe : SafeRun plan config prior machine) :
    SafeRun plan config prior (machine.step plan config env choice) := by
  obtain ⟨coherent, ⟨calls, logEq, dispatches⟩, ⟨waveCalls, waveLogEq, bound⟩⟩ := safe
  constructor
  · exact step_coherent env machine choice coherent
  · rcases step_effect env policies machine choice coherent with submits | effect
    · exact submits.safe_calls logEq dispatches
    · exact effect.safe_calls logEq dispatches
  · exact step_wave_bound env policies choice coherent waveLogEq bound

theorem start_fresh (plan : OrchestrationPlan) (shared : RunnerShared) :
    ∃ machine, Machine.start plan none shared = .ok machine ∧
      machine.runner.log = shared.log ++ [.runStarted plan.id none] ∧
      machine.control = .stages plan.pipeline.stages ∧
      machine.runner.stageIndex = 0 :=
  ⟨_, rfl, rfl, rfl, rfl⟩

theorem start_fresh_safe {shared : RunnerShared} {machine : Machine}
    (started : Machine.start plan none shared = .ok machine) :
    SafeRun plan config shared.log machine := by
  obtain ⟨fresh, freshStart, logEq, controlEq, indexEq⟩ := start_fresh plan shared
  rw [started] at freshStart
  cases freshStart
  refine ⟨start_coherent started, ⟨_, logEq, ?_⟩, ⟨_, logEq, ?_⟩⟩
  · constructor
    · intro task snapshot member
      cases List.mem_singleton.mp member
    · exact List.nodup_nil
    · intro taskId member
      cases member
  · constructor
    · intro index stage found
      simp only [Machine.openTasks, controlEq, ite_self]
      exact Nat.zero_le _
    · intro first opened index later
      rfl

/-- Dependency safety of the calls that one run makes. -/
structure DispatchSafety (plan : OrchestrationPlan) (calls : List Effect) : Prop where
  dependencies : ∀ task snapshot, Effect.executed task snapshot ∈ calls →
    ∀ dep ∈ task.dependencies, snapshot.taskStatus dep = .completed
  once : (dispatchedIds calls).Nodup
  waves : ∀ index stage, plan.pipeline.stages[index]? = some stage →
    wavesOf index calls ≤ stage.tasks.length

/-- A fresh run halts, dispatches a task only when all its dependencies are
completed, dispatches no task twice, and submits at most as many waves in a
stage as the stage has tasks. -/
theorem fresh_run_dispatch_safety (plan : OrchestrationPlan)
    (config : RunnerConfig) (env : RunEnv) (policies : RaisingPolicies config)
    (shared : RunnerShared) (choices : List WaveChoice) :
    ∃ machine calls, Machine.start plan none shared = .ok machine ∧
      (machine.run plan config env choices).isHalted ∧
      (machine.run plan config env choices).runner.log = shared.log ++ calls ∧
      DispatchSafety plan calls := by
  obtain ⟨machine, started, _⟩ := start_fresh plan shared
  have initial : SafeRun plan config shared.log machine := start_fresh_safe started
  have final : SafeRun plan config shared.log (machine.run plan config env choices) :=
    invariant_of_steps (Machine.step plan config env)
      (fun state input => step_safe env policies state input)
      machine _ initial
  obtain ⟨_, ⟨calls, logEq, dispatches⟩, ⟨waveCalls, waveLogEq, bound⟩⟩ := final
  have sameCalls : waveCalls = calls := by
    rw [logEq] at waveLogEq
    exact (List.append_cancel_left waveLogEq).symm
  subst sameCalls
  refine ⟨machine, waveCalls, started,
    run_halts plan config env machine choices initial.coherent, logEq, ?_⟩
  constructor
  · intro task snapshot member
    exact (dispatches.dependencies task snapshot member).2
  · exact dispatches.once
  · intro index stage found
    have bounded := bound.bounded index stage found
    omega

/-- Two tasks of one parallel stage, the second depending on the first. -/
def chainedParallelPlan : OrchestrationPlan where
  id := "plan-1"
  pipeline :=
    { id := "pipe-1"
      stages :=
        [{ id := "s1"
           mode := .parallel
           tasks := [{ id := "a" }, { id := "b", dependencies := ["a"] }] }] }

/-- An executor that completes every task. -/
def completingEnv : RunEnv where
  evaluateCondition := fun _ _ => .ok true
  outcome := fun _ => .returned { status := .completed }
  now := fun attempt => attempt
  checkpointFault := fun _ => .none

theorem chained_parallel_dispatch_safety :
    ∃ machine calls, Machine.start chainedParallelPlan none {} = .ok machine ∧
      (machine.run chainedParallelPlan {} completingEnv [.begin]).isHalted ∧
      (machine.run chainedParallelPlan {} completingEnv [.begin]).runner.log = [] ++ calls ∧
      DispatchSafety chainedParallelPlan calls :=
  fresh_run_dispatch_safety chainedParallelPlan {} completingEnv ⟨by decide, by decide⟩ {} [.begin]

end Runs

end AiEnterpriseOs.Orchestration
