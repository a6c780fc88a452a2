import AiEnterpriseOs.Orchestration.PipelineLemmas

/-!
# Coherence and termination of the runner

The control of a reachable machine agrees with the plan and with the stored
statuses, whatever the task outcomes and the order of pool events. From it,
every step of an unfinished machine lowers its remaining work, so every run
halts.
-/

namespace AiEnterpriseOs.Orchestration

open Library

section Coherence

variable (plan : OrchestrationPlan) (config : RunnerConfig) (env : RunEnv)

def GraphOf (graph : DependencyGraph) : Prop :=
  graph.pipeline = plan.pipeline ∧ graph.config = config.dependencies

/-- Every future belongs to the submitted ids, whose dependencies were all
completed; a submitted task that is still pending waits in the queue. -/
structure PoolCoherent (graph : DependencyGraph) (stage : PipelineStage)
    (ready : List String) (pool : Pool) (state : ExecutionState) : Prop where
  queued : ∀ task ∈ pool.queued, task ∈ stage.tasks ∧ task.id ∈ ready
  running : ∀ task ∈ pool.running, task ∈ stage.tasks ∧ task.id ∈ ready
  finished : ∀ entry ∈ pool.finished, entry.1 ∈ stage.tasks ∧ entry.1.id ∈ ready
  dependencies : ∀ taskId ∈ ready, ∀ dep ∈ graph.dependenciesOf taskId,
    state.taskStatus dep.taskId = .completed ∧ dep.taskId ∉ ready
  covers : ∀ task ∈ stage.tasks, task.id ∈ ready →
    state.taskStatus task.id = .pending → ∃ waiting ∈ pool.queued, waiting.id = task.id

def Coherent (machine : Machine) : Prop :=
  match machine.control with
  | .stages remaining =>
    remaining = plan.pipeline.stages.drop machine.runner.stageIndex
  | .sequential graph _ tasks rest =>
    GraphOf plan config graph ∧ ∃ stage earlier,
      plan.pipeline.stages.drop machine.runner.stageIndex = stage :: rest ∧
        stage.tasks = earlier ++ tasks
  | .waves graph stage rest =>
    GraphOf plan config graph ∧ plan.pipeline.stages.drop machine.runner.stageIndex = stage :: rest
  | .wave graph stage rest ready pool =>
    GraphOf plan config graph ∧
      plan.pipeline.stages.drop machine.runner.stageIndex = stage :: rest ∧
      PoolCoherent graph stage ready pool machine.runner.state
  | .halted => True

variable {plan config}

theorem end_stage_coherent {stage : PipelineStage} {rest : List PipelineStage}
    {before runner : RunnerState}
    (position : plan.pipeline.stages.drop before.stageIndex = stage :: rest)
    (sameIndex : runner.stageIndex = before.stageIndex) :
    Coherent plan config (endStage plan config env rest runner) := by
  change rest = plan.pipeline.stages.drop (endStage plan config env rest runner).runner.stageIndex
  rw [end_stage_index, sameIndex, ← List.tail_drop, position]
  rfl

theorem wave_ready_spec (graph : DependencyGraph) (stage : PipelineStage)
    (runner : RunnerState) {taskId : String}
    (member : taskId ∈ waveReady graph stage runner) :
    (∃ task ∈ stage.tasks, task.id = taskId) ∧ runner.state.taskStatus taskId = .pending ∧
      ∀ dep ∈ graph.dependenciesOf taskId, runner.state.taskStatus dep.taskId = .completed := by
  simp only [waveReady, List.mem_filter, Bool.and_eq_true, decide_eq_true_eq,
    List.mem_map] at member
  obtain ⟨listed, inStage, pending⟩ := member
  obtain ⟨_, _, _, deps⟩ :=
    (DependencyGraph.mem_ready_tasks graph _ _ taskId).mp listed
  refine ⟨inStage, pending, ?_⟩
  intro dep depMember
  exact (runner.state.mem_tasks_with (by decide) dep.taskId).mp (deps dep depMember)

theorem submitted_pool_coherent (graph : DependencyGraph)
    (stage : PipelineStage) (runner : RunnerState) :
    PoolCoherent graph stage (waveReady graph stage runner)
      { queued := stage.tasks.filter fun task =>
          task.id ∈ waveReady graph stage runner } runner.state where
  queued := by
    intro task member
    simpa using member
  running := by
    intro task member
    cases member
  finished := by
    intro entry member
    cases member
  dependencies := by
    intro taskId member dep depMember
    have spec := wave_ready_spec graph stage runner member
    have completed := spec.2.2 dep depMember
    refine ⟨completed, ?_⟩
    intro alsoReady
    have pending := (wave_ready_spec graph stage runner alsoReady).2.1
    rw [completed] at pending
    cases pending
  covers := by
    intro task member ready _
    exact ⟨task, List.mem_filter.mpr ⟨member, by simpa using ready⟩, rfl⟩

theorem PoolCoherent.advance {graph : DependencyGraph} {stage : PipelineStage}
    {ready : List String} {pool moved : Pool} {state after : ExecutionState}
    (coherent : PoolCoherent graph stage ready pool state)
    (unchanged : ∀ taskId, taskId ∉ ready → after.taskStatus taskId = state.taskStatus taskId)
    (queued : ∀ task ∈ moved.queued, task ∈ pool.queued)
    (running : ∀ task ∈ moved.running, task ∈ pool.running ∨ task ∈ pool.queued)
    (finished : ∀ entry ∈ moved.finished, entry ∈ pool.finished ∨
      entry.1 ∈ pool.running ∨ entry.1 ∈ pool.queued)
    (covers : ∀ waiting ∈ pool.queued, after.taskStatus waiting.id = .pending →
      ∃ later ∈ moved.queued, later.id = waiting.id)
    (settled : ∀ taskId, after.taskStatus taskId = .pending → state.taskStatus taskId = .pending) :
    PoolCoherent graph stage ready moved after where
  queued := fun task member => coherent.queued task (queued task member)
  running := by
    intro task member
    rcases running task member with old | waiting
    · exact coherent.running task old
    · exact coherent.queued task waiting
  finished := by
    intro entry member
    rcases finished entry member with old | active | waiting
    · exact coherent.finished entry old
    · exact coherent.running entry.1 active
    · exact coherent.queued entry.1 waiting
  dependencies := by
    intro taskId member dep depMember
    obtain ⟨completed, outside⟩ := coherent.dependencies taskId member dep depMember
    exact ⟨by rw [unchanged _ outside]; exact completed, outside⟩
  covers := by
    intro task member inReady pending
    obtain ⟨waiting, waitingMember, sameId⟩ :=
      coherent.covers task member inReady (settled task.id pending)
    rw [← sameId] at pending ⊢
    exact covers waiting waitingMember pending

theorem wave_control_coherent {graph : DependencyGraph} {stage : PipelineStage}
    {rest : List PipelineStage} {ready : List String} {pool : Pool}
    {runner : RunnerState} (graphOf : GraphOf plan config graph)
    (position : plan.pipeline.stages.drop runner.stageIndex = stage :: rest)
    (coherent : PoolCoherent graph stage ready pool runner.state) :
    Coherent plan config ⟨waveControl graph stage rest ready pool, runner⟩ := by
  unfold waveControl
  split
  · exact ⟨graphOf, position⟩
  · exact ⟨graphOf, position, coherent⟩

theorem begin_coherent {graph : DependencyGraph} {stage : PipelineStage}
    {ready : List String} {pool : Pool} {task : PipelineTask}
    {queued : List PipelineTask} {before after : RunnerState}
    (coherent : PoolCoherent graph stage ready pool before.state)
    (next : pool.queued = task :: queued) (begun : Begun task before after) :
    PoolCoherent graph stage ready { pool with queued := queued, running := pool.running ++ [task] }
      after.state := by
  have taskReady : task.id ∈ ready :=
    (coherent.queued task (by rw [next]; exact List.mem_cons_self)).2
  apply coherent.advance
  · intro taskId outside
    have different : taskId ≠ task.id := fun same => outside (same ▸ taskReady)
    rw [begun.status, if_neg different]
  · intro other member
    rw [next]
    exact List.mem_cons_of_mem _ member
  · intro other member
    rcases List.mem_append.mp member with old | fresh
    · exact Or.inl old
    · right
      rw [next, List.mem_singleton.mp fresh]
      exact List.mem_cons_self
  · intro entry member
    exact Or.inl member
  · intro waiting member pending
    rw [next] at member
    rcases List.mem_cons.mp member with rfl | later
    · rw [begun.status, if_pos rfl] at pending
      cases pending
    · exact ⟨waiting, later, rfl⟩
  · intro taskId pending
    rw [begun.status] at pending
    split at pending
    · cases pending
    · exact pending

theorem refuse_coherent {graph : DependencyGraph} {stage : PipelineStage}
    {ready : List String} {pool : Pool} {task : PipelineTask}
    {queued : List PipelineTask} {runner : RunnerState} (result : TaskResult)
    (coherent : PoolCoherent graph stage ready pool runner.state)
    (next : pool.queued = task :: queued)
    (started : runner.state.taskStatus task.id ≠ .pending) :
    PoolCoherent graph stage ready
      { pool with
        queued := queued
        finished := pool.finished ++ [(task, result)] } runner.state := by
  apply coherent.advance
  · intro taskId _
    rfl
  · intro other member
    rw [next]
    exact List.mem_cons_of_mem _ member
  · intro other member
    exact Or.inl member
  · intro entry member
    rcases List.mem_append.mp member with old | fresh
    · exact Or.inl old
    · right
      right
      rw [next, List.mem_singleton.mp fresh]
      exact List.mem_cons_self
  · intro waiting member pending
    rw [next] at member
    rcases List.mem_cons.mp member with rfl | later
    · exact absurd pending started
    · exact ⟨waiting, later, rfl⟩
  · intro taskId pending
    exact pending

theorem finish_coherent {graph : DependencyGraph} {stage : PipelineStage}
    {ready : List String} {pool : Pool} {task : PipelineTask} {index : Nat}
    {state : ExecutionState} (result : TaskResult)
    (coherent : PoolCoherent graph stage ready pool state)
    (inside : pool.running[index]? = some task) :
    PoolCoherent graph stage ready
      { pool with
        running := pool.running.eraseIdx index
        finished := pool.finished ++ [(task, result)] } state := by
  apply coherent.advance
  · intro taskId _
    rfl
  · intro other member
    exact member
  · intro other member
    exact Or.inl (List.mem_of_mem_eraseIdx member)
  · intro entry member
    rcases List.mem_append.mp member with old | fresh
    · exact Or.inl old
    · right
      left
      rw [List.mem_singleton.mp fresh]
      exact List.mem_of_getElem? inside
  · intro waiting member _
    exact ⟨waiting, member, rfl⟩
  · intro taskId pending
    exact pending

theorem yield_coherent {graph : DependencyGraph} {stage : PipelineStage}
    {ready : List String} {pool : Pool} {task : PipelineTask} {index : Nat}
    {before after : RunnerState} {result : TaskResult}
    (coherent : PoolCoherent graph stage ready pool before.state)
    (inside : pool.finished[index]? = some (task, result))
    (applied : Applied task result before after) :
    PoolCoherent graph stage ready
      { pool with finished := pool.finished.eraseIdx index } after.state := by
  have taskReady : task.id ∈ ready :=
    (coherent.finished (task, result) (List.mem_of_getElem? inside)).2
  have notPending : result.status.taskStatus ≠ .pending := by
    cases result.status <;> simp [TaskResultStatus.taskStatus]
  have settled : ∀ taskId, after.state.taskStatus taskId = .pending →
      before.state.taskStatus taskId = .pending := by
    intro taskId pending
    rw [applied.status] at pending
    split at pending
    · exact absurd pending notPending
    · exact pending
  apply coherent.advance
  · intro taskId outside
    have different : taskId ≠ task.id := fun same => outside (same ▸ taskReady)
    rw [applied.status, if_neg different]
  · intro other member
    exact member
  · intro other member
    exact Or.inl member
  · intro entry member
    exact Or.inl (List.mem_of_mem_eraseIdx member)
  · intro waiting member _
    exact ⟨waiting, member, rfl⟩
  · exact settled

/-- Futures weighted by the pool events each still needs. -/
def Pool.work (pool : Pool) : Nat :=
  3 * pool.queued.length + 2 * pool.running.length + pool.finished.length

/-- A pool event that neither drains the pool nor stops the run: statuses
outside the wave are untouched and one event less is left. -/
structure WaveAdvance (graph : DependencyGraph) (stage : PipelineStage)
    (ready : List String) (pool moved : Pool) (before after : RunnerState) :
    Prop where
  pooled : PoolCoherent graph stage ready moved after.state
  stageIndex : after.stageIndex = before.stageIndex
  outside : ∀ taskId, taskId ∉ ready →
    after.state.taskStatus taskId = before.state.taskStatus taskId
  touched : ∃ task ∈ stage.tasks, ∀ taskId, taskId ≠ task.id →
    after.state.taskStatus taskId = before.state.taskStatus taskId
  work : moved.work < pool.work

theorem wave_step_advance {graph : DependencyGraph} {stage : PipelineStage}
    {rest : List PipelineStage} {ready : List String} {pool : Pool}
    {runner : RunnerState} {choice : WaveChoice} {after : Machine}
    (pooled : PoolCoherent graph stage ready pool runner.state)
    (moved : WaveStep plan config env graph stage rest ready pool runner choice after) :
    after.control = .halted ∨ pool.isDone = true ∧ after = ⟨.waves graph stage rest, runner⟩ ∨
      ∃ next, after.control = waveControl graph stage rest ready next ∧
        WaveAdvance graph stage ready pool next runner after.runner := by
  cases moved with
  | drained empty => exact Or.inr (Or.inl ⟨empty, rfl⟩)
  | begun task queued next begun started =>
    have begin := run_task_begun started
    have waiting := pooled.queued task (by rw [next]; exact List.mem_cons_self)
    have elsewhere : ∀ taskId, taskId ≠ task.id →
        begun.state.taskStatus taskId = runner.state.taskStatus taskId := by
      intro taskId different
      rw [begin.status, if_neg different]
    refine Or.inr (Or.inr ⟨_, rfl, begin_coherent pooled next begin,
      begin.stageIndex, ?_, ⟨task, waiting.1, elsewhere⟩, ?_⟩)
    · intro taskId notReady
      exact elsewhere taskId fun same => notReady (same ▸ waiting.2)
    · simp only [Pool.work, next, List.length_cons, List.length_append, List.length_nil]
      omega
  | refused task queued next error refusal =>
    have waiting := pooled.queued task (by rw [next]; exact List.mem_cons_self)
    refine Or.inr (Or.inr ⟨_, rfl,
      refuse_coherent (failedResult error) pooled next (run_task_refused refusal),
      rfl, fun _ _ => rfl, ⟨task, waiting.1, fun _ _ => rfl⟩, ?_⟩)
    simp only [Pool.work, next, List.length_cons, List.length_append, List.length_nil]
    omega
  | finished index task inside =>
    have inRange := (List.getElem?_eq_some_iff.mp inside).1
    have erased := List.length_eraseIdx_of_lt inRange
    have inStage := (pooled.running task (List.mem_of_getElem? inside)).1
    refine Or.inr (Or.inr ⟨_, rfl,
      finish_coherent (resultOf env task) pooled inside, rfl, fun _ _ => rfl,
      ⟨task, inStage, fun _ _ => rfl⟩, ?_⟩)
    simp only [Pool.work, erased, List.length_append, List.length_cons, List.length_nil]
    omega
  | yielded index task result inside continues =>
    have applied := apply_task_result_applied plan config env task result runner
    have waiting := pooled.finished (task, result) (List.mem_of_getElem? inside)
    have inRange := (List.getElem?_eq_some_iff.mp inside).1
    have erased := List.length_eraseIdx_of_lt inRange
    have elsewhere : ∀ taskId, taskId ≠ task.id →
        (applyTaskResult plan config env task result runner).state.taskStatus
          taskId = runner.state.taskStatus taskId := by
      intro taskId different
      rw [applied.status, if_neg different]
    refine Or.inr (Or.inr ⟨_, rfl, yield_coherent pooled inside applied,
      applied.stageIndex, ?_, ⟨task, waiting.1, elsewhere⟩, ?_⟩)
    · intro taskId notReady
      exact elsewhere taskId fun same => notReady (same ▸ waiting.2)
    · simp only [Pool.work, erased]
      omega
  | stopped index task result chosen inside stops => exact Or.inl rfl

theorem halted_coherent {machine : Machine} (halted : machine.control = .halted) :
    Coherent plan config machine := by
  unfold Coherent
  rw [halted]
  trivial

theorem step_coherent (machine : Machine) (choice : WaveChoice)
    (coherent : Coherent plan config machine) :
    Coherent plan config (machine.step plan config env choice) := by
  have stepped := step_cases plan config env machine choice
  generalize machine.step plan config env choice = next at stepped ⊢
  cases stepped with
  | halted runner => trivial
  | completed runner => exact halted_coherent (complete_run_control plan runner)
  | entered stage rest runner next entry =>
    have position : plan.pipeline.stages.drop runner.stageIndex = stage :: rest := coherent.symm
    cases entry with
    | rejected error => trivial
    | closed graph built gate =>
      exact end_stage_coherent env position (skip_stage_fields stage runner).2.1
    | parallel graph built gate mode workers =>
      exact ⟨DependencyGraph.build_ok built, position⟩
    | sequential graph built gate mode =>
      exact ⟨DependencyGraph.build_ok built, stage, [], position, rfl⟩
  | ended graph index rest runner =>
    obtain ⟨_, stage, _, position, _⟩ := coherent
    exact end_stage_coherent env position rfl
  | visited graph index task tasks rest runner next moved =>
    obtain ⟨graphOf, stage, earlier, position, split⟩ := coherent
    have remaining : stage.tasks = (earlier ++ [task]) ++ tasks := by
      rw [split, List.append_assoc]
      rfl
    cases moved with
    | kept settled =>
      exact ⟨graphOf, stage, earlier ++ [task], position, remaining⟩
    | skipped unsettled blocked =>
      exact ⟨graphOf, stage, earlier ++ [task], position, remaining⟩
    | refused unsettled ready error refusal => trivial
    | raised unsettled ready begun started error raises => trivial
    | stopped unsettled ready begun started result returns stops => trivial
    | applied unsettled ready begun started result returns continues =>
      have begin := run_task_begun started
      have applied := apply_task_result_applied plan config env task result begun
      refine ⟨graphOf, stage, earlier ++ [task], ?_, remaining⟩
      change plan.pipeline.stages.drop
        (applyTaskResult plan config env task result begun).stageIndex = _
      rw [applied.stageIndex, begin.stageIndex]
      exact position
  | exhausted graph stage rest runner idle =>
    exact end_stage_coherent env coherent.2 rfl
  | submitted graph stage rest runner due =>
    exact ⟨coherent.1, coherent.2, submitted_pool_coherent graph stage runner⟩
  | pooled graph stage rest ready pool runner next moved =>
    obtain ⟨graphOf, position, pooled⟩ := coherent
    rcases wave_step_advance env pooled moved with
      halted | ⟨_, drained⟩ | ⟨after, control, advance⟩
    · exact halted_coherent halted
    · rw [drained]
      exact ⟨graphOf, position⟩
    · obtain ⟨afterControl, afterRunner⟩ := next
      subst control
      have afterPosition : plan.pipeline.stages.drop afterRunner.stageIndex = stage :: rest := by
        rw [advance.stageIndex]
        exact position
      exact wave_control_coherent graphOf afterPosition advance.pooled

theorem start_coherent {checkpoint : Option Checkpoint} {shared : RunnerShared} {machine : Machine}
    (started : Machine.start plan checkpoint shared = .ok machine) :
    Coherent plan config machine := by
  unfold Machine.start at started
  cases checkpoint with
  | none =>
    cases started
    rfl
  | some checkpoint =>
    simp only at started
    split at started
    · cases started
    · cases started
      rfl

end Coherence

section Termination

variable (plan : OrchestrationPlan) (config : RunnerConfig) (env : RunEnv)

def Machine.isHalted (machine : Machine) : Prop :=
  machine.control = .halted

theorem stages_work_cons (stage : PipelineStage) (rest : List PipelineStage) :
    stagesWork (stage :: rest) = 5 * stage.tasks.length + 3 + stagesWork rest := by
  simp only [stagesWork, List.map_cons, List.sum_cons]
  omega

theorem stages_work_pos (stages : List PipelineStage) : 0 < stagesWork stages := by
  simp only [stagesWork]
  omega

theorem pending_outside_le (stage : PipelineStage) (ready : List String) (state : ExecutionState) :
    Machine.pendingOutside stage ready state ≤ stage.tasks.length :=
  List.countP_le_length

theorem pending_outside_mono {stage : PipelineStage}
    {ready later : List String} {state after : ExecutionState}
    (kept : ∀ task ∈ stage.tasks, task.id ∉ later → after.taskStatus task.id = .pending →
      task.id ∉ ready ∧ state.taskStatus task.id = .pending) :
    Machine.pendingOutside stage later after ≤
      Machine.pendingOutside stage ready state := by
  unfold Machine.pendingOutside
  apply List.countP_mono_left
  intro task member counted
  simp only [Bool.and_eq_true, decide_eq_true_eq] at counted ⊢
  exact kept task member counted.1 counted.2

theorem pending_outside_submit (graph : DependencyGraph)
    (stage : PipelineStage) (runner : RunnerState) :
    Machine.pendingOutside stage (waveReady graph stage runner) runner.state +
        (stage.tasks.filter fun task =>
          task.id ∈ waveReady graph stage runner).length =
      Machine.pendingOutside stage [] runner.state := by
  have pending : ∀ task : PipelineTask, task.id ∈ waveReady graph stage runner →
      runner.state.taskStatus task.id = .pending :=
    fun task ready => (wave_ready_spec graph stage runner ready).2.1
  unfold Machine.pendingOutside
  generalize waveReady graph stage runner = ready at pending
  induction stage.tasks with
  | nil => rfl
  | cons task rest ih =>
    by_cases inReady : task.id ∈ ready
    · have isPending := pending task inReady
      simp only [List.countP_cons, List.filter_cons, inReady, isPending,
        List.not_mem_nil, not_true, not_false_eq_true, decide_true,
        decide_false, Bool.and_true, Bool.false_eq_true, if_true, if_false,
        List.length_cons] at ih ⊢
      omega
    · simp only [List.countP_cons, List.filter_cons, inReady,
        List.not_mem_nil, not_false_eq_true, decide_true, decide_false,
        Bool.true_and, Bool.false_eq_true, if_false] at ih ⊢
      omega

theorem submitted_nonempty (graph : DependencyGraph) (stage : PipelineStage)
    (runner : RunnerState) (nonempty : waveReady graph stage runner ≠ []) :
    0 < (stage.tasks.filter fun task =>
      task.id ∈ waveReady graph stage runner).length := by
  obtain ⟨taskId, member⟩ := List.exists_mem_of_ne_nil _ nonempty
  obtain ⟨⟨task, taskMember, rfl⟩, _⟩ := wave_ready_spec graph stage runner member
  exact List.length_pos_of_mem (List.mem_filter.mpr ⟨taskMember, by simpa using member⟩)

theorem pending_outside_unchanged {stage : PipelineStage}
    {ready : List String} {state after : ExecutionState}
    (unchanged : ∀ taskId, taskId ∉ ready → after.taskStatus taskId = state.taskStatus taskId) :
    Machine.pendingOutside stage ready after ≤
      Machine.pendingOutside stage ready state := by
  apply pending_outside_mono
  intro task _ notReady pending
  rw [unchanged _ notReady] at pending
  exact ⟨notReady, pending⟩

/-- Tasks of the current parallel stage that a later wave can still take. -/
def Machine.openTasks (machine : Machine) : Nat :=
  match machine.control with
  | .waves _ stage _ => Machine.pendingOutside stage [] machine.runner.state
  | .wave _ stage _ ready _ =>
    Machine.pendingOutside stage ready machine.runner.state
  | _ => 0

theorem drained_open {graph : DependencyGraph} {stage : PipelineStage}
    {ready : List String} {pool : Pool} {state : ExecutionState}
    (pooled : PoolCoherent graph stage ready pool state)
    (done : pool.isDone = true) :
    Machine.pendingOutside stage [] state ≤
      Machine.pendingOutside stage ready state := by
  simp only [Pool.isDone, Bool.and_eq_true, List.isEmpty_iff] at done
  apply pending_outside_mono
  intro task member _ pending
  refine ⟨?_, pending⟩
  intro inReady
  obtain ⟨waiting, waitingMember, _⟩ := pooled.covers task member inReady pending
  rw [done.1.1] at waitingMember
  cases waitingMember

theorem wave_control_open {graph : DependencyGraph} {stage : PipelineStage}
    (rest : List PipelineStage) {ready : List String} {pool : Pool}
    {runner : RunnerState}
    (pooled : PoolCoherent graph stage ready pool runner.state) :
    Machine.openTasks ⟨waveControl graph stage rest ready pool, runner⟩ ≤
      Machine.pendingOutside stage ready runner.state := by
  unfold waveControl
  split
  next done => exact drained_open pooled done
  · exact Nat.le_refl _

theorem wave_control_work (graph : DependencyGraph) (stage : PipelineStage)
    (rest : List PipelineStage) (ready : List String) (pool : Pool)
    (runner : RunnerState) :
    Machine.work ⟨waveControl graph stage rest ready pool, runner⟩ ≤
      5 * Machine.openTasks ⟨waveControl graph stage rest ready pool, runner⟩ +
        pool.work + 2 + stagesWork rest := by
  unfold waveControl
  split
  · simp only [Machine.work, Machine.openTasks]
    omega
  · simp only [Machine.work, Machine.openTasks, Pool.work]
    omega

theorem wave_step_work {graph : DependencyGraph} {stage : PipelineStage}
    {rest : List PipelineStage} {ready : List String} {pool : Pool} {runner : RunnerState}
    {choice : WaveChoice} {after : Machine}
    (pooled : PoolCoherent graph stage ready pool runner.state)
    (moved : WaveStep plan config env graph stage rest ready pool runner choice after) :
    after.work < Machine.work ⟨.wave graph stage rest ready pool, runner⟩ := by
  obtain ⟨afterControl, afterRunner⟩ := after
  rcases wave_step_advance env pooled moved with
    halted | ⟨done, drained⟩ | ⟨next, control, advance⟩
  · simp only at halted
    subst halted
    simp only [Machine.work]
    omega
  · rw [drained]
    have fewer := drained_open pooled done
    simp only [Machine.work]
    omega
  · simp only at control
    subst control
    have bound := wave_control_work graph stage rest ready next afterRunner
    have opened : Machine.openTasks ⟨waveControl graph stage rest ready next, afterRunner⟩ ≤
          Machine.pendingOutside stage ready afterRunner.state :=
      wave_control_open rest advance.pooled
    have fewer : Machine.pendingOutside stage ready afterRunner.state ≤
        Machine.pendingOutside stage ready runner.state :=
      pending_outside_unchanged advance.outside
    have lower : next.work < pool.work := advance.work
    simp only [Pool.work] at bound lower
    simp only [Machine.work] at bound ⊢
    omega

theorem step_work (machine : Machine) (choice : WaveChoice)
    (coherent : Coherent plan config machine) (active : ¬machine.isHalted) :
    (machine.step plan config env choice).work < machine.work := by
  have stepped := step_cases plan config env machine choice
  generalize machine.step plan config env choice = next at stepped ⊢
  cases stepped with
  | halted runner => exact absurd rfl active
  | completed runner =>
    have positive := stages_work_pos []
    simp only [Machine.work, complete_run_control]
    exact positive
  | entered stage rest runner next entry =>
    have positive := stages_work_pos (stage :: rest)
    have cost := stages_work_cons stage rest
    have fewer := pending_outside_le stage [] runner.state
    cases entry with
    | rejected error => exact positive
    | closed graph built gate =>
      change stagesWork rest < stagesWork (stage :: rest)
      omega
    | parallel graph built gate mode workers =>
      simp only [Machine.work]
      omega
    | sequential graph built gate mode =>
      simp only [Machine.work]
      omega
  | ended graph index rest runner =>
    change stagesWork rest < 0 + 1 + stagesWork rest
    omega
  | visited graph index task tasks rest runner next moved =>
    have failed : ∀ error after, (failRun plan error after).work <
        (tasks.length + 1) + 1 + stagesWork rest := by
      intro error after
      simp only [failRun, Machine.work]
      omega
    cases moved with
    | kept settled =>
      simp only [Machine.work, List.length_cons]
      omega
    | skipped unsettled blocked =>
      simp only [Machine.work, List.length_cons]
      omega
    | refused unsettled ready error refusal => exact failed _ _
    | raised unsettled ready begun started error raises => exact failed _ _
    | stopped unsettled ready begun started result returns stops => exact failed _ _
    | applied unsettled ready begun started result returns continues =>
      simp only [Machine.work, List.length_cons]
      omega
  | exhausted graph stage rest runner idle =>
    change stagesWork rest < 5 * Machine.pendingOutside stage [] runner.state + 1 + stagesWork rest
    omega
  | submitted graph stage rest runner due =>
    have moved := pending_outside_submit graph stage runner
    have positive := submitted_nonempty graph stage runner due
    change 5 * Machine.pendingOutside stage (waveReady graph stage runner)
        runner.state + 3 * (stage.tasks.filter fun task =>
          task.id ∈ waveReady graph stage runner).length + 2 * 0 + 0 + 2 +
        stagesWork rest <
      5 * Machine.pendingOutside stage [] runner.state + 1 + stagesWork rest
    omega
  | pooled graph stage rest ready pool runner next moved =>
    exact wave_step_work plan config env coherent.2.2 moved

theorem halted_stays (machine : Machine) (choice : WaveChoice) (halted : machine.isHalted) :
    (machine.step plan config env choice).isHalted := by
  have same : machine.step plan config env choice = machine := by
    simp only [Machine.isHalted] at halted
    simp only [Machine.step, halted]
  rw [same]
  exact halted

theorem run_halts (machine : Machine) (choices : List WaveChoice)
    (coherent : Coherent plan config machine) :
    (machine.run plan config env choices).isHalted := by
  apply finished_of_measure_decrease (Machine.step plan config env)
    (Coherent plan config) Machine.isHalted Machine.work
  · exact fun state input => step_coherent env state input
  · exact halted_stays plan config env
  · exact step_work plan config env
  · exact coherent
  · simp only [schedule, List.length_append, List.length_replicate]
    omega

end Termination

end AiEnterpriseOs.Orchestration
