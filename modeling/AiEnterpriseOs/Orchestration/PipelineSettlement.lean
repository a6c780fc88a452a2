import AiEnterpriseOs.Orchestration.PipelineSafety
import Mathlib.Data.List.Perm.Basic

/-!
# Settlement of the tasks of a run

A run moves through the stages and leaves every task behind it settled, as
long as each parallel stage is entered with all its pending tasks resolvable:
their dependencies are completed, or will be by tasks of the same stage.
-/

namespace AiEnterpriseOs.Orchestration

open Library

/-- Nothing is left to do for the task, and it has not failed for good. -/
def Settled (state : ExecutionState) (task : PipelineTask) : Prop :=
  (state.taskStatus task.id).isTerminal = true ∧
    ¬(state.taskStatus task.id = .failed ∧ task.onFailure = .fail)

/-- A stage executor still takes the task up, or rightly leaves it. -/
def Restartable (state : ExecutionState) (task : PipelineTask) : Prop :=
  state.taskStatus task.id = .pending ∨ Settled state task

theorem Settled.congr {before after : ExecutionState} {task : PipelineTask}
    (same : after.taskStatus task.id = before.taskStatus task.id)
    (settled : Settled before task) : Settled after task := by
  unfold Settled
  rw [same]
  exact settled

theorem Restartable.congr {before after : ExecutionState} {task : PipelineTask}
    (same : after.taskStatus task.id = before.taskStatus task.id)
    (restartable : Restartable before task) : Restartable after task := by
  rcases restartable with pending | settled
  · exact Or.inl (same.trans pending)
  · exact Or.inr (settled.congr same)

theorem Settled.not_running {state : ExecutionState} {task : PipelineTask}
    (settled : Settled state task) : state.taskStatus task.id ≠ .running := by
  intro running
  have terminal := settled.1
  rw [running] at terminal
  cases terminal

theorem Restartable.not_running {state : ExecutionState} {task : PipelineTask}
    (restartable : Restartable state task) :
    state.taskStatus task.id ≠ .running := by
  rcases restartable with pending | settled
  · rw [pending]
    decide
  · exact settled.not_running

theorem settled_of_skipped {state : ExecutionState} {task : PipelineTask}
    (skipped : state.taskStatus task.id = .skipped) : Settled state task := by
  unfold Settled
  rw [skipped]
  simp [TaskStatus.isTerminal]

theorem result_status_terminal (status : TaskResultStatus) :
    status.taskStatus.isTerminal = true := by
  cases status <;> rfl

theorem settled_of_result {state : ExecutionState} {task : PipelineTask} {result : TaskResult}
    (status : state.taskStatus task.id = result.status.taskStatus)
    (continues : ¬stopsRun task result) : Settled state task := by
  constructor
  · rw [status]
    exact result_status_terminal result.status
  · rintro ⟨failed, policy⟩
    rw [status] at failed
    have kind : result.status = .failed := by
      cases resultKind : result.status <;> rw [resultKind] at failed <;>
        first | rfl | cases failed
    exact continues ⟨kind, policy⟩

theorem settled_of_kept {runner : RunnerState} {task : PipelineTask}
    (kept : KeepsTask runner task) (restartable : Restartable runner.state task) :
    Settled runner.state task := by
  rcases restartable with pending | settled
  · rcases kept with completed | other | failed
    · rw [pending] at completed
      cases completed
    · rw [pending] at other
      rcases other with skipped | cancelled
      · cases skipped
      · cases cancelled
    · rw [pending] at failed
      cases failed.1
  · exact settled

section Positions

variable (plan : OrchestrationPlan)

/-- No two tasks of the plan share an id. -/
def DistinctTaskIds : Prop :=
  (plan.pipeline.allTasks.map fun task => task.id).Nodup

def tasksBefore (stageIndex : Nat) : List PipelineTask :=
  (plan.pipeline.stages.take stageIndex).flatMap fun stage => stage.tasks

def tasksFrom (stageIndex : Nat) : List PipelineTask :=
  (plan.pipeline.stages.drop stageIndex).flatMap fun stage => stage.tasks

def tasksOf (stages : List PipelineStage) : List PipelineTask :=
  stages.flatMap fun stage => stage.tasks

variable {plan}

theorem all_tasks_split (stageIndex : Nat) : plan.pipeline.allTasks =
      tasksBefore plan stageIndex ++ tasksFrom plan stageIndex := by
  unfold Pipeline.allTasks tasksBefore tasksFrom
  rw [← List.flatMap_append, List.take_append_drop]

theorem tasks_from_position {stage : PipelineStage} {rest : List PipelineStage} {stageIndex : Nat}
    (position : plan.pipeline.stages.drop stageIndex = stage :: rest) :
    tasksFrom plan stageIndex = stage.tasks ++ tasksOf rest := by
  unfold tasksFrom tasksOf
  rw [position, List.flatMap_cons]

theorem stage_split {stage : PipelineStage} {rest : List PipelineStage} {stageIndex : Nat}
    (position : plan.pipeline.stages.drop stageIndex = stage :: rest) :
    plan.pipeline.allTasks = tasksBefore plan stageIndex ++ (stage.tasks ++ tasksOf rest) := by
  rw [all_tasks_split stageIndex, tasks_from_position position]

theorem stage_split_next {stage : PipelineStage} {rest : List PipelineStage} {stageIndex : Nat}
    (position : plan.pipeline.stages.drop stageIndex = stage :: rest) :
    plan.pipeline.allTasks = (tasksBefore plan stageIndex ++ stage.tasks) ++ tasksOf rest := by
  rw [stage_split position, List.append_assoc]

theorem tasks_from_next {stage : PipelineStage} {rest : List PipelineStage} {stageIndex : Nat}
    (position : plan.pipeline.stages.drop stageIndex = stage :: rest) :
    tasksFrom plan (stageIndex + 1) = tasksOf rest := by
  unfold tasksFrom tasksOf
  rw [← List.tail_drop, position]
  rfl

theorem tasks_before_next {stage : PipelineStage} {rest : List PipelineStage} {stageIndex : Nat}
    (position : plan.pipeline.stages.drop stageIndex = stage :: rest) :
    tasksBefore plan (stageIndex + 1) = tasksBefore plan stageIndex ++ stage.tasks := by
  unfold tasksBefore
  rw [List.take_add_one, position_index position, List.flatMap_append]
  simp

theorem same_task (distinct : DistinctTaskIds plan) {task other : PipelineTask}
    (listed : task ∈ plan.pipeline.allTasks)
    (otherListed : other ∈ plan.pipeline.allTasks) (sameId : other.id = task.id) :
    other = task :=
  List.inj_on_of_nodup_map distinct otherListed listed sameId

theorem ids_apart (distinct : DistinctTaskIds plan) {front back : List PipelineTask}
    (split : plan.pipeline.allTasks = front ++ back) {task other : PipelineTask}
    (inFront : task ∈ front) (inBack : other ∈ back) : task.id ≠ other.id := by
  unfold DistinctTaskIds at distinct
  rw [split, List.map_append, List.nodup_append] at distinct
  apply distinct.2.2
  · exact List.mem_map.mpr ⟨task, inFront, rfl⟩
  · exact List.mem_map.mpr ⟨other, inBack, rfl⟩

end Positions

section Waves

variable (env : RunEnv) (graph : DependencyGraph) (stage : PipelineStage)

/-- Every dependency is completed, or is a pending task of the stage that
completes and is resolvable in turn. -/
inductive Resolvable (state : ExecutionState) : String → Prop
  | intro (taskId : String) (supplied : ∀ dep ∈ graph.dependenciesOf taskId,
        state.taskStatus dep.taskId ≠ .completed → ∃ task ∈ stage.tasks, task.id = dep.taskId ∧
            state.taskStatus task.id = .pending ∧
            (resultOf env task).status = .completed)
      (inner : ∀ dep ∈ graph.dependenciesOf taskId, state.taskStatus dep.taskId ≠ .completed →
          Resolvable state dep.taskId) :
      Resolvable state taskId

/-- The future has started and its result is not merged yet. -/
def Pool.InFlight (pool : Pool) (task : PipelineTask) : Prop :=
  task ∈ pool.running ∨ ∃ result, (task, result) ∈ pool.finished

def Pool.tasks (pool : Pool) : List PipelineTask :=
  pool.queued ++ pool.running ++ pool.finished.map Prod.fst

/-- The futures of a wave are distinct tasks, each with the status that its
place in the pool gives it. -/
structure PoolExact (pool : Pool) (state : ExecutionState) : Prop where
  distinct : (pool.tasks.map fun task => task.id).Nodup
  queued : ∀ task ∈ pool.queued, state.taskStatus task.id = .pending
  flight : ∀ task, pool.InFlight task → state.taskStatus task.id = .running
  results : ∀ entry ∈ pool.finished, entry.2 = resultOf env entry.1

/-- A parallel stage in progress, compared with the state it was entered in. -/
structure WaveProgress (entry : ExecutionState) (pool : Pool) (state : ExecutionState) : Prop where
  resolvable : ∀ task ∈ stage.tasks, entry.taskStatus task.id = .pending →
    Resolvable env graph stage entry task.id
  kept : ∀ taskId, entry.taskStatus taskId = .completed → state.taskStatus taskId = .completed
  origin : ∀ task ∈ stage.tasks, state.taskStatus task.id = .pending →
    entry.taskStatus task.id = .pending
  known : ∀ task ∈ stage.tasks, pool.InFlight task ∨ Restartable state task
  outcome : ∀ task ∈ stage.tasks, entry.taskStatus task.id = .pending →
    state.taskStatus task.id = .pending ∨ pool.InFlight task ∨
      state.taskStatus task.id = (resultOf env task).status.taskStatus

variable {env graph stage}

theorem WaveProgress.advance {entry before after : ExecutionState}
    {pool moved : Pool} {task : PipelineTask}
    (progress : WaveProgress env graph stage entry pool before)
    (unique : ∀ other ∈ stage.tasks, other.id = task.id → other = task)
    (elsewhere : ∀ taskId, taskId ≠ task.id → after.taskStatus taskId = before.taskStatus taskId)
    (uncompleted : before.taskStatus task.id ≠ .completed)
    (started : after.taskStatus task.id ≠ .pending)
    (own : moved.InFlight task ∨ Settled after task ∧
      after.taskStatus task.id = (resultOf env task).status.taskStatus)
    (others : ∀ other, other.id ≠ task.id → pool.InFlight other → moved.InFlight other) :
    WaveProgress env graph stage entry moved after where
  resolvable := progress.resolvable
  kept := by
    intro taskId completed
    have stored := progress.kept taskId completed
    have different : taskId ≠ task.id := by
      intro same
      rw [same] at stored
      exact uncompleted stored
    rw [elsewhere taskId different]
    exact stored
  origin := by
    intro other member pending
    have different : other.id ≠ task.id := by
      intro same
      rw [same] at pending
      exact started pending
    rw [elsewhere _ different] at pending
    exact progress.origin other member pending
  known := by
    intro other member
    by_cases same : other.id = task.id
    · rw [unique other member same]
      rcases own with flying | ⟨settled, _⟩
      · exact Or.inl flying
      · exact Or.inr (Or.inr settled)
    · rcases progress.known other member with flying | restartable
      · exact Or.inl (others other same flying)
      · exact Or.inr (restartable.congr (elsewhere _ same))
  outcome := by
    intro other member pending
    by_cases same : other.id = task.id
    · rw [unique other member same]
      rcases own with flying | ⟨_, result⟩
      · exact Or.inr (Or.inl flying)
      · exact Or.inr (Or.inr result)
    · rw [elsewhere _ same]
      rcases progress.outcome other member pending with waiting | flying | result
      · exact Or.inl waiting
      · exact Or.inr (Or.inl (others other same flying))
      · exact Or.inr (Or.inr result)

theorem begun_tasks_perm (pool : Pool) {task : PipelineTask}
    {queued : List PipelineTask} (next : pool.queued = task :: queued) :
    (Pool.tasks { pool with
      queued := queued, running := pool.running ++ [task] }).Perm pool.tasks := by
  unfold Pool.tasks
  rw [next]
  apply List.Perm.append_right
  rw [← List.append_assoc]
  apply (List.perm_append_comm).trans
  rfl

theorem finished_tasks_perm (pool : Pool) {task : PipelineTask} {index : Nat}
    (inside : pool.running[index]? = some task) (result : TaskResult) :
    (Pool.tasks { pool with
      running := pool.running.eraseIdx index
      finished := pool.finished ++ [(task, result)] }).Perm pool.tasks := by
  obtain ⟨bound, found⟩ := List.getElem?_eq_some_iff.mp inside
  have taken := List.getElem_cons_eraseIdx_perm bound
  rw [found] at taken
  unfold Pool.tasks
  simp only [List.map_append, List.map_cons, List.map_nil, List.append_assoc]
  apply List.Perm.append_left
  rw [← List.append_assoc]
  apply (List.perm_append_comm).trans
  rw [List.singleton_append, ← List.cons_append]
  exact taken.append_right _

theorem yielded_tasks_perm (pool : Pool) {task : PipelineTask} {index : Nat}
    {result : TaskResult} (inside : pool.finished[index]? = some (task, result)) :
    (task :: Pool.tasks { pool with
      finished := pool.finished.eraseIdx index }).Perm pool.tasks := by
  obtain ⟨bound, found⟩ := List.getElem?_eq_some_iff.mp inside
  have taken := (List.getElem_cons_eraseIdx_perm bound).map Prod.fst
  rw [found, List.map_cons] at taken
  unfold Pool.tasks
  apply (List.perm_middle).symm.trans
  exact taken.append_left _

theorem mem_tasks_of_flight {pool : Pool} {task : PipelineTask}
    (flying : pool.InFlight task) : task ∈ pool.tasks := by
  unfold Pool.tasks
  rcases flying with active | ⟨result, member⟩
  · exact List.mem_append_left _ (List.mem_append_right _ active)
  · exact List.mem_append_right _ (List.mem_map.mpr ⟨(task, result), member, rfl⟩)

theorem PoolExact.begin {pool : Pool} {task : PipelineTask}
    {queued : List PipelineTask} {before after : RunnerState}
    (exact : PoolExact env pool before.state)
    (next : pool.queued = task :: queued) (begun : Begun task before after) :
    PoolExact env { pool with queued := queued, running := pool.running ++ [task] }
      after.state where
  distinct := ((begun_tasks_perm pool next).map _).nodup_iff.mpr exact.distinct
  queued := by
    intro other member
    have different : other.id ≠ task.id := by
      have distinct := exact.distinct
      unfold Pool.tasks at distinct
      rw [next, List.cons_append, List.cons_append, List.map_cons, List.nodup_cons] at distinct
      intro same
      apply distinct.1
      rw [← same]
      apply List.mem_map.mpr
      exact ⟨other, List.mem_append_left _ (List.mem_append_left _ member), rfl⟩
    rw [begun.status, if_neg different]
    apply exact.queued
    rw [next]
    exact List.mem_cons_of_mem _ member
  flight := by
    intro other flying
    rw [begun.status]
    split
    · rfl
    next different =>
      apply exact.flight
      rcases flying with active | finished
      · rcases List.mem_append.mp active with old | fresh
        · exact Or.inl old
        · rw [List.mem_singleton.mp fresh] at different
          exact absurd rfl different
      · exact Or.inr finished
  results := exact.results

theorem PoolExact.finish {pool : Pool} {task : PipelineTask} {index : Nat}
    {state : ExecutionState} (exact : PoolExact env pool state)
    (inside : pool.running[index]? = some task) :
    PoolExact env
      { pool with
        running := pool.running.eraseIdx index
        finished := pool.finished ++ [(task, resultOf env task)] } state where
  distinct := by
    have moved := finished_tasks_perm pool inside (resultOf env task)
    exact (moved.map _).nodup_iff.mpr exact.distinct
  queued := exact.queued
  flight := by
    intro other flying
    apply exact.flight
    rcases flying with active | ⟨result, member⟩
    · exact Or.inl (List.mem_of_mem_eraseIdx active)
    · rcases List.mem_append.mp member with old | fresh
      · exact Or.inr ⟨result, old⟩
      · cases List.mem_singleton.mp fresh
        exact Or.inl (List.mem_of_getElem? inside)
  results := by
    intro entry member
    rcases List.mem_append.mp member with old | fresh
    · exact exact.results entry old
    · rw [List.mem_singleton.mp fresh]

theorem PoolExact.yield {pool : Pool} {task : PipelineTask} {index : Nat}
    {result : TaskResult} {before after : RunnerState}
    (exact : PoolExact env pool before.state)
    (inside : pool.finished[index]? = some (task, result))
    (applied : Applied task result before after) :
    PoolExact env { pool with finished := pool.finished.eraseIdx index }
      after.state := by
  have moved := (yielded_tasks_perm pool inside).map fun task => task.id
  have distinct := moved.nodup_iff.mpr exact.distinct
  rw [List.map_cons, List.nodup_cons] at distinct
  have elsewhere : ∀ other ∈ Pool.tasks { pool with finished := pool.finished.eraseIdx index },
      after.state.taskStatus other.id = before.state.taskStatus other.id := by
    intro other member
    have different : other.id ≠ task.id := by
      intro same
      apply distinct.1
      rw [← same]
      exact List.mem_map.mpr ⟨other, member, rfl⟩
    rw [applied.status, if_neg different]
  constructor
  · exact distinct.2
  · intro other member
    rw [elsewhere other (List.mem_append_left _ (List.mem_append_left _ member))]
    exact exact.queued other member
  · intro other flying
    rw [elsewhere other (mem_tasks_of_flight flying)]
    apply exact.flight
    rcases flying with active | ⟨outcome, member⟩
    · exact Or.inl active
    · exact Or.inr ⟨outcome, List.mem_of_mem_eraseIdx member⟩
  · intro entry member
    exact exact.results entry (List.mem_of_mem_eraseIdx member)

theorem flight_finish {pool : Pool} {task other : PipelineTask} {index : Nat}
    (inside : pool.running[index]? = some task) (result : TaskResult)
    (flying : pool.InFlight other) :
    Pool.InFlight
      { pool with
        running := pool.running.eraseIdx index
        finished := pool.finished ++ [(task, result)] } other := by
  rcases flying with active | ⟨outcome, member⟩
  · obtain ⟨bound, found⟩ := List.getElem?_eq_some_iff.mp inside
    have taken := (List.getElem_cons_eraseIdx_perm bound).symm.subset active
    rw [found] at taken
    rcases List.mem_cons.mp taken with same | kept
    · exact Or.inr ⟨result, List.mem_append_right _ (by rw [same]; simp)⟩
    · exact Or.inl kept
  · exact Or.inr ⟨outcome, List.mem_append_left _ member⟩

theorem flight_yield {pool : Pool} {task other : PipelineTask} {index : Nat}
    {result : TaskResult} (inside : pool.finished[index]? = some (task, result))
    (different : other.id ≠ task.id) (flying : pool.InFlight other) :
    Pool.InFlight { pool with finished := pool.finished.eraseIdx index } other := by
  rcases flying with active | ⟨outcome, member⟩
  · exact Or.inl active
  · obtain ⟨bound, found⟩ := List.getElem?_eq_some_iff.mp inside
    have taken := (List.getElem_cons_eraseIdx_perm bound).symm.subset member
    rw [found] at taken
    rcases List.mem_cons.mp taken with same | kept
    · cases same
      exact absurd rfl different
    · exact Or.inr ⟨outcome, kept⟩

theorem resolved_when_drained {entry : ExecutionState} {pool : Pool} {runner : RunnerState}
    (progress : WaveProgress env graph stage entry pool runner.state)
    (idle : ∀ task, ¬pool.InFlight task)
    (listed : ∀ task ∈ stage.tasks, task ∈ graph.pipeline.allTasks)
    (drained : waveReady graph stage runner = []) {taskId : String}
    (resolvable : Resolvable env graph stage entry taskId) :
    (∃ task ∈ stage.tasks, task.id = taskId) → runner.state.taskStatus taskId ≠ .pending := by
  induction resolvable with
  | intro taskId supplied inner ih =>
    intro inStage pending
    have satisfied : ∀ dep ∈ graph.dependenciesOf taskId,
        runner.state.taskStatus dep.taskId = .completed := by
      intro dep member
      by_cases completed : entry.taskStatus dep.taskId = .completed
      · exact progress.kept dep.taskId completed
      · obtain ⟨task, taskMember, sameId, wasPending, completes⟩ :=
          supplied dep member completed
        have started := ih dep member completed ⟨task, taskMember, sameId⟩
        rcases progress.outcome task taskMember wasPending with
          waiting | flying | result
        · rw [sameId] at waiting
          exact absurd waiting started
        · exact absurd flying (idle task)
        · rw [completes, sameId] at result
          exact result
    have ready : taskId ∈ waveReady graph stage runner := by
      obtain ⟨task, member, sameId⟩ := inStage
      simp only [waveReady, List.mem_filter, Bool.and_eq_true, decide_eq_true_eq, List.mem_map]
      refine ⟨?_, ⟨task, member, sameId⟩, pending⟩
      rw [DependencyGraph.mem_ready_tasks]
      refine ⟨⟨task, listed task member, sameId⟩, ?_, List.not_mem_nil, ?_⟩
      · rw [ExecutionState.mem_tasks_with _ (by decide), pending]
        decide
      · intro dep depMember
        rw [ExecutionState.mem_tasks_with _ (by decide)]
        exact satisfied dep depMember
    rw [drained] at ready
    cases ready

end Waves

section Progress

variable (plan : OrchestrationPlan) (config : RunnerConfig) (env : RunEnv)

/-- A parallel stage is entered only when its pending tasks are resolvable. -/
def ResolvableEntry (machine : Machine) : Prop :=
  ∀ stage rest graph, machine.control = .stages (stage :: rest) → stage.mode = .parallel →
    DependencyGraph.build plan.pipeline config.dependencies = .ok graph →
    gateOpen env stage machine.runner.state = .ok true →
    ∀ task ∈ stage.tasks, machine.runner.state.taskStatus task.id = .pending →
      Resolvable env graph stage machine.runner.state task.id

/-- What holds of the tasks from the current stage on. -/
def Ahead (machine : Machine) : Prop :=
  match machine.control with
  | .stages _ =>
    ∀ task ∈ tasksFrom plan machine.runner.stageIndex, Restartable machine.runner.state task
  | .sequential _ _ tasks rest =>
    ∃ earlier, tasksFrom plan machine.runner.stageIndex = earlier ++ (tasks ++ tasksOf rest) ∧
      (∀ task ∈ earlier, Settled machine.runner.state task) ∧
      ∀ task ∈ tasks ++ tasksOf rest, Restartable machine.runner.state task
  | .waves graph stage rest =>
    (∀ task ∈ tasksOf rest, Restartable machine.runner.state task) ∧
      ∃ entry, WaveProgress env graph stage entry { queued := [] } machine.runner.state
  | .wave graph stage rest _ pool =>
    (∀ task ∈ tasksOf rest, Restartable machine.runner.state task) ∧
      PoolExact env pool machine.runner.state ∧
      ∃ entry, WaveProgress env graph stage entry pool machine.runner.state
  | .halted =>
    machine.runner.state.status = .completed →
      ∀ task ∈ plan.pipeline.allTasks, Settled machine.runner.state task

/-- The tasks of the stages behind are settled, those ahead are not lost. -/
structure Progress (machine : Machine) : Prop where
  coherent : Coherent plan config machine
  active : machine.control ≠ .halted → machine.runner.state.status = .running
  behind : ∀ task ∈ tasksBefore plan machine.runner.stageIndex, Settled machine.runner.state task
  ahead : Ahead plan env machine

variable {plan config}

theorem unchanged_apart (distinct : DistinctTaskIds plan) {front back : List PipelineTask}
    (split : plan.pipeline.allTasks = front ++ back)
    {changed : PipelineTask} (inBack : changed ∈ back)
    {before after : ExecutionState}
    (elsewhere : ∀ taskId, taskId ≠ changed.id →
      after.taskStatus taskId = before.taskStatus taskId) :
    ∀ task ∈ front, after.taskStatus task.id = before.taskStatus task.id := by
  intro task inFront
  exact elsewhere _ (ids_apart distinct split inFront inBack)

theorem fail_run_progress (error : String) (runner : RunnerState)
    (behind : ∀ task ∈ tasksBefore plan runner.stageIndex, Settled runner.state task) :
    Progress plan config env (failRun plan error runner) where
  coherent := trivial
  active := fun active => absurd rfl active
  behind := behind
  ahead := by
    intro completed
    cases completed

theorem end_stage_progress {stage : PipelineStage} {rest : List PipelineStage}
    {runner : RunnerState}
    (position : plan.pipeline.stages.drop runner.stageIndex = stage :: rest)
    (active : runner.state.status = .running)
    (behind : ∀ task ∈ tasksBefore plan runner.stageIndex, Settled runner.state task)
    (current : ∀ task ∈ stage.tasks, Settled runner.state task)
    (later : ∀ task ∈ tasksOf rest, Restartable runner.state task) :
    Progress plan config env (endStage plan config env rest runner) where
  coherent := end_stage_coherent env position rfl
  active := by
    intro _
    rw [end_stage_state]
    exact active
  behind := by
    rw [end_stage_index, end_stage_state, tasks_before_next position]
    intro task member
    rcases List.mem_append.mp member with early | here
    · exact behind task early
    · exact current task here
  ahead := by
    change ∀ task ∈ tasksFrom plan (endStage plan config env rest runner).runner.stageIndex,
      Restartable (endStage plan config env rest runner).runner.state task
    rw [end_stage_index, end_stage_state, tasks_from_next position]
    exact later

theorem sequential_next (distinct : DistinctTaskIds plan)
    {graph : DependencyGraph} {index : Nat} {task : PipelineTask}
    {tasks : List PipelineTask} {rest : List PipelineStage}
    {runner next : RunnerState}
    (progress : Progress plan config env ⟨.sequential graph index (task :: tasks) rest, runner⟩)
    (coherent : Coherent plan config ⟨.sequential graph (index + 1) tasks rest, next⟩)
    (sameIndex : next.stageIndex = runner.stageIndex)
    (sameStatus : next.state.status = runner.state.status)
    (elsewhere : ∀ taskId, taskId ≠ task.id →
      next.state.taskStatus taskId = runner.state.taskStatus taskId)
    (settled : Settled next.state task) :
    Progress plan config env ⟨.sequential graph (index + 1) tasks rest, next⟩ := by
  obtain ⟨_, active, behind, earlier, split, finished, open_⟩ := progress
  change tasksFrom plan runner.stageIndex = earlier ++ (task :: tasks ++ tasksOf rest) at split
  have whole : plan.pipeline.allTasks = (tasksBefore plan runner.stageIndex ++ earlier) ++
        (task :: (tasks ++ tasksOf rest)) := by
    rw [all_tasks_split runner.stageIndex, split, List.append_assoc]
    rfl
  have wholeNext : plan.pipeline.allTasks =
      (tasksBefore plan runner.stageIndex ++ earlier ++ [task]) ++ (tasks ++ tasksOf rest) := by
    rw [whole]
    simp only [List.append_assoc, List.singleton_append]
  have before := unchanged_apart distinct whole List.mem_cons_self elsewhere
  have later : ∀ other ∈ tasks ++ tasksOf rest,
      next.state.taskStatus other.id = runner.state.taskStatus other.id := by
    intro other member
    apply elsewhere
    intro same
    exact ids_apart distinct wholeNext
      (List.mem_append_right _ (List.mem_singleton.mpr rfl)) member same.symm
  constructor
  · exact coherent
  · intro _
    rw [sameStatus]
    exact active (by intro halted; cases halted)
  · intro other member
    change other ∈ tasksBefore plan next.stageIndex at member
    rw [sameIndex] at member
    exact (behind other member).congr (before other (List.mem_append_left _ member))
  · refine ⟨earlier ++ [task], ?_, ?_, ?_⟩
    · change tasksFrom plan next.stageIndex = _
      rw [sameIndex, split, List.append_assoc]
      rfl
    · intro other member
      rcases List.mem_append.mp member with old | fresh
      · exact (finished other old).congr (before other (List.mem_append_right _ old))
      · rw [List.mem_singleton.mp fresh]
        exact settled
    · intro other member
      exact (open_ other (List.mem_cons_of_mem _ member)).congr (later other member)

theorem fail_inside_progress (distinct : DistinctTaskIds plan)
    {task : PipelineTask} {runner next : RunnerState} (error : String)
    (behind : ∀ task ∈ tasksBefore plan runner.stageIndex, Settled runner.state task)
    (member : task ∈ tasksFrom plan runner.stageIndex)
    (sameIndex : next.stageIndex = runner.stageIndex)
    (elsewhere : ∀ taskId, taskId ≠ task.id →
      next.state.taskStatus taskId = runner.state.taskStatus taskId) :
    Progress plan config env (failRun plan error next) := by
  have whole : plan.pipeline.allTasks =
      tasksBefore plan runner.stageIndex ++ tasksFrom plan runner.stageIndex :=
    all_tasks_split runner.stageIndex
  have unchanged := unchanged_apart distinct whole member elsewhere
  apply fail_run_progress
  intro other inFront
  rw [sameIndex] at inFront
  exact (behind other inFront).congr (unchanged other inFront)

theorem sequential_progress (distinct : DistinctTaskIds plan)
    {graph : DependencyGraph} {index : Nat} {task : PipelineTask}
    {tasks : List PipelineTask} {rest : List PipelineStage}
    {runner : RunnerState} {after : Machine}
    (progress : Progress plan config env ⟨.sequential graph index (task :: tasks) rest, runner⟩)
    (coherent : Coherent plan config after)
    (moved : SequentialStep plan config env graph index task tasks rest
      { runner with taskIndex := index } after) :
    Progress plan config env after := by
  have behind := progress.behind
  obtain ⟨earlier, split, _, open_⟩ := progress.ahead
  have restartable : Restartable runner.state task := open_ task List.mem_cons_self
  have member : task ∈ tasksFrom plan runner.stageIndex := by
    change tasksFrom plan runner.stageIndex = _ at split
    rw [split]
    exact List.mem_append_right _ List.mem_cons_self
  have dispatched : ∀ begun, runTask task { runner with taskIndex := index } =
      .ok begun → ∀ taskId, taskId ≠ task.id →
        begun.state.taskStatus taskId = runner.state.taskStatus taskId := by
    intro begun started taskId different
    rw [(run_task_begun started).status, if_neg different]
  cases moved with
  | kept settled =>
    exact sequential_next env distinct progress coherent rfl rfl
      (fun _ _ => rfl) (settled_of_kept settled restartable)
  | skipped unsettled blocked =>
    apply sequential_next env distinct progress coherent rfl rfl
    · intro taskId different
      rw [mark_skipped_status, if_neg different]
    · apply settled_of_skipped
      rw [mark_skipped_status, if_pos rfl]
  | refused unsettled ready error refusal =>
    exact fail_inside_progress env distinct error behind member rfl (fun _ _ => rfl)
  | raised unsettled ready begun started error raises =>
    exact fail_inside_progress env distinct error behind member
      (run_task_begun started).stageIndex (dispatched begun started)
  | stopped unsettled ready begun started result returns stops =>
    have applied := apply_task_result_applied plan config env task result begun
    apply fail_inside_progress env distinct _ behind member
    · rw [write_checkpoint_stage_index, applied.stageIndex]
      exact (run_task_begun started).stageIndex
    · intro taskId different
      rw [write_checkpoint_state, applied.status, if_neg different]
      exact dispatched begun started taskId different
  | applied unsettled ready begun started result returns continues =>
    have begin := run_task_begun started
    have applied := apply_task_result_applied plan config env task result begun
    apply sequential_next env distinct progress coherent
    · rw [applied.stageIndex]
      exact begin.stageIndex
    · rw [applied.pipelineStatus]
      exact begin.pipelineStatus
    · intro taskId different
      rw [applied.status, if_neg different]
      exact dispatched begun started taskId different
    · apply settled_of_result _ continues
      rw [applied.status, if_pos rfl]

theorem mem_from_stage {stage : PipelineStage} {rest : List PipelineStage} {stageIndex : Nat}
    (position : plan.pipeline.stages.drop stageIndex = stage :: rest)
    {task : PipelineTask} (member : task ∈ stage.tasks) :
    task ∈ tasksFrom plan stageIndex := by
  rw [tasks_from_position position]
  exact List.mem_append_left _ member

theorem wave_next (distinct : DistinctTaskIds plan)
    {graph : DependencyGraph} {stage : PipelineStage}
    {rest : List PipelineStage} {ready : List String} {pool moved : Pool}
    {task : PipelineTask} {runner next : RunnerState}
    (progress : Progress plan config env ⟨.wave graph stage rest ready pool, runner⟩)
    (coherent : Coherent plan config ⟨waveControl graph stage rest ready moved, next⟩)
    (inStage : task ∈ stage.tasks)
    (sameIndex : next.stageIndex = runner.stageIndex)
    (sameStatus : next.state.status = runner.state.status)
    (elsewhere : ∀ taskId, taskId ≠ task.id →
      next.state.taskStatus taskId = runner.state.taskStatus taskId)
    (exact : PoolExact env moved next.state)
    (wave : ∃ entry, WaveProgress env graph stage entry moved next.state) :
    Progress plan config env ⟨waveControl graph stage rest ready moved, next⟩ := by
  obtain ⟨⟨_, position, _⟩, active, behind, later, _, _⟩ := progress
  change plan.pipeline.stages.drop runner.stageIndex = stage :: rest at position
  have running : runner.state.status = .running :=
    active (by intro halted; cases halted)
  have whole := stage_split position
  have wholeNext := stage_split_next position
  have before := unchanged_apart distinct whole (List.mem_append_left _ inStage) elsewhere
  have laterNext : ∀ other ∈ tasksOf rest, Restartable next.state other := by
    intro other member
    apply (later other member).congr
    apply elsewhere
    intro same
    exact ids_apart distinct wholeNext (List.mem_append_right _ inStage) member same.symm
  constructor
  · exact coherent
  · intro _
    exact sameStatus.trans running
  · intro other member
    change other ∈ tasksBefore plan next.stageIndex at member
    rw [sameIndex] at member
    exact (behind other member).congr (before other member)
  · unfold waveControl
    split
    next done =>
      simp only [Pool.isDone, Bool.and_eq_true, List.isEmpty_iff] at done
      obtain ⟨⟨queuedNil, runningNil⟩, finishedNil⟩ := done
      obtain ⟨queued, active, finished⟩ := moved
      simp only at queuedNil runningNil finishedNil
      subst queuedNil runningNil finishedNil
      exact ⟨laterNext, wave⟩
    · exact ⟨laterNext, exact, wave⟩

theorem wave_progress (distinct : DistinctTaskIds plan)
    {graph : DependencyGraph} {stage : PipelineStage}
    {rest : List PipelineStage} {ready : List String} {pool : Pool}
    {runner : RunnerState} {choice : WaveChoice} {after : Machine}
    (progress : Progress plan config env ⟨.wave graph stage rest ready pool, runner⟩)
    (coherent : Coherent plan config after)
    (moved : WaveStep plan config env graph stage rest ready pool runner choice after) :
    Progress plan config env after := by
  have behind := progress.behind
  have active : runner.state.status = .running :=
    progress.active (by intro halted; cases halted)
  obtain ⟨_, position, pooled⟩ := progress.coherent
  obtain ⟨later, exact, entry, wave⟩ := progress.ahead
  change PoolCoherent graph stage ready pool runner.state at pooled
  change PoolExact env pool runner.state at exact
  change WaveProgress env graph stage entry pool runner.state at wave
  have unique : ∀ task ∈ stage.tasks, ∀ other ∈ stage.tasks, other.id = task.id → other = task := by
    intro task member other otherMember same
    exact same_task distinct (listed_of_position position member)
      (listed_of_position position otherMember) same
  cases moved with
  | drained empty =>
    refine ⟨coherent, fun _ => active, behind, later, entry, ?_⟩
    simp only [Pool.isDone, Bool.and_eq_true, List.isEmpty_iff] at empty
    obtain ⟨⟨queuedNil, runningNil⟩, finishedNil⟩ := empty
    obtain ⟨queued, active, finished⟩ := pool
    simp only at queuedNil runningNil finishedNil
    subst queuedNil runningNil finishedNil
    exact wave
  | begun task queued next begun started =>
    have begin := run_task_begun started
    have inStage := (pooled.queued task (by rw [next]; exact List.mem_cons_self)).1
    have pending := exact.queued task (by rw [next]; exact List.mem_cons_self)
    have elsewhere : ∀ taskId, taskId ≠ task.id →
        begun.state.taskStatus taskId = runner.state.taskStatus taskId := by
      intro taskId different
      rw [begin.status, if_neg different]
    apply wave_next env distinct progress coherent inStage begin.stageIndex
      begin.pipelineStatus elsewhere (exact.begin next begin)
    refine ⟨entry, wave.advance (unique task inStage) elsewhere ?_ ?_ ?_ ?_⟩
    · rw [pending]
      decide
    · rw [begin.status, if_pos rfl]
      decide
    · exact Or.inl (Or.inl (List.mem_append_right _ (List.mem_singleton.mpr rfl)))
    · intro other _ flying
      rcases flying with running | finished
      · exact Or.inl (List.mem_append_left _ running)
      · exact Or.inr finished
  | refused task queued next error refusal =>
    have pending := exact.queued task (by rw [next]; exact List.mem_cons_self)
    exact absurd pending (run_task_refused refusal)
  | finished index task inside =>
    have member := List.mem_of_getElem? inside
    have inStage := (pooled.running task member).1
    have running := exact.flight task (Or.inl member)
    apply wave_next env distinct progress coherent inStage rfl rfl
      (fun _ _ => rfl) (exact.finish inside)
    refine ⟨entry, wave.advance (unique task inStage) (fun _ _ => rfl) ?_ ?_ ?_ ?_⟩
    · rw [running]
      decide
    · rw [running]
      decide
    · exact Or.inl (flight_finish inside _ (Or.inl member))
    · intro other _ flying
      exact flight_finish inside _ flying
  | yielded index task result inside continues =>
    have applied := apply_task_result_applied plan config env task result runner
    have member := List.mem_of_getElem? inside
    have inStage := (pooled.finished (task, result) member).1
    have running := exact.flight task (Or.inr ⟨result, member⟩)
    have resultEq : result = resultOf env task := exact.results _ member
    have elsewhere : ∀ taskId, taskId ≠ task.id →
        (applyTaskResult plan config env task result runner).state.taskStatus
          taskId = runner.state.taskStatus taskId := by
      intro taskId different
      rw [applied.status, if_neg different]
    have own := applied.status task.id
    rw [if_pos rfl] at own
    apply wave_next env distinct progress coherent inStage applied.stageIndex
      applied.pipelineStatus elsewhere (exact.yield inside applied)
    refine ⟨entry, wave.advance (unique task inStage) elsewhere ?_ ?_ ?_ ?_⟩
    · rw [running]
      decide
    · rw [own]
      exact (result_status_started result.status).1
    · right
      exact ⟨settled_of_result own continues, by rw [own, resultEq]⟩
    · intro other different flying
      exact flight_yield inside different flying
  | stopped index task result chosen inside stops =>
    have applied := apply_task_result_applied plan config env task result runner
    have inStage := (pooled.finished (task, result) (List.mem_of_getElem? inside)).1
    apply fail_inside_progress env distinct _ behind
      (mem_from_stage position inStage) applied.stageIndex
    intro taskId different
    rw [applied.status, if_neg different]

theorem submitted_pool_exact (distinct : DistinctTaskIds plan)
    {graph : DependencyGraph} {stage : PipelineStage}
    {rest : List PipelineStage} {runner : RunnerState}
    (position : plan.pipeline.stages.drop runner.stageIndex = stage :: rest) :
    PoolExact env
      { queued := stage.tasks.filter fun task =>
          task.id ∈ waveReady graph stage runner } runner.state where
  distinct := by
    have stageDistinct : (stage.tasks.map fun task => task.id).Nodup := by
      unfold DistinctTaskIds at distinct
      rw [stage_split position, List.map_append, List.map_append] at distinct
      exact (List.nodup_append.mp (List.nodup_append.mp distinct).2.1).1
    simp only [Pool.tasks, List.append_nil, List.map_nil]
    exact stageDistinct.sublist (List.filter_sublist.map _)
  queued := by
    intro task member
    have ready : task.id ∈ waveReady graph stage runner := by
      simpa using (List.mem_filter.mp member).2
    exact (wave_ready_spec graph stage runner ready).2.1
  flight := by
    intro task flying
    rcases flying with running | ⟨result, finished⟩
    · cases running
    · cases finished
  results := by
    intro entry member
    cases member

theorem WaveProgress.refill {graph : DependencyGraph} {stage : PipelineStage}
    {entry state : ExecutionState} {pool moved : Pool}
    (progress : WaveProgress env graph stage entry pool state)
    (idle : ∀ task, ¬pool.InFlight task) :
    WaveProgress env graph stage entry moved state where
  resolvable := progress.resolvable
  kept := progress.kept
  origin := progress.origin
  known := by
    intro task member
    rcases progress.known task member with flying | restartable
    · exact absurd flying (idle task)
    · exact Or.inr restartable
  outcome := by
    intro task member pending
    rcases progress.outcome task member pending with waiting | flying | result
    · exact Or.inl waiting
    · exact absurd flying (idle task)
    · exact Or.inr (Or.inr result)

theorem empty_pool_idle (task : PipelineTask) : ¬Pool.InFlight { queued := [] } task := by
  intro flying
  rcases flying with running | ⟨result, finished⟩
  · cases running
  · cases finished

theorem waves_progress (distinct : DistinctTaskIds plan)
    {graph : DependencyGraph} {stage : PipelineStage}
    {rest : List PipelineStage} {runner : RunnerState}
    (progress : Progress plan config env ⟨.waves graph stage rest, runner⟩)
    (coherent : Coherent plan config (executeParallel plan config env graph stage rest runner)) :
    Progress plan config env (executeParallel plan config env graph stage rest runner) := by
  obtain ⟨⟨graphOf, position⟩, active, behind, later, entry, wave⟩ := progress
  change plan.pipeline.stages.drop runner.stageIndex = stage :: rest at position
  change WaveProgress env graph stage entry { queued := [] } runner.state at wave
  have running : runner.state.status = .running :=
    active (by intro halted; cases halted)
  have listed : ∀ task ∈ stage.tasks, task ∈ graph.pipeline.allTasks := by
    intro task member
    rw [graphOf.1]
    exact listed_of_position position member
  unfold executeParallel at coherent ⊢
  simp only at coherent ⊢
  split
  next drained =>
    apply end_stage_progress env position running behind _ later
    intro task member
    rcases wave.known task member with flying | pending | settled
    · exact absurd flying (empty_pool_idle task)
    · have resolvable := wave.resolvable task member (wave.origin task member pending)
      exact absurd pending (resolved_when_drained wave empty_pool_idle listed
        drained resolvable ⟨task, member, rfl⟩)
    · exact settled
  next nonempty =>
    rw [if_neg nonempty] at coherent
    refine ⟨coherent, fun _ => running, behind, later, ?_, entry, ?_⟩
    · exact submitted_pool_exact env distinct position
    · exact wave.refill env empty_pool_idle

theorem skip_stage_settles {stage : PipelineStage} {runner : RunnerState}
    {task : PipelineTask} (member : task ∈ stage.tasks)
    (restartable : Restartable runner.state task) :
    Settled (skipStage stage runner).state task := by
  have status := skip_stage_status stage runner task.id
  rcases restartable with pending | settled
  · apply settled_of_skipped
    rw [status, if_pos ⟨List.mem_map.mpr ⟨task, member, rfl⟩, pending⟩]
  · apply settled.congr
    rw [status, if_neg]
    rintro ⟨_, pending⟩
    have terminal := settled.1
    rw [pending] at terminal
    cases terminal

theorem stage_progress (distinct : DistinctTaskIds plan)
    {stage : PipelineStage} {rest : List PipelineStage} {runner : RunnerState}
    {after : Machine}
    (progress : Progress plan config env ⟨.stages (stage :: rest), runner⟩)
    (resolvable : ResolvableEntry plan config env ⟨.stages (stage :: rest), runner⟩)
    (coherent : Coherent plan config after)
    (entry : StageEntry plan config env stage rest runner after) :
    Progress plan config env after := by
  obtain ⟨positioned, active, behind, ahead⟩ := progress
  change ∀ task ∈ tasksFrom plan runner.stageIndex, Restartable runner.state task
    at ahead
  have position : plan.pipeline.stages.drop runner.stageIndex = stage :: rest :=
    positioned.symm
  have running : runner.state.status = .running :=
    active (by intro halted; cases halted)
  have current : ∀ task ∈ stage.tasks, Restartable runner.state task :=
    fun task member => ahead task (mem_from_stage position member)
  have later : ∀ task ∈ tasksOf rest, Restartable runner.state task := by
    intro task member
    apply ahead
    rw [tasks_from_position position]
    exact List.mem_append_right _ member
  cases entry with
  | rejected error => exact fail_run_progress env error runner behind
  | closed graph built gate =>
    have fields := skip_stage_fields stage runner
    have whole := stage_split position
    have wholeNext := stage_split_next position
    have outside : ∀ other : PipelineTask, (∀ task ∈ stage.tasks, task.id ≠ other.id) →
        (skipStage stage runner).state.taskStatus other.id = runner.state.taskStatus other.id := by
      intro other apart
      rw [skip_stage_status, if_neg]
      rintro ⟨member, _⟩
      obtain ⟨task, taskMember, same⟩ := List.mem_map.mp member
      exact apart task taskMember same
    apply end_stage_progress env
    · rw [fields.2.1]
      exact position
    · rw [fields.2.2.1]
      exact running
    · intro other member
      rw [fields.2.1] at member
      apply (behind other member).congr
      apply outside
      intro task taskMember same
      exact ids_apart distinct whole member (List.mem_append_left _ taskMember) same.symm
    · intro task member
      exact skip_stage_settles member (current task member)
    · intro other member
      apply (later other member).congr
      apply outside
      intro task taskMember same
      exact ids_apart distinct wholeNext (List.mem_append_right _ taskMember) member same
  | parallel graph built gate mode workers =>
    refine ⟨coherent, fun _ => running, behind, later, runner.state, ?_⟩
    constructor
    · exact resolvable stage rest graph rfl mode built gate
    · exact fun _ completed => completed
    · exact fun _ _ pending => pending
    · exact fun task member => Or.inr (current task member)
    · exact fun _ _ pending => Or.inl pending
  | sequential graph built gate mode =>
    refine ⟨coherent, fun _ => running, behind, [], ?_, ?_, ?_⟩
    · exact tasks_from_position position
    · intro task member
      cases member
    · intro task member
      rcases List.mem_append.mp member with here | there
      · exact current task here
      · exact later task there

theorem step_progress (distinct : DistinctTaskIds plan) (machine : Machine)
    (choice : WaveChoice) (progress : Progress plan config env machine)
    (resolvable : ResolvableEntry plan config env machine) :
    Progress plan config env (machine.step plan config env choice) := by
  have coherent := step_coherent env machine choice progress.coherent
  obtain ⟨control, runner⟩ := machine
  cases control with
  | halted => exact progress
  | stages remaining =>
    cases remaining with
    | nil =>
      obtain ⟨positioned, active, behind, _⟩ := progress
      have running : runner.state.status = .running :=
        active (by intro halted; cases halted)
      have none : tasksFrom plan runner.stageIndex = [] := by
        unfold tasksFrom
        rw [← show [] = plan.pipeline.stages.drop runner.stageIndex from positioned]
        rfl
      have completes : transitionPipeline runner.state.status .completed = .ok .completed := by
        rw [running]
        decide
      simp only [Machine.step, completeRun, completes]
      refine ⟨trivial, fun active => absurd rfl active, behind, ?_⟩
      intro _ task listed
      rw [all_tasks_split runner.stageIndex, none, List.append_nil] at listed
      exact behind task listed
    | cons stage rest =>
      exact stage_progress env distinct progress resolvable coherent
        (execute_stage_cases plan config env stage rest runner)
  | sequential graph index tasks rest =>
    cases tasks with
    | nil =>
      obtain ⟨⟨_, stage, _, position, _⟩, active, behind, earlier, split,
        finished, open_⟩ := progress
      have running : runner.state.status = .running :=
        active (by intro halted; cases halted)
      change plan.pipeline.stages.drop runner.stageIndex = stage :: rest at position
      change tasksFrom plan runner.stageIndex = earlier ++ tasksOf rest at split
      have stageTasks : stage.tasks = earlier := by
        rw [tasks_from_position position] at split
        exact List.append_cancel_right split
      apply end_stage_progress env position running behind _ open_
      rw [stageTasks]
      exact finished
    | cons task tasks =>
      exact sequential_progress env distinct progress coherent
        (execute_sequential_cases plan config env graph index task tasks rest runner)
  | waves graph stage rest => exact waves_progress env distinct progress coherent
  | wave graph stage rest ready pool =>
    exact wave_progress env distinct progress coherent
      (execute_wave_cases plan config env graph stage rest ready pool runner choice)

end Progress

end AiEnterpriseOs.Orchestration
