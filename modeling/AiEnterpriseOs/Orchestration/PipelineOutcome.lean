import AiEnterpriseOs.Orchestration.PipelineSettlement

/-!
# Outcome of a fresh run

The task counters of a run count the tasks in a terminal status. A run that
halts while nothing is in flight leaves no task running; a run that completes
leaves every task terminal and counted.
-/

namespace AiEnterpriseOs.Orchestration

open Library

section Counting

def terminalIn (state : ExecutionState) (task : PipelineTask) : Bool :=
  (state.taskStatus task.id).isTerminal

theorem terminal_count_settle {tasks : List PipelineTask}
    (distinct : (tasks.map fun task => task.id).Nodup) {task : PipelineTask}
    (member : task ∈ tasks) {before after : ExecutionState}
    (elsewhere : ∀ taskId, taskId ≠ task.id → after.taskStatus taskId = before.taskStatus taskId)
    (was : terminalIn before task = false) (now : terminalIn after task = true) :
    tasks.countP (terminalIn after) = tasks.countP (terminalIn before) + 1 := by
  induction tasks with
  | nil => cases member
  | cons head rest ih =>
    rw [List.map_cons, List.nodup_cons] at distinct
    rw [List.countP_cons, List.countP_cons]
    by_cases same : head.id = task.id
    · have headWas : terminalIn before head = false := by
        unfold terminalIn at was ⊢
        rw [same]
        exact was
      have headNow : terminalIn after head = true := by
        unfold terminalIn at now ⊢
        rw [same]
        exact now
      have restSame : rest.countP (terminalIn after) = rest.countP (terminalIn before) := by
        apply List.countP_congr
        intro other otherMember
        have different : other.id ≠ task.id := by
          intro equal
          apply distinct.1
          rw [same, ← equal]
          exact List.mem_map.mpr ⟨other, otherMember, rfl⟩
        unfold terminalIn
        rw [elsewhere other.id different]
      rw [headWas, headNow, restSame]
      rfl
    · have inRest : task ∈ rest := by
        rcases List.mem_cons.mp member with equal | later
        · rw [equal] at same
          exact absurd rfl same
        · exact later
      have headSame : terminalIn after head = terminalIn before head := by
        unfold terminalIn
        rw [elsewhere head.id same]
      rw [ih distinct.2 inRest, headSame]
      omega

theorem terminal_count_same {tasks : List PipelineTask} {before after : ExecutionState}
    (same : ∀ task, terminalIn after task = terminalIn before task) :
    tasks.countP (terminalIn after) = tasks.countP (terminalIn before) := by
  apply List.countP_congr
  intro task _
  rw [same]

end Counting

section Counters

variable (plan : OrchestrationPlan) (config : RunnerConfig) (env : RunEnv)

/-- The three task counters add up to the number of terminal tasks. -/
structure Counts (runner : RunnerState) : Prop where
  total : runner.metrics.tasksTotal = plan.pipeline.allTasks.length
  counters : runner.metrics.tasksCompleted + runner.metrics.tasksFailed +
    runner.metrics.tasksSkipped = plan.pipeline.allTasks.countP (terminalIn runner.state)

variable {plan config}

theorem Counts.settle (distinct : DistinctTaskIds plan)
    {task : PipelineTask} {before after : RunnerState}
    (counts : Counts plan before) (listed : task ∈ plan.pipeline.allTasks)
    (elsewhere : ∀ taskId, taskId ≠ task.id →
      after.state.taskStatus taskId = before.state.taskStatus taskId)
    (was : terminalIn before.state task = false)
    (now : terminalIn after.state task = true)
    (total : after.metrics.tasksTotal = before.metrics.tasksTotal)
    (counters : after.metrics.tasksCompleted + after.metrics.tasksFailed +
        after.metrics.tasksSkipped =
      before.metrics.tasksCompleted + before.metrics.tasksFailed +
        before.metrics.tasksSkipped + 1) :
    Counts plan after where
  total := total.trans counts.total
  counters := by
    rw [terminal_count_settle distinct listed elsewhere was now, counters, counts.counters]

theorem Counts.applied (distinct : DistinctTaskIds plan)
    {task : PipelineTask} {result : TaskResult} {before after : RunnerState}
    (counts : Counts plan before) (listed : task ∈ plan.pipeline.allTasks)
    (was : before.state.taskStatus task.id = .running)
    (applied : Applied task result before after) : Counts plan after := by
  apply counts.settle distinct listed
  · intro taskId different
    rw [applied.status, if_neg different]
  · unfold terminalIn
    rw [was]
    rfl
  · unfold terminalIn
    rw [applied.status, if_pos rfl]
    exact result_status_terminal result.status
  · exact applied.total
  · exact applied.counters

theorem Counts.skipped (distinct : DistinctTaskIds plan)
    {task : PipelineTask} {runner : RunnerState}
    (counts : Counts plan runner) (listed : task ∈ plan.pipeline.allTasks)
    (was : runner.state.taskStatus task.id = .pending) :
    Counts plan (markSkipped task.id runner) := by
  apply counts.settle distinct listed
  · intro taskId different
    rw [mark_skipped_status, if_neg different]
  · unfold terminalIn
    rw [was]
    rfl
  · unfold terminalIn
    rw [mark_skipped_status, if_pos rfl]
    rfl
  · rfl
  · simp only [markSkipped]
    omega

theorem Counts.begun {task : PipelineTask} {before after : RunnerState}
    (counts : Counts plan before) (begun : Begun task before after) :
    Counts plan after where
  total := by
    rw [begun.metrics]
    exact counts.total
  counters := by
    rw [begun.metrics, counts.counters]
    symm
    apply terminal_count_same
    intro other
    unfold terminalIn
    rw [begun.status]
    split
    next same =>
      rw [same]
      rcases begun.startable with pending | ready
      · rw [pending]
        rfl
      · rw [ready]
        rfl
    · rfl

theorem Counts.congr {before after : RunnerState} (counts : Counts plan before)
    (sameState : after.state.taskStatuses = before.state.taskStatuses)
    (total : after.metrics.tasksTotal = before.metrics.tasksTotal)
    (completed : after.metrics.tasksCompleted = before.metrics.tasksCompleted)
    (failed : after.metrics.tasksFailed = before.metrics.tasksFailed)
    (skipped : after.metrics.tasksSkipped = before.metrics.tasksSkipped) :
    Counts plan after where
  total := total.trans counts.total
  counters := by
    rw [completed, failed, skipped, counts.counters]
    symm
    apply terminal_count_same
    intro task
    simp only [terminalIn, ExecutionState.taskStatus, sameState]

theorem Counts.written {runner : RunnerState} (counts : Counts plan runner) :
    Counts plan (writeCheckpoint plan config env runner) := by
  obtain ⟨total, completed, failed, skipped⟩ :=
    write_checkpoint_counters plan config env runner
  exact counts.congr (by rw [write_checkpoint_state]) total completed failed skipped

theorem Counts.ended {runner : RunnerState} (rest : List PipelineStage)
    (counts : Counts plan runner) :
    Counts plan (endStage plan config env rest runner).runner := by
  obtain ⟨total, completed, failed, skipped⟩ :=
    end_stage_counters plan config env rest runner
  exact counts.congr (by rw [end_stage_state]) total completed failed skipped

theorem Counts.skip_stage (distinct : DistinctTaskIds plan)
    {stage : PipelineStage} {runner : RunnerState} (counts : Counts plan runner)
    (listed : ∀ task ∈ stage.tasks, task ∈ plan.pipeline.allTasks) :
    Counts plan (skipStage stage runner) := by
  unfold skipStage
  generalize stage.tasks = tasks at listed
  induction tasks generalizing runner with
  | nil => exact counts
  | cons task rest ih =>
    rw [List.foldl_cons]
    have restListed := fun other member =>
      listed other (List.mem_cons_of_mem task member)
    split
    next pending =>
      exact ih (counts.skipped distinct (listed task List.mem_cons_self) pending) restListed
    · exact ih counts restListed

/-- Tasks that the run has not come to yet. -/
def Machine.untouched (plan : OrchestrationPlan) (machine : Machine) :
    List PipelineTask :=
  match machine.control with
  | .stages _ => tasksFrom plan machine.runner.stageIndex
  | .sequential _ _ tasks rest => tasks ++ tasksOf rest
  | .waves _ _ rest | .wave _ _ rest _ _ => tasksOf rest
  | .halted => []

structure Counted (plan : OrchestrationPlan) (machine : Machine) : Prop where
  counts : Counts plan machine.runner
  untouched : ∀ task ∈ machine.untouched plan, machine.runner.state.taskStatus task.id = .pending

theorem end_stage_untouched {stage : PipelineStage} {rest : List PipelineStage}
    {runner : RunnerState}
    (position : plan.pipeline.stages.drop runner.stageIndex = stage :: rest) :
    (endStage plan config env rest runner).untouched plan = tasksOf rest := by
  change tasksFrom plan (endStage plan config env rest runner).runner.stageIndex = _
  rw [end_stage_index, tasks_from_next position]

/-- The tasks that the run has not come to afterwards are as they were. -/
def Spares (plan : OrchestrationPlan) (before after : Machine) : Prop :=
  ∀ task ∈ after.untouched plan, task ∈ before.untouched plan ∧
    after.runner.state.taskStatus task.id = before.runner.state.taskStatus task.id

theorem halted_spares {before after : Machine} (halted : after.control = .halted) :
    Spares plan before after := by
  intro task member
  simp only [Machine.untouched, halted] at member
  cases member

theorem stage_entry_spares (distinct : DistinctTaskIds plan) {stage : PipelineStage}
    {rest : List PipelineStage} {runner : RunnerState} {after : Machine}
    (position : plan.pipeline.stages.drop runner.stageIndex = stage :: rest)
    (entry : StageEntry plan config env stage rest runner after) :
    Spares plan ⟨.stages (stage :: rest), runner⟩ after := by
  have here : Machine.untouched plan ⟨.stages (stage :: rest), runner⟩ =
      stage.tasks ++ tasksOf rest := tasks_from_position position
  intro task member
  rw [here]
  cases entry with
  | rejected error => cases member
  | closed graph built gate =>
    have fields := skip_stage_fields stage runner
    rw [end_stage_untouched env (by rw [fields.2.1]; exact position)] at member
    refine ⟨List.mem_append_right _ member, ?_⟩
    rw [end_stage_state, skip_stage_status, if_neg]
    rintro ⟨listed, _⟩
    obtain ⟨other, otherMember, same⟩ := List.mem_map.mp listed
    exact ids_apart distinct (stage_split_next position)
      (List.mem_append_right _ otherMember) member same
  | parallel graph built gate mode workers =>
    exact ⟨List.mem_append_right _ member, rfl⟩
  | sequential graph built gate mode => exact ⟨member, rfl⟩

theorem visited_spares (distinct : DistinctTaskIds plan) {graph : DependencyGraph}
    {index visit : Nat} {task : PipelineTask} {tasks : List PipelineTask}
    {stage : PipelineStage} {rest : List PipelineStage} {earlier : List PipelineTask}
    {runner : RunnerState} {after : Machine}
    (position : plan.pipeline.stages.drop runner.stageIndex = stage :: rest)
    (split : stage.tasks = earlier ++ task :: tasks)
    (moved : SequentialStep plan config env graph index task tasks rest
      { runner with taskIndex := visit } after) :
    Spares plan ⟨.sequential graph index (task :: tasks) rest, runner⟩ after := by
  have whole : plan.pipeline.allTasks = (tasksBefore plan runner.stageIndex ++ earlier ++ [task]) ++
        (tasks ++ tasksOf rest) := by
    rw [stage_split position, split]
    simp only [List.append_assoc, List.cons_append, List.nil_append]
  have apart : ∀ other ∈ tasks ++ tasksOf rest, other.id ≠ task.id := by
    intro other member same
    exact ids_apart distinct whole
      (List.mem_append_right _ (List.mem_singleton.mpr rfl)) member same.symm
  intro other member
  cases moved with
  | kept settled => exact ⟨List.mem_cons_of_mem _ member, rfl⟩
  | skipped unsettled blocked =>
    refine ⟨List.mem_cons_of_mem _ member, ?_⟩
    rw [mark_skipped_status, if_neg (apart other member)]
  | refused unsettled ready error refusal => cases member
  | raised unsettled ready begun started error raises => cases member
  | stopped unsettled ready begun started result returns stops => cases member
  | applied unsettled ready begun started result returns continues =>
    have applied := apply_task_result_applied plan config env task result begun
    refine ⟨List.mem_cons_of_mem _ member, ?_⟩
    rw [applied.status, if_neg (apart other member),
      (run_task_begun started).status, if_neg (apart other member)]

theorem wave_spares (distinct : DistinctTaskIds plan) {graph : DependencyGraph}
    {stage : PipelineStage} {rest : List PipelineStage} {ready : List String} {pool : Pool}
    {runner : RunnerState} {choice : WaveChoice} {after : Machine}
    (position : plan.pipeline.stages.drop runner.stageIndex = stage :: rest)
    (pooled : PoolCoherent graph stage ready pool runner.state)
    (moved : WaveStep plan config env graph stage rest ready pool runner choice after) :
    Spares plan ⟨.wave graph stage rest ready pool, runner⟩ after := by
  rcases wave_step_advance env pooled moved with
    halted | ⟨_, drained⟩ | ⟨next, control, advance⟩
  · exact halted_spares halted
  · rw [drained]
    exact fun task member => ⟨member, rfl⟩
  · obtain ⟨afterControl, afterRunner⟩ := after
    simp only at control
    subst control
    obtain ⟨changed, inStage, elsewhere⟩ := advance.touched
    intro other member
    have inRest : other ∈ tasksOf rest := by
      unfold waveControl at member
      split at member <;> exact member
    refine ⟨inRest, elsewhere other.id ?_⟩
    intro same
    exact ids_apart distinct (stage_split_next position)
      (List.mem_append_right _ inStage) inRest same.symm

theorem step_spares (distinct : DistinctTaskIds plan) (machine : Machine)
    (choice : WaveChoice) (coherent : Coherent plan config machine) :
    Spares plan machine (machine.step plan config env choice) := by
  have stepped := step_cases plan config env machine choice
  generalize machine.step plan config env choice = next at stepped ⊢
  cases stepped with
  | halted runner => exact halted_spares rfl
  | completed runner => exact halted_spares (complete_run_control plan runner)
  | entered stage rest runner next entry =>
    exact stage_entry_spares env distinct coherent.symm entry
  | ended graph index rest runner =>
    obtain ⟨_, stage, _, position, _⟩ := coherent
    intro task member
    rw [end_stage_untouched env position] at member
    rw [end_stage_state]
    exact ⟨member, rfl⟩
  | visited graph index task tasks rest runner next moved =>
    obtain ⟨_, stage, earlier, position, split⟩ := coherent
    exact visited_spares env distinct position split moved
  | exhausted graph stage rest runner idle =>
    intro task member
    rw [end_stage_untouched env coherent.2] at member
    rw [end_stage_state]
    exact ⟨member, rfl⟩
  | submitted graph stage rest runner due => exact fun task member => ⟨member, rfl⟩
  | pooled graph stage rest ready pool runner next moved =>
    exact wave_spares env distinct coherent.2.1 coherent.2.2 moved

theorem Counts.failed {error : String} {runner : RunnerState} (counts : Counts plan runner) :
    Counts plan (failRun plan error runner).runner :=
  counts.congr rfl rfl rfl rfl rfl

theorem Counts.complete {runner : RunnerState} (counts : Counts plan runner) :
    Counts plan (completeRun plan runner).runner := by
  unfold completeRun
  split
  · exact counts.failed
  · exact counts.congr rfl rfl rfl rfl rfl

theorem visited_counts (distinct : DistinctTaskIds plan) {graph : DependencyGraph}
    {index : Nat} {task : PipelineTask} {tasks : List PipelineTask}
    {rest : List PipelineStage} {runner : RunnerState} {after : Machine}
    (counts : Counts plan runner) (listed : task ∈ plan.pipeline.allTasks)
    (pending : runner.state.taskStatus task.id = .pending)
    (moved : SequentialStep plan config env graph index task tasks rest runner after) :
    Counts plan after.runner := by
  have merged : ∀ begun result, runTask task runner = .ok begun →
      Counts plan (applyTaskResult plan config env task result begun) := by
    intro begun result started
    have begin := run_task_begun started
    apply (counts.begun begin).applied distinct listed
    · rw [begin.status, if_pos rfl]
    · exact apply_task_result_applied plan config env task result begun
  cases moved with
  | kept settled => exact counts
  | skipped unsettled blocked => exact counts.skipped distinct listed pending
  | refused unsettled ready error refusal => exact counts.failed
  | raised unsettled ready begun started error raises =>
    exact (counts.begun (run_task_begun started)).failed
  | stopped unsettled ready begun started result returns stops =>
    exact ((merged begun result started).written env).failed
  | applied unsettled ready begun started result returns continues =>
    exact merged begun result started

theorem wave_counts (distinct : DistinctTaskIds plan) {graph : DependencyGraph}
    {stage : PipelineStage} {rest : List PipelineStage} {ready : List String} {pool : Pool}
    {runner : RunnerState} {choice : WaveChoice} {after : Machine}
    (counts : Counts plan runner)
    (position : plan.pipeline.stages.drop runner.stageIndex = stage :: rest)
    (pooled : PoolCoherent graph stage ready pool runner.state)
    (exactly : PoolExact env pool runner.state)
    (moved : WaveStep plan config env graph stage rest ready pool runner choice after) :
    Counts plan after.runner := by
  have merged : ∀ (index : Nat) (task : PipelineTask) (result : TaskResult),
      pool.finished[index]? = some (task, result) →
      Counts plan (applyTaskResult plan config env task result runner) := by
    intro index task result inside
    have member := List.mem_of_getElem? inside
    apply counts.applied distinct
    · exact listed_of_position position (pooled.finished (task, result) member).1
    · exact exactly.flight task (Or.inr ⟨result, member⟩)
    · exact apply_task_result_applied plan config env task result runner
  cases moved with
  | drained empty => exact counts
  | begun task queued next begun started => exact counts.begun (run_task_begun started)
  | refused task queued next error refusal => exact counts
  | finished index task inside => exact counts
  | yielded index task result inside continues => exact merged index task result inside
  | stopped index task result chosen inside stops =>
    exact (merged index task result inside).failed

theorem step_counts (distinct : DistinctTaskIds plan) (machine : Machine)
    (choice : WaveChoice) (progress : Progress plan config env machine)
    (counted : Counted plan machine) :
    Counts plan (machine.step plan config env choice).runner := by
  obtain ⟨counts, untouched⟩ := counted
  have stepped := step_cases plan config env machine choice
  generalize machine.step plan config env choice = next at stepped ⊢
  cases stepped with
  | halted runner => exact counts
  | completed runner => exact Counts.complete counts
  | entered stage rest runner next entry =>
    have position : plan.pipeline.stages.drop runner.stageIndex =
        stage :: rest := progress.coherent.symm
    change Counts plan runner at counts
    cases entry with
    | rejected error => exact counts.failed
    | closed graph built gate =>
      apply Counts.ended
      exact counts.skip_stage distinct fun task member => listed_of_position position member
    | parallel graph built gate mode workers => exact counts
    | sequential graph built gate mode => exact counts
  | ended graph index rest runner => exact Counts.ended env rest counts
  | visited graph index task tasks rest runner next moved =>
    obtain ⟨_, stage, earlier, position, split⟩ := progress.coherent
    have listed : task ∈ plan.pipeline.allTasks := by
      apply listed_of_position position
      rw [split]
      exact List.mem_append_right _ List.mem_cons_self
    have visiting : Counts plan { runner with taskIndex := index } :=
      Counts.congr counts rfl rfl rfl rfl rfl
    exact visited_counts env distinct visiting listed (untouched task List.mem_cons_self) moved
  | exhausted graph stage rest runner idle => exact Counts.ended env rest counts
  | submitted graph stage rest runner due => exact Counts.congr counts rfl rfl rfl rfl rfl
  | pooled graph stage rest ready pool runner next moved =>
    obtain ⟨_, position, pooled⟩ := progress.coherent
    exact wave_counts env distinct counts position pooled progress.ahead.2.1 moved

theorem step_counted (distinct : DistinctTaskIds plan) (machine : Machine)
    (choice : WaveChoice) (progress : Progress plan config env machine)
    (counted : Counted plan machine) :
    Counted plan (machine.step plan config env choice) where
  counts := step_counts env distinct machine choice progress counted
  untouched := by
    intro task member
    obtain ⟨was, same⟩ :=
      step_spares env distinct machine choice progress.coherent task member
    rw [same]
    exact counted.untouched task was

end Counters

section Idle

variable (plan : OrchestrationPlan) (config : RunnerConfig) (env : RunEnv)

/-- The conditions under which a step settles what it leaves: a parallel
stage is entered with resolvable tasks only, a task dispatched in a
sequential stage does not raise past the executor, and a failure that stops a
wave is the last of its started futures. -/
structure SettlingStep (machine : Machine) (choice : WaveChoice) : Prop where
  resolvable : ResolvableEntry plan config env machine
  returns : ∀ graph index task tasks rest,
    machine.control = .sequential graph index (task :: tasks) rest →
    ¬KeepsTask machine.runner task →
    task.id ∈ graph.readyTasks (machine.runner.state.tasksWith .completed)
      (machine.runner.state.tasksWith .failed) →
    ∀ error, env.outcome task.id ≠ .raised error
  alone : ∀ graph stage rest ready pool index task result,
    machine.control = .wave graph stage rest ready pool →
    pool.effective config choice = .yield index →
    pool.finished[index]? = some (task, result) → stopsRun task result →
    pool.running = [] ∧ pool.finished.length = 1

def NoneRunning (state : ExecutionState) : Prop :=
  ∀ task ∈ plan.pipeline.allTasks, state.taskStatus task.id ≠ .running

variable {plan config}

theorem running_in_flight {machine : Machine} (progress : Progress plan config env machine)
    (active : ¬machine.isHalted) {task : PipelineTask}
    (listed : task ∈ plan.pipeline.allTasks)
    (running : machine.runner.state.taskStatus task.id = .running) :
    ∃ graph stage rest ready pool,
      machine.control = .wave graph stage rest ready pool ∧ pool.InFlight task := by
  obtain ⟨control, runner⟩ := machine
  obtain ⟨coherent, _, behind, ahead⟩ := progress
  rw [all_tasks_split runner.stageIndex] at listed
  rcases List.mem_append.mp listed with early | late
  · exact absurd running (behind task early).not_running
  cases control with
  | halted => exact absurd rfl active
  | stages remaining => exact absurd running (ahead task late).not_running
  | sequential graph index tasks rest =>
    obtain ⟨earlier, split, finished, opened⟩ := ahead
    change tasksFrom plan runner.stageIndex = _ at split
    rw [split] at late
    rcases List.mem_append.mp late with done | later
    · exact absurd running (finished task done).not_running
    · exact absurd running (opened task later).not_running
  | waves graph stage rest =>
    obtain ⟨_, position⟩ := coherent
    obtain ⟨later, entry, wave⟩ := ahead
    change plan.pipeline.stages.drop runner.stageIndex = stage :: rest at position
    rw [tasks_from_position position] at late
    rcases List.mem_append.mp late with here | there
    · rcases wave.known task here with flying | restartable
      · exact absurd flying (empty_pool_idle task)
      · exact absurd running restartable.not_running
    · exact absurd running (later task there).not_running
  | wave graph stage rest ready pool =>
    obtain ⟨_, position, _⟩ := coherent
    obtain ⟨later, _, entry, wave⟩ := ahead
    change plan.pipeline.stages.drop runner.stageIndex = stage :: rest at position
    rw [tasks_from_position position] at late
    rcases List.mem_append.mp late with here | there
    · rcases wave.known task here with flying | restartable
      · exact ⟨graph, stage, rest, ready, pool, rfl, flying⟩
      · exact absurd running restartable.not_running
    · exact absurd running (later task there).not_running

theorem none_running_outside {machine : Machine} (progress : Progress plan config env machine)
    (outside : ∀ graph stage rest ready pool, machine.control ≠ .wave graph stage rest ready pool)
    (active : ¬machine.isHalted) : NoneRunning plan machine.runner.state := by
  intro task listed running
  obtain ⟨graph, stage, rest, ready, pool, inWave, _⟩ :=
    running_in_flight env progress active listed running
  exact outside graph stage rest ready pool inWave

/-- The result of a task ends it, so only another task can still be running. -/
theorem Applied.not_running {task : PipelineTask} {result : TaskResult}
    {before after : RunnerState} (applied : Applied task result before after) {taskId : String}
    (others : taskId ≠ task.id → before.state.taskStatus taskId ≠ .running) :
    after.state.taskStatus taskId ≠ .running := by
  rw [applied.status]
  split
  · intro running
    have terminal := result_status_terminal result.status
    rw [running] at terminal
    cases terminal
  next different => exact others different

/-- A visited task that halts the run is left terminal or pending, for none
raises past the executor. -/
theorem visited_idle {graph : DependencyGraph} {index : Nat} {task : PipelineTask}
    {tasks : List PipelineTask} {rest : List PipelineStage} {runner : RunnerState}
    {after : Machine} (none : NoneRunning plan runner.state)
    (returns : ¬KeepsTask runner task →
      task.id ∈ graph.readyTasks (runner.state.tasksWith .completed)
        (runner.state.tasksWith .failed) →
      ∀ error, env.outcome task.id ≠ .raised error)
    (moved : SequentialStep plan config env graph index task tasks rest runner after)
    (halted : after.isHalted) : NoneRunning plan after.runner.state := by
  cases moved with
  | kept settled => cases halted
  | skipped unsettled blocked => cases halted
  | refused unsettled ready error refusal => exact none
  | raised unsettled ready begun started error raises =>
    have quiet := returns unsettled ready
    cases outcome : env.outcome task.id with
    | returned result =>
      rw [outcome] at raises
      cases raises
    | taskExecutionError cause attempts =>
      rw [outcome] at raises
      cases raises
    | raised error => exact absurd outcome (quiet error)
  | stopped unsettled ready begun started result returned stops =>
    have applied := apply_task_result_applied plan config env task result begun
    have begin := run_task_begun started
    intro other listed
    change (writeCheckpoint plan config env (applyTaskResult plan config
      env task result begun)).state.taskStatus other.id ≠ .running
    rw [write_checkpoint_state]
    apply applied.not_running
    intro different
    rw [begin.status, if_neg different]
    exact none other listed
  | applied unsettled ready begun started result returned continues => cases halted

theorem wave_control_active (graph : DependencyGraph) (stage : PipelineStage)
    (rest : List PipelineStage) (ready : List String) (pool : Pool) (runner : RunnerState) :
    ¬Machine.isHalted ⟨waveControl graph stage rest ready pool, runner⟩ := by
  unfold Machine.isHalted waveControl
  split <;> (intro same; cases same)

theorem wave_idle {graph : DependencyGraph} {stage : PipelineStage}
    {rest : List PipelineStage} {ready : List String} {pool : Pool} {runner : RunnerState}
    {choice : WaveChoice} {after : Machine}
    (progress : Progress plan config env ⟨.wave graph stage rest ready pool, runner⟩)
    (alone : ∀ index task result, pool.effective config choice = .yield index →
      pool.finished[index]? = some (task, result) → stopsRun task result →
      pool.running = [] ∧ pool.finished.length = 1)
    (moved : WaveStep plan config env graph stage rest ready pool runner choice after)
    (halted : after.isHalted) : NoneRunning plan after.runner.state := by
  have active : ¬Machine.isHalted ⟨.wave graph stage rest ready pool, runner⟩ := by
    intro same
    cases same
  cases moved with
  | drained empty => cases halted
  | begun task queued next begun started =>
    exact absurd halted (wave_control_active graph stage rest ready _ _)
  | refused task queued next error refusal =>
    exact absurd halted (wave_control_active graph stage rest ready _ _)
  | finished index task inside =>
    exact absurd halted (wave_control_active graph stage rest ready _ _)
  | yielded index task result inside continues =>
    exact absurd halted (wave_control_active graph stage rest ready _ _)
  | stopped index task result chosen inside stops =>
    have applied := apply_task_result_applied plan config env task result runner
    obtain ⟨runningNil, single⟩ := alone index task result chosen inside stops
    intro other listed
    change (applyTaskResult plan config env task result runner).state.taskStatus other.id ≠ .running
    apply applied.not_running
    intro different running
    obtain ⟨_, _, _, _, flownPool, same, flying⟩ :=
      running_in_flight env progress active listed running
    cases same
    rcases flying with started | ⟨outcome, member⟩
    · rw [runningNil] at started
      cases started
    · obtain ⟨entry, only⟩ := List.length_eq_one_iff.mp single
      rw [only] at member inside
      cases List.mem_singleton.mp member
      cases index with
      | zero =>
        cases inside
        exact different rfl
      | succ index => cases inside

theorem step_idle (machine : Machine) (choice : WaveChoice)
    (progress : Progress plan config env machine)
    (settling : SettlingStep plan config env machine choice)
    (active : ¬machine.isHalted)
    (halted : (machine.step plan config env choice).isHalted) :
    NoneRunning plan (machine.step plan config env choice).runner.state := by
  have idle := fun outside => none_running_outside env progress outside active
  have stepped := step_cases plan config env machine choice
  generalize machine.step plan config env choice = next at stepped halted ⊢
  cases stepped with
  | halted runner => exact absurd rfl active
  | completed runner =>
    have none := idle (by intro graph stage rest ready pool same; cases same)
    unfold completeRun
    split <;> exact none
  | entered stage rest runner next entry =>
    have none := idle (by intro graph stage rest ready pool same; cases same)
    cases entry with
    | rejected error => exact none
    | closed graph built gate => cases halted
    | parallel graph built gate mode workers => cases halted
    | sequential graph built gate mode => cases halted
  | ended graph index rest runner => cases halted
  | visited graph index task tasks rest runner next moved =>
    have none : NoneRunning plan { runner with taskIndex := index }.state :=
      idle (by intro graph stage rest ready pool same; cases same)
    exact visited_idle env none (settling.returns graph index task tasks rest rfl) moved halted
  | exhausted graph stage rest runner none => cases halted
  | submitted graph stage rest runner due => cases halted
  | pooled graph stage rest ready pool runner next moved =>
    exact wave_idle env progress
      (fun index task result => settling.alone graph stage rest ready pool index task
        result rfl) moved halted

end Idle

section Runs

variable (plan : OrchestrationPlan) (config : RunnerConfig) (env : RunEnv)

/-- What is promised of the state and the metrics that a run ends with. -/
structure OutcomeSettled (state : ExecutionState) (metrics : ExecutionMetrics) : Prop where
  terminal : state.status = .completed → ∀ task ∈ plan.pipeline.allTasks,
    (state.taskStatus task.id).isTerminal = true
  idle : state.status = .failed → ∀ task ∈ plan.pipeline.allTasks,
    state.taskStatus task.id ≠ .running
  counted : state.status = .completed →
    metrics.tasksCompleted + metrics.tasksFailed + metrics.tasksSkipped = metrics.tasksTotal

structure SettlingRun (machine : Machine) : Prop where
  progress : Progress plan config env machine
  counted : Counted plan machine
  idle : machine.isHalted → NoneRunning plan machine.runner.state

variable {plan config}

theorem step_halted {machine : Machine} (choice : WaveChoice) (halted : machine.isHalted) :
    machine.step plan config env choice = machine := by
  unfold Machine.isHalted at halted
  simp only [Machine.step, halted]

theorem step_settling_run (distinct : DistinctTaskIds plan) (machine : Machine)
    (choice : WaveChoice) (run : SettlingRun plan config env machine)
    (settling : SettlingStep plan config env machine choice) :
    SettlingRun plan config env (machine.step plan config env choice) where
  progress := step_progress env distinct machine choice run.progress settling.resolvable
  counted := step_counted env distinct machine choice run.progress run.counted
  idle := by
    intro halted
    by_cases before : machine.isHalted
    · rw [step_halted env choice before]
      exact run.idle before
    · exact step_idle env machine choice run.progress settling before halted

theorem fresh_status (plan : OrchestrationPlan) (shared : RunnerShared)
    {machine : Machine} (started : Machine.start plan none shared = .ok machine)
    (taskId : String) : machine.runner.state.taskStatus taskId = .pending := by
  cases started
  unfold ExecutionState.taskStatus OrderedDict.getD
  have stored := OrderedDict.get_setAll_const (OrderedDict.empty : OrderedDict String TaskStatus)
    (plan.pipeline.allTasks.map fun task => task.id) .pending taskId
  rw [List.map_map] at stored
  change ((OrderedDict.empty.setAll
    (plan.pipeline.allTasks.map fun task => (task.id, TaskStatus.pending))).get?
      taskId).getD .pending = .pending
  rw [show (plan.pipeline.allTasks.map fun task => (task.id, TaskStatus.pending)) =
    plan.pipeline.allTasks.map ((fun item => (item, TaskStatus.pending)) ∘
      fun task => task.id) from rfl, stored]
  split <;> rfl

theorem fresh_settling_run {shared : RunnerShared} {machine : Machine}
    (started : Machine.start plan none shared = .ok machine) :
    SettlingRun plan config env machine := by
  have pending := fresh_status plan shared started
  obtain ⟨fresh, freshStart, _, controlEq, indexEq⟩ := start_fresh plan shared
  rw [started] at freshStart
  cases freshStart
  have active : ¬machine.isHalted := by
    unfold Machine.isHalted
    rw [controlEq]
    intro same
    cases same
  refine ⟨⟨start_coherent started, ?_, ?_, ?_⟩, ⟨⟨?_, ?_⟩, ?_⟩, ?_⟩
  · intro _
    cases started
    rfl
  · intro task member
    rw [indexEq] at member
    cases member
  · unfold Ahead
    rw [controlEq]
    exact fun task _ => Or.inl (pending task.id)
  · cases started
    rfl
  · have none : plan.pipeline.allTasks.countP (terminalIn machine.runner.state) = 0 := by
      apply List.countP_eq_zero.mpr
      intro task _ terminal
      unfold terminalIn at terminal
      rw [pending] at terminal
      cases terminal
    rw [none]
    cases started
    rfl
  · exact fun task _ => pending task.id
  · exact fun halted => absurd halted active

/-- A fresh run of a plan without repeated task ids, all of whose steps meet
the settling conditions, ends with every task settled and counted. -/
theorem fresh_run_settles (plan : OrchestrationPlan) (config : RunnerConfig)
    (env : RunEnv) (distinct : DistinctTaskIds plan) (shared : RunnerShared)
    (choices : List WaveChoice) (machine : Machine)
    (started : Machine.start plan none shared = .ok machine)
    (settling : StepsMeet (Machine.step plan config env)
      (SettlingStep plan config env) machine (schedule choices machine)) :
    OutcomeSettled plan (machine.run plan config env choices).runner.state
      (machine.run plan config env choices).runner.metrics := by
  have final : SettlingRun plan config env (machine.run plan config env choices) :=
    invariant_of_steps_meet (Machine.step plan config env) (fun state input run meets =>
        step_settling_run env distinct state input run meets)
      machine _ (fresh_settling_run env started) settling
  have halted := run_halts plan config env machine choices (start_coherent started)
  generalize machine.run plan config env choices = final_ at final halted
  obtain ⟨progress, counted, idle⟩ := final
  have settled : final_.runner.state.status = .completed →
      ∀ task ∈ plan.pipeline.allTasks, Settled final_.runner.state task := by
    have ahead := progress.ahead
    unfold Ahead at ahead
    rw [halted] at ahead
    exact ahead
  constructor
  · intro completed task listed
    exact (settled completed task listed).1
  · intro _
    exact idle halted
  · intro completed
    have all : plan.pipeline.allTasks.countP (terminalIn final_.runner.state) =
        plan.pipeline.allTasks.length := by
      apply List.countP_eq_length.mpr
      intro task listed
      exact (settled completed task listed).1
    rw [counted.counts.counters, all, counted.counts.total]

/-- The second task of the parallel stage waits for one that fails. -/
def blockedPlan : OrchestrationPlan where
  id := "plan-1"
  pipeline :=
    { id := "pipe-1"
      stages :=
        [{ id := "s1"
           mode := .parallel
           tasks := [{ id := "a", onFailure := .skip }, { id := "b", dependencies := ["a"] }] }] }

def failingEnv : RunEnv where
  evaluateCondition := fun _ _ => .ok true
  outcome := fun _ => .returned { status := .failed, error := some "boom" }
  now := fun attempt => attempt
  checkpointFault := fun _ => .none

/-- The run completes while a task that can no longer start is pending. -/
theorem blocked_task_left_pending : ∃ result after,
      runPipeline blockedPlan {} failingEnv [] none {} = .ok (result, after) ∧
        ¬OutcomeSettled blockedPlan result.state result.metrics := by
  refine ⟨_, _, rfl, ?_⟩
  intro settled
  have terminal := settled.terminal (by decide)
    { id := "b", dependencies := ["a"] } (by simp [blockedPlan, Pipeline.allTasks])
  revert terminal
  decide

/-- A plan without parallel stages. -/
def SequentialOnly (stages : List PipelineStage) : Prop :=
  ∀ stage ∈ stages, stage.mode ≠ .parallel

def OutsideParallel (machine : Machine) : Prop :=
  match machine.control with
  | .stages remaining => SequentialOnly remaining
  | .sequential _ _ _ rest => SequentialOnly rest
  | .waves _ _ _ | .wave _ _ _ _ _ => False
  | .halted => True

theorem step_outside_parallel (machine : Machine) (choice : WaveChoice)
    (outside : OutsideParallel machine) :
    OutsideParallel (machine.step plan config env choice) := by
  have stepped := step_cases plan config env machine choice
  generalize machine.step plan config env choice = next at stepped ⊢
  cases stepped with
  | halted runner => trivial
  | completed runner =>
    unfold OutsideParallel
    rw [complete_run_control]
    trivial
  | entered stage rest runner next entry =>
    have later : SequentialOnly rest :=
      fun other member => outside other (List.mem_cons_of_mem _ member)
    cases entry with
    | rejected error => trivial
    | closed graph built gate => exact later
    | parallel graph built gate mode workers =>
      exact absurd mode (outside stage List.mem_cons_self)
    | sequential graph built gate mode => exact later
  | ended graph index rest runner => exact outside
  | visited graph index task tasks rest runner next moved =>
    cases moved <;> first | exact outside | trivial
  | exhausted graph stage rest runner idle => exact outside.elim
  | submitted graph stage rest runner due => exact outside.elim
  | pooled graph stage rest ready pool runner next moved => exact outside.elim

/-- Without parallel stages, and with an executor that raises nothing of its
own, every step meets the settling conditions. -/
theorem sequential_steps_settle {machine : Machine} (choices : List WaveChoice)
    (outside : OutsideParallel machine)
    (returns : ∀ taskId error, env.outcome taskId ≠ .raised error) :
    StepsMeet (Machine.step plan config env) (SettlingStep plan config env)
      machine choices := by
  apply steps_meet_of_invariant (Machine.step plan config env) OutsideParallel
    (step_outside_parallel env) _ machine choices outside
  intro state choice outside
  unfold OutsideParallel at outside
  constructor
  · intro stage rest graph control mode
    rw [control] at outside
    exact absurd mode (outside stage List.mem_cons_self)
  · intro graph index task tasks rest _ _ _
    exact returns task.id
  · intro graph stage rest ready pool index task result control
    rw [control] at outside
    exact outside.elim

/-- A sequential stage whose second task depends on its first. -/
def chainedPlan : OrchestrationPlan where
  id := "plan-1"
  pipeline :=
    { id := "pipe-1"
      stages :=
        [{ id := "s1"
           tasks := [{ id := "a" }, { id := "b", dependencies := ["a"] }] }] }

theorem chained_plan_settles : ∃ machine, Machine.start chainedPlan none {} = .ok machine ∧
      OutcomeSettled chainedPlan (machine.run chainedPlan {} completingEnv []).runner.state
        (machine.run chainedPlan {} completingEnv []).runner.metrics := by
  obtain ⟨machine, started, _, controlEq, _⟩ := start_fresh chainedPlan {}
  refine ⟨machine, started, ?_⟩
  apply fresh_run_settles chainedPlan {} completingEnv (by
    unfold DistinctTaskIds
    decide) {} [] machine started
  apply sequential_steps_settle completingEnv
  · unfold OutsideParallel
    rw [controlEq]
    intro stage member
    rw [List.mem_singleton.mp member]
    decide
  · intro taskId error raised
    cases raised

end Runs

end AiEnterpriseOs.Orchestration
