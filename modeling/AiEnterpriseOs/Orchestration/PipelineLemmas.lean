import AiEnterpriseOs.Orchestration.Pipeline

/-!
# What each runner operation changes

Field lemmas of the runner's operations, and the exhaustive case lists of the
sequential step, the pool step and the stage entry.
-/

namespace AiEnterpriseOs.Orchestration

open Library

section Statuses

variable (runner : RunnerState) (taskId : String) (status : TaskStatus)

@[simp] theorem task_status_set_status (other : String) :
    (runner.setStatus taskId status).state.taskStatus other =
      if other = taskId then status else runner.state.taskStatus other := by
  simp only [RunnerState.setStatus, ExecutionState.taskStatus,
    OrderedDict.getD, OrderedDict.get_set]
  split <;> rfl

@[simp] theorem set_status_metrics :
    (runner.setStatus taskId status).metrics = runner.metrics := rfl

@[simp] theorem set_status_log : (runner.setStatus taskId status).log = runner.log := rfl

@[simp] theorem mark_skipped_status (other : String) :
    (markSkipped taskId runner).state.taskStatus other =
      if other = taskId then .skipped else runner.state.taskStatus other :=
  task_status_set_status runner taskId .skipped other

@[simp] theorem mark_skipped_log : (markSkipped taskId runner).log = runner.log := rfl

@[simp] theorem mark_skipped_stage_index :
    (markSkipped taskId runner).stageIndex = runner.stageIndex := rfl

@[simp] theorem mark_skipped_pipeline_status :
    (markSkipped taskId runner).state.status = runner.state.status := rfl

end Statuses

/-- An effect other than a dispatch or a wave submission. -/
def Effect.isBookkeeping : Effect → Prop
  | .executed _ _ => False
  | .submitted _ _ => False
  | _ => True

/-- The log grows by bookkeeping effects only. -/
def LogExtends (before after : RunnerState) : Prop :=
  ∃ effects, after.log = before.log ++ effects ∧ ∀ effect ∈ effects, effect.isBookkeeping

theorem LogExtends.refl (runner : RunnerState) : LogExtends runner runner :=
  ⟨[], by simp, by simp⟩

theorem LogExtends.trans {first second third : RunnerState}
    (early : LogExtends first second) (late : LogExtends second third) :
    LogExtends first third := by
  obtain ⟨effects, firstEq, firstKind⟩ := early
  obtain ⟨later, secondEq, secondKind⟩ := late
  refine ⟨effects ++ later, by rw [secondEq, firstEq, List.append_assoc], ?_⟩
  intro effect member
  rcases List.mem_append.mp member with old | new
  · exact firstKind effect old
  · exact secondKind effect new

theorem LogExtends.single {before after : RunnerState} {effect : Effect}
    (logEq : after.log = before.log ++ [effect]) (kind : effect.isBookkeeping) :
    LogExtends before after :=
  ⟨[effect], logEq, by simpa using kind⟩

theorem LogExtends.of_log_eq {before after : RunnerState}
    (logEq : after.log = before.log) : LogExtends before after :=
  ⟨[], by simpa using logEq, by simp⟩

section Runner

variable (plan : OrchestrationPlan) (config : RunnerConfig) (env : RunEnv)

theorem write_checkpoint_cases (runner : RunnerState) :
    writeCheckpoint plan config env runner = runner ∨
      (∃ manager, runner.checkpointManager.create plan runner.state
          runner.stageIndex runner.taskIndex
          (env.now runner.checkpointManager.nextId)
          (env.checkpointFault runner.checkpointManager.nextId) = (manager, none) ∧
        writeCheckpoint plan config env runner = { runner with checkpointManager := manager }) ∨
      ∃ manager checkpoint, runner.checkpointManager.create plan runner.state runner.stageIndex
          runner.taskIndex (env.now runner.checkpointManager.nextId)
          (env.checkpointFault runner.checkpointManager.nextId) = (manager, some checkpoint) ∧
        writeCheckpoint plan config env runner =
          { runner with
            checkpointManager := manager
            metrics := { runner.metrics with
              checkpointsCreated := runner.metrics.checkpointsCreated + 1 }
            log := runner.log ++ [.checkpointed checkpoint] } := by
  unfold writeCheckpoint
  split
  · generalize created : runner.checkpointManager.create plan runner.state
      runner.stageIndex runner.taskIndex
      (env.now runner.checkpointManager.nextId)
      (env.checkpointFault runner.checkpointManager.nextId) = outcome
    obtain ⟨manager, written⟩ := outcome
    cases written with
    | none => exact Or.inr (Or.inl ⟨manager, rfl, by simp only [created]⟩)
    | some checkpoint =>
      exact Or.inr (Or.inr ⟨manager, checkpoint, rfl, by simp only [created]⟩)
  · exact Or.inl rfl

@[simp] theorem write_checkpoint_state (runner : RunnerState) :
    (writeCheckpoint plan config env runner).state = runner.state := by
  rcases write_checkpoint_cases plan config env runner with
    same | ⟨_, _, same⟩ | ⟨_, _, _, same⟩ <;> rw [same]

@[simp] theorem write_checkpoint_stage_index (runner : RunnerState) :
    (writeCheckpoint plan config env runner).stageIndex = runner.stageIndex := by
  rcases write_checkpoint_cases plan config env runner with
    same | ⟨_, _, same⟩ | ⟨_, _, _, same⟩ <;> rw [same]

theorem write_checkpoint_log (runner : RunnerState) :
    LogExtends runner (writeCheckpoint plan config env runner) := by
  rcases write_checkpoint_cases plan config env runner with
    same | ⟨_, _, same⟩ | ⟨_, _, _, same⟩
  · rw [same]
    exact LogExtends.refl runner
  · rw [same]
    exact LogExtends.of_log_eq rfl
  · rw [same]
    exact LogExtends.single rfl trivial

theorem write_checkpoint_counters (runner : RunnerState) :
    let after := (writeCheckpoint plan config env runner).metrics
    after.tasksTotal = runner.metrics.tasksTotal ∧
      after.tasksCompleted = runner.metrics.tasksCompleted ∧
      after.tasksFailed = runner.metrics.tasksFailed ∧
      after.tasksSkipped = runner.metrics.tasksSkipped := by
  rcases write_checkpoint_cases plan config env runner with
    same | ⟨_, _, same⟩ | ⟨_, _, _, same⟩ <;> rw [same] <;> simp

theorem register_rollback_cases (task : PipelineTask) (runner : RunnerState) :
    registerRollback plan config task runner = runner ∨
      ∃ action, task.rollbackAction = some action ∧ registerRollback plan config task runner =
          { runner with
            rollbackManager := runner.rollbackManager.registerHandler task.id
              action task.rollbackParams
            log := runner.log ++ [.registered plan.id task.id] } := by
  unfold registerRollback
  split
  · exact Or.inl rfl
  next action declared =>
    split
    · exact Or.inr ⟨action, declared, rfl⟩
    · exact Or.inl rfl

/-- The runner after a merged result: the task's status is settled, one of
the three counters moved, and the log grew by bookkeeping only. -/
structure Applied (task : PipelineTask) (result : TaskResult)
    (before after : RunnerState) : Prop where
  status : ∀ other, after.state.taskStatus other =
    if other = task.id then result.status.taskStatus
    else before.state.taskStatus other
  pipelineStatus : after.state.status = before.state.status
  stageIndex : after.stageIndex = before.stageIndex
  total : after.metrics.tasksTotal = before.metrics.tasksTotal
  counters : after.metrics.tasksCompleted + after.metrics.tasksFailed + after.metrics.tasksSkipped =
      before.metrics.tasksCompleted + before.metrics.tasksFailed + before.metrics.tasksSkipped + 1
  log : LogExtends before after

theorem count_completed_applied (task : PipelineTask) (result : TaskResult)
    (runner : RunnerState) (completed : result.status = .completed) :
    Applied task result runner (countCompleted result
        (registerRollback plan config task (mergeOutput task result runner))) := by
  let merged := mergeOutput task result runner
  let registered := registerRollback plan config task merged
  have registeredFields : registered.state = merged.state ∧ registered.metrics = runner.metrics ∧
      registered.stageIndex = runner.stageIndex ∧
      LogExtends runner registered := by
    rcases register_rollback_cases plan config task merged with
      same | ⟨action, _, same⟩
    · have equal : registered = merged := same
      rw [equal]
      exact ⟨rfl, rfl, rfl, LogExtends.of_log_eq rfl⟩
    · have equal : registered = { merged with
          rollbackManager := merged.rollbackManager.registerHandler task.id
            action task.rollbackParams
          log := merged.log ++ [.registered plan.id task.id] } := same
      rw [equal]
      exact ⟨rfl, rfl, rfl, LogExtends.single rfl trivial⟩
  obtain ⟨stateEq, metricsEq, indexEq, logEq⟩ := registeredFields
  constructor
  · intro other
    change registered.state.taskStatus other = _
    rw [stateEq, completed]
    exact task_status_set_status runner task.id .completed other
  · change registered.state.status = _
    rw [stateEq]
    rfl
  · exact indexEq
  · change registered.metrics.tasksTotal = _
    rw [metricsEq]
  · change registered.metrics.tasksCompleted + 1 +
      registered.metrics.tasksFailed + registered.metrics.tasksSkipped = _
    rw [metricsEq]
    omega
  · exact logEq.trans (LogExtends.of_log_eq rfl)

theorem Applied.written {task : PipelineTask} {result : TaskResult}
    {before after : RunnerState} (applied : Applied task result before after) :
    Applied task result before (writeCheckpoint plan config env after) := by
  have counters := write_checkpoint_counters plan config env after
  obtain ⟨total, completedEq, failedEq, skippedEq⟩ := counters
  constructor
  · intro other
    rw [write_checkpoint_state]
    exact applied.status other
  · rw [write_checkpoint_state]
    exact applied.pipelineStatus
  · rw [write_checkpoint_stage_index]
    exact applied.stageIndex
  · rw [total]
    exact applied.total
  · rw [completedEq, failedEq, skippedEq]
    exact applied.counters
  · exact applied.log.trans (write_checkpoint_log plan config env after)

theorem apply_task_result_applied (task : PipelineTask) (result : TaskResult)
    (runner : RunnerState) :
    Applied task result runner (applyTaskResult plan config env task result runner) := by
  cases kind : result.status with
  | completed =>
    have counted := count_completed_applied plan config task result runner kind
    simp only [applyTaskResult, kind]
    split
    · exact counted.written plan config env
    · exact counted
  | failed =>
    have shape := task_status_set_status runner task.id .failed
    constructor
    · intro other
      rw [kind]
      simp only [applyTaskResult, kind]
      exact shape other
    · simp only [applyTaskResult, kind]
      rfl
    · simp only [applyTaskResult, kind]
      rfl
    · simp only [applyTaskResult, kind]
      rfl
    · simp only [applyTaskResult, kind, set_status_metrics]
      omega
    · apply LogExtends.of_log_eq
      simp only [applyTaskResult, kind]
      rfl
  | skipped =>
    constructor
    · intro other
      rw [kind]
      simp only [applyTaskResult, kind]
      exact mark_skipped_status runner task.id other
    · simp only [applyTaskResult, kind]
      rfl
    · simp only [applyTaskResult, kind]
      rfl
    · simp only [applyTaskResult, kind]
      rfl
    · simp only [applyTaskResult, kind, markSkipped]
      omega
    · apply LogExtends.of_log_eq
      simp only [applyTaskResult, kind]
      rfl

/-- A dispatch: the task was startable, is now running, and the executor call
is the only new effect. -/
structure Begun (task : PipelineTask) (before after : RunnerState) : Prop where
  startable : before.state.taskStatus task.id = .pending ∨ before.state.taskStatus task.id = .ready
  status : ∀ other, after.state.taskStatus other =
    if other = task.id then .running else before.state.taskStatus other
  pipelineStatus : after.state.status = before.state.status
  stageIndex : after.stageIndex = before.stageIndex
  metrics : after.metrics = before.metrics
  log : after.log = before.log ++ [.executed task after.state]

theorem run_task_begun {task : PipelineTask} {runner begun : RunnerState}
    (started : runTask task runner = .ok begun) : Begun task runner begun := by
  unfold runTask at started
  split at started
  · cases started
  next status moved =>
    obtain ⟨startable, statusEq⟩ := running_of_transition moved
    subst statusEq
    cases started
    exact ⟨startable, fun other => task_status_set_status runner task.id .running other,
      rfl, rfl, rfl, rfl⟩

theorem run_task_refused {task : PipelineTask} {runner : RunnerState}
    {error : String} (refused : runTask task runner = .error error) :
    runner.state.taskStatus task.id ≠ .pending := by
  intro pending
  simp [runTask, pending, transitionTask, taskTransitions] at refused

theorem end_stage_state (rest : List PipelineStage) (runner : RunnerState) :
    (endStage plan config env rest runner).runner.state = runner.state := by
  simp only [endStage]
  split
  · rw [write_checkpoint_state]
  · rfl

theorem end_stage_index (rest : List PipelineStage) (runner : RunnerState) :
    (endStage plan config env rest runner).runner.stageIndex = runner.stageIndex + 1 := by
  simp only [endStage]
  split
  · rw [write_checkpoint_stage_index]
  · rfl

theorem end_stage_log (rest : List PipelineStage) (runner : RunnerState) :
    LogExtends runner (endStage plan config env rest runner).runner := by
  simp only [endStage]
  split
  · have advanced : LogExtends runner { runner with stageIndex := runner.stageIndex + 1 } :=
      LogExtends.of_log_eq rfl
    exact advanced.trans (write_checkpoint_log plan config env _)
  · exact LogExtends.of_log_eq rfl

theorem end_stage_counters (rest : List PipelineStage) (runner : RunnerState) :
    let after := (endStage plan config env rest runner).runner.metrics
    after.tasksTotal = runner.metrics.tasksTotal ∧
      after.tasksCompleted = runner.metrics.tasksCompleted ∧
      after.tasksFailed = runner.metrics.tasksFailed ∧
      after.tasksSkipped = runner.metrics.tasksSkipped := by
  simp only [endStage]
  split
  · exact write_checkpoint_counters plan config env _
  · exact ⟨rfl, rfl, rfl, rfl⟩

/-- A sequential step leaves a task whose status settles it. -/
def KeepsTask (runner : RunnerState) (task : PipelineTask) : Prop :=
  runner.state.taskStatus task.id = .completed ∨ (runner.state.taskStatus task.id = .skipped ∨
      runner.state.taskStatus task.id = .cancelled) ∨
    runner.state.taskStatus task.id = .failed ∧ task.onFailure = .fail

inductive SequentialStep (graph : DependencyGraph) (index : Nat)
    (task : PipelineTask) (tasks : List PipelineTask)
    (rest : List PipelineStage) (runner : RunnerState) : Machine → Prop
  | kept (settled : KeepsTask runner task) : SequentialStep graph index task tasks rest runner
        ⟨.sequential graph (index + 1) tasks rest, runner⟩
  | skipped (unsettled : ¬KeepsTask runner task)
      (blocked : task.id ∉ graph.readyTasks (runner.state.tasksWith .completed)
        (runner.state.tasksWith .failed)) :
      SequentialStep graph index task tasks rest runner
        ⟨.sequential graph (index + 1) tasks rest, markSkipped task.id runner⟩
  | refused (unsettled : ¬KeepsTask runner task)
      (ready : task.id ∈ graph.readyTasks (runner.state.tasksWith .completed)
        (runner.state.tasksWith .failed))
      (error : String) (refusal : runTask task runner = .error error) :
      SequentialStep graph index task tasks rest runner (failRun plan error runner)
  | raised (unsettled : ¬KeepsTask runner task)
      (ready : task.id ∈ graph.readyTasks (runner.state.tasksWith .completed)
        (runner.state.tasksWith .failed))
      (begun : RunnerState) (started : runTask task runner = .ok begun)
      (error : String) (raises : (env.outcome task.id).result = .error error) :
      SequentialStep graph index task tasks rest runner (failRun plan error begun)
  | stopped (unsettled : ¬KeepsTask runner task)
      (ready : task.id ∈ graph.readyTasks (runner.state.tasksWith .completed)
        (runner.state.tasksWith .failed))
      (begun : RunnerState) (started : runTask task runner = .ok begun)
      (result : TaskResult) (returns : (env.outcome task.id).result = .ok result)
      (stops : stopsRun task result) :
      SequentialStep graph index task tasks rest runner
        (failRun plan (pipelineExecutionError plan task result) (writeCheckpoint plan config env
            (applyTaskResult plan config env task result begun)))
  | applied (unsettled : ¬KeepsTask runner task)
      (ready : task.id ∈ graph.readyTasks (runner.state.tasksWith .completed)
        (runner.state.tasksWith .failed))
      (begun : RunnerState) (started : runTask task runner = .ok begun)
      (result : TaskResult) (returns : (env.outcome task.id).result = .ok result)
      (continues : ¬stopsRun task result) :
      SequentialStep graph index task tasks rest runner ⟨.sequential graph (index + 1) tasks rest,
          applyTaskResult plan config env task result begun⟩

theorem execute_sequential_cases (graph : DependencyGraph) (index : Nat)
    (task : PipelineTask) (tasks : List PipelineTask)
    (rest : List PipelineStage) (runner : RunnerState) :
    SequentialStep plan config env graph index task tasks rest { runner with taskIndex := index }
      (executeSequential plan config env graph index task tasks rest runner) := by
  unfold executeSequential
  simp only
  split
  next completed => exact .kept (Or.inl completed)
  next notCompleted =>
    split
    next settled => exact .kept (Or.inr (Or.inl settled))
    next notSettled =>
      split
      next failed => exact .kept (Or.inr (Or.inr failed))
      next notFailed =>
        have unsettled : ¬KeepsTask { runner with taskIndex := index } task := by
          rintro (completed | settled | failed)
          · exact notCompleted completed
          · exact notSettled settled
          · exact notFailed failed
        split
        next blocked => exact .skipped unsettled blocked
        next notBlocked =>
          have ready := not_not.mp notBlocked
          split
          next error refusal => exact .refused unsettled ready error refusal
          next begun started =>
            split
            next error raises => exact .raised unsettled ready begun started error raises
            next result returns =>
              split
              next stops => exact .stopped unsettled ready begun started result returns stops
              next continues =>
                exact .applied unsettled ready begun started result returns continues

inductive WaveStep (graph : DependencyGraph) (stage : PipelineStage)
    (rest : List PipelineStage) (ready : List String) (pool : Pool)
    (runner : RunnerState) (choice : WaveChoice) : Machine → Prop
  | drained (empty : pool.isDone = true) :
      WaveStep graph stage rest ready pool runner choice ⟨.waves graph stage rest, runner⟩
  | begun (task : PipelineTask) (queued : List PipelineTask)
      (next : pool.queued = task :: queued) (begun : RunnerState)
      (started : runTask task runner = .ok begun) :
      WaveStep graph stage rest ready pool runner choice ⟨waveControl graph stage rest ready
          { pool with queued := queued, running := pool.running ++ [task] }, begun⟩
  | refused (task : PipelineTask) (queued : List PipelineTask)
      (next : pool.queued = task :: queued) (error : String)
      (refusal : runTask task runner = .error error) :
      WaveStep graph stage rest ready pool runner choice ⟨waveControl graph stage rest ready
          { pool with
            queued := queued
            finished := pool.finished ++ [(task, failedResult error)] }, runner⟩
  | finished (index : Nat) (task : PipelineTask) (inside : pool.running[index]? = some task) :
      WaveStep graph stage rest ready pool runner choice ⟨waveControl graph stage rest ready
          { pool with
            running := pool.running.eraseIdx index
            finished := pool.finished ++ [(task, resultOf env task)] }, runner⟩
  | yielded (index : Nat) (task : PipelineTask) (result : TaskResult)
      (inside : pool.finished[index]? = some (task, result))
      (continues : ¬stopsRun task result) :
      WaveStep graph stage rest ready pool runner choice ⟨waveControl graph stage rest ready
          { pool with finished := pool.finished.eraseIdx index },
          applyTaskResult plan config env task result runner⟩
  | stopped (index : Nat) (task : PipelineTask) (result : TaskResult)
      (chosen : pool.effective config choice = .yield index)
      (inside : pool.finished[index]? = some (task, result))
      (stops : stopsRun task result) :
      WaveStep graph stage rest ready pool runner choice
        (failRun plan (pipelineExecutionError plan task result)
          (applyTaskResult plan config env task result runner))

theorem execute_wave_cases (graph : DependencyGraph) (stage : PipelineStage)
    (rest : List PipelineStage) (ready : List String) (pool : Pool)
    (runner : RunnerState) (choice : WaveChoice) :
    WaveStep plan config env graph stage rest ready pool runner choice
      (executeWave plan config env graph stage rest ready pool runner choice) := by
  have possible : pool.enabled config (pool.effective config choice) = true ∨
      pool.effective config choice = .begin ∧ pool.running = [] ∧ pool.finished = [] := by
    unfold Pool.effective
    split
    next enabled => exact Or.inl enabled
    next blocked =>
      cases finishedEq : pool.finished with
      | cons entry entries => simp [Pool.enabled, finishedEq]
      | nil =>
        cases runningEq : pool.running with
        | cons entry entries => simp [Pool.enabled, runningEq]
        | nil => simp
  unfold executeWave
  generalize effective : pool.effective config choice = move at possible
  cases move with
  | begin =>
    cases queuedEq : pool.queued with
    | nil =>
      have idle : pool.isDone = true := by
        rcases possible with enabled | ⟨_, runningEq, finishedEq⟩
        · simp [Pool.enabled, queuedEq] at enabled
        · simp [Pool.isDone, queuedEq, runningEq, finishedEq]
      simp only [poolBegin, queuedEq, waveControl, idle, if_true]
      exact .drained idle
    | cons task queued =>
      simp only [poolBegin, queuedEq]
      split
      next error refusal => exact .refused task queued queuedEq error refusal
      next begun started => exact .begun task queued queuedEq begun started
  | finish index =>
    rcases possible with enabled | ⟨impossible, _⟩
    · have bound : index < pool.running.length := by
        simpa [Pool.enabled] using enabled
      have inside := List.getElem?_eq_getElem bound
      simp only [poolFinish, inside]
      exact .finished index _ inside
    · cases impossible
  | yield index =>
    rcases possible with enabled | ⟨impossible, _⟩
    · have bound : index < pool.finished.length := by
        simpa [Pool.enabled] using enabled
      have inside := List.getElem?_eq_getElem bound
      simp only [inside]
      split
      next stops => exact .stopped index _ _ effective inside stops
      next continues => exact .yielded index _ _ inside continues
    · cases impossible

theorem skip_stage_status (stage : PipelineStage) (runner : RunnerState) (other : String) :
    (skipStage stage runner).state.taskStatus other =
      if other ∈ stage.tasks.map (fun task => task.id) ∧
          runner.state.taskStatus other = .pending then .skipped
      else runner.state.taskStatus other := by
  unfold skipStage
  induction stage.tasks generalizing runner with
  | nil => simp
  | cons task rest ih =>
    simp only [List.foldl_cons, List.map_cons, List.mem_cons]
    rw [ih]
    by_cases pending : runner.state.taskStatus task.id = .pending
    · rw [if_pos pending]
      by_cases same : other = task.id
      · subst same
        simp [pending]
      · simp [same]
    · rw [if_neg pending]
      by_cases same : other = task.id
      · subst same
        simp [pending]
      · simp [same]

theorem skip_stage_fields (stage : PipelineStage) (runner : RunnerState) :
    (skipStage stage runner).log = runner.log ∧
      (skipStage stage runner).stageIndex = runner.stageIndex ∧
      (skipStage stage runner).state.status = runner.state.status ∧
      (skipStage stage runner).metrics.tasksTotal = runner.metrics.tasksTotal := by
  unfold skipStage
  induction stage.tasks generalizing runner with
  | nil => exact ⟨rfl, rfl, rfl, rfl⟩
  | cons task rest ih =>
    simp only [List.foldl_cons]
    split
    · exact ih (markSkipped task.id runner)
    · exact ih runner

inductive StageEntry (stage : PipelineStage) (rest : List PipelineStage)
    (runner : RunnerState) : Machine → Prop
  | rejected (error : String) : StageEntry stage rest runner (failRun plan error runner)
  | closed (graph : DependencyGraph)
      (built : DependencyGraph.build plan.pipeline config.dependencies = .ok graph)
      (gate : gateOpen env stage runner.state = .ok false) :
      StageEntry stage rest runner (endStage plan config env rest (skipStage stage runner))
  | parallel (graph : DependencyGraph)
      (built : DependencyGraph.build plan.pipeline config.dependencies = .ok graph)
      (gate : gateOpen env stage runner.state = .ok true)
      (mode : stage.mode = .parallel) (workers : 0 < maxWorkersOf config) :
      StageEntry stage rest runner ⟨.waves graph stage rest, runner⟩
  | sequential (graph : DependencyGraph)
      (built : DependencyGraph.build plan.pipeline config.dependencies = .ok graph)
      (gate : gateOpen env stage runner.state = .ok true)
      (mode : stage.mode ≠ .parallel) :
      StageEntry stage rest runner ⟨.sequential graph 0 stage.tasks rest, runner⟩

theorem execute_stage_cases (stage : PipelineStage) (rest : List PipelineStage)
    (runner : RunnerState) :
    StageEntry plan config env stage rest runner
      (executeStage plan config env stage rest runner) := by
  unfold executeStage
  split
  next error refused => exact .rejected error.text
  next graph built =>
    split
    next error raised => exact .rejected error
    next gate => exact .closed graph built gate
    next gate =>
      split
      next mode =>
        split
        next none => exact .rejected _
        next workers => exact .parallel graph built gate mode (not_le.mp workers)
      next mode => exact .sequential graph built gate mode

theorem complete_run_control (runner : RunnerState) :
    (completeRun plan runner).control = .halted := by
  unfold completeRun
  split <;> rfl

/-- What a step does, by the control of the machine. -/
inductive Stepped (choice : WaveChoice) : Machine → Machine → Prop
  | halted (runner : RunnerState) : Stepped choice ⟨.halted, runner⟩ ⟨.halted, runner⟩
  | completed (runner : RunnerState) : Stepped choice ⟨.stages [], runner⟩ (completeRun plan runner)
  | entered (stage : PipelineStage) (rest : List PipelineStage) (runner : RunnerState)
      (after : Machine) (entry : StageEntry plan config env stage rest runner after) :
      Stepped choice ⟨.stages (stage :: rest), runner⟩ after
  | ended (graph : DependencyGraph) (index : Nat) (rest : List PipelineStage)
      (runner : RunnerState) :
      Stepped choice ⟨.sequential graph index [] rest, runner⟩
        (endStage plan config env rest runner)
  | visited (graph : DependencyGraph) (index : Nat) (task : PipelineTask)
      (tasks : List PipelineTask) (rest : List PipelineStage) (runner : RunnerState)
      (after : Machine)
      (moved : SequentialStep plan config env graph index task tasks rest
        { runner with taskIndex := index } after) :
      Stepped choice ⟨.sequential graph index (task :: tasks) rest, runner⟩ after
  | exhausted (graph : DependencyGraph) (stage : PipelineStage) (rest : List PipelineStage)
      (runner : RunnerState) (idle : waveReady graph stage runner = []) :
      Stepped choice ⟨.waves graph stage rest, runner⟩ (endStage plan config env rest runner)
  | submitted (graph : DependencyGraph) (stage : PipelineStage) (rest : List PipelineStage)
      (runner : RunnerState) (due : waveReady graph stage runner ≠ []) :
      Stepped choice ⟨.waves graph stage rest, runner⟩
        ⟨.wave graph stage rest (waveReady graph stage runner)
            { queued := stage.tasks.filter fun task =>
                task.id ∈ waveReady graph stage runner },
          runner.record (.submitted runner.stageIndex (waveReady graph stage runner))⟩
  | pooled (graph : DependencyGraph) (stage : PipelineStage) (rest : List PipelineStage)
      (ready : List String) (pool : Pool) (runner : RunnerState) (after : Machine)
      (moved : WaveStep plan config env graph stage rest ready pool runner choice after) :
      Stepped choice ⟨.wave graph stage rest ready pool, runner⟩ after

theorem step_cases (machine : Machine) (choice : WaveChoice) :
    Stepped plan config env choice machine (machine.step plan config env choice) := by
  obtain ⟨control, runner⟩ := machine
  cases control with
  | halted => exact .halted runner
  | stages remaining =>
    cases remaining with
    | nil => exact .completed runner
    | cons stage rest =>
      exact .entered stage rest runner _ (execute_stage_cases plan config env stage rest runner)
  | sequential graph index tasks rest =>
    cases tasks with
    | nil => exact .ended graph index rest runner
    | cons task tasks =>
      exact .visited graph index task tasks rest runner _
        (execute_sequential_cases plan config env graph index task tasks rest runner)
  | waves graph stage rest =>
    simp only [Machine.step, executeParallel]
    split
    next idle => exact .exhausted graph stage rest runner idle
    next due => exact .submitted graph stage rest runner due
  | wave graph stage rest ready pool =>
    exact .pooled graph stage rest ready pool runner _
      (execute_wave_cases plan config env graph stage rest ready pool runner choice)

end Runner

end AiEnterpriseOs.Orchestration
