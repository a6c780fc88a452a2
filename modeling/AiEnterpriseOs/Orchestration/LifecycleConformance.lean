import AiEnterpriseOs.Orchestration.PipelineResume

/-!
# Status changes of the runner

Every place where the runner writes a task's status, with the status that the
task has at that moment. Some writes go through the checked transition, one
with a status taken for granted, and some are plain assignments; they follow the
transition table unless a sequential stage takes up a failed task again or a
future is merged after another of the same task.
-/

namespace AiEnterpriseOs.Orchestration

open Library

structure StatusWrite where
  taskId : String
  current : TaskStatus
  status : TaskStatus
  deriving DecidableEq

/-- The write changes nothing, or the table allows the change. -/
def StatusWrite.Allowed (write : StatusWrite) : Prop :=
  write.status = write.current ∨ write.status ∈ taskTransitions write.current

instance (write : StatusWrite) : Decidable write.Allowed :=
  inferInstanceAs (Decidable (_ ∨ _))

def RunnerState.write (runner : RunnerState) (taskId : String) (status : TaskStatus) :
    StatusWrite where
  taskId := taskId
  current := runner.state.taskStatus taskId
  status := status

/-! ## Writes of a step -/

def runTaskWrites (task : PipelineTask) (runner : RunnerState) : List StatusWrite :=
  match transitionTask (runner.state.taskStatus task.id) .running with
  | .error _ => []
  | .ok status => [runner.write task.id status]

/-- `_apply_task_result`. -/
def applyWrites (task : PipelineTask) (result : TaskResult) (runner : RunnerState) :
    List StatusWrite :=
  [runner.write task.id result.status.taskStatus]

/-- The loop over the tasks of a stage whose condition is not met. -/
def skipWrites : List PipelineTask → RunnerState → List StatusWrite
  | [], _ => []
  | task :: rest, runner =>
    if runner.state.taskStatus task.id = .pending then
      runner.write task.id .skipped :: skipWrites rest (markSkipped task.id runner)
    else skipWrites rest runner

section Writes

variable (plan : OrchestrationPlan) (config : RunnerConfig) (env : RunEnv)

/-- An iteration of `_execute_sequential`. -/
def sequentialWrites (graph : DependencyGraph) (index : Nat) (task : PipelineTask)
    (started : RunnerState) : List StatusWrite :=
  let runner : RunnerState := { started with taskIndex := index }
  let status := runner.state.taskStatus task.id
  if status = .completed then []
  else if status = .skipped ∨ status = .cancelled then []
  else if status = .failed ∧ task.onFailure = .fail then []
  else if task.id ∉ graph.readyTasks (runner.state.tasksWith .completed)
      (runner.state.tasksWith .failed) then
    [runner.write task.id .skipped]
  else
    match runTask task runner with
    | .error _ => runTaskWrites task runner
    | .ok begun =>
      match (env.outcome task.id).result with
      | .error _ => runTaskWrites task runner
      | .ok result => runTaskWrites task runner ++ applyWrites task result begun

/-- A pool event of `_execute_parallel`. -/
def waveWrites (pool : Pool) (runner : RunnerState) (choice : WaveChoice) :
    List StatusWrite :=
  match pool.effective config choice with
  | .begin =>
    match pool.queued with
    | [] => []
    | task :: _ => runTaskWrites task runner
  | .finish _ => []
  | .yield index =>
    match pool.finished[index]? with
    | none => []
    | some (task, result) => applyWrites task result runner

/-- `_execute_stage` before its tasks. -/
def stageWrites (stage : PipelineStage) (runner : RunnerState) : List StatusWrite :=
  match DependencyGraph.build plan.pipeline config.dependencies with
  | .error _ => []
  | .ok _ =>
    match gateOpen env stage runner.state with
    | .ok false => skipWrites stage.tasks runner
    | _ => []

def Machine.writes (machine : Machine) (choice : WaveChoice) : List StatusWrite :=
  match machine.control with
  | .stages (stage :: _) => stageWrites plan config env stage machine.runner
  | .sequential graph index (task :: _) _ =>
    sequentialWrites env graph index task machine.runner
  | .wave _ _ _ _ pool => waveWrites config pool machine.runner choice
  | .stages [] | .sequential _ _ [] _ | .waves _ _ _ | .halted => []

def Machine.runWrites (machine : Machine) : List WaveChoice → List StatusWrite
  | [] => []
  | choice :: rest =>
    machine.writes plan config env choice ++
      Machine.runWrites (machine.step plan config env choice) rest

end Writes

/-! ## The writes are all changes -/

abbrev Statuses := OrderedDict String TaskStatus

/-- The writes, one after another, lead from the first statuses to the last. -/
inductive Leads : Statuses → List StatusWrite → Statuses → Prop
  | done (statuses : Statuses) : Leads statuses [] statuses
  | write {before after : Statuses} {write : StatusWrite} {rest : List StatusWrite}
      (current : before.getD write.taskId .pending = write.current)
      (later : Leads (before.set write.taskId write.status) rest after) :
      Leads before (write :: rest) after

theorem Leads.append {first second third : Statuses} {writes later : List StatusWrite}
    (early : Leads first writes second) (late : Leads second later third) :
    Leads first (writes ++ later) third := by
  induction early with
  | done statuses => exact late
  | write current _ ih => exact .write current (ih late)

theorem Leads.single {runner : RunnerState} {taskId : String} {status : TaskStatus}
    {after : Statuses} (moved : after = runner.state.taskStatuses.set taskId status) :
    Leads runner.state.taskStatuses [runner.write taskId status] after :=
  .write rfl (moved ▸ .done _)

section Account

variable (plan : OrchestrationPlan) (config : RunnerConfig) (env : RunEnv)

theorem apply_task_result_statuses (task : PipelineTask) (result : TaskResult)
    (runner : RunnerState) :
    (applyTaskResult plan config env task result runner).state.taskStatuses =
      runner.state.taskStatuses.set task.id result.status.taskStatus := by
  cases kind : result.status with
  | completed =>
    have registered : ∀ merged : RunnerState,
        (registerRollback plan config task merged).state = merged.state := by
      intro merged
      rcases register_rollback_cases plan config task merged with same | ⟨_, _, same⟩ <;>
        rw [same]
    simp only [applyTaskResult, kind]
    split
    · rw [write_checkpoint_state]
      simp only [countCompleted, registered]
      rfl
    · simp only [countCompleted, registered]
      rfl
  | failed =>
    simp only [applyTaskResult, kind]
    rfl
  | skipped =>
    simp only [applyTaskResult, kind]
    rfl

theorem leads_apply (task : PipelineTask) (result : TaskResult) (runner : RunnerState) :
    Leads runner.state.taskStatuses (applyWrites task result runner)
      (applyTaskResult plan config env task result runner).state.taskStatuses :=
  Leads.single (apply_task_result_statuses plan config env task result runner)

theorem leads_run_task {task : PipelineTask} {runner begun : RunnerState}
    (started : runTask task runner = .ok begun) :
    Leads runner.state.taskStatuses (runTaskWrites task runner) begun.state.taskStatuses := by
  rw [runTask] at started
  rw [runTaskWrites]
  cases moved : transitionTask (runner.state.taskStatus task.id) .running with
  | error error =>
    rw [moved] at started
    cases started
  | ok status =>
    rw [moved] at started
    cases started
    exact Leads.single rfl

theorem run_task_writes_refused {task : PipelineTask} {runner : RunnerState} {error : String}
    (refusal : runTask task runner = .error error) : runTaskWrites task runner = [] := by
  rw [runTask] at refusal
  rw [runTaskWrites]
  cases moved : transitionTask (runner.state.taskStatus task.id) .running with
  | error error => rfl
  | ok status =>
    rw [moved] at refusal
    cases refusal

theorem leads_skip (tasks : List PipelineTask) (runner : RunnerState) :
    Leads runner.state.taskStatuses (skipWrites tasks runner) (tasks.foldl (fun current task =>
        if current.state.taskStatus task.id = .pending then markSkipped task.id current
        else current) runner).state.taskStatuses := by
  induction tasks generalizing runner with
  | nil => exact .done _
  | cons task rest ih =>
    rw [skipWrites, List.foldl_cons]
    split
    · exact .write rfl (ih (markSkipped task.id runner))
    · exact ih runner

theorem leads_stage (stage : PipelineStage) (rest : List PipelineStage) (runner : RunnerState) :
    Leads runner.state.taskStatuses (stageWrites plan config env stage runner)
      (executeStage plan config env stage rest runner).runner.state.taskStatuses := by
  unfold stageWrites executeStage
  cases DependencyGraph.build plan.pipeline config.dependencies with
  | error error => exact .done _
  | ok graph =>
    dsimp only
    cases gateOpen env stage runner.state with
    | error error => exact .done _
    | ok isOpen =>
      cases isOpen with
      | false =>
        dsimp only
        rw [end_stage_state]
        exact leads_skip stage.tasks runner
      | true =>
        dsimp only
        split
        · split <;> exact .done _
        · exact .done _

theorem leads_sequential (graph : DependencyGraph) (index : Nat) (task : PipelineTask)
    (tasks : List PipelineTask) (rest : List PipelineStage) (runner : RunnerState) :
    Leads runner.state.taskStatuses (sequentialWrites env graph index task runner)
      (executeSequential plan config env graph index task tasks rest
        runner).runner.state.taskStatuses := by
  unfold sequentialWrites executeSequential
  dsimp only
  split
  · exact .done _
  · split
    · exact .done _
    · split
      · exact .done _
      · split
        · exact Leads.single rfl
        · cases started : runTask task { runner with taskIndex := index } with
          | error error =>
            rw [run_task_writes_refused started]
            exact .done _
          | ok begun =>
            have begins := leads_run_task started
            cases (env.outcome task.id).result with
            | error error => exact begins
            | ok result =>
              have both := begins.append (leads_apply plan config env task result begun)
              dsimp only
              split
              · change Leads _ _ (writeCheckpoint plan config env _).state.taskStatuses
                rw [write_checkpoint_state]
                exact both
              · exact both

theorem leads_wave (graph : DependencyGraph) (stage : PipelineStage) (rest : List PipelineStage)
    (ready : List String) (pool : Pool) (runner : RunnerState) (choice : WaveChoice) :
    Leads runner.state.taskStatuses (waveWrites config pool runner choice)
      (executeWave plan config env graph stage rest ready pool runner
        choice).runner.state.taskStatuses := by
  unfold waveWrites executeWave
  cases pool.effective config choice with
  | begin =>
    dsimp only
    cases queued : pool.queued with
    | nil =>
      simp only [poolBegin, queued]
      exact .done _
    | cons task queue =>
      simp only [poolBegin, queued]
      split
      next error refusal =>
        rw [run_task_writes_refused refusal]
        exact .done _
      next begun started => exact leads_run_task started
  | finish index => exact .done _
  | yield index =>
    dsimp only
    cases pool.finished[index]? with
    | none => exact .done _
    | some entry =>
      dsimp only
      split
      · exact leads_apply plan config env entry.1 entry.2 runner
      · exact leads_apply plan config env entry.1 entry.2 runner

theorem step_leads (machine : Machine) (choice : WaveChoice) :
    Leads machine.runner.state.taskStatuses (machine.writes plan config env choice)
      (machine.step plan config env choice).runner.state.taskStatuses := by
  obtain ⟨control, runner⟩ := machine
  cases control with
  | halted => exact .done _
  | stages remaining =>
    cases remaining with
    | nil =>
      change Leads _ [] (completeRun plan runner).runner.state.taskStatuses
      unfold completeRun
      split <;> exact .done _
    | cons stage rest => exact leads_stage plan config env stage rest runner
  | sequential graph index tasks rest =>
    cases tasks with
    | nil =>
      change Leads _ [] (endStage plan config env rest runner).runner.state.taskStatuses
      rw [end_stage_state]
      exact .done _
    | cons task tasks => exact leads_sequential plan config env graph index task tasks rest runner
  | waves graph stage rest =>
    change Leads _ [] (executeParallel plan config env graph stage rest
      runner).runner.state.taskStatuses
    unfold executeParallel
    dsimp only
    split
    · rw [end_stage_state]
      exact .done _
    · exact .done _
  | wave graph stage rest ready pool =>
    exact leads_wave plan config env graph stage rest ready pool runner choice

theorem run_leads (machine : Machine) (choices : List WaveChoice) :
    Leads machine.runner.state.taskStatuses (machine.runWrites plan config env choices)
      (runInputs (Machine.step plan config env) machine choices).runner.state.taskStatuses := by
  induction choices generalizing machine with
  | nil => exact .done _
  | cons choice rest ih =>
    exact (step_leads plan config env machine choice).append
      (ih (machine.step plan config env choice))

end Account

/-! ## Which steps keep to the table -/

/-- A sequential stage takes up a failed task whose failure stops no run. -/
def Machine.RetakesFailed (machine : Machine) : Prop :=
  match machine.control with
  | .sequential _ _ (task :: _) _ =>
    machine.runner.state.taskStatus task.id = .failed ∧ task.onFailure ≠ .fail
  | _ => False

/-- The future that is merged, if one is, has its task running, unless the task
has the merged status already. -/
def Machine.MergesRunning (config : RunnerConfig) (machine : Machine) (choice : WaveChoice) :
    Prop :=
  match machine.control with
  | .wave _ _ _ _ pool => ∀ index task result, pool.effective config choice = .yield index →
      pool.finished[index]? = some (task, result) →
        machine.runner.state.taskStatus task.id = .running ∨
          machine.runner.state.taskStatus task.id = result.status.taskStatus
  | _ => True

/-- The task is neither pending nor ready. -/
def Started (state : ExecutionState) (taskId : String) : Prop :=
  state.taskStatus taskId ≠ .pending ∧ state.taskStatus taskId ≠ .ready

/-- The futures in flight are of tasks that have been started. -/
def FlightStarted (machine : Machine) : Prop :=
  match machine.control with
  | .wave _ _ _ _ pool => ∀ task, pool.InFlight task → Started machine.runner.state task.id
  | _ => True

theorem run_task_allowed (task : PipelineTask) (runner : RunnerState) :
    ∀ write ∈ runTaskWrites task runner, write.Allowed := by
  unfold runTaskWrites
  split
  · exact List.forall_mem_nil _
  next status moved =>
    obtain ⟨allowed, same⟩ := transition_task_ok_iff.mp moved
    intro write member
    rw [List.mem_singleton.mp member, same]
    exact Or.inr allowed

theorem apply_allowed_iff {task : PipelineTask} {result : TaskResult} {runner : RunnerState}
    (started : Started runner.state task.id) :
    (∀ write ∈ applyWrites task result runner, write.Allowed) ↔
      runner.state.taskStatus task.id = .running ∨
        runner.state.taskStatus task.id = result.status.taskStatus := by
  obtain ⟨notPending, notReady⟩ := started
  rw [applyWrites, List.forall_mem_singleton, StatusWrite.Allowed, RunnerState.write]
  dsimp only
  generalize runner.state.taskStatus task.id = current at notPending notReady ⊢
  cases current with
  | pending => exact absurd rfl notPending
  | ready => exact absurd rfl notReady
  | running => cases result.status <;> decide
  | completed => cases result.status <;> decide
  | failed => cases result.status <;> decide
  | skipped => cases result.status <;> decide
  | cancelled => cases result.status <;> decide

theorem skip_allowed (tasks : List PipelineTask) (runner : RunnerState) :
    ∀ write ∈ skipWrites tasks runner, write.Allowed := by
  induction tasks generalizing runner with
  | nil => exact List.forall_mem_nil _
  | cons task rest ih =>
    rw [skipWrites]
    split
    next pending =>
      rw [List.forall_mem_cons]
      refine ⟨Or.inr ?_, ih (markSkipped task.id runner)⟩
      change TaskStatus.skipped ∈ taskTransitions (runner.state.taskStatus task.id)
      rw [pending]
      decide
    · exact ih runner

section Steps

variable (plan : OrchestrationPlan) (config : RunnerConfig) (env : RunEnv)

theorem stage_allowed (stage : PipelineStage) (runner : RunnerState) :
    ∀ write ∈ stageWrites plan config env stage runner, write.Allowed := by
  unfold stageWrites
  split
  · exact List.forall_mem_nil _
  · split
    · exact skip_allowed stage.tasks runner
    · exact List.forall_mem_nil _

/-- A failed task is never ready, so a sequential stage that takes it up skips it. -/
theorem sequential_allowed_iff (graph : DependencyGraph) (index : Nat) (task : PipelineTask)
    (runner : RunnerState) :
    (∀ write ∈ sequentialWrites env graph index task runner, write.Allowed) ↔
      ¬(runner.state.taskStatus task.id = .failed ∧ task.onFailure ≠ .fail) := by
  unfold sequentialWrites
  dsimp only
  split
  next completed =>
    rw [completed]
    exact iff_of_true (List.forall_mem_nil _) (by simp)
  next notCompleted =>
    split
    next settled =>
      apply iff_of_true (List.forall_mem_nil _)
      rintro ⟨failed, _⟩
      rw [failed] at settled
      revert settled
      decide
    next notSettled =>
      split
      next final =>
        exact iff_of_true (List.forall_mem_nil _) fun again => again.2 final.2
      next notFinal =>
        split
        next blocked =>
          rw [List.forall_mem_singleton, StatusWrite.Allowed, RunnerState.write]
          dsimp only
          generalize runner.state.taskStatus task.id = current at *
          cases current with
          | completed => exact absurd rfl notCompleted
          | skipped => exact absurd (Or.inl rfl) notSettled
          | cancelled => exact absurd (Or.inr rfl) notSettled
          | failed =>
            apply iff_of_false (by decide)
            intro sound
            exact sound ⟨rfl, fun fails => notFinal ⟨rfl, fails⟩⟩
          | pending => exact iff_of_true (by decide) (by simp)
          | ready => exact iff_of_true (by decide) (by simp)
          | running => exact iff_of_true (by decide) (by simp)
        next notBlocked =>
          have ready := not_not.mp notBlocked
          have notFailed : runner.state.taskStatus task.id ≠ .failed := by
            intro failed
            obtain ⟨_, _, clear, _⟩ := (DependencyGraph.mem_ready_tasks _ _ _ _).mp ready
            exact clear ((runner.state.mem_tasks_with (by decide) task.id).mpr failed)
          apply iff_of_true _ fun again => notFailed again.1
          split
          · exact run_task_allowed task _
          next begun started =>
            split
            · exact run_task_allowed task _
            next result returns =>
              have running : begun.state.taskStatus task.id = .running := by
                rw [(run_task_begun started).status, if_pos rfl]
              have started : Started begun.state task.id := by
                rw [Started, running]
                decide
              rw [List.forall_mem_append]
              exact ⟨run_task_allowed task _, (apply_allowed_iff started).mpr (Or.inl running)⟩

theorem wave_allowed_iff {pool : Pool} {runner : RunnerState}
    (flight : ∀ task, pool.InFlight task → Started runner.state task.id) (choice : WaveChoice) :
    (∀ write ∈ waveWrites config pool runner choice, write.Allowed) ↔
      ∀ index task result, pool.effective config choice = .yield index →
        pool.finished[index]? = some (task, result) → runner.state.taskStatus task.id = .running ∨
            runner.state.taskStatus task.id = result.status.taskStatus := by
  unfold waveWrites
  cases pool.effective config choice with
  | begin =>
    apply iff_of_true
    · cases pool.queued with
      | nil => exact List.forall_mem_nil _
      | cons task queued => exact run_task_allowed task runner
    · intro index task result chosen
      cases chosen
  | finish index =>
    apply iff_of_true (List.forall_mem_nil _)
    intro index task result chosen
    cases chosen
  | yield index =>
    dsimp only
    cases inside : pool.finished[index]? with
    | none =>
      apply iff_of_true (List.forall_mem_nil _)
      intro other task result chosen found
      cases chosen
      rw [inside] at found
      cases found
    | some entry =>
      have started := flight entry.1 (Or.inr ⟨entry.2, List.mem_of_getElem? inside⟩)
      dsimp only
      rw [apply_allowed_iff started]
      constructor
      · intro merges other task result chosen found
        cases chosen
        rw [inside] at found
        cases found
        exact merges
      · intro merges
        exact merges index entry.1 entry.2 rfl inside

theorem step_allowed_iff {machine : Machine} (flight : FlightStarted machine)
    (choice : WaveChoice) :
    (∀ write ∈ machine.writes plan config env choice, write.Allowed) ↔
      ¬machine.RetakesFailed ∧ machine.MergesRunning config choice := by
  obtain ⟨control, runner⟩ := machine
  cases control with
  | halted => exact iff_of_true (List.forall_mem_nil _) ⟨not_false, trivial⟩
  | waves graph stage rest => exact iff_of_true (List.forall_mem_nil _) ⟨not_false, trivial⟩
  | stages remaining =>
    cases remaining with
    | nil => exact iff_of_true (List.forall_mem_nil _) ⟨not_false, trivial⟩
    | cons stage rest =>
      exact iff_of_true (stage_allowed plan config env stage runner) ⟨not_false, trivial⟩
  | sequential graph index tasks rest =>
    cases tasks with
    | nil => exact iff_of_true (List.forall_mem_nil _) ⟨not_false, trivial⟩
    | cons task tasks =>
      exact (sequential_allowed_iff env graph index task runner).trans (and_iff_left trivial).symm
  | wave graph stage rest ready pool =>
    exact (wave_allowed_iff config flight choice).trans (and_iff_right not_false).symm

end Steps

/-! ## Sequences of runs -/

section Sessions

variable (plan : OrchestrationPlan) (config : RunnerConfig)

structure RunnerStep where
  env : RunEnv
  machine : Machine
  choice : WaveChoice

def RunnerStep.writes (step : RunnerStep) : List StatusWrite :=
  step.machine.writes plan config step.env step.choice

/-- Runs of a plan one after another, with the steps taken so far and the calls
of the runs before the last. A run is fresh or resumes from a checkpoint that
one of the runs before has written, and may be broken off. Outcomes and
conditions may differ from run to run. -/
inductive Session : List RunnerStep → List Effect → RunEnv → Machine → Prop
  | first (env : RunEnv) (shared : RunnerShared) (machine : Machine)
      (started : Machine.start plan none { shared with log := [] } = .ok machine) :
      Session [] [] env machine
  | step {steps : List RunnerStep} {calls : List Effect} {env : RunEnv} {machine : Machine}
      (choice : WaveChoice) (sofar : Session steps calls env machine) :
      Session (steps ++ [⟨env, machine, choice⟩]) calls env (machine.step plan config env choice)
  | next {steps : List RunnerStep} {calls : List Effect} {earlierEnv : RunEnv}
      {earlier : Machine} (sofar : Session steps calls earlierEnv earlier)
      (checkpoint : Option Checkpoint)
      (written : ∀ known, checkpoint = some known →
        Effect.checkpointed known ∈ calls ++ earlier.runner.log)
      (env : RunEnv) (shared : RunnerShared) (machine : Machine)
      (started : Machine.start plan checkpoint { shared with log := [] } = .ok machine) :
      Session steps (calls ++ earlier.runner.log) env machine

variable {plan config}

theorem start_control {checkpoint : Option Checkpoint} {shared : RunnerShared} {machine : Machine}
    (started : Machine.start plan checkpoint shared = .ok machine) :
    ∃ remaining, machine.control = .stages remaining := by
  cases checkpoint with
  | none =>
    cases started
    exact ⟨_, rfl⟩
  | some checkpoint => exact ⟨_, (start_resumed started).1⟩

theorem start_flight {checkpoint : Option Checkpoint} {shared : RunnerShared} {machine : Machine}
    (started : Machine.start plan checkpoint shared = .ok machine) : FlightStarted machine := by
  obtain ⟨remaining, control⟩ := start_control started
  rw [FlightStarted, control]
  trivial

theorem wave_control_flight {graph : DependencyGraph} {stage : PipelineStage}
    {rest : List PipelineStage} {ready : List String} {pool : Pool} {runner : RunnerState}
    (flight : ∀ task, pool.InFlight task → Started runner.state task.id) :
    FlightStarted ⟨waveControl graph stage rest ready pool, runner⟩ := by
  unfold waveControl
  split
  · trivial
  · exact flight

theorem wave_step_flight (env : RunEnv) {graph : DependencyGraph} {stage : PipelineStage}
    {rest : List PipelineStage} {ready : List String} {pool : Pool} {runner : RunnerState}
    {choice : WaveChoice} {after : Machine}
    (flight : ∀ task, pool.InFlight task → Started runner.state task.id)
    (moved : WaveStep plan config env graph stage rest ready pool runner choice after) :
    FlightStarted after := by
  cases moved with
  | drained empty => trivial
  | begun task queued next begun started =>
    have start := run_task_begun started
    apply wave_control_flight
    intro other flying
    rcases flying with active | finished
    · rcases List.mem_append.mp active with old | fresh
      · exact start.advances.started (flight other (Or.inl old))
      · rw [List.mem_singleton.mp fresh, Started, start.status, if_pos rfl]
        decide
    · exact start.advances.started (flight other (Or.inr finished))
  | refused task queued next error refusal =>
    apply wave_control_flight
    intro other flying
    rcases flying with active | ⟨result, finished⟩
    · exact flight other (Or.inl active)
    · rcases List.mem_append.mp finished with old | fresh
      · exact flight other (Or.inr ⟨result, old⟩)
      · cases List.mem_singleton.mp fresh
        refine ⟨run_task_refused refusal, ?_⟩
        intro ready
        simp [runTask, ready, transitionTask, taskTransitions] at refusal
  | finished index task inside =>
    apply wave_control_flight
    intro other flying
    rcases flying with active | ⟨result, finished⟩
    · exact flight other (Or.inl (List.mem_of_mem_eraseIdx active))
    · rcases List.mem_append.mp finished with old | fresh
      · exact flight other (Or.inr ⟨result, old⟩)
      · cases List.mem_singleton.mp fresh
        exact flight task (Or.inl (List.mem_of_getElem? inside))
  | yielded index task result inside continues =>
    have applied := apply_task_result_applied plan config env task result runner
    apply wave_control_flight
    intro other flying
    apply applied.advances.started
    rcases flying with active | ⟨outcome, finished⟩
    · exact flight other (Or.inl active)
    · exact flight other (Or.inr ⟨outcome, List.mem_of_mem_eraseIdx finished⟩)
  | stopped index task result chosen inside stops => trivial

theorem step_flight (env : RunEnv) (machine : Machine) (choice : WaveChoice)
    (flight : FlightStarted machine) : FlightStarted (machine.step plan config env choice) := by
  have stepped := step_cases plan config env machine choice
  generalize machine.step plan config env choice = next at stepped ⊢
  cases stepped with
  | halted runner => trivial
  | completed runner =>
    unfold FlightStarted
    rw [complete_run_control]
    trivial
  | entered stage rest runner next entry => cases entry <;> trivial
  | ended graph index rest runner => trivial
  | visited graph index task tasks rest runner next moved => cases moved <;> trivial
  | exhausted graph stage rest runner idle => trivial
  | submitted graph stage rest runner due =>
    intro task flying
    exact absurd flying (empty_pool_idle task)
  | pooled graph stage rest ready pool runner next moved =>
    exact wave_step_flight env flight moved

theorem Session.flight {steps : List RunnerStep} {calls : List Effect} {env : RunEnv}
    {machine : Machine} (session : Session plan config steps calls env machine) :
    FlightStarted machine := by
  induction session with
  | first env shared machine started => exact start_flight started
  | step choice sofar ih => exact step_flight _ _ choice ih
  | next sofar checkpoint written env shared machine started ih => exact start_flight started

/-- In a sequence of fresh runs and resumes, every status is changed as the
transition table allows exactly if no sequential stage takes up a failed task
again, and every future is merged while its task is running. -/
theorem lifecycle_conforms_iff (plan : OrchestrationPlan) (config : RunnerConfig)
    (steps : List RunnerStep) (calls : List Effect) (env : RunEnv) (machine : Machine)
    (session : Session plan config steps calls env machine) :
    (∀ step ∈ steps, ∀ write ∈ step.writes plan config, write.Allowed) ↔
      ∀ step ∈ steps, ¬step.machine.RetakesFailed ∧
        step.machine.MergesRunning config step.choice := by
  induction session with
  | first env shared machine started =>
    exact iff_of_true (List.forall_mem_nil _) (List.forall_mem_nil _)
  | step choice sofar ih =>
    rw [List.forall_mem_append, List.forall_mem_append, ih, List.forall_mem_singleton,
      List.forall_mem_singleton]
    exact and_congr_right fun _ => step_allowed_iff plan config _ sofar.flight choice
  | next sofar checkpoint written env shared machine started ih => exact ih

/-- The futures of a wave are distinct tasks with the statuses their places give them. -/
def PoolSound (env : RunEnv) (machine : Machine) : Prop :=
  match machine.control with
  | .wave _ _ _ _ pool => PoolExact env pool machine.runner.state
  | _ => True

theorem wave_control_sound {env : RunEnv} {graph : DependencyGraph} {stage : PipelineStage}
    {rest : List PipelineStage} {ready : List String} {pool : Pool} {runner : RunnerState}
    (exact : PoolExact env pool runner.state) :
    PoolSound env ⟨waveControl graph stage rest ready pool, runner⟩ := by
  unfold waveControl
  split
  · trivial
  · exact exact

theorem wave_step_sound (env : RunEnv) {graph : DependencyGraph} {stage : PipelineStage}
    {rest : List PipelineStage} {ready : List String} {pool : Pool} {runner : RunnerState}
    {choice : WaveChoice} {after : Machine} (exact : PoolExact env pool runner.state)
    (moved : WaveStep plan config env graph stage rest ready pool runner choice after) :
    PoolSound env after := by
  cases moved with
  | drained empty => trivial
  | begun task queued next begun started =>
    exact wave_control_sound (exact.begin next (run_task_begun started))
  | refused task queued next error refusal =>
    have waiting : task ∈ pool.queued := by
      rw [next]
      exact List.mem_cons_self
    exact absurd (exact.queued task waiting) (run_task_refused refusal)
  | finished index task inside => exact wave_control_sound (exact.finish inside)
  | yielded index task result inside continues =>
    exact wave_control_sound (exact.yield inside
      (apply_task_result_applied plan config env task result runner))
  | stopped index task result chosen inside stops => trivial

theorem step_sound (distinct : DistinctTaskIds plan) (env : RunEnv) (machine : Machine)
    (choice : WaveChoice) (coherent : Coherent plan config machine)
    (sound : PoolSound env machine) :
    PoolSound env (machine.step plan config env choice) := by
  have stepped := step_cases plan config env machine choice
  generalize machine.step plan config env choice = next at stepped ⊢
  cases stepped with
  | halted runner => trivial
  | completed runner =>
    unfold PoolSound
    rw [complete_run_control]
    trivial
  | entered stage rest runner next entry => cases entry <;> trivial
  | ended graph index rest runner => trivial
  | visited graph index task tasks rest runner next moved => cases moved <;> trivial
  | exhausted graph stage rest runner idle => trivial
  | submitted graph stage rest runner due =>
    exact submitted_pool_exact env distinct coherent.2
  | pooled graph stage rest ready pool runner next moved =>
    exact wave_step_sound env sound moved

theorem start_sound (env : RunEnv) {checkpoint : Option Checkpoint} {shared : RunnerShared}
    {machine : Machine} (started : Machine.start plan checkpoint shared = .ok machine) :
    Coherent plan config machine ∧ PoolSound env machine := by
  refine ⟨start_coherent started, ?_⟩
  obtain ⟨remaining, control⟩ := start_control started
  rw [PoolSound, control]
  trivial

theorem Session.sound (distinct : DistinctTaskIds plan) {steps : List RunnerStep}
    {calls : List Effect} {env : RunEnv} {machine : Machine}
    (session : Session plan config steps calls env machine) :
    Coherent plan config machine ∧ PoolSound env machine := by
  induction session with
  | first env shared machine started => exact start_sound env started
  | step choice sofar ih =>
    exact ⟨step_coherent _ _ choice ih.1, step_sound distinct _ _ choice ih.1 ih.2⟩
  | next sofar checkpoint written env shared machine started ih => exact start_sound env started

theorem PoolSound.merges_running {env : RunEnv} {machine : Machine}
    (sound : PoolSound env machine) (choice : WaveChoice) :
    machine.MergesRunning config choice := by
  obtain ⟨control, runner⟩ := machine
  cases control with
  | wave graph stage rest ready pool =>
    intro index task result _ inside
    have exact : PoolExact env pool runner.state := sound
    exact Or.inl (exact.flight task (Or.inr ⟨result, List.mem_of_getElem? inside⟩))
  | stages remaining => trivial
  | sequential graph index tasks rest => trivial
  | waves graph stage rest => trivial
  | halted => trivial

/-- Where the task ids are distinct, only a failed task taken up again breaks the table. -/
theorem distinct_conforms_iff (distinct : DistinctTaskIds plan) {steps : List RunnerStep}
    {calls : List Effect} {env : RunEnv} {machine : Machine}
    (session : Session plan config steps calls env machine) :
    (∀ step ∈ steps, ∀ write ∈ step.writes plan config, write.Allowed) ↔
      ∀ step ∈ steps, ¬step.machine.RetakesFailed := by
  induction session with
  | first env shared machine started =>
    exact iff_of_true (List.forall_mem_nil _) (List.forall_mem_nil _)
  | step choice sofar ih =>
    rw [List.forall_mem_append, List.forall_mem_append, ih, List.forall_mem_singleton,
      List.forall_mem_singleton]
    apply and_congr_right
    intro _
    exact (step_allowed_iff plan config _ sofar.flight choice).trans
      (and_iff_left ((sofar.sound distinct).2.merges_running choice))
  | next sofar checkpoint written env shared machine started ih => exact ih

theorem chained_session_keeps_table : ∃ (steps : List RunnerStep) (machine : Machine),
    Session chainedPlan {} steps [] completingEnv machine ∧ steps.length = 2 ∧
      ((∀ step ∈ steps, ∀ write ∈ step.writes chainedPlan {}, write.Allowed) ↔
        ∀ step ∈ steps, ¬step.machine.RetakesFailed) := by
  have begun : Session chainedPlan {} [] [] completingEnv _ :=
    Session.first completingEnv {} _ rfl
  have session := (begun.step .begin).step .begin
  exact ⟨_, _, session, rfl, distinct_conforms_iff (show List.Nodup _ by decide) session⟩

/-! ## A failure taken up again -/

theorem Session.runs {steps : List RunnerStep} {calls : List Effect} {env : RunEnv}
    {machine : Machine} (session : Session plan config steps calls env machine)
    (choices : List WaveChoice) :
    ∃ later, Session plan config (steps ++ later) calls env
      (runInputs (Machine.step plan config env) machine choices) := by
  induction choices generalizing steps machine with
  | nil => exact ⟨[], by rwa [List.append_nil]⟩
  | cons choice rest ih =>
    obtain ⟨later, further⟩ := ih (session.step choice)
    rw [List.append_assoc] at further
    exact ⟨_, further⟩

theorem chained_session_conforms_iff : ∃ (steps : List RunnerStep) (machine : Machine),
      Session chainedPlan {} steps [] completingEnv machine ∧ steps.length = 2 ∧
        ((∀ step ∈ steps, ∀ write ∈ step.writes chainedPlan {}, write.Allowed) ↔
          ∀ step ∈ steps, ¬step.machine.RetakesFailed ∧
            step.machine.MergesRunning {} step.choice) := by
  have begun : Session chainedPlan {} [] [] completingEnv _ :=
    Session.first completingEnv {} _ rfl
  have session := (begun.step .begin).step .begin
  exact ⟨_, _, session, rfl, lifecycle_conforms_iff chainedPlan {} _ _ _ _ session⟩

/-- A failure that stops no run, and then one that does. -/
def toleratedPlan : OrchestrationPlan where
  id := "plan-1"
  pipeline :=
    { id := "pipe-1"
      stages :=
        [{ id := "s1"
           tasks := [{ id := "a", onFailure := .skip }, { id := "b" }] }] }

/-- The run resumed from the checkpoint of the failed run skips the failed task. -/
theorem failed_task_skipped_by_resume :
    ¬∀ (steps : List RunnerStep) (calls : List Effect) (env : RunEnv) (machine : Machine),
      Session toleratedPlan {} steps calls env machine →
        ∀ step ∈ steps, ∀ write ∈ step.writes toleratedPlan {}, write.Allowed := by
  intro claim
  have begun : Session toleratedPlan {} [] [] failingEnv _ := Session.first failingEnv {} _ rfl
  obtain ⟨steps, failed⟩ := begun.runs (List.replicate 6 .begin)
  have resumed := failed.next (some _) (fun known same => by
    cases same
    exact List.mem_of_getElem? (i := 3) rfl) completingEnv {} _ rfl
  have taken := (resumed.step .begin).step .begin
  have allowed := claim _ _ _ _ taken _ (List.mem_append_right _ (List.mem_singleton_self _))
    ⟨"a", .failed, .skipped⟩ (by decide)
  revert allowed
  decide

end Sessions

end AiEnterpriseOs.Orchestration
