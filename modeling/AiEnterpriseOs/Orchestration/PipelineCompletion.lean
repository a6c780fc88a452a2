import AiEnterpriseOs.Orchestration.PipelineSafety

/-!
# Where completed tasks come from

A run, fresh or resumed, leaves alone every task that was completed when it
started and dispatches every task that it completes.
-/

namespace AiEnterpriseOs.Orchestration

open Library

/-- The completed tasks of a run that started in `origin` and made `calls`. -/
structure Completions (origin : ExecutionState) (calls : List Effect)
    (state : ExecutionState) : Prop where
  earned : ∀ taskId, state.taskStatus taskId = .completed →
    origin.taskStatus taskId = .completed ∨ taskId ∈ dispatchedIds calls
  kept : ∀ taskId, origin.taskStatus taskId = .completed →
    state.taskStatus taskId = .completed ∧ taskId ∉ dispatchedIds calls

section Operations

variable {origin : ExecutionState} {calls : List Effect}

theorem no_dispatch {effects : List Effect}
    (bookkeeping : ∀ effect ∈ effects, effect.isBookkeeping) :
    dispatchedIds effects = [] := by
  apply List.filterMap_eq_nil_iff.mpr
  intro effect member
  have kind := bookkeeping effect member
  cases effect <;> first | rfl | exact kind.elim

theorem Completions.extend {effects : List Effect}
    {before after : ExecutionState} (completions : Completions origin calls before)
    (silent : dispatchedIds effects = [])
    (same : ∀ taskId, after.taskStatus taskId = .completed ↔
      before.taskStatus taskId = .completed) :
    Completions origin (calls ++ effects) after := by
  have ids : dispatchedIds (calls ++ effects) = dispatchedIds calls := by
    rw [dispatched_ids_append, silent, List.append_nil]
  constructor
  · intro taskId completed
    rw [ids]
    exact completions.earned taskId ((same taskId).mp completed)
  · intro taskId completed
    have old := completions.kept taskId completed
    rw [ids]
    exact ⟨(same taskId).mpr old.1, old.2⟩

theorem Completions.congr_origin {other : ExecutionState}
    {state : ExecutionState} (completions : Completions origin calls state)
    (same : ∀ taskId, other.taskStatus taskId = .completed ↔
      origin.taskStatus taskId = .completed) :
    Completions other calls state := by
  constructor
  · intro taskId completed
    rw [same]
    exact completions.earned taskId completed
  · intro taskId completed
    exact completions.kept taskId ((same taskId).mp completed)

theorem Completions.startable {state : ExecutionState} {taskId : String}
    (completions : Completions origin calls state)
    (startable : state.taskStatus taskId = .pending ∨ state.taskStatus taskId = .ready) :
    origin.taskStatus taskId ≠ .completed := by
  intro completed
  have kept := (completions.kept taskId completed).1
  rw [kept] at startable
  rcases startable with pending | ready
  · cases pending
  · cases ready

theorem Completions.dispatch {task : PipelineTask} {before after : RunnerState}
    (completions : Completions origin calls before.state)
    (begun : Begun task before after) :
    Completions origin (calls ++ [.executed task after.state]) after.state := by
  have ids : dispatchedIds (calls ++ [.executed task after.state]) =
      dispatchedIds calls ++ [task.id] := dispatched_ids_append calls _
  have unstarted := completions.startable begun.startable
  constructor
  · intro taskId completed
    rw [begun.status] at completed
    split at completed
    · cases completed
    · rw [ids]
      rcases completions.earned taskId completed with old | dispatched
      · exact Or.inl old
      · exact Or.inr (List.mem_append_left _ dispatched)
  · intro taskId completed
    have old := completions.kept taskId completed
    have different : taskId ≠ task.id := by
      intro same
      rw [same] at completed
      exact unstarted completed
    rw [begun.status, if_neg different, ids]
    refine ⟨old.1, ?_⟩
    intro member
    rcases List.mem_append.mp member with early | here
    · exact old.2 early
    · exact different (List.mem_singleton.mp here)

theorem Completions.settle {task : PipelineTask} {result : TaskResult} {before after : RunnerState}
    (completions : Completions origin calls before.state)
    (applied : Applied task result before after)
    (unstarted : origin.taskStatus task.id ≠ .completed)
    (dispatched : result.status = .completed → task.id ∈ dispatchedIds calls) :
    Completions origin calls after.state := by
  constructor
  · intro taskId completed
    rw [applied.status] at completed
    split at completed
    next same =>
      right
      rw [same]
      apply dispatched
      cases status : result.status with
      | completed => rfl
      | failed =>
        rw [status] at completed
        cases completed
      | skipped =>
        rw [status] at completed
        cases completed
    next different => exact completions.earned taskId completed
  · intro taskId completed
    have old := completions.kept taskId completed
    have different : taskId ≠ task.id := by
      intro same
      rw [same] at completed
      exact unstarted completed
    rw [applied.status, if_neg different]
    exact old

theorem same_completed {before after : ExecutionState} {taskId : String}
    {status : TaskStatus} (open_ : before.taskStatus taskId ≠ .completed)
    (moved : status ≠ .completed)
    (statuses : ∀ other, after.taskStatus other =
      if other = taskId then status else before.taskStatus other) :
    ∀ other, after.taskStatus other = .completed ↔ before.taskStatus other = .completed := by
  intro other
  rw [statuses]
  split
  next same =>
    rw [same]
    constructor
    · intro completed
      exact absurd completed moved
    · intro completed
      exact absurd completed open_
  · exact Iff.rfl

end Operations

/-- Futures of a wave belong to tasks that were not completed at the start;
one that ran has been dispatched. -/
structure PoolEarned (origin : ExecutionState) (calls : List Effect) (pool : Pool) : Prop where
  queued : ∀ task ∈ pool.queued, origin.taskStatus task.id ≠ .completed
  running : ∀ task ∈ pool.running, origin.taskStatus task.id ≠ .completed ∧
    task.id ∈ dispatchedIds calls
  finished : ∀ task result, (task, result) ∈ pool.finished →
    origin.taskStatus task.id ≠ .completed ∧
      (result.status = .completed → task.id ∈ dispatchedIds calls)

theorem PoolEarned.extend {origin : ExecutionState} {calls : List Effect}
    {pool : Pool} (earned : PoolEarned origin calls pool)
    (effects : List Effect) : PoolEarned origin (calls ++ effects) pool := by
  have more : ∀ taskId ∈ dispatchedIds calls, taskId ∈ dispatchedIds (calls ++ effects) := by
    intro taskId member
    rw [dispatched_ids_append]
    exact List.mem_append_left _ member
  constructor
  · exact earned.queued
  · intro task member
    have old := earned.running task member
    exact ⟨old.1, more _ old.2⟩
  · intro task result member
    have old := earned.finished task result member
    exact ⟨old.1, fun completed => more _ (old.2 completed)⟩

theorem PoolEarned.dequeue {origin : ExecutionState} {calls : List Effect} {pool : Pool}
    {task : PipelineTask} {queued : List PipelineTask}
    (earned : PoolEarned origin calls pool) (next : pool.queued = task :: queued) :
    PoolEarned origin calls { pool with queued := queued } ∧
      origin.taskStatus task.id ≠ .completed := by
  have waiting : ∀ other ∈ task :: queued, origin.taskStatus other.id ≠ .completed := by
    rw [← next]
    exact earned.queued
  constructor
  · constructor
    · exact fun other member => waiting other (List.mem_cons_of_mem _ member)
    · exact earned.running
    · exact earned.finished
  · exact waiting task List.mem_cons_self

theorem PoolEarned.run {origin : ExecutionState} {calls : List Effect} {pool : Pool}
    {task : PipelineTask} (earned : PoolEarned origin calls pool)
    (unstarted : origin.taskStatus task.id ≠ .completed)
    (ran : task.id ∈ dispatchedIds calls) :
    PoolEarned origin calls { pool with running := pool.running ++ [task] } := by
  constructor
  · exact earned.queued
  · intro other member
    rcases List.mem_append.mp member with old | here
    · exact earned.running other old
    · rw [List.mem_singleton.mp here]
      exact ⟨unstarted, ran⟩
  · exact earned.finished

theorem PoolEarned.finish {origin : ExecutionState} {calls : List Effect} {pool : Pool}
    {task : PipelineTask} {result : TaskResult} (earned : PoolEarned origin calls pool)
    (unstarted : origin.taskStatus task.id ≠ .completed)
    (ran : result.status = .completed → task.id ∈ dispatchedIds calls) :
    PoolEarned origin calls { pool with finished := pool.finished ++ [(task, result)] } := by
  constructor
  · exact earned.queued
  · exact earned.running
  · intro other outcome member
    rcases List.mem_append.mp member with old | here
    · exact earned.finished other outcome old
    · cases List.mem_singleton.mp here
      exact ⟨unstarted, ran⟩

theorem PoolEarned.drop {origin : ExecutionState} {calls : List Effect} {pool : Pool}
    (earned : PoolEarned origin calls pool) (runningIndex finishedIndex : Nat) :
    PoolEarned origin calls { pool with running := pool.running.eraseIdx runningIndex } ∧
      PoolEarned origin calls { pool with finished := pool.finished.eraseIdx finishedIndex } := by
  constructor
  · constructor
    · exact earned.queued
    · exact fun other member => earned.running other (List.mem_of_mem_eraseIdx member)
    · exact earned.finished
  · constructor
    · exact earned.queued
    · exact earned.running
    · exact fun other outcome member =>
        earned.finished other outcome (List.mem_of_mem_eraseIdx member)

def Machine.PoolsEarned (machine : Machine) (origin : ExecutionState)
    (calls : List Effect) : Prop :=
  match machine.control with
  | .wave _ _ _ _ pool => PoolEarned origin calls pool
  | _ => True

/-- The invariant of a run that started in `origin` after the calls in
`prior`. -/
structure CompletionRun (origin : ExecutionState) (prior : List Effect)
    (machine : Machine) (calls : List Effect) : Prop where
  log : machine.runner.log = prior ++ calls
  completions : Completions origin calls machine.runner.state
  pools : machine.PoolsEarned origin calls

section Steps

variable (plan : OrchestrationPlan) (config : RunnerConfig) (env : RunEnv)
variable {origin : ExecutionState} {prior calls : List Effect}

theorem completion_extend {before : RunnerState} {after : Machine}
    (logEq : before.log = prior ++ calls)
    (completions : Completions origin calls before.state)
    (log : LogExtends before after.runner)
    (same : ∀ taskId, after.runner.state.taskStatus taskId = .completed ↔
      before.state.taskStatus taskId = .completed)
    (pools : ∀ effects, after.PoolsEarned origin (calls ++ effects)) :
    ∃ later, CompletionRun origin prior after later := by
  obtain ⟨effects, afterEq, bookkeeping⟩ := log
  refine ⟨calls ++ effects, ?_, ?_, pools effects⟩
  · rw [afterEq, logEq, List.append_assoc]
  · exact completions.extend (no_dispatch bookkeeping) same

theorem end_stage_completion (rest : List PipelineStage) {before runner : RunnerState}
    (logEq : before.log = prior ++ calls)
    (completions : Completions origin calls before.state)
    (log : LogExtends before runner)
    (same : ∀ taskId, runner.state.taskStatus taskId = .completed ↔
      before.state.taskStatus taskId = .completed) :
    ∃ later, CompletionRun origin prior (endStage plan config env rest runner)
      later := by
  apply completion_extend logEq completions
  · exact log.trans (end_stage_log plan config env rest runner)
  · intro taskId
    rw [end_stage_state]
    exact same taskId
  · intro effects
    trivial

theorem sequential_completion {graph : DependencyGraph} {index : Nat}
    {task : PipelineTask} {tasks : List PipelineTask}
    {rest : List PipelineStage} {runner : RunnerState} {after : Machine}
    (logEq : runner.log = prior ++ calls)
    (completions : Completions origin calls runner.state)
    (moved : SequentialStep plan config env graph index task tasks rest runner after) :
    ∃ later, CompletionRun origin prior after later := by
  have open_ : ¬KeepsTask runner task → runner.state.taskStatus task.id ≠ .completed :=
    fun unsettled completed => unsettled (Or.inl completed)
  have dispatched : ∀ begun, runTask task runner = .ok begun →
      begun.log = prior ++ (calls ++ [.executed task begun.state]) ∧
        Completions origin (calls ++ [.executed task begun.state]) begun.state ∧
        origin.taskStatus task.id ≠ .completed ∧
        task.id ∈ dispatchedIds (calls ++ [.executed task begun.state]) := by
    intro begun started
    have begin := run_task_begun started
    refine ⟨?_, completions.dispatch begin, completions.startable begin.startable, ?_⟩
    · rw [begin.log, logEq, List.append_assoc]
    · rw [dispatched_ids_append]
      exact List.mem_append_right _ List.mem_cons_self
  cases moved with
  | kept settled => exact ⟨calls, logEq, completions, trivial⟩
  | skipped unsettled blocked =>
    apply completion_extend logEq completions
    · exact LogExtends.of_log_eq rfl
    · exact same_completed (open_ unsettled) (by decide) (mark_skipped_status runner task.id)
    · intro effects
      trivial
  | refused unsettled ready error refusal =>
    apply completion_extend logEq completions (fail_run_log error runner)
    · exact fun taskId => Iff.rfl
    · intro effects
      trivial
  | raised unsettled ready begun started error raises =>
    obtain ⟨begunLog, earned, _, _⟩ := dispatched begun started
    apply completion_extend begunLog earned (fail_run_log error begun)
    · exact fun taskId => Iff.rfl
    · intro effects
      trivial
  | stopped unsettled ready begun started result returns stops =>
    obtain ⟨begunLog, earned, unstarted, member⟩ := dispatched begun started
    have applied := apply_task_result_applied plan config env task result begun
    have written := applied.written plan config env
    obtain ⟨effects, afterEq, bookkeeping⟩ := written.log
    have settled := earned.settle written unstarted fun _ => member
    have writtenLog : (writeCheckpoint plan config env
        (applyTaskResult plan config env task result begun)).log =
        prior ++ (calls ++ [.executed task begun.state] ++ effects) := by
      rw [afterEq, begunLog]
      simp only [List.append_assoc]
    apply completion_extend writtenLog
    · exact settled.extend (no_dispatch bookkeeping) fun taskId => Iff.rfl
    · exact fail_run_log _ _
    · exact fun taskId => Iff.rfl
    · intro later
      trivial
  | applied unsettled ready begun started result returns continues =>
    obtain ⟨begunLog, earned, unstarted, member⟩ := dispatched begun started
    have applied := apply_task_result_applied plan config env task result begun
    obtain ⟨effects, afterEq, bookkeeping⟩ := applied.log
    have settled := earned.settle applied unstarted fun _ => member
    refine ⟨calls ++ [.executed task begun.state] ++ effects, ?_, ?_, trivial⟩
    · rw [afterEq, begunLog]
      simp only [List.append_assoc]
    · exact settled.extend (no_dispatch bookkeeping) fun taskId => Iff.rfl

theorem wave_control_pools {graph : DependencyGraph} {stage : PipelineStage}
    {rest : List PipelineStage} {ready : List String} {pool : Pool}
    {runner : RunnerState} (earned : PoolEarned origin calls pool) :
    Machine.PoolsEarned ⟨waveControl graph stage rest ready pool, runner⟩ origin
      calls := by
  unfold waveControl
  split
  · trivial
  · exact earned

theorem wave_completion {graph : DependencyGraph} {stage : PipelineStage}
    {rest : List PipelineStage} {ready : List String} {pool : Pool}
    {runner : RunnerState} {choice : WaveChoice} {after : Machine}
    (logEq : runner.log = prior ++ calls)
    (completions : Completions origin calls runner.state)
    (earned : PoolEarned origin calls pool)
    (moved : WaveStep plan config env graph stage rest ready pool runner choice after) :
    ∃ later, CompletionRun origin prior after later := by
  cases moved with
  | drained empty => exact ⟨calls, logEq, completions, trivial⟩
  | begun task queued next begun started =>
    have begin := run_task_begun started
    have ran : task.id ∈ dispatchedIds (calls ++ [.executed task begun.state]) := by
      rw [dispatched_ids_append]
      exact List.mem_append_right _ List.mem_cons_self
    have extended := (earned.extend [.executed task begun.state]).dequeue next
    refine ⟨calls ++ [.executed task begun.state], ?_, completions.dispatch begin,
      wave_control_pools (extended.1.run extended.2 ran)⟩
    change begun.log = _
    rw [begin.log, logEq, List.append_assoc]
  | refused task queued next error refusal =>
    have waiting := earned.dequeue next
    refine ⟨calls, logEq, completions, wave_control_pools (waiting.1.finish waiting.2 ?_)⟩
    intro completed
    cases completed
  | finished index task inside =>
    have active := earned.running task (List.mem_of_getElem? inside)
    exact ⟨calls, logEq, completions,
      wave_control_pools ((earned.drop index 0).1.finish active.1 fun _ => active.2)⟩
  | yielded index task result inside continues =>
    have done := earned.finished task result (List.mem_of_getElem? inside)
    have applied := apply_task_result_applied plan config env task result runner
    obtain ⟨effects, afterEq, bookkeeping⟩ := applied.log
    have settled := completions.settle applied done.1 done.2
    refine ⟨calls ++ effects, ?_, ?_, wave_control_pools ((earned.extend effects).drop 0 index).2⟩
    · change (applyTaskResult plan config env task result runner).log = _
      rw [afterEq, logEq, List.append_assoc]
    · exact settled.extend (no_dispatch bookkeeping) fun taskId => Iff.rfl
  | stopped index task result chosen inside stops =>
    have done := earned.finished task result (List.mem_of_getElem? inside)
    have applied := apply_task_result_applied plan config env task result runner
    obtain ⟨effects, afterEq, bookkeeping⟩ := applied.log
    have settled := completions.settle applied done.1 done.2
    have appliedLog : (applyTaskResult plan config env task result runner).log =
        prior ++ (calls ++ effects) := by
      rw [afterEq, logEq, List.append_assoc]
    apply completion_extend appliedLog
    · exact settled.extend (no_dispatch bookkeeping) fun taskId => Iff.rfl
    · exact fail_run_log _ _
    · exact fun taskId => Iff.rfl
    · intro later
      trivial

theorem complete_run_completion {runner : RunnerState} (logEq : runner.log = prior ++ calls)
    (completions : Completions origin calls runner.state) :
    ∃ later, CompletionRun origin prior (completeRun plan runner) later := by
  unfold completeRun
  split
  next error refused =>
    apply completion_extend logEq completions (fail_run_log error runner)
    · exact fun taskId => Iff.rfl
    · intro effects
      trivial
  next status moved =>
    have log : LogExtends runner
        { runner with
          state := { runner.state with status := status }
          log := runner.log ++ [.runFinished plan.id status] } :=
      LogExtends.single rfl trivial
    apply completion_extend logEq completions log
    · exact fun taskId => Iff.rfl
    · intro effects
      trivial

theorem submit_completion {runner : RunnerState} (graph : DependencyGraph)
    (stage : PipelineStage) (rest : List PipelineStage)
    (logEq : runner.log = prior ++ calls)
    (completions : Completions origin calls runner.state) :
    CompletionRun origin prior ⟨.wave graph stage rest (waveReady graph stage runner)
          { queued := stage.tasks.filter fun task =>
              task.id ∈ waveReady graph stage runner },
        runner.record (.submitted runner.stageIndex (waveReady graph stage runner))⟩
      (calls ++ [.submitted runner.stageIndex (waveReady graph stage runner)]) := by
  refine ⟨?_, ?_, ?_⟩
  · rw [← List.append_assoc, ← logEq]
    rfl
  · exact completions.extend rfl fun taskId => Iff.rfl
  · constructor
    · intro task member
      have ready : task.id ∈ waveReady graph stage runner := by
        simpa using (List.mem_filter.mp member).2
      exact completions.startable (Or.inl (wave_ready_spec graph stage runner ready).2.1)
    · intro task member
      cases member
    · intro task result member
      cases member

theorem step_completion (machine : Machine) (choice : WaveChoice)
    (run : CompletionRun origin prior machine calls) :
    ∃ later, CompletionRun origin prior (machine.step plan config env choice)
      later := by
  obtain ⟨logEq, completions, pools⟩ := run
  have stepped := step_cases plan config env machine choice
  generalize machine.step plan config env choice = next at stepped ⊢
  cases stepped with
  | halted runner => exact ⟨calls, logEq, completions, trivial⟩
  | completed runner => exact complete_run_completion plan logEq completions
  | entered stage rest runner next entry =>
    cases entry with
    | rejected error =>
      apply completion_extend logEq completions (fail_run_log error runner)
      · exact fun taskId => Iff.rfl
      · intro effects
        trivial
    | closed graph built gate =>
      apply end_stage_completion plan config env rest logEq completions
      · exact LogExtends.of_log_eq (skip_stage_fields stage runner).1
      · intro taskId
        rw [skip_stage_status]
        split
        next skipped =>
          rw [skipped.2]
          decide
        · exact Iff.rfl
    | parallel graph built gate mode workers =>
      exact ⟨calls, logEq, completions, trivial⟩
    | sequential graph built gate mode =>
      exact ⟨calls, logEq, completions, trivial⟩
  | ended graph index rest runner =>
    exact end_stage_completion plan config env rest logEq completions
      (LogExtends.refl _) fun taskId => Iff.rfl
  | visited graph index task tasks rest runner next moved =>
    have started : ({ runner with taskIndex := index } : RunnerState).log = prior ++ calls := logEq
    exact sequential_completion plan config env started completions moved
  | exhausted graph stage rest runner idle =>
    exact end_stage_completion plan config env rest logEq completions
      (LogExtends.refl _) fun taskId => Iff.rfl
  | submitted graph stage rest runner due =>
    exact ⟨_, submit_completion graph stage rest logEq completions⟩
  | pooled graph stage rest ready pool runner next moved =>
    exact wave_completion plan config env logEq completions pools moved

theorem start_completion {checkpoint : Option Checkpoint} {shared : RunnerShared}
    {machine : Machine}
    (started : Machine.start plan checkpoint shared = .ok machine) :
    CompletionRun machine.runner.state
      (shared.log ++ [.runStarted plan.id checkpoint]) machine [] := by
  have shape : machine.runner.log = shared.log ++ [.runStarted plan.id checkpoint] ∧
      ∃ remaining, machine.control = .stages remaining := by
    unfold Machine.start at started
    cases checkpoint with
    | none =>
      cases started
      exact ⟨rfl, _, rfl⟩
    | some checkpoint =>
      simp only at started
      split at started
      · cases started
      · cases started
        exact ⟨rfl, _, rfl⟩
  obtain ⟨logEq, remaining, control⟩ := shape
  refine ⟨?_, ⟨fun _ => Or.inl, ?_⟩, ?_⟩
  · rw [logEq, List.append_nil]
  · intro taskId completed
    exact ⟨completed, List.not_mem_nil⟩
  · unfold Machine.PoolsEarned
    rw [control]
    trivial

theorem run_completion {checkpoint : Option Checkpoint} {shared : RunnerShared} {machine : Machine}
    (started : Machine.start plan checkpoint shared = .ok machine)
    (choices : List WaveChoice) :
    ∃ calls, CompletionRun machine.runner.state (shared.log ++ [.runStarted plan.id checkpoint])
      (machine.run plan config env choices) calls := by
  have preserved : ∀ state choice, (∃ calls, CompletionRun machine.runner.state
        (shared.log ++ [.runStarted plan.id checkpoint]) state calls) →
      ∃ calls, CompletionRun machine.runner.state (shared.log ++ [.runStarted plan.id checkpoint])
        (state.step plan config env choice) calls := by
    intro state choice reached
    obtain ⟨calls, run⟩ := reached
    exact step_completion plan config env state choice run
  exact invariant_of_steps (Machine.step plan config env) preserved machine _
    ⟨[], start_completion plan started⟩

end Steps

end AiEnterpriseOs.Orchestration
