import AiEnterpriseOs.Orchestration.PipelineLedger
import AiEnterpriseOs.Orchestration.PipelineOutcome

/-!
# Chains of resumed runs

A chain starts with a fresh run of a plan; every later run resumes from a
checkpoint that an earlier run of the chain has written. No task is lost along
a chain whose parallel stages are entered with resolvable tasks only and whose
resumes start from checkpoints without running or finally failed tasks.
-/

namespace AiEnterpriseOs.Orchestration

open Library

section Chains

variable (plan : OrchestrationPlan) (config : RunnerConfig)

/-- The machines reached by a chain of runs of one plan whose steps and
resumes meet the given conditions. The log of each run starts empty; outcomes
and conditions may differ from run to run. -/
inductive ChainRun (stepMeets : RunEnv → Machine → Prop)
    (resumeMeets : Checkpoint → Prop) : RunEnv → Machine → Prop
  | fresh (env : RunEnv) (shared : RunnerShared) (machine : Machine)
      (started : Machine.start plan none { shared with log := [] } = .ok machine) :
      ChainRun stepMeets resumeMeets env machine
  | step {env : RunEnv} {machine : Machine} (choice : WaveChoice)
      (sofar : ChainRun stepMeets resumeMeets env machine)
      (meets : stepMeets env machine) :
      ChainRun stepMeets resumeMeets env (machine.step plan config env choice)
  | resumed {earlierEnv : RunEnv} {earlier : Machine} (checkpoint : Checkpoint)
      (sofar : ChainRun stepMeets resumeMeets earlierEnv earlier)
      (written : Effect.checkpointed checkpoint ∈ earlier.runner.log)
      (meets : resumeMeets checkpoint)
      (env : RunEnv) (shared : RunnerShared) (machine : Machine)
      (started : Machine.start plan (some checkpoint) { shared with log := [] } = .ok machine) :
      ChainRun stepMeets resumeMeets env machine

/-- No task of the checkpoint is running, and none has failed for good. -/
def ResumeClean (checkpoint : Checkpoint) : Prop :=
  ∀ task ∈ plan.pipeline.allTasks, Restartable checkpoint.state task

/-- The stages that a resume will not run again are settled. -/
def BehindSettled (checkpoint : Checkpoint) : Prop :=
  ∀ task ∈ tasksBefore plan checkpoint.stageIndex, Settled checkpoint.state task

structure ChainSound (env : RunEnv) (machine : Machine) : Prop where
  progress : Progress plan config env machine
  written : ∀ checkpoint, Effect.checkpointed checkpoint ∈ machine.runner.log →
    BehindSettled plan checkpoint

variable {plan config}

theorem start_resumed {checkpoint : Checkpoint} {shared : RunnerShared} {machine : Machine}
    (started : Machine.start plan (some checkpoint) shared = .ok machine) :
    machine.control = .stages (plan.pipeline.stages.drop checkpoint.stageIndex) ∧
      machine.runner.log = shared.log ++ [.runStarted plan.id (some checkpoint)] ∧
      machine.runner.stageIndex = checkpoint.stageIndex ∧
      machine.runner.state.status = .running ∧
      machine.runner.state.taskStatuses = checkpoint.state.taskStatuses := by
  unfold Machine.start at started
  simp only at started
  split at started
  · cases started
  next status restart =>
    have running : status = .running := by
      split at restart
      · exact (transition_pipeline_ok_iff.mp restart).2
      · cases restart
        rfl
    cases started
    exact ⟨rfl, rfl, rfl, running, rfl⟩

theorem resumed_progress (env : RunEnv) {checkpoint : Checkpoint}
    {shared : RunnerShared} {machine : Machine}
    (started : Machine.start plan (some checkpoint) shared = .ok machine)
    (behind : BehindSettled plan checkpoint)
    (clean : ResumeClean plan checkpoint) :
    Progress plan config env machine := by
  obtain ⟨controlEq, _, indexEq, running, statuses⟩ := start_resumed started
  have same : ∀ taskId, machine.runner.state.taskStatus taskId =
      checkpoint.state.taskStatus taskId := by
    intro taskId
    simp only [ExecutionState.taskStatus, statuses]
  constructor
  · exact start_coherent started
  · exact fun _ => running
  · intro task member
    rw [indexEq] at member
    exact (behind task member).congr (same task.id)
  · unfold Ahead
    rw [controlEq]
    intro task member
    apply (clean task _).congr (same task.id)
    rw [all_tasks_split machine.runner.stageIndex]
    exact List.mem_append_right _ member

theorem chain_sound (distinct : DistinctTaskIds plan) {env : RunEnv} {machine : Machine}
    (chain : ChainRun plan config (fun env machine => ResolvableEntry plan config env machine)
      (ResumeClean plan) env machine) :
    ChainSound plan config env machine := by
  induction chain with
  | fresh env shared machine started =>
    constructor
    · exact (fresh_settling_run env started).progress
    · obtain ⟨fresh, freshStart, logEq, _, _⟩ :=
        start_fresh plan { shared with log := [] }
      rw [started] at freshStart
      cases freshStart
      intro checkpoint member
      rw [logEq] at member
      cases List.mem_singleton.mp member
  | @step env machine choice sofar meets ih =>
    have progress := step_progress env distinct machine choice ih.progress meets
    constructor
    · exact progress
    · intro checkpoint member
      rcases step_snapshots plan config env machine choice checkpoint member with
        old | snapshot
      · exact ih.written checkpoint old
      · intro task inFront
        rw [snapshot.stageIndex] at inFront
        apply (progress.behind task inFront).congr
        simp only [ExecutionState.taskStatus, snapshot.statuses]
  | resumed checkpoint sofar written meets env shared machine started ih =>
    constructor
    · exact resumed_progress env started (ih.written checkpoint written) meets
    · obtain ⟨_, logEq, _⟩ := start_resumed started
      intro other member
      rw [logEq] at member
      cases List.mem_singleton.mp member

/-- No task that has failed for good, is pending or is in progress. -/
def NoTaskLost (plan : OrchestrationPlan) (state : ExecutionState) : Prop :=
  ∀ task ∈ plan.pipeline.allTasks, ¬(state.taskStatus task.id = .failed ∧ task.onFailure = .fail) ∧
      state.taskStatus task.id ≠ .pending ∧
      state.taskStatus task.id ≠ .ready ∧
      state.taskStatus task.id ≠ .running

/-- Along a chain whose steps and resumes meet the conditions, a pipeline
that ends completed has lost no task. -/
theorem chain_loses_no_task (plan : OrchestrationPlan) (config : RunnerConfig)
    (distinct : DistinctTaskIds plan) (env : RunEnv) (machine : Machine)
    (chain : ChainRun plan config (fun env machine => ResolvableEntry plan config env machine)
      (ResumeClean plan) env machine)
    (completed : machine.runner.state.status = .completed) :
    NoTaskLost plan machine.runner.state := by
  obtain ⟨progress, _⟩ := chain_sound distinct chain
  have halted : machine.control = .halted := by
    by_contra active
    have running := progress.active active
    rw [completed] at running
    cases running
  have ahead := progress.ahead
  unfold Ahead at ahead
  rw [halted] at ahead
  intro task listed
  obtain ⟨terminal, kept⟩ := ahead completed task listed
  refine ⟨kept, ?_, ?_, ?_⟩
  · intro pending
    rw [pending] at terminal
    cases terminal
  · intro ready
    rw [ready] at terminal
    cases terminal
  · intro running
    rw [running] at terminal
    cases terminal

theorem ChainRun.runs {stepMeets : RunEnv → Machine → Prop}
    {resumeMeets : Checkpoint → Prop} {env : RunEnv} {machine : Machine}
    (chain : ChainRun plan config stepMeets resumeMeets env machine)
    (choices : List WaveChoice)
    (meets : StepsMeet (Machine.step plan config env)
      (fun state _ => stepMeets env state) machine (schedule choices machine)) :
    ChainRun plan config stepMeets resumeMeets env (machine.run plan config env choices) :=
  invariant_of_steps_meet (Machine.step plan config env)
    (fun _ choice sofar holds => sofar.step choice holds) machine _ chain meets

/-- The outcomes of a run in which the second task fails. -/
def secondFailsEnv : RunEnv :=
  { completingEnv with
    outcome := fun taskId =>
      if taskId = "b" then failingEnv.outcome taskId
      else completingEnv.outcome taskId }

theorem chained_resume_loses_no_task : ∃ machine, ChainRun chainedPlan {}
        (fun env machine => ResolvableEntry chainedPlan {} env machine)
        (ResumeClean chainedPlan) completingEnv machine ∧
      machine.runner.state.status = .completed ∧
      NoTaskLost chainedPlan machine.runner.state := by
  have sequential : SequentialOnly chainedPlan.pipeline.stages := by
    intro stage member
    rw [List.mem_singleton.mp member]
    decide
  have settles : ∀ (env : RunEnv) (machine : Machine) (inputs : List WaveChoice),
      (∀ taskId error, env.outcome taskId ≠ .raised error) →
      machine.control = .stages chainedPlan.pipeline.stages →
      StepsMeet (Machine.step chainedPlan {} env)
        (fun state _ => ResolvableEntry chainedPlan {} env state) machine inputs := by
    intro env machine inputs returns controlEq
    apply StepsMeet.mono _ (fun _ _ settling => SettlingStep.resolvable settling)
    apply sequential_steps_settle env inputs _ returns
    unfold OutsideParallel
    rw [controlEq]
    exact sequential
  have failed := (ChainRun.fresh secondFailsEnv {} _ rfl : ChainRun chainedPlan {}
      (fun env machine => ResolvableEntry chainedPlan {} env machine)
      (ResumeClean chainedPlan) secondFailsEnv _).runs []
    (settles secondFailsEnv _ _ (by
      intro taskId error raised
      unfold secondFailsEnv failingEnv completingEnv at raised
      simp only at raised
      split at raised <;> cases raised) rfl)
  have clean : ∀ checkpoint, checkpoint.state.taskStatus "a" = .completed →
      checkpoint.state.taskStatus "b" = .pending →
      ResumeClean chainedPlan checkpoint := by
    intro checkpoint first second task member
    simp only [chainedPlan, Pipeline.allTasks, List.flatMap_cons,
      List.flatMap_nil, List.append_nil, List.mem_cons, List.not_mem_nil,
      or_false] at member
    rcases member with isFirst | isSecond
    · right
      rw [isFirst]
      unfold Settled
      rw [first]
      decide
    · left
      rw [isSecond]
      exact second
  have resumed := ChainRun.resumed _ failed (List.mem_of_getElem? (i := 2) rfl)
    (clean _ (by decide) (by decide)) completingEnv {} _ rfl
  have final := resumed.runs [] (settles completingEnv _ _ (by
    intro taskId error raised
    cases raised) rfl)
  refine ⟨_, final, by decide, ?_⟩
  exact chain_loses_no_task chainedPlan {} (by
    unfold DistinctTaskIds
    decide) completingEnv _ final (by decide)

/-- One sequential stage with one task. -/
def singleTaskPlan : OrchestrationPlan where
  id := "plan-1"
  pipeline :=
    { id := "pipe-1"
      stages := [{ id := "s1", tasks := [{ id := "a" }] }] }

/-- A failed run leaves a checkpoint that holds the failure; the run resumed
from it completes and leaves the failed task as it is. -/
theorem failed_task_lost_by_resume : ¬∀ env machine,
      ChainRun singleTaskPlan {} (fun _ _ => True) (fun _ => True) env machine →
      machine.runner.state.status = .completed →
      NoTaskLost singleTaskPlan machine.runner.state := by
  intro claim
  have always : ∀ (env : RunEnv) (machine : Machine) (inputs : List WaveChoice),
      StepsMeet (Machine.step singleTaskPlan {} env) (fun _ _ => True) machine
        inputs :=
    fun env machine inputs => steps_meet_of_invariant
      (Machine.step singleTaskPlan {} env) (fun _ => True)
      (fun _ _ _ => trivial) (fun _ _ _ => trivial) machine inputs trivial
  have failed := (ChainRun.fresh failingEnv {} _ rfl :
    ChainRun singleTaskPlan {} (fun _ _ => True) (fun _ => True) failingEnv _).runs
      [] (always failingEnv _ _)
  have resumed := ChainRun.resumed _ failed (List.mem_of_getElem? (i := 2) rfl)
    trivial completingEnv {} _ rfl
  have final := resumed.runs [] (always completingEnv _ _)
  have lost := claim completingEnv _ final (by decide) { id := "a" }
    (by simp [singleTaskPlan, Pipeline.allTasks])
  exact lost.1 (by decide)

end Chains

end AiEnterpriseOs.Orchestration
