import AiEnterpriseOs.Orchestration.PipelineOutcome

/-!
# Sequential stages and the order of declaration

A sequential stage takes its tasks in the order in which they are declared and
skips one whose dependencies are not completed yet. So where every task that
is dispatched completes, the run completes all of them exactly if the
declarations put dependencies first.
-/

namespace AiEnterpriseOs.Orchestration

open Library

/-! ## The order of declaration -/

def taskIds (tasks : List PipelineTask) : List String :=
  tasks.map fun task => task.id

theorem mem_task_ids_append (tasks : List PipelineTask) (task : PipelineTask) (taskId : String) :
    taskId ∈ taskIds (tasks ++ [task]) ↔ taskId ∈ taskIds tasks ∨ taskId = task.id := by
  simp [taskIds, eq_comm]

section Order

variable (graph : DependencyGraph)

/-- Where an id is listed for the first time, its dependencies are listed before. -/
def InOrder (tasks : List PipelineTask) : Prop :=
  ∀ earlier task later, tasks = earlier ++ task :: later → task.id ∉ taskIds earlier →
    ∀ dep ∈ graph.dependenciesOf task.id, dep.taskId ∈ taskIds earlier

theorem in_order_nil : InOrder graph [] := by
  intro earlier task later split
  cases earlier <;> cases split

theorem in_order_append_iff (tasks : List PipelineTask) (task : PipelineTask) :
    InOrder graph (tasks ++ [task]) ↔ InOrder graph tasks ∧ (task.id ∉ taskIds tasks →
        ∀ dep ∈ graph.dependenciesOf task.id, dep.taskId ∈ taskIds tasks) := by
  constructor
  · intro ordered
    constructor
    · intro earlier first later split
      apply ordered earlier first (later ++ [task])
      rw [split, List.append_assoc, List.cons_append]
    · exact ordered tasks task [] rfl
  · rintro ⟨ordered, last⟩ earlier first later split
    rcases List.eq_nil_or_concat' later with rfl | ⟨front, final, rfl⟩
    · obtain ⟨same, single⟩ := List.append_inj' split rfl
      cases single
      rw [← same]
      exact last
    · rw [← List.cons_append, ← List.append_assoc] at split
      exact ordered earlier first front (List.append_inj' split rfl).1

end Order

section Plans

variable (plan : OrchestrationPlan) (graph : DependencyGraph)

/-- A dependency is in the stage of the task or in an earlier one. -/
def DependsBackward : Prop :=
  ∀ before stage after, plan.pipeline.stages = before ++ stage :: after →
    ∀ task ∈ stage.tasks, ∀ dep ∈ graph.dependenciesOf task.id,
      dep.taskId ∈ taskIds (tasksOf before) ∨ dep.taskId ∈ taskIds stage.tasks

/-- Within its stage, a task is declared after its dependencies. Of an id that
is declared more than once, the first declaration counts. -/
def DeclaredInOrder : Prop :=
  ∀ before stage after, plan.pipeline.stages = before ++ stage :: after →
    ∀ earlier task later, stage.tasks = earlier ++ task :: later →
      task.id ∉ taskIds (tasksOf before ++ earlier) →
        ∀ dep ∈ graph.dependenciesOf task.id, dep.taskId ∈ taskIds stage.tasks →
          dep.taskId ∈ taskIds (tasksOf before ++ earlier)

variable {plan graph}

theorem tasks_of_cons (stage : PipelineStage) (stages : List PipelineStage) :
    tasksOf (stage :: stages) = stage.tasks ++ tasksOf stages :=
  List.flatMap_cons

theorem tasks_of_split {stages : List PipelineStage} {earlier later : List PipelineTask}
    {task : PipelineTask} (split : tasksOf stages = earlier ++ task :: later) :
    ∃ before stage after inStage rest, stages = before ++ stage :: after ∧
      stage.tasks = inStage ++ task :: rest ∧ earlier = tasksOf before ++ inStage := by
  induction stages generalizing earlier with
  | nil => cases earlier <;> cases split
  | cons stage stages ih =>
    rw [tasks_of_cons] at split
    rcases List.append_eq_append_iff.mp split with ⟨skipped, rfl, rest⟩ | ⟨rest, inside, tail⟩
    · obtain ⟨before, other, after, inStage, last, rfl, here, rfl⟩ := ih rest
      exact ⟨stage :: before, other, after, inStage, last, rfl, here,
        by rw [tasks_of_cons, List.append_assoc]⟩
    · cases rest with
      | nil =>
        obtain ⟨before, other, after, inStage, last, rfl, here, empty⟩ := @ih [] tail.symm
        refine ⟨stage :: before, other, after, inStage, last, rfl, here, ?_⟩
        rw [tasks_of_cons, List.append_assoc, ← empty, inside, List.append_nil, List.append_nil]
      | cons first rest =>
        obtain ⟨rfl, _⟩ := List.cons.inj tail
        exact ⟨[], stage, stages, earlier, rest, rfl, inside, rfl⟩

theorem declared_in_order_iff (backward : DependsBackward plan graph) :
    DeclaredInOrder plan graph ↔ InOrder graph plan.pipeline.allTasks := by
  constructor
  · intro declared earlier task later split first dep member
    obtain ⟨before, stage, after, inStage, rest, stages, tasks, rfl⟩ := tasks_of_split split
    have inPlan : task ∈ stage.tasks := by
      rw [tasks]
      exact List.mem_append_right _ List.mem_cons_self
    rcases backward before stage after stages task inPlan dep member with early | here
    · rw [taskIds, List.map_append]
      exact List.mem_append_left _ early
    · exact declared before stage after stages inStage task rest tasks first dep member here
  · intro ordered before stage after stages earlier task later tasks first dep member _
    apply ordered (tasksOf before ++ earlier) task (later ++ tasksOf after) _ first dep member
    rw [Pipeline.allTasks, stages, List.flatMap_append, List.flatMap_cons, tasks]
    simp [tasksOf]

end Plans

/-! ## What a run has visited -/

section Visits

variable (graph : DependencyGraph)

/-- The tasks that a run has visited are completed or skipped, all of them
completed exactly if they were declared in order; the others are pending. -/
structure Visited (visited : List PipelineTask) (state : ExecutionState) : Prop where
  waiting : ∀ taskId, taskId ∉ taskIds visited → state.taskStatus taskId = .pending
  settled : ∀ taskId ∈ taskIds visited,
    state.taskStatus taskId = .completed ∨ state.taskStatus taskId = .skipped
  ordered : (∀ taskId ∈ taskIds visited, state.taskStatus taskId = .completed) ↔
    InOrder graph visited

variable {graph}

theorem Visited.congr {visited : List PipelineTask} {before after : ExecutionState}
    (seen : Visited graph visited before)
    (same : ∀ taskId, after.taskStatus taskId = before.taskStatus taskId) :
    Visited graph visited after := by
  refine ⟨?_, ?_, ?_⟩
  · intro taskId unseen
    rw [same]
    exact seen.waiting taskId unseen
  · intro taskId member
    rw [same]
    exact seen.settled taskId member
  · rw [← seen.ordered]
    apply forall₂_congr
    intro taskId _
    rw [same]

theorem Visited.again {visited : List PipelineTask} {state : ExecutionState}
    {task : PipelineTask} (seen : Visited graph visited state)
    (known : task.id ∈ taskIds visited) : Visited graph (visited ++ [task]) state := by
  have same : ∀ taskId, taskId ∈ taskIds (visited ++ [task]) ↔ taskId ∈ taskIds visited := by
    intro taskId
    rw [mem_task_ids_append]
    constructor
    · rintro (member | rfl)
      · exact member
      · exact known
    · exact Or.inl
  refine ⟨?_, ?_, ?_⟩
  · intro taskId unseen
    exact seen.waiting taskId fun member => unseen ((same taskId).mpr member)
  · intro taskId member
    exact seen.settled taskId ((same taskId).mp member)
  · rw [in_order_append_iff, ← seen.ordered]
    constructor
    · intro all
      exact ⟨fun taskId member => all taskId ((same taskId).mpr member),
        fun unknown => absurd known unknown⟩
    · intro all taskId member
      exact all.1 taskId ((same taskId).mp member)

theorem Visited.completed_iff {visited : List PipelineTask} {state : ExecutionState}
    (seen : Visited graph visited state)
    (all : ∀ taskId ∈ taskIds visited, state.taskStatus taskId = .completed)
    (taskId : String) : state.taskStatus taskId = .completed ↔ taskId ∈ taskIds visited := by
  constructor
  · intro completed
    by_contra unseen
    rw [seen.waiting taskId unseen] at completed
    cases completed
  · exact all taskId

theorem Visited.moved {visited : List PipelineTask} {before after : ExecutionState}
    {task : PipelineTask} {status : TaskStatus} (seen : Visited graph visited before)
    (kind : status = .completed ∨ status = .skipped)
    (moved : ∀ other, after.taskStatus other =
      if other = task.id then status else before.taskStatus other) :
    (∀ taskId, taskId ∉ taskIds (visited ++ [task]) → after.taskStatus taskId = .pending) ∧
      ∀ taskId ∈ taskIds (visited ++ [task]),
        after.taskStatus taskId = .completed ∨ after.taskStatus taskId = .skipped := by
  constructor
  · intro taskId unseen
    rw [mem_task_ids_append, not_or] at unseen
    rw [moved, if_neg unseen.2]
    exact seen.waiting taskId unseen.1
  · intro taskId member
    rw [moved]
    split
    · exact kind
    next other =>
      rcases (mem_task_ids_append visited task taskId).mp member with member | same
      · exact seen.settled taskId member
      · exact absurd same other

theorem Visited.skip {visited : List PipelineTask} {before after : ExecutionState}
    {task : PipelineTask} (seen : Visited graph visited before)
    (fresh : task.id ∉ taskIds visited)
    (blocked : ¬∀ dep ∈ graph.dependenciesOf task.id, before.taskStatus dep.taskId = .completed)
    (moved : ∀ other, after.taskStatus other =
      if other = task.id then .skipped else before.taskStatus other) :
    Visited graph (visited ++ [task]) after := by
  obtain ⟨waiting, settled⟩ := seen.moved (Or.inr rfl) moved
  refine ⟨waiting, settled, ?_⟩
  apply iff_of_false
  · intro all
    have own := all task.id ((mem_task_ids_append visited task _).mpr (Or.inr rfl))
    rw [moved, if_pos rfl] at own
    cases own
  · intro ordered
    obtain ⟨early, last⟩ := (in_order_append_iff graph visited task).mp ordered
    have all := seen.ordered.mpr early
    exact blocked fun dep member => (seen.completed_iff all dep.taskId).mpr (last fresh dep member)

theorem Visited.complete {visited : List PipelineTask} {before after : ExecutionState}
    {task : PipelineTask} (seen : Visited graph visited before)
    (fresh : task.id ∉ taskIds visited)
    (ready : ∀ dep ∈ graph.dependenciesOf task.id, before.taskStatus dep.taskId = .completed)
    (moved : ∀ other, after.taskStatus other =
      if other = task.id then .completed else before.taskStatus other) :
    Visited graph (visited ++ [task]) after := by
  obtain ⟨waiting, settled⟩ := seen.moved (Or.inl rfl) moved
  refine ⟨waiting, settled, ?_⟩
  have supplied : task.id ∉ taskIds visited →
      ∀ dep ∈ graph.dependenciesOf task.id, dep.taskId ∈ taskIds visited := by
    intro _ dep member
    by_contra unseen
    have pending := seen.waiting dep.taskId unseen
    rw [ready dep member] at pending
    cases pending
  rw [in_order_append_iff, and_iff_left supplied, ← seen.ordered]
  constructor
  · intro all taskId member
    have now := all taskId ((mem_task_ids_append visited task taskId).mpr (Or.inl member))
    have other : taskId ≠ task.id := by
      rintro rfl
      exact fresh member
    rwa [moved, if_neg other] at now
  · intro all taskId member
    rw [moved]
    split
    · rfl
    next other =>
      rcases (mem_task_ids_append visited task taskId).mp member with member | same
      · exact all taskId member
      · exact absurd same other

theorem Visited.keeps_iff {visited : List PipelineTask} {runner : RunnerState}
    (seen : Visited graph visited runner.state) (task : PipelineTask) :
    KeepsTask runner task ↔ task.id ∈ taskIds visited := by
  constructor
  · intro settled
    by_contra fresh
    have pending := seen.waiting task.id fresh
    rcases settled with done | (skipped | cancelled) | failed
    · rw [pending] at done
      cases done
    · rw [pending] at skipped
      cases skipped
    · rw [pending] at cancelled
      cases cancelled
    · rw [pending] at failed
      cases failed.1
  · intro known
    rcases seen.settled task.id known with done | skipped
    · exact Or.inl done
    · exact Or.inr (Or.inl (Or.inl skipped))

theorem Visited.ready_iff {visited : List PipelineTask} {state : ExecutionState}
    (seen : Visited graph visited state) {task : PipelineTask}
    (listed : task ∈ graph.pipeline.allTasks) (fresh : task.id ∉ taskIds visited) :
    task.id ∈ graph.readyTasks (state.tasksWith .completed) (state.tasksWith .failed) ↔
      ∀ dep ∈ graph.dependenciesOf task.id, state.taskStatus dep.taskId = .completed := by
  have inGraph : ∃ other ∈ graph.pipeline.allTasks, other.id = task.id := ⟨task, listed, rfl⟩
  have pending := seen.waiting task.id fresh
  rw [DependencyGraph.mem_ready_tasks, and_iff_right inGraph]
  simp [ExecutionState.mem_tasks_with, pending]

end Visits

/-! ## Runs -/

section Runs

variable (plan : OrchestrationPlan) (config : RunnerConfig) (env : RunEnv) (graph : DependencyGraph)

/-- The dispatch of every task of the plan succeeds. -/
def DispatchesSucceed : Prop :=
  ∀ task ∈ plan.pipeline.allTasks, ∃ result,
    env.outcome task.id = .returned result ∧ result.status = .completed

/-- A stage that is about to be executed has an open gate. -/
def GateOpen (machine : Machine) (_ : WaveChoice) : Prop :=
  ∀ stage rest, machine.control = .stages (stage :: rest) →
    gateOpen env stage machine.runner.state = .ok true

/-- The tasks that a machine without parallel stages has not visited yet. -/
def Machine.unvisited (machine : Machine) : List PipelineTask :=
  match machine.control with
  | .stages remaining => tasksOf remaining
  | .sequential _ _ tasks rest => tasks ++ tasksOf rest
  | .waves _ _ _ | .wave _ _ _ _ _ | .halted => []

def OnGraph (machine : Machine) : Prop :=
  ∀ other index tasks rest, machine.control = .sequential other index tasks rest → other = graph

structure OrderedRun (machine : Machine) : Prop where
  sequential : OutsideParallel machine
  onGraph : OnGraph graph machine
  running : ¬machine.isHalted → machine.runner.state.status = .running
  visits : ∃ visited, plan.pipeline.allTasks = visited ++ machine.unvisited ∧
    Visited graph visited machine.runner.state

variable {plan config graph}

theorem visit_task (built : DependencyGraph.build plan.pipeline config.dependencies = .ok graph)
    (succeed : DispatchesSucceed plan env) {index : Nat} {task : PipelineTask}
    {tasks : List PipelineTask} {rest : List PipelineStage} {runner : RunnerState}
    {after : Machine} {visited : List PipelineTask}
    (listed : task ∈ plan.pipeline.allTasks) (seen : Visited graph visited runner.state)
    (step : SequentialStep plan config env graph index task tasks rest runner after) :
    after.control = .sequential graph (index + 1) tasks rest ∧
      after.runner.state.status = runner.state.status ∧
      Visited graph (visited ++ [task]) after.runner.state := by
  have inGraph : task ∈ graph.pipeline.allTasks := by
    rw [(DependencyGraph.build_ok built).1]
    exact listed
  obtain ⟨given, outcome, completed⟩ := succeed task listed
  have returned : (env.outcome task.id).result = .ok given := by rw [outcome]; rfl
  have unseen : ¬KeepsTask runner task → task.id ∉ taskIds visited :=
    mt (seen.keeps_iff task).mpr
  cases step with
  | kept settled => exact ⟨rfl, rfl, seen.again ((seen.keeps_iff task).mp settled)⟩
  | skipped unsettled blocked =>
    have fresh := unseen unsettled
    refine ⟨rfl, rfl, seen.skip fresh ?_ (mark_skipped_status runner task.id)⟩
    intro satisfied
    exact blocked ((seen.ready_iff inGraph fresh).mpr satisfied)
  | refused unsettled ready error refusal =>
    exact absurd (seen.waiting task.id (unseen unsettled)) (run_task_refused refusal)
  | raised unsettled ready begun started error raises =>
    rw [returned] at raises
    cases raises
  | stopped unsettled ready begun started result returns stops =>
    rw [returned] at returns
    cases returns
    rw [stopsRun, completed] at stops
    cases stops.1
  | applied unsettled ready begun started result returns continues =>
    rw [returned] at returns
    cases returns
    have fresh := unseen unsettled
    have start := run_task_begun started
    have merged := apply_task_result_applied plan config env task given begun
    refine ⟨rfl, merged.pipelineStatus.trans start.pipelineStatus,
      seen.complete fresh ((seen.ready_iff inGraph fresh).mp ready) ?_⟩
    intro other
    rw [merged.status, start.status, completed]
    split <;> rfl

theorem step_ordered_run
    (built : DependencyGraph.build plan.pipeline config.dependencies = .ok graph)
    (succeed : DispatchesSucceed plan env) (machine : Machine) (choice : WaveChoice)
    (run : OrderedRun plan graph machine) (gates : GateOpen env machine choice) :
    OrderedRun plan graph (machine.step plan config env choice) := by
  have sequential : OutsideParallel (machine.step plan config env choice) :=
    step_outside_parallel env machine choice run.sequential
  obtain ⟨control, runner⟩ := machine
  obtain ⟨outside, onGraph, running, visited, split, seen⟩ := run
  cases control with
  | halted => exact ⟨outside, onGraph, running, visited, split, seen⟩
  | waves stageGraph stage rest => exact outside.elim
  | wave stageGraph stage rest ready pool => exact outside.elim
  | stages remaining =>
    have active : runner.state.status = .running := by
      apply running
      intro halted
      cases halted
    cases remaining with
    | nil =>
      have completes : transitionPipeline runner.state.status .completed = .ok .completed := by
        rw [active]
        decide
      refine ⟨sequential, ?_, ?_, visited, ?_, ?_⟩
      · intro other index tasks rest control
        rw [Machine.step, complete_run_control] at control
        cases control
      · intro unfinished
        exact absurd (complete_run_control plan runner) unfinished
      · rw [Machine.unvisited, Machine.step, complete_run_control]
        exact split
      · simp only [Machine.step, completeRun, completes]
        exact seen.congr fun _ => rfl
    | cons stage rest =>
      have gate := gates stage rest rfl
      have mode : stage.mode ≠ .parallel := outside stage List.mem_cons_self
      have entered : Machine.step plan config env ⟨.stages (stage :: rest), runner⟩ choice =
          ⟨.sequential graph 0 stage.tasks rest, runner⟩ := by
        simp only [Machine.step, executeStage, built, gate, if_neg mode]
      rw [entered] at sequential ⊢
      refine ⟨sequential, ?_, fun _ => active, visited, split, seen⟩
      intro other index tasks later control
      cases control
      rfl
  | sequential other index tasks rest =>
    have active : runner.state.status = .running := by
      apply running
      intro halted
      cases halted
    have same : other = graph := onGraph other index tasks rest rfl
    subst same
    cases tasks with
    | nil =>
      refine ⟨sequential, ?_, ?_, visited, split, ?_⟩
      · intro another position others later control
        cases control
      · intro _
        rw [Machine.step, end_stage_state]
        exact active
      · rw [Machine.step, end_stage_state]
        exact seen
    | cons task tasks =>
      have step := execute_sequential_cases plan config env other index task tasks rest runner
      have listed : task ∈ plan.pipeline.allTasks := by
        rw [split]
        exact List.mem_append_right _ List.mem_cons_self
      have placed : Visited other visited
          ({ runner with taskIndex := index } : RunnerState).state := seen
      obtain ⟨control, status, next⟩ := visit_task env built succeed listed placed step
      refine ⟨sequential, ?_, fun _ => status.trans active, visited ++ [task], ?_, next⟩
      · intro another position later others moved
        rw [Machine.step, control] at moved
        cases moved
        rfl
      · rw [Machine.unvisited, Machine.step, control, List.append_assoc]
        exact split

theorem fresh_run_visits
    (built : DependencyGraph.build plan.pipeline config.dependencies = .ok graph)
    (sequential : SequentialOnly plan.pipeline.stages) (succeed : DispatchesSucceed plan env)
    {shared : RunnerShared} {machine : Machine}
    (started : Machine.start plan none shared = .ok machine) (choices : List WaveChoice)
    (gates : StepsMeet (Machine.step plan config env) (GateOpen env) machine
      (schedule choices machine)) :
    Visited graph plan.pipeline.allTasks (machine.run plan config env choices).runner.state := by
  have initial : OrderedRun plan graph machine := by
    have pending := fresh_status plan shared started
    cases started
    refine ⟨sequential, ?_, fun _ => rfl, [], rfl, ?_, List.forall_mem_nil _, ?_⟩
    · intro other index tasks rest control
      cases control
    · exact fun taskId _ => pending taskId
    · exact iff_of_true (List.forall_mem_nil _) (in_order_nil graph)
  have final : OrderedRun plan graph (machine.run plan config env choices) :=
    invariant_of_steps_meet (Machine.step plan config env)
      (fun state input run gate => step_ordered_run env built succeed state input run gate)
      machine _ initial gates
  have halted := run_halts plan config env machine choices (start_coherent started)
  obtain ⟨visited, split, seen⟩ := final.visits
  have none : (machine.run plan config env choices).unvisited = [] := by
    rw [Machine.unvisited, halted]
  rw [none, List.append_nil] at split
  rwa [split]

/-- A fresh run of a plan with sequential stages, open gates and tasks that all
succeed when dispatched completes every task exactly if, within each stage, the
tasks are declared after their dependencies. -/
theorem sequential_run_completes_iff (plan : OrchestrationPlan) (config : RunnerConfig)
    (env : RunEnv) (graph : DependencyGraph)
    (built : DependencyGraph.build plan.pipeline config.dependencies = .ok graph)
    (sequential : SequentialOnly plan.pipeline.stages) (backward : DependsBackward plan graph)
    (succeed : DispatchesSucceed plan env) (shared : RunnerShared) (machine : Machine)
    (started : Machine.start plan none shared = .ok machine) (choices : List WaveChoice)
    (gates : StepsMeet (Machine.step plan config env) (GateOpen env) machine
      (schedule choices machine)) :
    (∀ task ∈ plan.pipeline.allTasks,
        (machine.run plan config env choices).runner.state.taskStatus task.id = .completed) ↔
      DeclaredInOrder plan graph := by
  have seen := fresh_run_visits env built sequential succeed started choices gates
  rw [declared_in_order_iff backward, ← seen.ordered, taskIds, List.forall_mem_map]

theorem gates_open (always : ∀ stage ∈ plan.pipeline.stages, ∀ state,
      gateOpen env stage state = .ok true) {machine : Machine}
    (coherent : Coherent plan config machine) (choices : List WaveChoice) :
    StepsMeet (Machine.step plan config env) (GateOpen env) machine choices := by
  apply steps_meet_of_invariant (Machine.step plan config env) (Coherent plan config)
    (step_coherent env) _ machine choices coherent
  intro state choice coherent stage rest control
  rw [Coherent, control] at coherent
  apply always
  apply List.mem_of_mem_drop (i := state.runner.stageIndex)
  rw [← coherent]
  exact List.mem_cons_self

theorem completing_gate (stage : PipelineStage) (state : ExecutionState) :
    gateOpen completingEnv stage state = .ok true := by
  unfold gateOpen
  split
  · rfl
  · split <;> rfl

theorem completing_succeeds (plan : OrchestrationPlan) : DispatchesSucceed plan completingEnv :=
  fun _ _ => ⟨{ status := .completed }, rfl, rfl⟩

/-- The graph in which the one dependency is that of `b` on `a`. -/
def pairGraph (plan : OrchestrationPlan)
    (valid : validate plan.pipeline {} = .ok ⟨[("b", [{ taskId := "a" }])], by decide⟩) :
    DependencyGraph where
  pipeline := plan.pipeline
  config := {}
  deps := ⟨[("b", [{ taskId := "a" }])], by decide⟩
  valid := valid

theorem pair_backward {plan : OrchestrationPlan}
    {valid : validate plan.pipeline {} = .ok ⟨[("b", [{ taskId := "a" }])], by decide⟩}
    (supplied : ∀ stage ∈ plan.pipeline.stages, "a" ∈ taskIds stage.tasks) :
    DependsBackward plan (pairGraph plan valid) := by
  intro before stage after stages task _ dep member
  right
  have only : dep.taskId = "a" := by
    unfold DependencyGraph.dependenciesOf dependenciesIn OrderedDict.getD OrderedDict.get? at member
    simp only [pairGraph, OrderedDict.lookup] at member
    split at member
    · rw [Option.getD_some, List.mem_singleton] at member
      rw [member]
    · cases member
  rw [only]
  apply supplied
  rw [stages]
  exact List.mem_append_right _ List.mem_cons_self

theorem chained_run_completes_iff :
    ∃ graph machine, DependencyGraph.build chainedPlan.pipeline {} = .ok graph ∧
      Machine.start chainedPlan none {} = .ok machine ∧
      ((∀ task ∈ chainedPlan.pipeline.allTasks,
          (machine.run chainedPlan {} completingEnv []).runner.state.taskStatus task.id =
            .completed) ↔
        DeclaredInOrder chainedPlan graph) := by
  obtain ⟨machine, started, _⟩ := start_fresh chainedPlan {}
  refine ⟨pairGraph chainedPlan rfl, machine, rfl, started, ?_⟩
  apply sequential_run_completes_iff chainedPlan {} completingEnv (pairGraph chainedPlan rfl) rfl
  · intro stage member
    rw [List.mem_singleton.mp member]
    decide
  · apply pair_backward
    intro stage member
    rw [List.mem_singleton.mp member]
    decide
  · exact completing_succeeds chainedPlan
  · exact started
  · exact gates_open completingEnv (fun stage _ => completing_gate stage) (start_coherent started) _

/-- The chain with the second task declared first. -/
def unsortedPlan : OrchestrationPlan where
  id := "plan-1"
  pipeline :=
    { id := "pipe-1"
      stages :=
        [{ id := "s1"
           tasks := [{ id := "b", dependencies := ["a"] }, { id := "a" }] }] }

/-- The task declared first waits for the other: it is skipped, and the run
completes without it. -/
theorem dependent_declared_first_skipped : ∃ graph machine,
      DependencyGraph.build unsortedPlan.pipeline {} = .ok graph ∧
        SequentialOnly unsortedPlan.pipeline.stages ∧ DependsBackward unsortedPlan graph ∧
        DispatchesSucceed unsortedPlan completingEnv ∧
        Machine.start unsortedPlan none {} = .ok machine ∧
        StepsMeet (Machine.step unsortedPlan {} completingEnv) (GateOpen completingEnv) machine
          (schedule [] machine) ∧
        (machine.run unsortedPlan {} completingEnv []).runner.state.status = .completed ∧
        ¬∀ task ∈ unsortedPlan.pipeline.allTasks,
          (machine.run unsortedPlan {} completingEnv []).runner.state.taskStatus task.id =
            .completed := by
  have started : Machine.start unsortedPlan none {} = .ok _ := rfl
  refine ⟨pairGraph unsortedPlan rfl, _, rfl, ?_, pair_backward ?_,
    completing_succeeds unsortedPlan, started, gates_open completingEnv
      (fun stage _ => completing_gate stage) (start_coherent started) _, by decide, ?_⟩
  · intro stage member
    rw [List.mem_singleton.mp member]
    decide
  · intro stage member
    rw [List.mem_singleton.mp member]
    decide
  · intro all
    have waiting := all { id := "b", dependencies := ["a"] }
      (by simp [unsortedPlan, Pipeline.allTasks])
    revert waiting
    decide

end Runs

end AiEnterpriseOs.Orchestration
