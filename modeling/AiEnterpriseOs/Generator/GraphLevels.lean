import AiEnterpriseOs.Generator.GraphRuns
import AiEnterpriseOs.Library.LongestPath

/-!
# Levels and the critical path

The levels of a graph come from its degrees, the critical path from a search of
all paths. Both measure the longest dependency chains.
-/

namespace AiEnterpriseOs.Generator

open Library

namespace DependencyGraph

variable (graph : DependencyGraph)

def getLevelizedTasks : List (List String) :=
  if graph.tasks.keys.isEmpty then []
  else
    TopologicalSort.levelQueue graph.adjacencyList.listed graph.nodeBound
      (fun taskId => graph.inDegree.getD taskId 0) graph.startQueue

def calculateCriticalPath : List String :=
  if graph.tasks.keys.isEmpty then []
  else
    (graph.tasks.keys.foldl (fun best taskId =>
      if taskId ∉ graph.getLevelizedTasks.flatten then best
      else LongestPath.search graph.adjacencyList.listed graph.nodeBound taskId [] [] best)
      ([], -1)).1

variable {graph}

theorem levels_layered (describes : Describes graph) (sortable : graph.Sortable) :
    Layering.Layered graph.tasks.keys.toFinset (TopologicalSort.allIn graph.dependenciesOf) []
      graph.getLevelizedTasks := by
  unfold getLevelizedTasks
  split
  next empty =>
    rw [List.isEmpty_iff.mp empty]
    exact .done [] (by simp)
  · apply describes.counting.levels describes.mirrors sortable
    unfold nodeBound
    rw [List.length_nil]
    omega

theorem mem_levels_iff (describes : Describes graph) (sortable : graph.Sortable)
    (taskId : String) : taskId ∈ graph.getLevelizedTasks.flatten ↔ taskId ∈ graph.tasks.keys := by
  rw [(levels_layered describes sortable).mem_flatten_iff]
  simp

theorem critical_path_longest (describes : Describes graph) (sortable : graph.Sortable) :
    LongestPath.Chain graph.tasks.keys (fun depId taskId => depId ∈ graph.dependenciesOf taskId)
        graph.calculateCriticalPath ∧
      ∀ chain, LongestPath.Chain graph.tasks.keys
          (fun depId taskId => depId ∈ graph.dependenciesOf taskId) chain →
        chain.length ≤ graph.calculateCriticalPath.length := by
  unfold calculateCriticalPath
  split
  next empty =>
    refine ⟨⟨List.isChain_nil, List.forall_mem_nil _⟩, ?_⟩
    intro chain linked
    cases chain with
    | nil => exact le_rfl
    | cons node rest =>
      have listed := linked.inside node List.mem_cons_self
      rw [List.isEmpty_iff.mp empty] at listed
      cases listed
  · have searched : graph.tasks.keys.foldl (fun best taskId =>
          if taskId ∉ graph.getLevelizedTasks.flatten then best
          else LongestPath.search graph.adjacencyList.listed graph.nodeBound taskId [] [] best)
          ([], -1) =
        graph.tasks.keys.foldl (fun best taskId =>
          LongestPath.search graph.adjacencyList.listed graph.nodeBound taskId [] [] best)
          ([], -1) := by
      apply List.foldl_ext
      intro best taskId listed
      rw [if_neg (not_not.mpr ((mem_levels_iff describes sortable taskId).mpr listed))]
    rw [searched]
    apply LongestPath.search_all
    · intro taskId cyclic
      have swapped : Relation.TransGen (Function.swap fun taskId depId =>
          depId ∈ graph.dependenciesOf taskId) taskId taskId := cyclic
      rw [Relation.transGen_swap] at swapped
      exact sortable.acyclic taskId (swapped.lift (fun taskId => taskId)
        fun taskId depId depends => ⟨mem_tasks_of_dependency depends, depends⟩)
    · exact describes.mem_adjacency_iff
    · exact fun _ _ depends => mem_tasks_of_dependency depends
    · unfold nodeBound
      omega

end DependencyGraph

/-- A graph built by adding tasks. -/
def graphOf (tasks : List GenerationTask) : DependencyGraph :=
  tasks.foldl DependencyGraph.addTask {}

def DependsOn (tasks : List GenerationTask) (taskId depId : String) : Prop :=
  ∃ task ∈ tasks, task.id = taskId ∧ depId ∈ task.dependencies

/-- Tasks of which each is a dependency of the next. -/
def DependencyChain (tasks : List GenerationTask) (chain : List String) : Prop :=
  LongestPath.Chain (tasks.map GenerationTask.id)
    (fun depId taskId => DependsOn tasks taskId depId) chain

/-- The longest dependency chain that ends at the task has this length. -/
def LongestChainTo (tasks : List GenerationTask) (taskId : String) (length : Nat) : Prop :=
  LongestPath.LongestTo (tasks.map GenerationTask.id)
    (fun depId taskId => DependsOn tasks taskId depId) taskId length

/-- Different ids, with dependencies that are all there and lead into no cycle. -/
structure WellFormed (tasks : List GenerationTask) : Prop where
  distinct : (tasks.map GenerationTask.id).Nodup
  present : ∀ task ∈ tasks, ∀ depId ∈ task.dependencies, depId ∈ tasks.map GenerationTask.id
  acyclic : TopologicalSort.Acyclic (DependsOn tasks)

theorem graph_of_distinct {tasks : List GenerationTask}
    (distinct : (tasks.map GenerationTask.id).Nodup) :
    (graphOf tasks).Describes ∧ (graphOf tasks).tasks.values = tasks ∧
      (graphOf tasks).tasks.keys = tasks.map GenerationTask.id := by
  induction tasks using List.reverseRecOn with
  | nil => exact ⟨DependencyGraph.describes_empty, rfl, rfl⟩
  | append_singleton tasks task ih =>
    rw [List.map_append, List.map_singleton] at distinct
    obtain ⟨before, _, apart⟩ := List.nodup_append.mp distinct
    obtain ⟨describes, values, keys⟩ := ih before
    have fresh : task.id ∉ (graphOf tasks).tasks.keys := by
      intro listed
      rw [keys] at listed
      exact apart task.id listed task.id (List.mem_singleton_self _) rfl
    have added : graphOf (tasks ++ [task]) = (graphOf tasks).addTask task := by
      rw [graphOf, List.foldl_append]
      rfl
    rw [added, DependencyGraph.add_task_tasks]
    refine ⟨?_, ?_, ?_⟩
    · apply (DependencyGraph.describes_add_iff describes task).mpr
      exact DependencyGraph.dependencies_of_absent ((OrderedDict.get_eq_none_iff _ _).mpr fresh)
    · rw [OrderedDict.values_set_fresh _ _ fresh, values]
    · rw [OrderedDict.keys_set_fresh _ _ fresh, keys, List.map_append, List.map_singleton]

theorem depends_on_iff {tasks : List GenerationTask}
    (distinct : (tasks.map GenerationTask.id).Nodup) (taskId depId : String) :
    depId ∈ (graphOf tasks).dependenciesOf taskId ↔ DependsOn tasks taskId depId := by
  obtain ⟨describes, values, _⟩ := graph_of_distinct distinct
  constructor
  · intro depends
    obtain ⟨task, found⟩ := (OrderedDict.mem_keys_iff _ _).mp
      (DependencyGraph.mem_tasks_of_dependency depends)
    rw [DependencyGraph.dependencies_of_present found] at depends
    refine ⟨task, ?_, describes.named taskId task found, depends⟩
    rw [← values]
    exact (OrderedDict.mem_values_iff _ _).mpr ⟨taskId, found⟩
  · rintro ⟨task, listed, same, depends⟩
    rw [← values] at listed
    obtain ⟨key, found⟩ := (OrderedDict.mem_values_iff _ _).mp listed
    have named := describes.named key task found
    rw [← same, named, DependencyGraph.dependencies_of_present found]
    exact depends

/-- The levels partition the tasks by their longest dependency chains, and the critical
path is a longest chain, as long as there are levels. -/
theorem levels_and_critical_path (tasks : List GenerationTask) (wellFormed : WellFormed tasks) :
    (graphOf tasks).getLevelizedTasks.flatten.Perm (tasks.map GenerationTask.id) ∧
      (∀ level taskId, taskId ∈ (graphOf tasks).getLevelizedTasks.getD level [] ↔
        taskId ∈ tasks.map GenerationTask.id ∧ LongestChainTo tasks taskId (level + 1)) ∧
      DependencyChain tasks (graphOf tasks).calculateCriticalPath ∧
      (∀ chain, DependencyChain tasks chain →
        chain.length ≤ (graphOf tasks).calculateCriticalPath.length) ∧
      (graphOf tasks).calculateCriticalPath.length = (graphOf tasks).getLevelizedTasks.length := by
  obtain ⟨describes, _, keys⟩ := graph_of_distinct wellFormed.distinct
  have depends := depends_on_iff wellFormed.distinct
  have relation : (fun depId taskId => depId ∈ (graphOf tasks).dependenciesOf taskId) =
      fun depId taskId => DependsOn tasks taskId depId := by
    funext depId taskId
    exact propext (depends taskId depId)
  have sortable : (graphOf tasks).Sortable := by
    constructor
    · intro taskId _ depId needs
      obtain ⟨task, listed, _, inside⟩ := (depends taskId depId).mp needs
      rw [keys]
      exact wellFormed.present task listed depId inside
    · intro taskId cyclic
      exact wellFormed.acyclic taskId (cyclic.lift (fun taskId => taskId)
        fun taskId depId both => (depends taskId depId).mp both.2)
  have layered := DependencyGraph.levels_layered describes sortable
  obtain ⟨linked, longest⟩ := DependencyGraph.critical_path_longest describes sortable
  have levels := LongestPath.mem_layer_iff_longest layered
  have length := LongestPath.layers_length layered linked longest
  rw [relation, keys] at linked longest levels
  refine ⟨?_, levels, linked, longest, length⟩
  rw [← keys]
  apply (List.perm_ext_iff_of_nodup layered.flatten_nodup (graphOf tasks).tasks.distinct).mpr
  exact DependencyGraph.mem_levels_iff describes sortable

/-- A diamond with a dependency that is listed twice has three levels. -/
theorem diamond_levels :
    let task (name : String) (dependencies : List String) : GenerationTask :=
      { taskType := "role", name := name, dependencies := dependencies }
    let tasks := [task "d" ["role:b", "role:c"], task "b" ["role:a", "role:a"],
      task "c" ["role:a"], task "a" []]
    (graphOf tasks).getLevelizedTasks = [["role:a"], ["role:b", "role:c"], ["role:d"]] ∧
      (graphOf tasks).calculateCriticalPath.length = 3 := by
  intro task tasks
  have lowers : ∀ task ∈ tasks, ∀ depId ∈ task.dependencies,
      ["role:a", "role:c", "role:b", "role:d"].idxOf depId <
        ["role:a", "role:c", "role:b", "role:d"].idxOf task.id := by decide
  have wellFormed : WellFormed tasks := by
    constructor
    · decide
    · decide
    · apply TopologicalSort.acyclic_of_rank ["role:a", "role:c", "role:b", "role:d"].idxOf
      rintro taskId depId ⟨task, listed, same, depends⟩
      rw [← same]
      exact lowers task listed depId depends
  have levels : (graphOf tasks).getLevelizedTasks =
      [["role:a"], ["role:b", "role:c"], ["role:d"]] := by decide
  refine ⟨levels, ?_⟩
  rw [(levels_and_critical_path tasks wellFormed).2.2.2.2, levels]
  rfl

end AiEnterpriseOs.Generator
