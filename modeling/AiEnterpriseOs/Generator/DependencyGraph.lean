import AiEnterpriseOs.Library.DegreeSort
import AiEnterpriseOs.Library.Grouping
import AiEnterpriseOs.Library.TopologicalSort

/-!
# The generator's dependency graph

Four tables and a stored order are kept by hand. The priority and the metadata
of a task are left out: neither sorting reads them.
-/

namespace AiEnterpriseOs.Generator

open Library

structure GenerationTask where
  taskType : String
  name : String
  dependencies : List String := []
  deriving DecidableEq

/-- `f"{self.task_type}:{self.name}"`. -/
def GenerationTask.id (task : GenerationTask) : String := task.taskType ++ ":" ++ task.name

inductive GraphError where
  | keyError (key : String)
  | cycles (cycleNodes : List String)
  | disconnected (remaining : Finset String)
  deriving DecidableEq

structure DependencyGraph where
  tasks : OrderedDict String GenerationTask := OrderedDict.empty
  adjacencyList : OrderedDict String (List String) := OrderedDict.empty
  reverseAdjacencyList : OrderedDict String (List String) := OrderedDict.empty
  inDegree : OrderedDict String Int := OrderedDict.empty
  topologicalOrder : Option (List String) := none
  cycleDetected : Bool := false
  cycleNodes : List String := []

namespace DependencyGraph

variable (graph : DependencyGraph)

/-- The round of `add_task` for one of the dependencies. -/
def addEdge (taskId : String) (graph : DependencyGraph) (depId : String) : DependencyGraph :=
  { graph with
    adjacencyList := graph.adjacencyList.append depId taskId
    reverseAdjacencyList := graph.reverseAdjacencyList.append taskId depId
    inDegree := graph.inDegree.set taskId (graph.inDegree.getD taskId 0 + 1) }

def addTask (task : GenerationTask) : DependencyGraph :=
  task.dependencies.foldl (addEdge task.id)
    { graph with
      tasks := graph.tasks.set task.id task
      inDegree := graph.inDegree.set task.id 0 }

/-- The round of `remove_task` for one of the dependents. -/
def dropDependency (taskId : String) (graph : DependencyGraph) (dependentId : String) :
    DependencyGraph :=
  if taskId ∈ graph.reverseAdjacencyList.listed dependentId then
    { graph with
      reverseAdjacencyList := graph.reverseAdjacencyList.remove taskId dependentId
      inDegree := graph.inDegree.set dependentId (graph.inDegree.getD dependentId 0 - 1) }
  else graph

/-- The round of `remove_task` for one of the dependencies. -/
def dropDependent (taskId : String) (graph : DependencyGraph) (dependencyId : String) :
    DependencyGraph :=
  { graph with adjacencyList := graph.adjacencyList.remove taskId dependencyId }

/-- The edges of the task are removed. -/
def dropEdges (taskId : String) : DependencyGraph :=
  let dropped := (graph.adjacencyList.listed taskId).foldl (dropDependency taskId) graph
  (dropped.reverseAdjacencyList.listed taskId).foldl (dropDependent taskId) dropped

/-- `remove_task`; a deletion of a key that is not there raises and leaves the
deletions before it. -/
def removeTask (taskId : String) : Except GraphError Unit × DependencyGraph :=
  if (graph.tasks.get? taskId).isNone then (.ok (), graph)
  else
    let dropped := graph.dropEdges taskId
    let untasked := { dropped with tasks := dropped.tasks.erase taskId }
    if (untasked.adjacencyList.get? taskId).isNone then (.error (.keyError taskId), untasked)
    else
      let unlinked := { untasked with adjacencyList := untasked.adjacencyList.erase taskId }
      if (unlinked.reverseAdjacencyList.get? taskId).isNone then
        (.error (.keyError taskId), unlinked)
      else
        let unneeded :=
          { unlinked with reverseAdjacencyList := unlinked.reverseAdjacencyList.erase taskId }
        if (unneeded.inDegree.get? taskId).isNone then (.error (.keyError taskId), unneeded)
        else
          (.ok (),
            { unneeded with
              inDegree := unneeded.inDegree.erase taskId
              topologicalOrder := none })

/-- `dfs` of `has_cycle`, with the nodes on the recursion stack and the nodes visited;
the nodes of a cycle that is met are the error. -/
def dfs (neighbors : String → List String) :
    Nat → List String → List String → String → Except (List String) (List String)
  | 0, _, visited, _ => .ok visited
  | depth + 1, stack, visited, node =>
    (neighbors node).foldlM (fun visited neighbor =>
      if neighbor ∉ visited then dfs neighbors depth (node :: stack) visited neighbor
      else if neighbor ∈ node :: stack then .error [neighbor, node]
      else .ok visited) (node :: visited)

/-- A bound on the nodes that a search can enter or a queue can hold. -/
def nodeBound : Nat :=
  graph.tasks.keys.length + graph.inDegree.keys.length +
    (graph.adjacencyList.values.map List.length).sum

/-- The search of `has_cycle` from every task not yet visited. -/
def searchCycle : Except (List String) (List String) :=
  graph.tasks.keys.foldlM (fun visited taskId =>
    if taskId ∉ visited then
      dfs graph.adjacencyList.listed graph.nodeBound [] visited taskId
    else .ok visited) []

def hasCycle : Bool × DependencyGraph :=
  match graph.topologicalOrder with
  | some _ => (graph.cycleDetected, graph)
  | none =>
    match graph.searchCycle with
    | .error cycleNodes =>
      (true, { graph with cycleDetected := true, cycleNodes := cycleNodes })
    | .ok _ => (false, { graph with cycleDetected := false, cycleNodes := [] })

/-- The tasks without a dependency, in the order of their degrees. -/
def startQueue : List String :=
  (graph.inDegree.entries.filter fun entry => entry.2 = 0).map Prod.fst

/-- The loop of `topological_sort` over the queue. -/
def kahnOrder : List String :=
  TopologicalSort.sortQueue graph.adjacencyList.listed graph.nodeBound
    (fun taskId => graph.inDegree.getD taskId 0) graph.startQueue []

def topologicalSort : Except GraphError (List String) × DependencyGraph :=
  match graph.topologicalOrder with
  | some order => (.ok order, graph)
  | none =>
    let (cyclic, checked) := graph.hasCycle
    if cyclic then (.error (.cycles checked.cycleNodes), checked)
    else
      let result := checked.kahnOrder
      if result.length ≠ checked.tasks.keys.length then
        (.error (.disconnected (checked.tasks.keys.toFinset \ result.toFinset)), checked)
      else (.ok result, { checked with topologicalOrder := some result })

end DependencyGraph

end AiEnterpriseOs.Generator

/-!
## What the tables say of the tasks

The tables of a graph describe the dependency lists of its tasks: the reverse
table and the degrees list them, and the other table lists every task under a
dependency as often as the task lists that.
-/

namespace AiEnterpriseOs.Generator

open Library

namespace DependencyGraph

/-- The dependency list of a current task. -/
def dependenciesOf (graph : DependencyGraph) (taskId : String) : List String :=
  ((graph.tasks.get? taskId).map GenerationTask.dependencies).getD []

/-- The tables describe exactly the dependency lists of the current tasks. -/
structure Describes (graph : DependencyGraph) : Prop where
  named : ∀ taskId task, graph.tasks.get? taskId = some task → task.id = taskId
  adjacency : ∀ depId taskId, (graph.adjacencyList.listed depId).count taskId =
    (graph.dependenciesOf taskId).count depId
  reverse : ∀ taskId, graph.reverseAdjacencyList.listed taskId = graph.dependenciesOf taskId
  degrees : ∀ taskId, graph.inDegree.get? taskId =
    (graph.tasks.get? taskId).map fun task => (task.dependencies.length : Int)

section

variable {graph : DependencyGraph}

theorem dependencies_of_absent {taskId : String} (absent : graph.tasks.get? taskId = none) :
    graph.dependenciesOf taskId = [] := by
  rw [dependenciesOf, absent]
  rfl

theorem dependencies_of_present {taskId : String} {task : GenerationTask}
    (found : graph.tasks.get? taskId = some task) :
    graph.dependenciesOf taskId = task.dependencies := by
  rw [dependenciesOf, found]
  rfl

theorem describes_empty : Describes {} where
  named _ _ found := by cases found
  adjacency _ _ := rfl
  reverse _ := rfl
  degrees _ := rfl

/-! ## Adding a task -/

theorem add_edges (taskId : String) (deps : List String) (graph : DependencyGraph) :
    deps.foldl (addEdge taskId) graph =
      { graph with
        adjacencyList :=
          deps.foldl (fun table depId => table.append depId taskId) graph.adjacencyList
        reverseAdjacencyList :=
          deps.foldl (fun table depId => table.append taskId depId) graph.reverseAdjacencyList
        inDegree :=
          deps.foldl (fun table _ => table.set taskId (table.getD taskId 0 + 1))
            graph.inDegree } := by
  induction deps generalizing graph with
  | nil => rfl
  | cons dep rest ih => exact ih (graph.addEdge taskId dep)

theorem add_task_tasks (task : GenerationTask) :
    (graph.addTask task).tasks = graph.tasks.set task.id task := by
  rw [addTask, add_edges]

theorem add_task_order (task : GenerationTask) :
    (graph.addTask task).topologicalOrder = graph.topologicalOrder := by
  rw [addTask, add_edges]

theorem add_task_reverse (task : GenerationTask) (other : String) :
    (graph.addTask task).reverseAdjacencyList.listed other =
      if other = task.id then
        graph.reverseAdjacencyList.listed task.id ++ task.dependencies
      else graph.reverseAdjacencyList.listed other := by
  rw [addTask, add_edges]
  exact OrderedDict.listed_append_all task.id other task.dependencies graph.reverseAdjacencyList

theorem add_task_dependencies (task : GenerationTask) (other : String) :
    (graph.addTask task).dependenciesOf other =
      if other = task.id then task.dependencies else graph.dependenciesOf other := by
  unfold dependenciesOf
  rw [add_task_tasks, OrderedDict.get_set]
  split <;> rfl

theorem describes_add_iff (describes : Describes graph) (task : GenerationTask) :
    Describes (graph.addTask task) ↔ graph.dependenciesOf task.id = [] := by
  constructor
  · intro after
    have listed := after.reverse task.id
    rw [add_task_reverse, if_pos rfl, add_task_dependencies, if_pos rfl, describes.reverse]
      at listed
    exact List.append_left_eq_self.mp listed
  · intro nothing
    constructor
    · intro taskId found known
      rw [add_task_tasks, OrderedDict.get_set] at known
      split at known
      next same =>
        cases known
        exact same.symm
      · exact describes.named taskId found known
    · intro depId taskId
      rw [add_task_dependencies, addTask, add_edges]
      refine (OrderedDict.count_append_each task.id taskId depId task.dependencies
        graph.adjacencyList).trans ?_
      rw [describes.adjacency]
      split
      next same => rw [same, nothing, List.count_nil, Nat.zero_add]
      · rw [Nat.add_zero]
    · intro taskId
      rw [add_task_reverse, add_task_dependencies, describes.reverse, describes.reverse, nothing,
        List.nil_append]
    · intro taskId
      rw [add_task_tasks, OrderedDict.get_set, addTask, add_edges]
      have started : (graph.inDegree.set task.id (0 : Int)).get? task.id = some 0 :=
        OrderedDict.get_set_self _ _ _
      refine (OrderedDict.get_raise_each task.id taskId task.dependencies _ started).trans ?_
      split
      · simp
      next different => rw [OrderedDict.get_set_other _ _ different, describes.degrees]

end

end DependencyGraph

end AiEnterpriseOs.Generator
