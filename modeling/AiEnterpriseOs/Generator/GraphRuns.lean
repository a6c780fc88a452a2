import AiEnterpriseOs.Generator.DependencyGraph
import AiEnterpriseOs.Library.CycleSearch
import AiEnterpriseOs.Library.Runs

/-!
# Runs of the generator's dependency graph

Additions, removals and sorts in any order. The tables keep describing the
tasks as long as no id is added twice, and only what the tables know and nothing
else needs is removed; a stored order is right until a task comes that does not
fit into it.
-/

namespace AiEnterpriseOs.Generator

open Library

namespace DependencyGraph

variable {graph : DependencyGraph} {taskId : String}

/-! ## Removing a task -/

theorem drop_dependencies (taskId : String) (dependents : List String) (graph : DependencyGraph) :
    let dropped := dependents.foldl (dropDependency taskId) graph
    dropped.tasks = graph.tasks ∧ dropped.adjacencyList = graph.adjacencyList ∧
      dropped.reverseAdjacencyList =
        dependents.foldl (fun table => table.remove taskId) graph.reverseAdjacencyList ∧
      ∀ other ∉ dependents, dropped.inDegree.get? other = graph.inDegree.get? other := by
  induction dependents generalizing graph with
  | nil => exact ⟨rfl, rfl, rfl, fun _ _ => rfl⟩
  | cons first rest ih =>
    obtain ⟨tasks, adjacency, reverse, degrees⟩ := ih (dropDependency taskId graph first)
    have step : (dropDependency taskId graph first).tasks = graph.tasks ∧
        (dropDependency taskId graph first).adjacencyList = graph.adjacencyList ∧
        (dropDependency taskId graph first).reverseAdjacencyList =
          graph.reverseAdjacencyList.remove taskId first := by
      unfold dropDependency
      split
      · exact ⟨rfl, rfl, rfl⟩
      next absent => exact ⟨rfl, rfl, by rw [OrderedDict.remove, if_neg absent]⟩
    refine ⟨tasks.trans step.1, adjacency.trans step.2.1, ?_, ?_⟩
    · rw [List.foldl_cons, reverse, step.2.2, List.foldl_cons]
    · intro other unnamed
      rw [List.mem_cons, not_or] at unnamed
      rw [List.foldl_cons, degrees other unnamed.2]
      unfold dropDependency
      split
      · exact OrderedDict.get_set_other _ _ unnamed.1
      · rfl

theorem drop_dependents (taskId : String) (dependencies : List String) (graph : DependencyGraph) :
    dependencies.foldl (dropDependent taskId) graph =
      { graph with
        adjacencyList :=
          dependencies.foldl (fun table => table.remove taskId) graph.adjacencyList } := by
  induction dependencies generalizing graph with
  | nil => rfl
  | cons first rest ih =>
    rw [List.foldl_cons, ih]
    rfl

theorem drop_edges (graph : DependencyGraph) (taskId : String) :
    let dropped := graph.dropEdges taskId
    dropped.tasks = graph.tasks ∧ dropped.reverseAdjacencyList =
        (graph.adjacencyList.listed taskId).foldl (fun table => table.remove taskId)
          graph.reverseAdjacencyList ∧
      dropped.adjacencyList =
        (dropped.reverseAdjacencyList.listed taskId).foldl (fun table => table.remove taskId)
          graph.adjacencyList ∧
      ∀ other ∉ graph.adjacencyList.listed taskId,
        dropped.inDegree.get? other = graph.inDegree.get? other := by
  obtain ⟨tasks, adjacency, reverse, degrees⟩ :=
    drop_dependencies taskId (graph.adjacencyList.listed taskId) graph
  unfold dropEdges
  dsimp only
  rw [drop_dependents]
  exact ⟨tasks, reverse, by rw [adjacency], degrees⟩

/-- The graph after a removal that does not raise. -/
def removed (graph : DependencyGraph) (taskId : String) : DependencyGraph :=
  let dropped := graph.dropEdges taskId
  { dropped with
    tasks := dropped.tasks.erase taskId
    adjacencyList := dropped.adjacencyList.erase taskId
    reverseAdjacencyList := dropped.reverseAdjacencyList.erase taskId
    inDegree := dropped.inDegree.erase taskId
    topologicalOrder := none }

theorem drop_edges_degree (known : graph.inDegree.get? taskId ≠ none) (other : String) :
    (graph.dropEdges other).inDegree.get? taskId ≠ none := by
  have each : ∀ (dependents : List String) (start : DependencyGraph),
      start.inDegree.get? taskId ≠ none →
        (dependents.foldl (dropDependency other) start).inDegree.get? taskId ≠ none := by
    intro dependents
    induction dependents with
    | nil => exact fun _ known => known
    | cons first rest ih =>
      intro start known
      apply ih
      unfold dropDependency
      split
      · rw [OrderedDict.get_set]
        split
        · exact Option.some_ne_none _
        · exact known
      · exact known
  unfold dropEdges
  dsimp only
  rw [drop_dependents]
  exact each _ graph known

theorem remove_task_absent (absent : graph.tasks.get? taskId = none) :
    graph.removeTask taskId = (.ok (), graph) := by
  rw [removeTask, absent]
  rfl

theorem remove_task_present {task : GenerationTask} (found : graph.tasks.get? taskId = some task)
    (adjacent : graph.adjacencyList.get? taskId ≠ none)
    (needed : graph.reverseAdjacencyList.get? taskId ≠ none)
    (degree : graph.inDegree.get? taskId ≠ none) :
    graph.removeTask taskId = (.ok (), graph.removed taskId) := by
  obtain ⟨_, reverse, adjacency, _⟩ := drop_edges graph taskId
  have adjacentStill : (graph.dropEdges taskId).adjacencyList.get? taskId ≠ none := by
    rw [adjacency]
    exact fun none => adjacent ((OrderedDict.get_remove_each_none_iff _ _ _ _).mp none)
  have neededStill : (graph.dropEdges taskId).reverseAdjacencyList.get? taskId ≠ none := by
    rw [reverse]
    exact fun none => needed ((OrderedDict.get_remove_each_none_iff _ _ _ _).mp none)
  have degreeStill := drop_edges_degree degree taskId
  rw [removeTask, found]
  dsimp only
  rw [if_neg (by simp), if_neg (by simpa using adjacentStill), if_neg (by simpa using neededStill),
    if_neg (by simpa using degreeStill)]
  rfl

theorem remove_task_raises {task : GenerationTask} (found : graph.tasks.get? taskId = some task)
    (unknown : graph.adjacencyList.get? taskId = none ∨
      graph.reverseAdjacencyList.get? taskId = none) :
    (graph.removeTask taskId).1 = .error (.keyError taskId) := by
  obtain ⟨_, reverse, adjacency, _⟩ := drop_edges graph taskId
  rw [removeTask, found]
  dsimp only
  rw [if_neg (by simp)]
  by_cases adjacent : graph.adjacencyList.get? taskId = none
  · have gone : (graph.dropEdges taskId).adjacencyList.get? taskId = none := by
      rw [adjacency]
      exact (OrderedDict.get_remove_each_none_iff _ _ _ _).mpr adjacent
    rw [if_pos (by simpa using gone)]
  · have still : (graph.dropEdges taskId).adjacencyList.get? taskId ≠ none := by
      rw [adjacency]
      exact fun none => adjacent ((OrderedDict.get_remove_each_none_iff _ _ _ _).mp none)
    have gone : (graph.dropEdges taskId).reverseAdjacencyList.get? taskId = none := by
      rw [reverse]
      exact (OrderedDict.get_remove_each_none_iff _ _ _ _).mpr (unknown.resolve_left adjacent)
    rw [if_neg (by simpa using still), if_pos (by simpa using gone)]

theorem removed_dependencies (graph : DependencyGraph) (taskId other : String) :
    (graph.removed taskId).dependenciesOf other =
      if other = taskId then [] else graph.dependenciesOf other := by
  have tasks : (graph.removed taskId).tasks = graph.tasks.erase taskId :=
    congrArg (OrderedDict.erase · taskId) (drop_edges graph taskId).1
  unfold dependenciesOf
  rw [tasks, OrderedDict.get_erase]
  split <;> rfl

theorem describes_removed_iff (describes : Describes graph) : Describes (graph.removed taskId) ↔
      ∀ other, other ≠ taskId → taskId ∉ graph.dependenciesOf other := by
  obtain ⟨tasks, reverse, adjacency, degrees⟩ := drop_edges graph taskId
  constructor
  · intro after other different depends
    -- every listing of the task among the dependencies of the other is gone
    have listed := after.reverse other
    rw [removed_dependencies, if_neg different, removed, OrderedDict.listed_erase,
      if_neg different, reverse] at listed
    have counted := congrArg (List.count taskId) listed
    rw [OrderedDict.count_remove_each, if_pos rfl, describes.adjacency, describes.reverse,
      Nat.sub_self] at counted
    exact List.count_pos_iff.mpr depends |>.ne counted
  · intro unneeded
    have unlisted : ∀ other, other ≠ taskId → other ∉ graph.adjacencyList.listed taskId := by
      intro other different
      rw [← List.count_eq_zero, describes.adjacency, List.count_eq_zero]
      exact unneeded other different
    constructor
    · intro other task found
      have same : (graph.removed taskId).tasks = graph.tasks.erase taskId :=
        congrArg (OrderedDict.erase · taskId) tasks
      rw [same, OrderedDict.get_erase] at found
      split at found
      · cases found
      · exact describes.named other task found
    · intro depId other
      rw [removed_dependencies, removed, OrderedDict.listed_erase]
      by_cases gone : depId = taskId
      · rw [if_pos gone, gone, List.count_nil]
        split
        · rfl
        next different => exact (List.count_eq_zero.mpr (unneeded other different)).symm
      · rw [if_neg gone, adjacency, OrderedDict.count_remove_each, describes.adjacency]
        by_cases own : other = taskId
        · rw [if_pos own, if_pos own, List.count_nil, reverse, OrderedDict.count_remove_each,
            if_neg gone, describes.reverse, Nat.sub_self]
        · rw [if_neg own, if_neg own, describes.adjacency]
    · intro other
      rw [removed_dependencies, removed, OrderedDict.listed_erase]
      by_cases own : other = taskId
      · rw [if_pos own, if_pos own]
      · rw [if_neg own, if_neg own, reverse,
          OrderedDict.listed_remove_each _ (unlisted other own), describes.reverse]
    · intro other
      have same : (graph.removed taskId).tasks = graph.tasks.erase taskId :=
        congrArg (OrderedDict.erase · taskId) tasks
      rw [same, OrderedDict.get_erase, removed, OrderedDict.get_erase]
      by_cases own : other = taskId
      · rw [if_pos own, if_pos own, Option.map_none]
      · rw [if_neg own, if_neg own, degrees other (unlisted other own), describes.degrees]

/-! ## Sorting -/

/-- The current tasks depend on current tasks, and on none in a cycle. -/
def Sortable (graph : DependencyGraph) : Prop :=
  TopologicalSort.Sortable graph.tasks.keys graph.dependenciesOf

/-- All current tasks, each after those it depends on. -/
structure IsOrder (graph : DependencyGraph) (order : List String) : Prop where
  all : order.Perm graph.tasks.keys
  first : TopologicalSort.DependenciesFirst (fun taskId depId =>
    depId ∈ graph.dependenciesOf taskId) order

theorem mem_tasks_of_dependency {depId : String}
    (depends : depId ∈ graph.dependenciesOf taskId) : taskId ∈ graph.tasks.keys := by
  by_contra absent
  rw [dependencies_of_absent ((OrderedDict.get_eq_none_iff _ _).mpr absent)] at depends
  cases depends

theorem Describes.mem_adjacency_iff (describes : Describes graph) (depId taskId : String) :
    taskId ∈ graph.adjacencyList.listed depId ↔ depId ∈ graph.dependenciesOf taskId := by
  rw [← List.count_pos_iff, describes.adjacency, List.count_pos_iff]

theorem dfs_search (next : String → List String) (depth : Nat) {stack path : List String}
    {visited : List String} {node : String} (same : ∀ other, other ∈ stack ↔ other ∈ path)
    (entered : path ⊆ visited) (fresh : node ∉ visited) :
    (dfs next depth stack visited node).toOption =
      (CycleSearch.search next depth path visited node).toOption := by
  have outside : node ∉ path := fun member => fresh (entered member)
  induction depth generalizing stack path visited node with
  | zero =>
    unfold dfs CycleSearch.search
    rw [if_neg outside, if_neg fresh]
  | succ depth ih =>
    unfold dfs CycleSearch.search
    rw [if_neg outside, if_neg fresh]
    have sameBelow : ∀ other, other ∈ node :: stack ↔ other ∈ path ++ [node] := by
      intro other
      rw [List.mem_cons, List.mem_append, List.mem_singleton, same]
      exact or_comm
    have enteredBelow : path ++ [node] ⊆ node :: visited := by
      intro other member
      rcases List.mem_append.mp member with above | here
      · exact List.mem_cons_of_mem _ (entered above)
      · rw [List.mem_singleton.mp here]
        exact List.mem_cons_self
    apply CycleSearch.fold_alike _ _ (next node) enteredBelow
    · intro seen neighbor above
      by_cases known : neighbor ∈ seen
      · rw [if_neg (not_not.mpr known)]
        unfold CycleSearch.search
        by_cases again : neighbor ∈ node :: stack
        · rw [if_pos again, if_pos ((sameBelow neighbor).mp again)]
          rfl
        · rw [if_neg again, if_neg fun member => again ((sameBelow neighbor).mpr member),
            if_pos known]
      · rw [if_pos known]
        exact ih sameBelow above known fun member => known (above member)
    · intro seen neighbor after above searched other member
      exact CycleSearch.search_keeps depth searched (above member)

theorem ends_iff_to_option (search : Except (List String) (List String)) :
    (∃ seen, search = .ok seen) ↔ ∃ seen, search.toOption = some seen := by
  cases search with
  | error cycle => simp [Except.toOption]
  | ok seen => simp [Except.toOption]

theorem search_cycle_iff (describes : Describes graph) : (∃ seen, graph.searchCycle = .ok seen) ↔
      TopologicalSort.Acyclic fun taskId depId => depId ∈ graph.dependenciesOf taskId := by
  have start : (fun _ : List String => True) [] := trivial
  have alike : graph.searchCycle.toOption = (graph.tasks.keys.foldlM
      (CycleSearch.search graph.adjacencyList.listed graph.nodeBound []) []).toOption := by
    refine CycleSearch.fold_alike ?_ (fun _ _ _ _ _ => trivial) _ start
    intro seen taskId _
    by_cases known : taskId ∈ seen
    · rw [if_neg (not_not.mpr known)]
      unfold CycleSearch.search
      rw [if_neg List.not_mem_nil, if_pos known]
    · rw [if_pos known]
      exact dfs_search _ _ (fun _ => Iff.rfl) (List.nil_subset _) known
  have ends : (∃ seen, graph.searchCycle = .ok seen) ↔ ∃ seen, graph.tasks.keys.foldlM
      (CycleSearch.search graph.adjacencyList.listed graph.nodeBound []) [] = .ok seen := by
    rw [ends_iff_to_option, alike, ← ends_iff_to_option]
  have edges : CycleSearch.Edge graph.adjacencyList.listed =
      Function.swap fun taskId depId => depId ∈ graph.dependenciesOf taskId := by
    funext depId taskId
    exact propext (describes.mem_adjacency_iff depId taskId)
  rw [ends, CycleSearch.search_ends_iff, edges]
  · apply forall_congr'
    intro taskId
    rw [Relation.transGen_swap]
  · intro depId _ taskId depends
    exact mem_tasks_of_dependency ((describes.mem_adjacency_iff depId taskId).mp depends)
  · unfold nodeBound
    omega
  · intro taskId cyclic
    rw [edges, Relation.transGen_swap] at cyclic
    obtain ⟨depId, depends, _⟩ := Relation.TransGen.head'_iff.mp cyclic
    exact mem_tasks_of_dependency depends

theorem Describes.mirrors (describes : Describes graph) :
    TopologicalSort.Mirrors graph.tasks.keys graph.dependenciesOf graph.adjacencyList.listed where
  distinct := graph.tasks.distinct
  counted depId taskId := by
    rw [describes.adjacency]
    split
    · rfl
    next absent =>
      rw [dependencies_of_absent ((OrderedDict.get_eq_none_iff _ _).mpr absent), List.count_nil]

theorem Describes.degree (describes : Describes graph) (taskId : String) :
    graph.inDegree.getD taskId 0 = (graph.dependenciesOf taskId).length := by
  rw [OrderedDict.getD, describes.degrees, dependenciesOf]
  cases graph.tasks.get? taskId <;> rfl

theorem Describes.mem_start_iff (describes : Describes graph) (taskId : String) :
    taskId ∈ graph.startQueue ↔ taskId ∈ graph.tasks.keys ∧ graph.dependenciesOf taskId = [] := by
  have entry : taskId ∈ graph.startQueue ↔ graph.inDegree.get? taskId = some 0 := by
    rw [OrderedDict.get_eq_some_iff, startQueue]
    simp
  rw [entry, describes.degrees, OrderedDict.mem_keys_iff, dependenciesOf]
  cases graph.tasks.get? taskId with
  | none => simp
  | some task => simp

theorem Describes.counting (describes : Describes graph) :
    TopologicalSort.Counting graph.tasks.keys graph.dependenciesOf
      (fun taskId => graph.inDegree.getD taskId 0) graph.startQueue [] := by
  apply TopologicalSort.counting_start
  · exact graph.inDegree.distinct.sublist (List.filter_sublist.map _)
  · exact describes.mem_start_iff
  · exact fun taskId _ => describes.degree taskId

theorem Describes.congr (describes : Describes graph) {other : DependencyGraph}
    (tasks : other.tasks = graph.tasks) (adjacency : other.adjacencyList = graph.adjacencyList)
    (reverse : other.reverseAdjacencyList = graph.reverseAdjacencyList)
    (degrees : other.inDegree = graph.inDegree) : Describes other := by
  have same : other.dependenciesOf = graph.dependenciesOf := by
    funext taskId
    rw [dependenciesOf, tasks]
    rfl
  constructor
  · rw [tasks]
    exact describes.named
  · rw [adjacency, same]
    exact describes.adjacency
  · rw [reverse, same]
    exact describes.reverse
  · rw [degrees, tasks]
    exact describes.degrees

structure Sorted (graph next : DependencyGraph) (order : Option (List String)) : Prop where
  tasks : next.tasks = graph.tasks
  adjacency : next.adjacencyList = graph.adjacencyList
  reverse : next.reverseAdjacencyList = graph.reverseAdjacencyList
  degrees : next.inDegree = graph.inDegree
  stored : next.topologicalOrder = order

theorem topological_sort_stored {order : List String}
    (stored : graph.topologicalOrder = some order) :
    graph.topologicalSort = (.ok order, graph) := by
  rw [topologicalSort, stored]

theorem topological_sort_cyclic (unstored : graph.topologicalOrder = none)
    {cycleNodes : List String} (searched : graph.searchCycle = .error cycleNodes) :
    graph.topologicalSort = (.error (.cycles cycleNodes),
        { graph with cycleDetected := true, cycleNodes := cycleNodes }) := by
  rw [topologicalSort, hasCycle, unstored]
  dsimp only
  rw [searched]
  rfl

theorem topological_sort_acyclic (unstored : graph.topologicalOrder = none)
    {seen : List String} (searched : graph.searchCycle = .ok seen) :
    let checked := { graph with cycleDetected := false, cycleNodes := [] }
    graph.topologicalSort =
      if graph.kahnOrder.length ≠ graph.tasks.keys.length then
        (.error (.disconnected (graph.tasks.keys.toFinset \ graph.kahnOrder.toFinset)), checked)
      else (.ok graph.kahnOrder, { checked with topologicalOrder := some graph.kahnOrder }) := by
  rw [topologicalSort, hasCycle, unstored]
  dsimp only
  rw [searched]
  rfl

theorem topological_sort_computed (describes : Describes graph)
    (unstored : graph.topologicalOrder = none) :
    (∃ order, graph.topologicalSort.1 = .ok order ∧ graph.IsOrder order ∧ graph.Sortable ∧
        Sorted graph graph.topologicalSort.2 (some order)) ∨
      ∃ error, graph.topologicalSort.1 = .error error ∧ ¬graph.Sortable ∧
        Sorted graph graph.topologicalSort.2 none := by
  cases searched : graph.searchCycle with
  | error cycleNodes =>
    right
    rw [topological_sort_cyclic unstored searched]
    refine ⟨_, rfl, ?_, ⟨rfl, rfl, rfl, rfl, unstored⟩⟩
    intro sortable
    obtain ⟨seen, ended⟩ := (search_cycle_iff describes).mpr fun taskId cyclic =>
      sortable.acyclic taskId (cyclic.lift (fun taskId => taskId) fun taskId depId depends =>
        ⟨mem_tasks_of_dependency depends, depends⟩)
    rw [searched] at ended
    cases ended
  | ok seen =>
    have enough : graph.tasks.keys.length ≤ ([] : List String).length + graph.nodeBound := by
      unfold nodeBound
      omega
    obtain ⟨degrees, counting⟩ := describes.counting.run describes.mirrors graph.nodeBound enough
    have once : graph.kahnOrder.Nodup := by
      have distinct := counting.distinct
      rwa [List.append_nil] at distinct
    have inside : graph.kahnOrder ⊆ graph.tasks.keys := by
      intro taskId listed
      exact ((counting.ready taskId).mp (List.mem_append_left _ listed)).1
    have sub := List.subperm_of_subset once inside
    rw [topological_sort_acyclic unstored searched]
    by_cases full : graph.kahnOrder.length = graph.tasks.keys.length
    · left
      have all : graph.kahnOrder.Perm graph.tasks.keys := sub.perm_of_length_le full.ge
      have sortable : graph.Sortable := counting.sorted_iff.mp fun taskId listed =>
        all.mem_iff.mpr listed
      rw [if_neg (not_not.mpr full)]
      exact ⟨graph.kahnOrder, rfl, ⟨all, counting.first⟩, sortable, rfl, rfl, rfl, rfl, rfl⟩
    · right
      rw [if_pos full]
      refine ⟨_, rfl, ?_, ⟨rfl, rfl, rfl, rfl, unstored⟩⟩
      intro sortable
      have all : graph.tasks.keys ⊆ graph.kahnOrder := counting.sorted_iff.mpr sortable
      exact full (Nat.le_antisymm sub.length_le
        (List.subperm_of_subset graph.tasks.distinct all).length_le)

/-! ## Stored orders -/

/-- The task stands in the order after everything it depends on. -/
def Fits (order : List String) (task : GenerationTask) : Prop :=
  task.id ∈ order ∧ ∀ depId ∈ task.dependencies, order.idxOf depId < order.idxOf task.id

/-- The order has exactly the current tasks, and every one of them fits. -/
structure Fitted (graph : DependencyGraph) (order : List String) : Prop where
  all : order.Perm graph.tasks.keys
  first : ∀ taskId, ∀ depId ∈ graph.dependenciesOf taskId, order.idxOf depId < order.idxOf taskId

theorem fitted_iff (graph : DependencyGraph) (order : List String) :
    graph.Fitted order ↔ graph.IsOrder order ∧ graph.Sortable := by
  constructor
  · intro fitted
    refine ⟨⟨fitted.all, ?_⟩, ?_, ?_⟩
    · apply List.pairwise_iff_getElem.mpr
      intro early late earlyAt lateAt before depends
      have once : order.Nodup := fitted.all.nodup_iff.mpr graph.tasks.distinct
      have later := fitted.first _ _ depends
      rw [once.idxOf_getElem, once.idxOf_getElem] at later
      omega
    · intro taskId _ depId depends
      apply fitted.all.mem_iff.mp
      apply List.idxOf_lt_length_iff.mp
      exact (fitted.first taskId depId depends).trans_le List.idxOf_le_length
    · apply TopologicalSort.acyclic_of_rank order.idxOf
      exact fun taskId depId depends => fitted.first taskId depId depends.2
  · intro sorted
    obtain ⟨ordered, sortable⟩ := sorted
    refine ⟨ordered.all, ?_⟩
    intro taskId depId depends
    have listed := mem_tasks_of_dependency depends
    have taskAt := List.idxOf_lt_length_of_mem (ordered.all.mem_iff.mpr listed)
    have depAt := List.idxOf_lt_length_of_mem
      (ordered.all.mem_iff.mpr (sortable.closed taskId listed depId depends))
    by_contra late
    rcases Nat.lt_or_eq_of_le (Nat.not_lt.mp late) with before | same
    · have apart := List.pairwise_iff_getElem.mp ordered.first _ _ taskAt depAt before
      rw [List.getElem_idxOf, List.getElem_idxOf] at apart
      exact apart depends
    · have equal : taskId = depId :=
        (List.idxOf_inj (ordered.all.mem_iff.mpr listed)).mp same
      rw [← equal] at depends
      exact sortable.acyclic taskId (.single ⟨listed, depends⟩)

end DependencyGraph

/-! ## Sessions -/

inductive GraphCall where
  | add (task : GenerationTask)
  | remove (taskId : String)
  | sort

/-- A graph, and the tasks added to it since its order was stored. -/
structure GraphSession where
  graph : DependencyGraph := {}
  added : List GenerationTask := []

namespace GraphSession

def step (session : GraphSession) : GraphCall → GraphSession
  | .add task =>
    { graph := session.graph.addTask task
      added := session.added ++ [task] }
  | .remove taskId => { session with graph := (session.graph.removeTask taskId).2 }
  | .sort =>
    { graph := session.graph.topologicalSort.2
      added := if session.graph.topologicalOrder.isNone then [] else session.added }

/-- What is asked of a call: no removal raises, the tables describe the tasks
afterwards, and a sort returns an order of them or finds rightly that there is
none. -/
def Right (session : GraphSession) (call : GraphCall) : Prop :=
  (session.step call).graph.Describes ∧
    match call with
    | .add _ => True
    | .remove taskId => (session.graph.removeTask taskId).1 = .ok ()
    | .sort =>
      match session.graph.topologicalSort.1 with
      | .ok order => session.graph.IsOrder order ∧ session.graph.Sortable
      | .error _ => ¬session.graph.Sortable

/-- No dependencies are known of an id that is added; a task that is removed has
entries in both tables and no other task depends on it; the tasks added since an
order was stored fit into it when it is asked for. -/
def Tame (session : GraphSession) : GraphCall → Prop
  | .add task => session.graph.dependenciesOf task.id = []
  | .remove taskId => session.graph.tasks.get? taskId ≠ none →
      session.graph.adjacencyList.get? taskId ≠ none ∧
        session.graph.reverseAdjacencyList.get? taskId ≠ none ∧
        ∀ other, other ≠ taskId → taskId ∉ session.graph.dependenciesOf other
  | .sort => ∀ order, session.graph.topologicalOrder = some order →
      ∀ task ∈ session.added, DependencyGraph.Fits order task

/-- The tables describe the tasks, and a stored order is right as long as the
tasks added since fit into it. -/
structure Tracks (session : GraphSession) : Prop where
  describes : session.graph.Describes
  stored : ∀ order, session.graph.topologicalOrder = some order → order ⊆ session.graph.tasks.keys ∧
      ((∀ task ∈ session.added, DependencyGraph.Fits order task) ↔ session.graph.Fitted order)

variable {session : GraphSession}

theorem tracks_start : Tracks {} where
  describes := DependencyGraph.describes_empty
  stored _ stored := by cases stored

theorem fitted_add_iff {graph : DependencyGraph} {order : List String}
    (inside : order ⊆ graph.tasks.keys) (task : GenerationTask)
    (nothing : graph.dependenciesOf task.id = []) :
    (graph.addTask task).Fitted order ↔ graph.Fitted order ∧ DependencyGraph.Fits order task := by
  have keys : (graph.addTask task).tasks.keys =
      if task.id ∈ graph.tasks.keys then graph.tasks.keys
      else graph.tasks.keys ++ [task.id] := by
    rw [DependencyGraph.add_task_tasks, OrderedDict.keys_set]
  constructor
  · intro fitted
    have listed : task.id ∈ order := by
      apply fitted.all.mem_iff.mpr
      rw [DependencyGraph.add_task_tasks, OrderedDict.mem_keys_set]
      exact Or.inl rfl
    have all := fitted.all
    rw [keys, if_pos (inside listed)] at all
    refine ⟨⟨all, ?_⟩, listed, ?_⟩
    · intro taskId depId depends
      have apart : taskId ≠ task.id := by
        intro same
        rw [same, nothing] at depends
        cases depends
      apply fitted.first
      rw [DependencyGraph.add_task_dependencies, if_neg apart]
      exact depends
    · intro depId depends
      apply fitted.first
      rw [DependencyGraph.add_task_dependencies, if_pos rfl]
      exact depends
  · intro both
    obtain ⟨fitted, listed, before⟩ := both
    constructor
    · rw [keys, if_pos (inside listed)]
      exact fitted.all
    · intro taskId depId depends
      rw [DependencyGraph.add_task_dependencies] at depends
      split at depends
      next same =>
        rw [same]
        exact before depId depends
      · exact fitted.first taskId depId depends

theorem tracks_add (tracks : Tracks session) {task : GenerationTask}
    (tame : session.Tame (.add task)) : Tracks (session.step (.add task)) := by
  constructor
  · exact (DependencyGraph.describes_add_iff tracks.describes task).mpr tame
  · intro order stored
    rw [step, DependencyGraph.add_task_order] at stored
    obtain ⟨inside, fits⟩ := tracks.stored order stored
    constructor
    · intro taskId listed
      rw [step, DependencyGraph.add_task_tasks, OrderedDict.mem_keys_set]
      exact Or.inr (inside listed)
    · rw [step, fitted_add_iff inside task tame, ← fits, List.forall_mem_append,
        List.forall_mem_singleton]

theorem tracks_remove (tracks : Tracks session) {taskId : String}
    (tame : session.Tame (.remove taskId)) : Tracks (session.step (.remove taskId)) := by
  cases found : session.graph.tasks.get? taskId with
  | none =>
    have same : session.step (.remove taskId) = session := by
      rw [step, DependencyGraph.remove_task_absent found]
    rw [same]
    exact tracks
  | some task =>
    obtain ⟨adjacent, needed, unneeded⟩ := tame (by simp [found])
    have degree : session.graph.inDegree.get? taskId ≠ none := by
      rw [tracks.describes.degrees, found]
      exact Option.some_ne_none _
    rw [step, DependencyGraph.remove_task_present found adjacent needed degree]
    constructor
    · exact (DependencyGraph.describes_removed_iff tracks.describes).mpr unneeded
    · intro order stored
      cases stored

theorem tracks_sort (tracks : Tracks session) : Tracks (session.step .sort) := by
  cases stored : session.graph.topologicalOrder with
  | some order =>
    have same : session.step .sort = session := by
      rw [step, DependencyGraph.topological_sort_stored stored, stored]
      rfl
    rw [same]
    exact tracks
  | none =>
    rw [step, stored]
    have computed := DependencyGraph.topological_sort_computed tracks.describes stored
    rcases computed with ⟨order, _, ordered, sortable, sorted⟩ | ⟨error, _, _, sorted⟩
    · refine ⟨tracks.describes.congr sorted.tasks sorted.adjacency sorted.reverse sorted.degrees,
        ?_⟩
      intro other kept
      dsimp only at kept
      rw [sorted.stored] at kept
      cases kept
      have fitted := (DependencyGraph.fitted_iff _ _).mpr ⟨ordered, sortable⟩
      refine ⟨?_, iff_of_true (List.forall_mem_nil _) ?_⟩
      · dsimp only
        rw [sorted.tasks]
        exact ordered.all.subset
      · constructor
        · dsimp only
          rw [sorted.tasks]
          exact fitted.all
        · unfold DependencyGraph.dependenciesOf
          dsimp only
          rw [sorted.tasks]
          exact fitted.first
    · refine ⟨tracks.describes.congr sorted.tasks sorted.adjacency sorted.reverse sorted.degrees,
        ?_⟩
      intro other kept
      dsimp only at kept
      rw [sorted.stored] at kept
      cases kept

theorem tracks_step (tracks : Tracks session) (call : GraphCall) (tame : session.Tame call) :
    Tracks (session.step call) := by
  cases call with
  | add task => exact tracks_add tracks tame
  | remove taskId => exact tracks_remove tracks tame
  | sort => exact tracks_sort tracks

theorem tame_iff_right (tracks : Tracks session) (call : GraphCall) :
    session.Tame call ↔ session.Right call := by
  constructor
  · intro tame
    refine ⟨(tracks_step tracks call tame).describes, ?_⟩
    cases call with
    | add task => trivial
    | remove taskId =>
      cases found : session.graph.tasks.get? taskId with
      | none => exact congrArg Prod.fst (DependencyGraph.remove_task_absent found)
      | some task =>
        obtain ⟨adjacent, needed, _⟩ := tame (by simp [found])
        have degree : session.graph.inDegree.get? taskId ≠ none := by
          rw [tracks.describes.degrees, found]
          exact Option.some_ne_none _
        exact congrArg Prod.fst (DependencyGraph.remove_task_present found adjacent needed degree)
    | sort =>
      dsimp only
      cases stored : session.graph.topologicalOrder with
      | some order =>
        rw [DependencyGraph.topological_sort_stored stored]
        have fits := (tracks.stored order stored).2
        exact (DependencyGraph.fitted_iff _ _).mp (fits.mp (tame order stored))
      | none =>
        have computed := DependencyGraph.topological_sort_computed tracks.describes stored
        rcases computed with
          ⟨order, returned, ordered, sortable, _⟩ | ⟨error, raised, cyclic, _⟩
        · rw [returned]
          exact ⟨ordered, sortable⟩
        · rw [raised]
          exact cyclic
  · intro right
    cases call with
    | add task => exact (DependencyGraph.describes_add_iff tracks.describes task).mp right.1
    | remove taskId =>
      intro present
      obtain ⟨task, found⟩ := Option.ne_none_iff_exists'.mp present
      have returned := right.2
      dsimp only at returned
      have adjacent : session.graph.adjacencyList.get? taskId ≠ none := by
        intro missing
        rw [DependencyGraph.remove_task_raises found (Or.inl missing)] at returned
        cases returned
      have needed : session.graph.reverseAdjacencyList.get? taskId ≠ none := by
        intro missing
        rw [DependencyGraph.remove_task_raises found (Or.inr missing)] at returned
        cases returned
      have degree : session.graph.inDegree.get? taskId ≠ none := by
        rw [tracks.describes.degrees, found]
        exact Option.some_ne_none _
      have after := right.1
      rw [step, DependencyGraph.remove_task_present found adjacent needed degree] at after
      exact ⟨adjacent, needed, (DependencyGraph.describes_removed_iff tracks.describes).mp after⟩
    | sort =>
      intro order stored
      have returned := right.2
      dsimp only at returned
      rw [DependencyGraph.topological_sort_stored stored] at returned
      apply (tracks.stored order stored).2.mpr
      exact (DependencyGraph.fitted_iff _ _).mpr returned

/-- All calls of a run do what is asked of them exactly if all of them are tame. -/
theorem graph_calls_right_iff (calls : List GraphCall) :
    StepsMeet step Right {} calls ↔ StepsMeet step Tame {} calls :=
  (steps_meet_congr_of_meets step Tracks (fun _ call tracks tame => tracks_step tracks call tame)
    (fun _ call tracks => tame_iff_right tracks call) {} calls tracks_start).symm

/-- A task that nothing was ever known to depend on cannot be removed. -/
theorem lone_task_removal_raises : ¬StepsMeet step Right {}
      [.add { taskType := "agent", name := "cto" }, .remove "agent:cto"] := by
  intro right
  have raised : (({} : DependencyGraph).addTask { taskType := "agent", name := "cto" }
      |>.removeTask "agent:cto").1 = .error (.keyError "agent:cto") := by decide
  have returned := right.2.1.2
  dsimp only [step] at returned
  rw [raised] at returned
  cases returned

end GraphSession

end AiEnterpriseOs.Generator
