import AiEnterpriseOs.Library.CycleSearch
import AiEnterpriseOs.Library.Layering
import AiEnterpriseOs.Library.PostOrder
import AiEnterpriseOs.Orchestration.Dependencies
import Mathlib.Data.String.Basic
import Mathlib.Data.Finset.Sort

/-!
# The dependency graph as a graph

The cycle search, the topological order and the parallel groups of a pipeline,
against the relation that its tasks declare.
-/

namespace AiEnterpriseOs.Orchestration

open Library

def Pipeline.taskIds (pipeline : Pipeline) : List String :=
  pipeline.allTasks.map fun task => task.id

/-- Every dependency names a task of the pipeline. -/
def Pipeline.Resolvable (pipeline : Pipeline) : Prop :=
  ∀ task ∈ pipeline.allTasks, ∀ dep ∈ task.dependencies, dep ∈ pipeline.taskIds

/-- A task lists the dependency, and it is no self-dependency that the
configuration ignores. -/
def DependsOn (config : DependencyConfig) (pipeline : Pipeline) (taskId dep : String) : Prop :=
  ¬(config.selfDependencyPolicy = .ignore ∧ dep = taskId) ∧
    ∃ task ∈ pipeline.allTasks, task.id = taskId ∧ dep ∈ task.dependencies

def prerequisites (deps : DependencyMap) (taskId : String) : List String :=
  (dependenciesIn deps taskId).map fun dep => dep.taskId

namespace DependencyGraph

/-- `sorted(self.dependencies_of(task_id), key=lambda d: d.task_id)`. -/
def sortedDependencies (graph : DependencyGraph) (taskId : String) : List TaskDependency :=
  (graph.dependenciesOf taskId).insertionSort fun left right => left.taskId ≤ right.taskId

/-- Task ids with dependencies first; `none` where the recursion is deeper than
the tasks are many. -/
def topologicalOrder (graph : DependencyGraph) : Option (List String) :=
  DepthFirst.order some (fun taskId => (graph.sortedDependencies taskId).map fun dep => dep.taskId)
    (graph.pipeline.taskIds.length + 1) graph.pipeline.taskIds

/-- The test of `parallel_groups` on a remaining task. -/
def unblocked (graph : DependencyGraph) (completed : List String) (taskId : String) : Bool :=
  (graph.dependenciesOf taskId).all fun dep =>
    decide (dep.taskId ∈ completed) || dep.type == "optional"

def parallelGroups (graph : DependencyGraph) (order : Layering.SetOrder String)
    (completed : List String) : Except PlanError (List (List String)) :=
  let remaining := graph.pipeline.taskIds.toFinset.filter (· ∉ completed)
  match Layering.layers order graph.unblocked remaining.card remaining completed with
  | some layers => .ok layers
  | none =>
    .error (.dependencyError ("Dependency graph cannot be layered " ++
        "(remaining tasks have unsatisfied dependencies)")
      (findCycle graph.pipeline graph.deps))

end DependencyGraph

/-! ## The relation of an accepted pipeline -/

section Relation

variable {config : DependencyConfig} {pipeline : Pipeline} {deps : DependencyMap}

theorem task_map_known (pipeline : Pipeline) {name : String} (listed : name ∈ pipeline.taskIds) :
    (pipeline.taskMap.get? name).isSome := by
  obtain ⟨task, member, rfl⟩ := List.mem_map.mp listed
  have assigned : (task.id, task) ∈ pipeline.allTasks.map fun task => (task.id, task) :=
    List.mem_map.mpr ⟨task, member, rfl⟩
  obtain ⟨value, found⟩ := OrderedDict.get_setAll_present OrderedDict.empty assigned
  exact Option.isSome_iff_exists.mpr ⟨value, found⟩

theorem depends_on_listed {taskId dep : String} (depends : DependsOn config pipeline taskId dep) :
    taskId ∈ pipeline.taskIds := by
  obtain ⟨_, task, present, same, _⟩ := depends
  exact List.mem_map.mpr ⟨task, present, same⟩

theorem depends_on_resolved (resolvable : pipeline.Resolvable) {taskId dep : String}
    (depends : DependsOn config pipeline taskId dep) : dep ∈ pipeline.taskIds := by
  obtain ⟨_, task, present, _, named⟩ := depends
  exact resolvable task present dep named

theorem mem_prerequisites_iff (resolvable : pipeline.Resolvable)
    (accepted : validateTasks config pipeline.taskMap pipeline.allTasks OrderedDict.empty =
      .ok deps) (taskId dep : String) :
    dep ∈ prerequisites deps taskId ↔ DependsOn config pipeline taskId dep := by
  have admitted := (validate_tasks_accepts_iff _ _).mp ⟨deps, accepted⟩
  rw [prerequisites, List.mem_map]
  constructor
  · rintro ⟨entry, recorded, rfl⟩
    obtain ⟨task, present, same, name, named, proper, rfl⟩ :=
      (mem_recorded_iff accepted taskId entry).mp recorded
    refine ⟨?_, task, present, same.symm, named⟩
    rintro ⟨_, self⟩
    exact proper.1 (self.trans same)
  · rintro ⟨unignored, task, present, same, named⟩
    refine ⟨{ taskId := dep }, (mem_recorded_iff accepted taskId _).mpr ?_, rfl⟩
    refine ⟨task, present, same.symm, dep, named, ?_, rfl⟩
    constructor
    · intro self
      exact unignored ⟨(admitted task present dep named).1 self, self.trans same⟩
    · exact task_map_known pipeline (resolvable task present dep named)

theorem visit_eq_search (deps : DependencyMap) (depth : Nat) (path visited : List String)
    (taskId : String) :
    visit deps depth path visited taskId =
      CycleSearch.search (prerequisites deps) depth path visited taskId := by
  induction depth generalizing path visited taskId with
  | zero =>
    unfold visit CycleSearch.search
    rfl
  | succ depth ih =>
    unfold visit CycleSearch.search
    simp only [ih, prerequisites, List.foldlM_map]

theorem find_cycle_eq_find (pipeline : Pipeline) (deps : DependencyMap) : findCycle pipeline deps =
      CycleSearch.find (prerequisites deps) pipeline.taskIds.length pipeline.taskIds := by
  have searched : pipeline.allTasks.foldlM
        (fun seen task => visit deps pipeline.allTasks.length [] seen task.id) [] =
      pipeline.taskIds.foldlM
        (CycleSearch.search (prerequisites deps) pipeline.taskIds.length []) [] := by
    simp only [visit_eq_search, Pipeline.taskIds, List.foldlM_map, List.length_map]
  unfold findCycle CycleSearch.find
  rw [searched]
  cases pipeline.taskIds.foldlM
      (CycleSearch.search (prerequisites deps) pipeline.taskIds.length []) [] with
  | error cycle => rfl
  | ok visited => rfl

theorem edge_eq_depends_on (resolvable : pipeline.Resolvable)
    (accepted : validateTasks config pipeline.taskMap pipeline.allTasks OrderedDict.empty =
      .ok deps) : CycleSearch.Edge (prerequisites deps) = DependsOn config pipeline := by
  funext taskId dep
  exact propext (mem_prerequisites_iff resolvable accepted taskId dep)

theorem find_cycle_nonempty_iff (resolvable : pipeline.Resolvable)
    (accepted : validateTasks config pipeline.taskMap pipeline.allTasks OrderedDict.empty =
      .ok deps) :
    findCycle pipeline deps ≠ [] ↔
      ∃ taskId, Relation.TransGen (DependsOn config pipeline) taskId taskId := by
  rw [find_cycle_eq_find, ← edge_eq_depends_on resolvable accepted]
  apply CycleSearch.find_nonempty_iff
  · intro taskId _ dep recorded
    exact depends_on_resolved resolvable
      ((mem_prerequisites_iff resolvable accepted taskId dep).mp recorded)
  · intro taskId unknown
    apply List.eq_nil_iff_forall_not_mem.mpr
    intro dep recorded
    exact unknown
      (depends_on_listed ((mem_prerequisites_iff resolvable accepted taskId dep).mp recorded))

theorem find_cycle_closed (resolvable : pipeline.Resolvable)
    (accepted : validateTasks config pipeline.taskMap pipeline.allTasks OrderedDict.empty =
      .ok deps) (found : findCycle pipeline deps ≠ []) :
    CycleSearch.IsClosedPath (DependsOn config pipeline) (findCycle pipeline deps) := by
  rw [find_cycle_eq_find] at found ⊢
  rw [← edge_eq_depends_on resolvable accepted]
  exact CycleSearch.find_closed found

theorem acyclic_builds (resolvable : pipeline.Resolvable)
    (acyclic : TopologicalSort.Acyclic (DependsOn config pipeline)) :
    ∃ graph, DependencyGraph.build pipeline config = .ok graph := by
  obtain ⟨deps, accepted⟩ : ∃ deps, validateTasks config pipeline.taskMap pipeline.allTasks
      OrderedDict.empty = .ok deps := by
    apply (validate_tasks_accepts_iff _ _).mpr
    intro task present name named
    constructor
    · intro self
      by_contra refused
      rw [self] at named
      exact acyclic task.id (Relation.TransGen.single
        ⟨fun ignored => refused ignored.1, task, present, rfl, named⟩)
    · intro _ unknown
      have known := task_map_known pipeline (resolvable task present name named)
      rw [unknown] at known
      cases known
  have empty : findCycle pipeline deps = [] := by
    by_contra found
    obtain ⟨taskId, cyclic⟩ := (find_cycle_nonempty_iff resolvable accepted).mp found
    exact acyclic taskId cyclic
  have valid : validate pipeline config = .ok deps := by
    unfold validate
    rw [accepted]
    simp [empty]
  unfold DependencyGraph.build
  split
  next error refused =>
    rw [valid] at refused
    cases refused
  next found => exact ⟨_, rfl⟩

end Relation

/-! ## Orders and layers -/

namespace DependencyGraph

variable {graph : DependencyGraph}

/-- The relation that the tasks of the graph declare. -/
def Declared (graph : DependencyGraph) : String → String → Prop :=
  DependsOn graph.config graph.pipeline

theorem mem_sorted_iff (resolvable : graph.pipeline.Resolvable) (taskId dep : String) :
    dep ∈ (graph.sortedDependencies taskId).map (fun dep => dep.taskId) ↔
      graph.Declared taskId dep := by
  rw [Declared, ← mem_prerequisites_iff resolvable (validate_recorded graph.valid)]
  have arranged : (graph.sortedDependencies taskId).Perm (graph.dependenciesOf taskId) :=
    List.perm_insertionSort _ _
  exact (arranged.map fun dep => dep.taskId).mem_iff

theorem topological_order_complete (unique : graph.pipeline.taskIds.Nodup)
    (resolvable : graph.pipeline.Resolvable)
    (acyclic : TopologicalSort.Acyclic graph.Declared) :
    ∃ order, graph.topologicalOrder = some order ∧ order.Perm graph.pipeline.taskIds ∧
      TopologicalSort.DependenciesFirst graph.Declared order := by
  let sorted : String → List String :=
    fun taskId => (graph.sortedDependencies taskId).map fun dep => dep.taskId
  have edges : DepthFirst.Edge some sorted = graph.Declared := by
    funext taskId dep
    simp [DepthFirst.Edge, sorted, ← mem_sorted_iff resolvable]
  have needs : DepthFirst.DependsOn some sorted = graph.Declared := by
    funext taskId dep
    simp [DepthFirst.DependsOn, sorted, ← mem_sorted_iff resolvable]
  have spreads : ∀ taskId dep, taskId ∈ graph.pipeline.taskIds →
      DepthFirst.Edge some sorted taskId dep → dep ∈ graph.pipeline.taskIds := by
    intro taskId dep _ edge
    rw [edges] at edge
    exact depends_on_resolved resolvable edge
  have covered : ∀ taskId, taskId ∈ graph.pipeline.taskIds →
      DepthFirst.Covered some graph.pipeline.taskIds.toFinset taskId := by
    intro taskId listed item same
    cases same
    exact List.mem_toFinset.mpr listed
  have room : graph.pipeline.taskIds.toFinset.card < graph.pipeline.taskIds.length + 1 :=
    Nat.lt_succ_of_le (List.toFinset_card_le _)
  obtain ⟨order, ordered⟩ : ∃ order, graph.topologicalOrder = some order := by
    apply DepthFirst.order_returns_on _ room covered
    intro taskId listed item same dep depends
    cases same
    exact covered dep (spreads taskId dep (List.mem_toFinset.mp listed) ⟨taskId, rfl, depends⟩)
  have injective : ∀ first second item : String, some first = some item →
      some second = some item → first = second := by
    intro first second item left right
    exact Option.some.inj (left.trans right.symm)
  obtain ⟨once, known, first⟩ := DepthFirst.order_settled injective (edges ▸ acyclic) spreads
    (fun taskId listed => listed) ordered
  refine ⟨order, ordered, (List.perm_ext_iff_of_nodup once unique).mpr ?_, needs ▸ first⟩
  intro taskId
  constructor
  · intro member
    obtain ⟨name, listed, same⟩ := known taskId member
    exact Option.some.inj same ▸ listed
  · intro listed
    exact DepthFirst.order_complete ordered listed rfl

theorem unblocked_iff (graph : DependencyGraph) (completed : List String) (taskId : String) :
    graph.unblocked completed taskId = true ↔
      ∀ dep ∈ graph.dependenciesOf taskId, dep.taskId ∈ completed := by
  unfold unblocked
  rw [List.all_eq_true]
  apply forall_congr'
  intro dep
  apply forall_congr'
  intro member
  have required := validate_required graph.valid taskId dep member
  simp [required]

theorem unblocked_iff_declared (resolvable : graph.pipeline.Resolvable)
    (completed : List String) (taskId : String) :
    graph.unblocked completed taskId = true ↔
      ∀ dep, graph.Declared taskId dep → dep ∈ completed := by
  have recorded := mem_prerequisites_iff resolvable (validate_recorded graph.valid) taskId
  rw [unblocked_iff]
  constructor
  · intro all dep declared
    obtain ⟨entry, member, rfl⟩ := List.mem_map.mp ((recorded dep).mpr declared)
    exact all entry member
  · intro all dep member
    exact all dep.taskId ((recorded dep.taskId).mp (List.mem_map.mpr ⟨dep, member, rfl⟩))

theorem parallel_groups_layered (unique : graph.pipeline.taskIds.Nodup)
    (resolvable : graph.pipeline.Resolvable)
    (acyclic : TopologicalSort.Acyclic graph.Declared) (order : Layering.SetOrder String)
    (completed : List String) :
    ∃ layers, graph.parallelGroups order completed = .ok layers ∧
      layers.flatten.Perm (graph.pipeline.taskIds.filter (· ∉ completed)) ∧
      (∀ layer ∈ layers, layer ≠ []) ∧
      ∀ index layer, layers[index]? = some layer → ∀ taskId, taskId ∈ layer ↔
        taskId ∈ graph.readyTasks (completed ++ (layers.take index).flatten) [] := by
  have progress : ∀ done : List String,
      (∃ taskId ∈ graph.pipeline.taskIds.toFinset, taskId ∉ done) →
        ∃ taskId ∈ graph.pipeline.taskIds.toFinset, taskId ∉ done ∧
          graph.unblocked done taskId := by
    rintro done ⟨start, listed, undone⟩
    obtain ⟨taskId, left, independent⟩ := TopologicalSort.exists_independent acyclic
      (graph.pipeline.taskIds.toFinset.filter (· ∉ done))
      ⟨start, Finset.mem_filter.mpr ⟨listed, undone⟩⟩
    obtain ⟨known, waiting⟩ := Finset.mem_filter.mp left
    refine ⟨taskId, known, waiting, (unblocked_iff_declared resolvable done taskId).mpr ?_⟩
    intro dep declared
    by_contra later
    exact independent dep (Finset.mem_filter.mpr
      ⟨List.mem_toFinset.mpr (depends_on_resolved resolvable declared), later⟩) declared
  obtain ⟨layers, found, layered⟩ :=
    Layering.layers_layered order progress _ completed le_rfl
  refine ⟨layers, ?_, ?_, layered.nonempty, ?_⟩
  · unfold parallelGroups
    dsimp only
    rw [found]
  · apply (List.perm_ext_iff_of_nodup layered.flatten_nodup (unique.filter _)).mpr
    intro taskId
    rw [layered.mem_flatten_iff, List.mem_toFinset, List.mem_filter, decide_eq_true_iff]
  · intro index layer taken taskId
    rw [layered.mem_layer_iff taken, mem_ready_tasks, unblocked_iff, List.mem_toFinset,
      Pipeline.taskIds, List.mem_map]
    simp

end DependencyGraph

/-! ## Agreement -/

/-- The three traversals and the ready query agree on the relation that the
tasks declare. -/
theorem dependency_graph_conforms (pipeline : Pipeline) (config : DependencyConfig)
    (unique : pipeline.taskIds.Nodup) (resolvable : pipeline.Resolvable) :
    (∀ deps, validateTasks config pipeline.taskMap pipeline.allTasks OrderedDict.empty = .ok deps →
        (findCycle pipeline deps ≠ [] ↔
          ∃ taskId, Relation.TransGen (DependsOn config pipeline) taskId taskId) ∧
        (findCycle pipeline deps ≠ [] →
          CycleSearch.IsClosedPath (DependsOn config pipeline) (findCycle pipeline deps))) ∧
      (TopologicalSort.Acyclic (DependsOn config pipeline) →
        ∃ graph, DependencyGraph.build pipeline config = .ok graph ∧
          (∃ order, graph.topologicalOrder = some order ∧ order.Perm pipeline.taskIds ∧
            TopologicalSort.DependenciesFirst (DependsOn config pipeline) order) ∧
          ∀ (order : Layering.SetOrder String) (completed : List String),
            ∃ layers, graph.parallelGroups order completed = .ok layers ∧
              layers.flatten.Perm (pipeline.taskIds.filter (· ∉ completed)) ∧
              (∀ layer ∈ layers, layer ≠ []) ∧
              ∀ index layer, layers[index]? = some layer → ∀ taskId, taskId ∈ layer ↔
                taskId ∈ graph.readyTasks (completed ++ (layers.take index).flatten) []) := by
  constructor
  · intro deps accepted
    exact ⟨find_cycle_nonempty_iff resolvable accepted, find_cycle_closed resolvable accepted⟩
  · intro acyclic
    obtain ⟨graph, built⟩ := acyclic_builds resolvable acyclic
    obtain ⟨rfl, rfl⟩ := DependencyGraph.build_ok built
    refine ⟨graph, built, ?_, ?_⟩
    · exact DependencyGraph.topological_order_complete unique resolvable acyclic
    · exact DependencyGraph.parallel_groups_layered unique resolvable acyclic

def diamondPipeline : Pipeline where
  id := "diamond"
  stages :=
    [{ id := "s1"
       tasks := [{ id := "d", dependencies := ["b", "c"] }, { id := "b", dependencies := ["a"] }] },
     { id := "s2"
       tasks := [{ id := "c", dependencies := ["a"] }, { id := "a" }] }]

def reverseAlphabetical : Layering.SetOrder String where
  list := fun names => names.sort (· ≥ ·)
  nodup := fun names => names.sort_nodup (· ≥ ·)
  mem := fun _ _ => Finset.mem_sort (· ≥ ·)

theorem diamond_acyclic : TopologicalSort.Acyclic (DependsOn {} diamondPipeline) := by
  apply TopologicalSort.acyclic_of_rank
    fun taskId => if taskId = "a" then 0 else if taskId = "d" then 2 else 1
  rintro taskId dep ⟨_, task, present, rfl, named⟩
  revert dep
  revert task
  decide

theorem diamond_graph_conforms : ∃ graph, DependencyGraph.build diamondPipeline {} = .ok graph ∧
      (∃ order, graph.topologicalOrder = some order ∧ order.Perm ["d", "b", "c", "a"]) ∧
      ∃ layers, graph.parallelGroups reverseAlphabetical ["a"] = .ok layers ∧
        layers.flatten.Perm ["d", "b", "c"] := by
  have distinct : diamondPipeline.taskIds.Nodup := by decide
  have resolvable : diamondPipeline.Resolvable := by
    unfold Pipeline.Resolvable
    decide
  obtain ⟨graph, built, ⟨order, ordered, all, _⟩, layered⟩ :=
    (dependency_graph_conforms diamondPipeline {} distinct resolvable).2 diamond_acyclic
  obtain ⟨layers, found, rest, _⟩ := layered reverseAlphabetical ["a"]
  exact ⟨graph, built, ⟨order, ordered, all⟩, layers, found, rest⟩

end AiEnterpriseOs.Orchestration
