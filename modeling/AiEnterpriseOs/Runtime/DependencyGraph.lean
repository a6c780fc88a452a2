import AiEnterpriseOs.Library.OrderedDict
import AiEnterpriseOs.Library.TopologicalSort

/-!
# The dependency graph of the runtime

Node table and registration order are kept apart: a dependency can bring a
component into the table that the order does not list.
-/

namespace AiEnterpriseOs.Runtime

open Library

inductive GraphError where
  | unknownComponents (name : String) (missing : Finset String)
  | cyclic (cycles : List (List String))
  | keyError (name : String)
  | recursionDepth
  deriving DecidableEq

/-- The order in which a loop over a set of names takes them. -/
structure SetListing where
  list : Finset String → List String
  mem : ∀ names name, name ∈ list names ↔ name ∈ names

inductive MissingDependencyPolicy where
  | raise
  | warn
  | skip
  deriving DecidableEq

structure RuntimeDependencyGraph where
  nodes : OrderedDict String (Finset String)
  order : List String
  missingDependencyPolicy : MissingDependencyPolicy
  cycleDetection : Bool

namespace RuntimeDependencyGraph

def created : RuntimeDependencyGraph :=
  { nodes := OrderedDict.empty
    order := []
    missingDependencyPolicy := .raise
    cycleDetection := true }

def addComponent (graph : RuntimeDependencyGraph) (name : String)
    (dependencies : List String) : RuntimeDependencyGraph :=
  if (graph.nodes.get? name).isSome then
    { graph with nodes := graph.nodes.set name dependencies.toFinset }
  else
    { graph with
      order := graph.order ++ [name]
      nodes := graph.nodes.set name dependencies.toFinset }

/-- `deps.discard(name)` for every entry. -/
def discard (name : String) (nodes : OrderedDict String (Finset String)) :
    OrderedDict String (Finset String) where
  entries := nodes.entries.map fun entry => (entry.1, entry.2.erase name)
  distinct := by
    have sameKeys : (nodes.entries.map fun entry => (entry.1, entry.2.erase name)).map Prod.fst =
        nodes.entries.map Prod.fst := by
      simp [Function.comp_def]
    rw [sameKeys]
    exact nodes.distinct

def removeComponent (graph : RuntimeDependencyGraph) (name : String) :
    RuntimeDependencyGraph :=
  if (graph.nodes.get? name).isNone then graph
  else
    { graph with
      order := graph.order.erase name
      nodes := discard name (graph.nodes.erase name) }

def addDependency (graph : RuntimeDependencyGraph) (name dependency : String) :
    RuntimeDependencyGraph :=
  { graph with nodes := graph.nodes.set name (insert dependency (graph.nodes.getD name ∅)) }

/-- `_resolve_dependencies`. -/
def resolve (graph : RuntimeDependencyGraph) (name : String) : Except GraphError (Finset String) :=
  let deps := graph.nodes.getD name ∅
  let known := graph.nodes.keys.toFinset
  if deps ⊆ known then .ok deps
  else if graph.missingDependencyPolicy = .raise then
    .error (.unknownComponents name (deps \ known))
  else .ok (deps ∩ known)

variable (listing : SetListing)

/-- `visit` of `detect_cycles`, with the visited nodes and the cycles so far.
The depth bound is the number of nodes that can still be entered. -/
def visit (graph : RuntimeDependencyGraph) :
    Nat → List String → Finset String × List (List String) → String →
      Except GraphError (Finset String × List (List String))
  | depth, stack, (visited, cycles), node =>
    if node ∈ stack then
      let cycle := stack.drop (stack.idxOf node) ++ [node]
      .ok (visited, if cycle ∈ cycles then cycles else cycles ++ [cycle])
    else if node ∈ visited then .ok (visited, cycles)
    else
      match depth with
      | 0 => .error .recursionDepth
      | depth + 1 =>
        match graph.resolve node with
        | .error error => .error error
        | .ok deps =>
          (listing.list deps).foldlM (visit graph depth (stack ++ [node]))
            (insert node visited, cycles)

def detectCycles (graph : RuntimeDependencyGraph) : Except GraphError (List (List String)) :=
  (graph.order.foldlM (graph.visit listing graph.nodes.keys.length []) (∅, [])).map Prod.snd

/-- What `_resolve_dependencies` returns where it does not raise. -/
def resolved (graph : RuntimeDependencyGraph) (name : String) : Finset String :=
  match graph.resolve name with
  | .ok deps => deps
  | .error _ => ∅

/-- The first name that raises while the tables of in-degrees and dependents are
filled. -/
def tablesError (graph : RuntimeDependencyGraph) : Option GraphError :=
  (graph.order.findSome? fun name =>
    match graph.resolve name with
    | .ok _ => none
    | .error error => some error).or
  (graph.order.findSome? fun name =>
    ((listing.list (graph.resolved name)).find? fun dep => dep ∉ graph.order).map .keyError)

def topologicalOrder (graph : RuntimeDependencyGraph) : Except GraphError (List String) :=
  let sorted : Except GraphError (List String) :=
    match graph.tablesError listing with
    | some error => .error error
    | none =>
      .ok (TopologicalSort.sortQueue
        (TopologicalSort.dependentsOf graph.resolved graph.order) graph.order.length
        (fun name => ((graph.resolved name).card : Int))
        (graph.order.filter fun name => ((graph.resolved name).card : Int) = 0) [])
  if graph.cycleDetection then
    match graph.detectCycles listing with
    | .error error => .error error
    | .ok [] => sorted
    | .ok cycles => .error (.cyclic cycles)
  else sorted

def reverseOrder (graph : RuntimeDependencyGraph) : Except GraphError (List String) :=
  (graph.topologicalOrder listing).map List.reverse

def dependencies (graph : RuntimeDependencyGraph) (name : String) : Finset String :=
  graph.nodes.getD name ∅

section Updates

variable (graph : RuntimeDependencyGraph) (name other : String)

theorem is_some_iff_key : (graph.nodes.get? name).isSome = true ↔ name ∈ graph.nodes.keys := by
  rw [OrderedDict.mem_keys_iff, Option.isSome_iff_exists]

theorem add_component_order (fresh : name ∉ graph.nodes.keys) (deps : List String) :
    (graph.addComponent name deps).order = graph.order ++ [name] := by
  rw [addComponent, if_neg fun present => fresh ((is_some_iff_key graph name).mp present)]

theorem add_component_nodes (deps : List String) :
    (graph.addComponent name deps).nodes = graph.nodes.set name deps.toFinset := by
  unfold addComponent
  split <;> rfl

theorem add_component_dependencies (deps : List String) :
    (graph.addComponent name deps).dependencies other =
      if other = name then deps.toFinset else graph.dependencies other := by
  rw [dependencies, add_component_nodes, OrderedDict.getD_set]
  rfl

theorem add_dependency_dependencies (dependency : String) :
    (graph.addDependency name dependency).dependencies other =
      if other = name then insert dependency (graph.dependencies name)
      else graph.dependencies other :=
  OrderedDict.getD_set graph.nodes name other _ ∅

theorem get_discard (nodes : OrderedDict String (Finset String)) :
    (discard name nodes).get? other = (nodes.get? other).map fun deps => deps.erase name :=
  OrderedDict.lookup_map (fun deps : Finset String => deps.erase name) other nodes.entries

theorem keys_discard (nodes : OrderedDict String (Finset String)) :
    (discard name nodes).keys = nodes.keys := by
  simp [OrderedDict.keys, discard, Function.comp_def]

theorem remove_component_present (present : name ∈ graph.nodes.keys) : graph.removeComponent name =
      { graph with
        order := graph.order.erase name
        nodes := discard name (graph.nodes.erase name) } := by
  have found := (is_some_iff_key graph name).mpr present
  have known : ¬(graph.nodes.get? name).isNone = true := by
    rw [Option.isNone_iff_eq_none, ← Option.not_isSome_iff_eq_none]
    exact not_not.mpr found
  rw [removeComponent, if_neg known]

theorem remove_component_order (present : name ∈ graph.nodes.keys) :
    (graph.removeComponent name).order = graph.order.erase name := by
  rw [remove_component_present graph name present]

theorem remove_component_nodes (present : name ∈ graph.nodes.keys) :
    (graph.removeComponent name).nodes = discard name (graph.nodes.erase name) := by
  rw [remove_component_present graph name present]

theorem remove_component_keys (present : name ∈ graph.nodes.keys) :
    (graph.removeComponent name).nodes.keys = graph.nodes.keys.erase name := by
  rw [remove_component_nodes graph name present, keys_discard, OrderedDict.keys_erase]

theorem remove_component_dependencies (present : name ∈ graph.nodes.keys) :
    (graph.removeComponent name).dependencies other =
      if other = name then ∅ else (graph.dependencies other).erase name := by
  rw [dependencies, remove_component_nodes graph name present, OrderedDict.getD, get_discard,
    OrderedDict.get_erase]
  by_cases same : other = name
  · rw [if_pos same, if_pos same]
    rfl
  · rw [if_neg same, if_neg same, dependencies, OrderedDict.getD]
    cases graph.nodes.get? other with
    | none => exact (Finset.erase_empty name).symm
    | some deps => rfl

end Updates

section Order

variable {graph : RuntimeDependencyGraph}

/-- The components of the order are nodes, and so are their dependencies. -/
structure Linked (graph : RuntimeDependencyGraph) : Prop where
  distinct : graph.order.Nodup
  listed : ∀ name ∈ graph.order, name ∈ graph.nodes.keys
  closed : ∀ name ∈ graph.order, ∀ dep ∈ graph.dependencies name, dep ∈ graph.order

def Edge (graph : RuntimeDependencyGraph) (name dependency : String) : Prop :=
  name ∈ graph.order ∧ dependency ∈ graph.dependencies name

theorem resolve_linked (linked : Linked graph) {name : String} (listed : name ∈ graph.order) :
    graph.resolve name = .ok (graph.dependencies name) := by
  have known : graph.nodes.getD name ∅ ⊆ graph.nodes.keys.toFinset := by
    intro dep depends
    exact List.mem_toFinset.mpr (linked.listed dep (linked.closed name listed dep depends))
  rw [resolve, if_pos known]
  rfl

theorem resolved_linked (linked : Linked graph) {name : String} (listed : name ∈ graph.order) :
    graph.resolved name = graph.dependencies name := by
  rw [resolved, resolve_linked linked listed]

theorem fold_keeps_cycles {Item : Type}
    {body : Finset String × List (List String) → Item →
      Except GraphError (Finset String × List (List String))}
    {cycles : List (List String)} (items : List Item)
    (each : ∀ item ∈ items, ∀ visited, ∃ after, body (visited, cycles) item = .ok (after, cycles))
    (visited : Finset String) :
    ∃ after, items.foldlM body (visited, cycles) = .ok (after, cycles) := by
  induction items generalizing visited with
  | nil => exact ⟨visited, rfl⟩
  | cons item rest ih =>
    obtain ⟨next, here⟩ := each item List.mem_cons_self visited
    obtain ⟨after, later⟩ := ih (fun other member => each other (List.mem_cons_of_mem _ member))
      next
    refine ⟨after, ?_⟩
    rw [List.foldlM_cons, here]
    exact later

/-- In an acyclic graph no node is reached from itself, so no visit finds a
cycle, and the stack never holds more nodes than there are. -/
theorem visit_acyclic (linked : Linked graph) (acyclic : TopologicalSort.Acyclic graph.Edge)
    (cycles : List (List String)) (depth : Nat) (stack : List String) (visited : Finset String)
    (node : String) (listed : node ∈ graph.order) (distinct : stack.Nodup)
    (reaches : ∀ name ∈ stack, Relation.TransGen graph.Edge name node)
    (inside : ∀ name ∈ stack, name ∈ graph.order)
    (enough : graph.order.length ≤ stack.length + depth) :
    ∃ after, graph.visit listing depth stack (visited, cycles) node = .ok (after, cycles) := by
  have fresh : ∀ (name : String) (stack : List String),
      (∀ other ∈ stack, Relation.TransGen graph.Edge other name) → name ∉ stack := by
    intro name stack reaches again
    exact acyclic name (reaches name again)
  induction depth generalizing stack visited node with
  | zero =>
    rw [visit, if_neg (fresh node stack reaches)]
    split
    · exact ⟨visited, rfl⟩
    · have entered : (node :: stack).Nodup :=
        List.nodup_cons.mpr ⟨fresh node stack reaches, distinct⟩
      have within : (node :: stack).length ≤ graph.order.length := by
        apply (List.subperm_of_subset entered ?_).length_le
        intro name member
        rcases List.mem_cons.mp member with same | below
        · rw [same]
          exact listed
        · exact inside name below
      rw [List.length_cons] at within
      omega
  | succ depth ih =>
    rw [visit, if_neg (fresh node stack reaches)]
    split
    · exact ⟨visited, rfl⟩
    · rw [resolve_linked linked listed]
      apply fold_keeps_cycles
      intro dep member visited
      have depends : graph.Edge node dep := ⟨listed, (listing.mem _ _).mp member⟩
      apply ih
      · exact linked.closed node listed dep depends.2
      · rw [List.nodup_append]
        refine ⟨distinct, List.nodup_singleton node, ?_⟩
        intro name below other here same
        rw [same, List.mem_singleton.mp here] at below
        exact fresh node stack reaches below
      · intro name member
        rcases List.mem_append.mp member with below | here
        · exact (reaches name below).tail depends
        · rw [List.mem_singleton.mp here]
          exact Relation.TransGen.single depends
      · intro name member
        rcases List.mem_append.mp member with below | here
        · exact inside name below
        · rw [List.mem_singleton.mp here]
          exact listed
      · rw [List.length_append, List.length_singleton]
        omega

theorem detect_cycles_acyclic (linked : Linked graph)
    (acyclic : TopologicalSort.Acyclic graph.Edge) :
    graph.detectCycles listing = .ok [] := by
  have enough : graph.order.length ≤ graph.nodes.keys.length :=
    (List.subperm_of_subset linked.distinct linked.listed).length_le
  obtain ⟨after, found⟩ := @fold_keeps_cycles String
    (graph.visit listing graph.nodes.keys.length []) [] graph.order (by
      intro name listed visited
      apply visit_acyclic listing linked acyclic [] _ [] visited name listed List.nodup_nil
      · nofun
      · nofun
      · simpa using enough) ∅
  rw [detectCycles, found]
  rfl

theorem tables_error_none (linked : Linked graph) : graph.tablesError listing = none := by
  rw [tablesError, Option.or_eq_none_iff]
  constructor
  · rw [List.findSome?_eq_none_iff]
    intro name listed
    rw [resolve_linked linked listed]
  · rw [List.findSome?_eq_none_iff]
    intro name listed
    rw [Option.map_eq_none_iff, List.find?_eq_none]
    intro dep member
    rw [listing.mem, resolved_linked linked listed] at member
    simpa using linked.closed name listed dep member

theorem topological_order_complete (linked : Linked graph)
    (acyclic : TopologicalSort.Acyclic graph.Edge) :
    ∃ sorted, graph.topologicalOrder listing = .ok sorted ∧ sorted.Perm graph.order ∧
      TopologicalSort.DependenciesFirst graph.Edge sorted := by
  have edges : ∀ name ∈ graph.order, ∀ dep, dep ∈ graph.resolved name ↔ graph.Edge name dep := by
    intro name listed dep
    rw [resolved_linked linked listed]
    exact ⟨fun depends => ⟨listed, depends⟩, And.right⟩
  have sameEdges : TopologicalSort.Acyclic
      fun name dep => name ∈ graph.order ∧ dep ∈ graph.resolved name := by
    intro name cyclic
    apply acyclic name
    have within : (fun name dep => name ∈ graph.order ∧ dep ∈ graph.resolved name) ≤
        graph.Edge :=
      fun _ _ edge => (edges _ edge.1 _).mp edge.2
    exact Relation.TransGen.mono within _ _ cyclic
  obtain ⟨perm, first⟩ := @TopologicalSort.sort_queue_complete String _ graph.resolved
    graph.order linked.distinct (by
      intro name listed dep depends
      exact linked.closed name listed dep ((edges name listed dep).mp depends).2) sameEdges
  refine ⟨_, ?_, perm, ?_⟩
  · rw [topologicalOrder, detect_cycles_acyclic listing linked acyclic,
      tables_error_none listing linked]
    dsimp only
    rw [ite_self]
  · apply first.imp_of_mem
    intro earlier later member _ independent depends
    exact independent ((edges earlier depends.1 later).mpr depends)

end Order

end RuntimeDependencyGraph

end AiEnterpriseOs.Runtime
