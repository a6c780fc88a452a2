import AiEnterpriseOs.Library.Runs
import AiEnterpriseOs.Runtime.Supervision
import Mathlib.Data.Finset.Sort
import Mathlib.Data.String.Basic

/-!
# The order of a shutdown

A shutdown stops the engines in the reverse of the dependency order. The
registry and the dependency graph are updated together by a registration, and
the graph alone by a declared dependency.
-/

namespace AiEnterpriseOs.Runtime

open Library

/-- What an engine does when it is asked to stop. -/
inductive StopMethod where
  | missing
  | returns
  | raises
  deriving DecidableEq

/-- The listing that takes the names in alphabetical order. -/
def SetListing.sorted : SetListing :=
  { list := fun names => names.sort (· ≤ ·)
    mem := fun _ _ => Finset.mem_sort _ }

namespace RuntimeEngine

variable {Instance : Type} (listing : SetListing) (stopMethod : Instance → StopMethod)

/-- The loop of `_stop_engines`: the engines stopped, and whether the loop was
left without an exception. -/
def stopLoop (runtime : RuntimeEngine Instance) : List String → List String × Bool
  | [] => ([], true)
  | name :: rest =>
    match runtime.engines.get? name with
    | none => stopLoop runtime rest
    | some entry =>
      if stopMethod entry.engine = .raises then ([], false)
      else
        let (stopped, completed) := stopLoop runtime rest
        (name :: stopped, completed)

def stopEngines (runtime : RuntimeEngine Instance) : List String × Bool :=
  let names :=
    match runtime.dependencyGraph.reverseOrder listing with
    | .ok names => names
    | .error _ => []
  runtime.stopLoop stopMethod (if names = [] then runtime.engines.keys else names)

/-- No registered engine raises when it is stopped. -/
def StopsQuietly (runtime : RuntimeEngine Instance) : Prop :=
  ∀ name entry, runtime.engines.get? name = some entry → stopMethod entry.engine ≠ .raises

theorem stop_loop_quiet {runtime : RuntimeEngine Instance}
    (quiet : runtime.StopsQuietly stopMethod) (names : List String)
    (registered : ∀ name ∈ names, name ∈ runtime.engines.keys) :
    runtime.stopLoop stopMethod names = (names, true) := by
  induction names with
  | nil => rfl
  | cons name rest ih =>
    obtain ⟨entry, found⟩ := (OrderedDict.mem_keys_iff _ _).mp (registered name List.mem_cons_self)
    have later := ih (fun other member => registered other (List.mem_cons_of_mem _ member))
    rw [stopLoop, found]
    dsimp only
    rw [if_neg (quiet name entry found), later]

theorem quiet_of_stop_loop {runtime : RuntimeEngine Instance} (names : List String)
    (completed : (runtime.stopLoop stopMethod names).2 = true) {name : String}
    (member : name ∈ names) {entry : RegisteredEngine Instance}
    (found : runtime.engines.get? name = some entry) :
    stopMethod entry.engine ≠ .raises := by
  induction names with
  | nil => cases member
  | cons head rest ih =>
    rw [stopLoop] at completed
    cases here : runtime.engines.get? head with
    | none =>
      rw [here] at completed
      rcases List.mem_cons.mp member with same | later
      · rw [same, here] at found
        cases found
      · exact ih completed later
    | some first =>
      rw [here] at completed
      dsimp only at completed
      by_cases raised : stopMethod first.engine = .raises
      · rw [if_pos raised] at completed
        cases completed
      · rw [if_neg raised] at completed
        rcases List.mem_cons.mp member with same | later
        · rw [same, here] at found
          cases found
          exact raised
        · exact ih completed later

end RuntimeEngine

/-- The runtime with every dependency that was ever declared. -/
structure DeclaredRuntime (Instance : Type) where
  runtime : RuntimeEngine Instance
  declared : List (String × String)

inductive GraphOperation (Instance : Type) where
  | registerEngine (name : String) (engine : Instance)
  | unregisterEngine (name : String)
  | addDependency (component dependsOn : String)

namespace DeclaredRuntime

variable {Instance : Type} (listing : SetListing) (stopMethod : Instance → StopMethod)

def step (state : DeclaredRuntime Instance) : GraphOperation Instance → DeclaredRuntime Instance
  | .registerEngine name engine =>
    { state with runtime := state.runtime.registerEngine name engine }
  | .unregisterEngine name => { state with runtime := state.runtime.unregisterEngine name }
  | .addDependency component dependsOn =>
    { runtime := state.runtime.addDependency component dependsOn
      declared := state.declared ++ [(component, dependsOn)] }

/-- A runtime in which nothing is registered or declared. -/
def started (runtime : RuntimeEngine Instance) : DeclaredRuntime Instance :=
  { runtime :=
      { runtime with
        engines := OrderedDict.empty
        dependencyGraph := RuntimeDependencyGraph.created }
    declared := [] }

def Registered (state : DeclaredRuntime Instance) (name : String) : Prop :=
  name ∈ state.runtime.engines.keys

def DependsOn (state : DeclaredRuntime Instance) (name dependency : String) : Prop :=
  (name, dependency) ∈ state.declared

/-- The topological order has the registered engines, dependencies first. -/
def OrderComplete (state : DeclaredRuntime Instance) : Prop :=
  ∃ sorted, state.runtime.dependencyGraph.topologicalOrder listing = .ok sorted ∧
    sorted.Perm state.runtime.engines.keys ∧
    TopologicalSort.DependenciesFirst state.DependsOn sorted

/-- A shutdown stops the registered engines, dependents first. -/
def StopComplete (state : DeclaredRuntime Instance) : Prop :=
  ∃ stopped, state.runtime.stopEngines listing stopMethod = (stopped, true) ∧
    stopped.Perm state.runtime.engines.keys ∧
    TopologicalSort.DependenciesFirst state.DependsOn stopped.reverse

/-- The operations that keep the declared edges: an engine is registered before
its own dependencies are declared, and an engine that a registered one depends
on is neither replaced nor registered again after its removal. -/
def Permitted (state : DeclaredRuntime Instance) : GraphOperation Instance → Prop
  | .registerEngine name _ =>
    ∀ pair ∈ state.declared, pair.1 ≠ name ∧
      (pair.2 = name → state.Registered pair.1 → ¬state.Registered name ∧
        name ∈ state.runtime.dependencyGraph.dependencies pair.1)
  | .unregisterEngine _ | .addDependency _ _ => True

/-- The tables agree: the graph orders the registered engines, and the edges of
a registered engine are the declared ones as far as their ends are registered. -/
structure Coherent (state : DeclaredRuntime Instance) : Prop where
  ordered : state.runtime.dependencyGraph.order = state.runtime.engines.keys
  known : ∀ name, state.Registered name → name ∈ state.runtime.dependencyGraph.nodes.keys
  named : ∀ name ∈ state.runtime.dependencyGraph.nodes.keys,
    state.Registered name ∨ ∃ dependency, state.DependsOn name dependency
  sound : ∀ name, state.Registered name →
    ∀ dependency ∈ state.runtime.dependencyGraph.dependencies name, state.DependsOn name dependency
  full : ∀ name, state.Registered name → ∀ dependency, state.DependsOn name dependency →
    state.Registered dependency → dependency ∈ state.runtime.dependencyGraph.dependencies name

theorem started_coherent (runtime : RuntimeEngine Instance) : (started runtime).Coherent where
  ordered := rfl
  known := nofun
  named := nofun
  sound := nofun
  full := nofun

theorem add_dependency_coherent {state : DeclaredRuntime Instance} (coherent : state.Coherent)
    (component dependsOn : String) :
    (state.step (.addDependency component dependsOn)).Coherent := by
  have edges := state.runtime.dependencyGraph.add_dependency_dependencies component
  have grown : ∀ name dependency,
      (state.step (.addDependency component dependsOn)).DependsOn name dependency ↔
        state.DependsOn name dependency ∨ name = component ∧ dependency = dependsOn := by
    intro name dependency
    simp [DependsOn, step]
  refine ⟨coherent.ordered, ?_, ?_, ?_, ?_⟩
  · intro name registered
    exact (OrderedDict.mem_keys_set _ _ _ _).mpr (.inr (coherent.known name registered))
  · intro name known
    rcases (OrderedDict.mem_keys_set _ _ _ _).mp known with same | before
    · exact .inr ⟨dependsOn, (grown _ _).mpr (.inr ⟨same, rfl⟩)⟩
    · rcases coherent.named name before with registered | ⟨dependency, declared⟩
      · exact .inl registered
      · exact .inr ⟨dependency, (grown _ _).mpr (.inl declared)⟩
  · intro name registered dependency depends
    rw [grown]
    rw [step, RuntimeEngine.addDependency, edges] at depends
    by_cases same : name = component
    · rw [if_pos same, Finset.mem_insert] at depends
      rcases depends with new | old
      · exact .inr ⟨same, new⟩
      · rw [← same] at old
        exact .inl (coherent.sound name registered dependency old)
    · rw [if_neg same] at depends
      exact .inl (coherent.sound name registered dependency depends)
  · intro name registered dependency declared present
    rw [step, RuntimeEngine.addDependency, edges]
    rcases (grown _ _).mp declared with old | ⟨same, new⟩
    · have kept := coherent.full name registered dependency old present
      by_cases same : name = component
      · rw [if_pos same, ← same]
        exact Finset.mem_insert_of_mem kept
      · rw [if_neg same]
        exact kept
    · rw [if_pos same, new]
      exact Finset.mem_insert_self _ _

theorem unregister_of_absent {state : DeclaredRuntime Instance} {name : String}
    (absent : ¬state.Registered name) : state.step (.unregisterEngine name) = state := by
  have missing : state.runtime.engines.get? name = none := by
    rw [← Option.not_isSome_iff_eq_none, Option.isSome_iff_exists, ← OrderedDict.mem_keys_iff]
    exact absent
  rw [step, RuntimeEngine.unregisterEngine, missing]

theorem unregister_of_registered {state : DeclaredRuntime Instance} {name : String}
    (registered : state.Registered name) :
    (state.step (.unregisterEngine name)).runtime.engines = state.runtime.engines.erase name ∧
      (state.step (.unregisterEngine name)).runtime.dependencyGraph =
        state.runtime.dependencyGraph.removeComponent name := by
  obtain ⟨entry, found⟩ := (OrderedDict.mem_keys_iff _ _).mp registered
  rw [step, RuntimeEngine.unregisterEngine, found]
  exact ⟨rfl, rfl⟩

theorem registered_unregister (state : DeclaredRuntime Instance) (name other : String) :
    (state.step (.unregisterEngine name)).Registered other ↔
      other ≠ name ∧ state.Registered other := by
  by_cases registered : state.Registered name
  · rw [Registered, (unregister_of_registered registered).1, OrderedDict.keys_erase]
    exact List.Nodup.mem_erase_iff state.runtime.engines.distinct
  · rw [unregister_of_absent registered]
    constructor
    · intro present
      refine ⟨?_, present⟩
      intro same
      exact registered (same ▸ present)
    · exact And.right

theorem unregister_coherent {state : DeclaredRuntime Instance} (coherent : state.Coherent)
    (name : String) : (state.step (.unregisterEngine name)).Coherent := by
  by_cases registered : state.Registered name
  · obtain ⟨engines, graph⟩ := unregister_of_registered registered
    have known := coherent.known name registered
    have keys : (state.step (.unregisterEngine name)).runtime.dependencyGraph.nodes.keys =
        state.runtime.dependencyGraph.nodes.keys.erase name := by
      rw [graph, RuntimeDependencyGraph.remove_component_keys _ _ known]
    have edges : ∀ other, other ≠ name →
        (state.step (.unregisterEngine name)).runtime.dependencyGraph.dependencies other =
          (state.runtime.dependencyGraph.dependencies other).erase name := by
      intro other different
      rw [graph, RuntimeDependencyGraph.remove_component_dependencies _ _ _ known, if_neg different]
    have nodes := state.runtime.dependencyGraph.nodes.distinct
    refine ⟨?_, ?_, ?_, ?_, ?_⟩
    · rw [graph, RuntimeDependencyGraph.remove_component_order _ _ known, engines,
        OrderedDict.keys_erase, coherent.ordered]
    · intro other present
      have before := (registered_unregister state name other).mp present
      rw [keys]
      exact (List.Nodup.mem_erase_iff nodes).mpr ⟨before.1, coherent.known other before.2⟩
    · intro other present
      rw [keys] at present
      have before := (List.Nodup.mem_erase_iff nodes).mp present
      rcases coherent.named other before.2 with listed | declared
      · exact .inl ((registered_unregister state name other).mpr ⟨before.1, listed⟩)
      · exact .inr declared
    · intro other present dependency depends
      have before := (registered_unregister state name other).mp present
      rw [edges other before.1] at depends
      exact coherent.sound other before.2 dependency (Finset.mem_of_mem_erase depends)
    · intro other present dependency declared listed
      have before := (registered_unregister state name other).mp present
      have below := (registered_unregister state name dependency).mp listed
      rw [edges other before.1]
      exact Finset.mem_erase_of_ne_of_mem below.1
        (coherent.full other before.2 dependency declared below.2)
  · rw [unregister_of_absent registered]
    exact coherent

theorem register_after_unregister (state : DeclaredRuntime Instance) (name : String)
    (engine : Instance) :
    (state.step (.registerEngine name engine)).runtime.engines.keys =
        (state.step (.unregisterEngine name)).runtime.engines.keys ++ [name] ∧
      (state.step (.registerEngine name engine)).runtime.dependencyGraph =
        (state.step (.unregisterEngine name)).runtime.dependencyGraph.addComponent name [] := by
  constructor
  · apply OrderedDict.keys_set_fresh
    intro present
    exact ((registered_unregister state name name).mp present).1 rfl
  · rfl

theorem registered_register (state : DeclaredRuntime Instance) (name other : String)
    (engine : Instance) :
    (state.step (.registerEngine name engine)).Registered other ↔
      other = name ∨ state.Registered other := by
  rw [Registered, (register_after_unregister state name engine).1, List.mem_append,
    List.mem_singleton]
  have before := registered_unregister state name other
  by_cases same : other = name
  · exact iff_of_true (.inr same) (.inl same)
  · constructor
    · intro present
      exact .inr (before.mp (present.resolve_right same)).2
    · intro present
      exact .inl (before.mpr ⟨same, present.resolve_left same⟩)

/-- Without declared dependencies the name is no node once it is unregistered,
so its registration adds a node and extends the order. -/
theorem register_coherent {state : DeclaredRuntime Instance} (coherent : state.Coherent)
    (name : String) (engine : Instance)
    (permitted : state.Permitted (.registerEngine name engine)) :
    (state.step (.registerEngine name engine)).Coherent := by
  obtain ⟨keys, graph⟩ := register_after_unregister state name engine
  have removed := unregister_coherent coherent name
  let unregistered := state.step (.unregisterEngine name)
  have undeclared : ∀ dependency, ¬state.DependsOn name dependency := by
    intro dependency declared
    exact (permitted _ declared).1 rfl
  have fresh : name ∉ unregistered.runtime.dependencyGraph.nodes.keys := by
    intro known
    rcases removed.named name known with registered | ⟨dependency, declared⟩
    · exact ((registered_unregister state name name).mp registered).1 rfl
    · exact undeclared dependency declared
  have edges : ∀ other,
      (state.step (.registerEngine name engine)).runtime.dependencyGraph.dependencies other =
        if other = name then ∅
        else unregistered.runtime.dependencyGraph.dependencies other := by
    intro other
    rw [graph, RuntimeDependencyGraph.add_component_dependencies]
    rfl
  have nodes : ∀ other,
      other ∈ (state.step (.registerEngine name engine)).runtime.dependencyGraph.nodes.keys ↔
        other = name ∨ other ∈ unregistered.runtime.dependencyGraph.nodes.keys := by
    intro other
    rw [graph, RuntimeDependencyGraph.add_component_nodes]
    exact OrderedDict.mem_keys_set _ _ _ _
  have still : ∀ other, other ≠ name → state.Registered other → unregistered.Registered other :=
    fun other different registered =>
      (registered_unregister state name other).mpr ⟨different, registered⟩
  refine ⟨?_, ?_, ?_, ?_, ?_⟩
  · rw [graph, RuntimeDependencyGraph.add_component_order _ _ fresh, keys]
    exact congrArg (· ++ [name]) removed.ordered
  · intro other registered
    rw [nodes]
    rcases (registered_register state name other engine).mp registered with same | before
    · exact .inl same
    · by_cases same : other = name
      · exact .inl same
      · exact .inr (removed.known other (still other same before))
  · intro other known
    rw [registered_register]
    rcases (nodes other).mp known with same | before
    · exact .inl (.inl same)
    · rcases removed.named other before with registered | declared
      · exact .inl (.inr ((registered_unregister state name other).mp registered).2)
      · exact .inr declared
  · intro other registered dependency depends
    rw [edges] at depends
    by_cases same : other = name
    · rw [if_pos same] at depends
      exact absurd depends (Finset.notMem_empty dependency)
    · rw [if_neg same] at depends
      have before := ((registered_register state name other engine).mp registered).resolve_left same
      exact removed.sound other (still other same before) dependency depends
  · intro other registered dependency declared present
    have different : other ≠ name := by
      intro same
      rw [same] at declared
      exact undeclared dependency declared
    have before :=
      ((registered_register state name other engine).mp registered).resolve_left different
    rw [edges, if_neg different]
    by_cases target : dependency = name
    · -- the name is new to the registry, and its edge is still there
      obtain ⟨absent, kept⟩ := (permitted _ declared).2 target before
      have unchanged : unregistered = state := unregister_of_absent absent
      rw [unchanged, target]
      exact kept
    · have below :=
        ((registered_register state name dependency engine).mp present).resolve_left target
      exact removed.full other (still other different before) dependency declared
        (still dependency target below)

theorem step_coherent (state : DeclaredRuntime Instance) (operation : GraphOperation Instance)
    (coherent : state.Coherent) (permitted : state.Permitted operation) :
    (state.step operation).Coherent := by
  cases operation with
  | registerEngine name engine => exact register_coherent coherent name engine permitted
  | unregisterEngine name => exact unregister_coherent coherent name
  | addDependency component dependsOn =>
    exact add_dependency_coherent coherent component dependsOn

theorem run_coherent (runtime : RuntimeEngine Instance)
    (operations : List (GraphOperation Instance))
    (permitted : StepsMeet step Permitted (started runtime) operations) :
    (runInputs step (started runtime) operations).Coherent :=
  invariant_of_steps_meet step step_coherent _ _ (started_coherent runtime) permitted

theorem order_of_coherent {state : DeclaredRuntime Instance} (coherent : state.Coherent)
    (acyclic : TopologicalSort.Acyclic state.DependsOn)
    (registered : ∀ name dependency, state.DependsOn name dependency →
      state.Registered dependency) :
    state.OrderComplete listing := by
  have listed : ∀ name, name ∈ state.runtime.dependencyGraph.order ↔ state.Registered name := by
    intro name
    rw [coherent.ordered, Registered]
  have linked : state.runtime.dependencyGraph.Linked := by
    refine ⟨?_, ?_, ?_⟩
    · rw [coherent.ordered]
      exact state.runtime.engines.distinct
    · intro name member
      exact coherent.known name ((listed name).mp member)
    · intro name member dependency depends
      rw [listed]
      exact registered name dependency
        (coherent.sound name ((listed name).mp member) dependency depends)
  have declared : state.runtime.dependencyGraph.Edge ≤ state.DependsOn := by
    intro name dependency edge
    exact coherent.sound name ((listed name).mp edge.1) dependency edge.2
  have edgesAcyclic : TopologicalSort.Acyclic state.runtime.dependencyGraph.Edge :=
    fun name cyclic => acyclic name (Relation.TransGen.mono declared _ _ cyclic)
  obtain ⟨sorted, found, perm, first⟩ :=
    RuntimeDependencyGraph.topological_order_complete listing linked edgesAcyclic
  refine ⟨sorted, found, ?_, ?_⟩
  · rw [← coherent.ordered]
    exact perm
  · apply first.imp_of_mem
    intro earlier later member _ independent depends
    have present := (listed earlier).mp (perm.mem_iff.mp member)
    exact independent ⟨perm.mem_iff.mp member,
      coherent.full earlier present later depends (registered earlier later depends)⟩

theorem stop_complete_iff {state : DeclaredRuntime Instance}
    (complete : state.OrderComplete listing) :
    state.StopComplete listing stopMethod ↔ state.runtime.StopsQuietly stopMethod := by
  obtain ⟨sorted, found, perm, first⟩ := complete
  have reversed : sorted.reverse.Perm state.runtime.engines.keys :=
    (List.reverse_perm sorted).trans perm
  have names : (if sorted.reverse = [] then state.runtime.engines.keys else sorted.reverse) =
      sorted.reverse := by
    split
    next empty =>
      rw [empty] at reversed ⊢
      exact List.nil_perm.mp reversed
    next => rfl
  have loop : state.runtime.stopEngines listing stopMethod =
      state.runtime.stopLoop stopMethod sorted.reverse := by
    rw [RuntimeEngine.stopEngines, RuntimeDependencyGraph.reverseOrder, found]
    exact congrArg _ names
  constructor
  · rintro ⟨stopped, ran, _, _⟩ name entry here
    have completed : (state.runtime.stopLoop stopMethod sorted.reverse).2 = true := by
      rw [← loop, ran]
    have member : name ∈ sorted.reverse :=
      reversed.mem_iff.mpr ((OrderedDict.mem_keys_iff _ _).mpr ⟨entry, here⟩)
    exact RuntimeEngine.quiet_of_stop_loop stopMethod _ completed member here
  · intro quiet
    refine ⟨sorted.reverse, ?_, reversed, ?_⟩
    · rw [loop]
      exact RuntimeEngine.stop_loop_quiet stopMethod quiet _
        fun name member => reversed.mem_iff.mp member
    · rw [List.reverse_reverse]
      exact first

/-- After registrations that keep the declared edges, the order is complete, and
a shutdown is unless an engine raises. -/
theorem shutdown_complete (runtime : RuntimeEngine Instance)
    (operations : List (GraphOperation Instance))
    (permitted : StepsMeet step Permitted (started runtime) operations)
    (acyclic : TopologicalSort.Acyclic (runInputs step (started runtime) operations).DependsOn)
    (registered : ∀ name dependency,
      (runInputs step (started runtime) operations).DependsOn name dependency →
        (runInputs step (started runtime) operations).Registered dependency) :
    (runInputs step (started runtime) operations).OrderComplete listing ∧
      ((runInputs step (started runtime) operations).StopComplete listing stopMethod ↔
        (runInputs step (started runtime) operations).runtime.StopsQuietly stopMethod) := by
  have complete := order_of_coherent listing (run_coherent runtime operations permitted) acyclic
    registered
  exact ⟨complete, stop_complete_iff listing stopMethod complete⟩

theorem acyclic_of_memory {state : DeclaredRuntime Instance}
    (only : ∀ pair ∈ state.declared, pair = ("memory", "event_bus")) :
    TopologicalSort.Acyclic state.DependsOn := by
  apply TopologicalSort.acyclic_of_rank fun name => if name = "memory" then 1 else 0
  intro name dependency declared
  cases only _ declared
  decide

/-- The dependency is declared between the registered engines. -/
theorem declared_last_is_complete :
    let runtime : RuntimeEngine Unit := RuntimeEngine.created 15 3 3 true false shippedPolicies
    let reached := runInputs step (started runtime)
      [.registerEngine "memory" (), .registerEngine "event_bus" (),
        .addDependency "memory" "event_bus"]
    reached.OrderComplete SetListing.sorted ∧
      (reached.StopComplete SetListing.sorted (fun _ => .returns) ↔
        reached.runtime.StopsQuietly fun _ => .returns) := by
  intro runtime reached
  apply shutdown_complete
  · refine ⟨?_, ?_, ?_, trivial⟩ <;> simp [Permitted, step, started]
  · exact acyclic_of_memory (by decide +kernel)
  · intro name dependency declared
    have only : ∀ pair ∈ reached.declared, pair = ("memory", "event_bus") := by decide +kernel
    cases only _ declared
    have present : "event_bus" ∈ reached.runtime.engines.keys := by decide +kernel
    exact present

/-- A dependency declared before its component is registered keeps the component
out of the order for good, and the replacement of an engine drops the edges that
point at it. -/
theorem declared_first_is_never_stopped :
    let runtime : RuntimeEngine Unit := RuntimeEngine.created 15 3 3 true false shippedPolicies
    let reached := runInputs step (started runtime)
      [.addDependency "memory" "event_bus", .registerEngine "event_bus" (),
        .registerEngine "memory" ()]
    let replaced := runInputs step (started runtime)
      [.registerEngine "memory" (), .registerEngine "event_bus" (),
        .addDependency "memory" "event_bus", .registerEngine "event_bus" ()]
    TopologicalSort.Acyclic reached.DependsOn ∧
      (∀ pair ∈ reached.declared, reached.Registered pair.2) ∧
      reached.runtime.engines.keys = ["event_bus", "memory"] ∧
      reached.runtime.dependencyGraph.topologicalOrder SetListing.sorted = .ok ["event_bus"] ∧
      reached.runtime.stopEngines SetListing.sorted (fun _ => .returns) = (["event_bus"], true) ∧
      replaced.runtime.dependencyGraph.topologicalOrder SetListing.sorted =
        .ok ["memory", "event_bus"] ∧
      ¬reached.OrderComplete SetListing.sorted ∧
      ¬reached.StopComplete SetListing.sorted (fun _ => .returns) ∧
      ¬replaced.OrderComplete SetListing.sorted := by
  intro runtime reached replaced
  have keys : reached.runtime.engines.keys = ["event_bus", "memory"] := by decide +kernel
  have order : reached.runtime.dependencyGraph.topologicalOrder SetListing.sorted =
      .ok ["event_bus"] := by
    decide +kernel
  have stop : reached.runtime.stopEngines SetListing.sorted (fun _ => .returns) =
      (["event_bus"], true) := by
    decide +kernel
  have misplaced : replaced.runtime.dependencyGraph.topologicalOrder SetListing.sorted =
      .ok ["memory", "event_bus"] := by
    decide +kernel
  refine ⟨acyclic_of_memory (by decide +kernel), ?_, keys, order, stop, misplaced, ?_, ?_, ?_⟩
  · have present : ∀ pair ∈ reached.declared, pair.2 ∈ reached.runtime.engines.keys := by
      decide +kernel
    exact present
  · rintro ⟨sorted, found, perm, _⟩
    rw [order] at found
    cases found
    rw [keys] at perm
    exact absurd perm (by decide)
  · rintro ⟨stopped, found, perm, _⟩
    rw [stop] at found
    cases found
    rw [keys] at perm
    exact absurd perm (by decide)
  · rintro ⟨sorted, found, _, first⟩
    rw [misplaced] at found
    cases found
    have edge : ("memory", "event_bus") ∈ replaced.declared := by decide +kernel
    exact List.rel_of_pairwise_cons first List.mem_cons_self edge

end DeclaredRuntime

end AiEnterpriseOs.Runtime
