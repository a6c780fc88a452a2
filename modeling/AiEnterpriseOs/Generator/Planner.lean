import AiEnterpriseOs.Generator.DependencyGraph
import AiEnterpriseOs.Library.DepthLevels

/-!
# Generation plans

One order of a plan comes from the degrees of its tasks, the other from a
search that collects the tasks by the level at which each was first visited.
The list sorted by priority is read by nothing.
-/

namespace AiEnterpriseOs.Generator

open Library

structure GenerationPlan where
  tasks : OrderedDict String GenerationTask := OrderedDict.empty
  executionOrder : List String := []

/-- `unfinished` stands for a search that nests deeper than the model follows. -/
inductive PlanError where
  | cycleDetected (remaining : Finset String)
  | indexError
  | unfinished
  deriving DecidableEq

/-- The tasks visited, and those left on their levels. -/
structure LevelSearch where
  visited : Finset String
  levels : List (List String)

structure EdgeTables where
  adjList : OrderedDict String (List String)
  inDegree : OrderedDict String Int

namespace EdgeTables

/-- One dependency of one task. -/
def addEdge (taskId : String) (tables : EdgeTables) (depId : String) : EdgeTables where
  adjList := tables.adjList.append depId taskId
  inDegree := tables.inDegree.set taskId (tables.inDegree.getD taskId 0 + 1)

end EdgeTables

namespace GenerationPlan

variable (plan : GenerationPlan)

def addTask (task : GenerationTask) : GenerationPlan :=
  { plan with tasks := plan.tasks.set task.id task }

/-- `dep_id for dep_id in task.dependencies if dep_id in self.tasks`. -/
def present (task : GenerationTask) : List String :=
  task.dependencies.filter fun depId => depId ∈ plan.tasks.keys

def presentDependencies (taskId : String) : List String :=
  ((plan.tasks.get? taskId).map plan.present).getD []

/-- More rounds than there are tasks. -/
def rounds : Nat := plan.tasks.keys.length + 1

/-! ## The order by degrees -/

def startTables : EdgeTables where
  adjList := OrderedDict.empty.setAll (plan.tasks.keys.map fun taskId => (taskId, []))
  inDegree := OrderedDict.empty.setAll (plan.tasks.keys.map fun taskId => (taskId, 0))

def edgeTables : EdgeTables :=
  plan.tasks.entries.foldl (fun tables entry =>
    (plan.present entry.2).foldl (EdgeTables.addEdge entry.1) tables) plan.startTables

/-- Kahn's algorithm. -/
def kahnOrder : List String :=
  let tables := plan.edgeTables
  let queue := (tables.inDegree.entries.filter fun entry => entry.2 = 0).map Prod.fst
  TopologicalSort.sortQueue tables.adjList.listed plan.rounds
    (fun taskId => tables.inDegree.getD taskId 0) queue []

def generateExecutionOrder : Except PlanError (List String) × GenerationPlan :=
  if plan.tasks.keys.isEmpty then (.ok [], plan)
  else
    let order := plan.kahnOrder
    if order.length ≠ plan.tasks.keys.length then
      (.error (.cycleDetected (plan.tasks.keys.toFinset \ order.toFinset)), plan)
    else (.ok order, { plan with executionOrder := order })

/-! ## The order by levels -/

/-- `dfs`; only one level is appended before a task goes to the end of its own. -/
def dfs : Nat → Nat → LevelSearch → String → Except PlanError LevelSearch
  | 0, _, _, _ => .error .unfinished
  | rounds + 1, currentLevel, state, taskId =>
    if taskId ∈ state.visited then .ok state
    else do
      let below ← (plan.presentDependencies taskId).foldlM (dfs rounds (currentLevel + 1))
        { state with visited := insert taskId state.visited }
      match DepthLevels.place below.levels (taskId, currentLevel) with
      | none => .error .indexError
      | some levels => .ok { below with levels := levels }

def searchLevels : Except PlanError LevelSearch :=
  plan.tasks.keys.foldlM (fun state taskId =>
    if taskId ∉ state.visited then plan.dfs plan.rounds 0 state taskId else .ok state)
    { visited := ∅, levels := [] }

def sortTasksByPriorityAndDependencies : Except PlanError (List String) × GenerationPlan :=
  match plan.searchLevels with
  | .error error => (.error error, plan)
  | .ok state =>
    let order := state.levels.reverse.flatten
    (.ok order, { plan with executionOrder := order })

/-! ## What is asked of an order -/

def DependsOn (taskId depId : String) : Prop := depId ∈ plan.presentDependencies taskId

/-- All tasks are returned, each after its present dependencies. -/
def Ordered (result : Except PlanError (List String)) : Prop :=
  ∃ order, result = .ok order ∧ order.Perm plan.tasks.keys ∧
    TopologicalSort.DependenciesFirst plan.DependsOn order

/-- Each task of the plan after its present dependencies, all with the number of tasks that
they are listed under, and each task only where it is listed first. -/
def listings : List (String × Nat) :=
  DepthLevels.firstListings
    (plan.tasks.keys.flatMap (DepthLevels.walk plan.presentDependencies plan.rounds 0))

variable {plan}

theorem present_of_found {taskId : String} {task : GenerationTask}
    (found : plan.tasks.get? taskId = some task) :
    plan.presentDependencies taskId = plan.present task := by
  rw [presentDependencies, found]
  rfl

theorem present_of_absent {taskId : String} (absent : taskId ∉ plan.tasks.keys) :
    plan.presentDependencies taskId = [] := by
  rw [presentDependencies, (OrderedDict.get_eq_none_iff _ _).mpr absent]
  rfl

theorem mem_of_depends {taskId depId : String} (depends : plan.DependsOn taskId depId) :
    taskId ∈ plan.tasks.keys ∧ depId ∈ plan.tasks.keys := by
  have listed : taskId ∈ plan.tasks.keys := by
    by_contra absent
    rw [DependsOn, present_of_absent absent] at depends
    cases depends
  obtain ⟨task, found⟩ := (OrderedDict.mem_keys_iff _ _).mp listed
  rw [DependsOn, present_of_found found] at depends
  exact ⟨listed, of_decide_eq_true (List.mem_filter.mp depends).2⟩

/-! ## The tables of the edges -/

theorem add_edges (taskId : String) (deps : List String) (tables : EdgeTables) :
    deps.foldl (EdgeTables.addEdge taskId) tables =
      { adjList := deps.foldl (fun table depId => table.append depId taskId) tables.adjList
        inDegree := deps.foldl (fun table _ => table.set taskId (table.getD taskId 0 + 1))
          tables.inDegree } := by
  induction deps generalizing tables with
  | nil => rfl
  | cons dep rest ih => exact ih (tables.addEdge taskId dep)

theorem add_all_edges (wanted : GenerationTask → List String)
    (entries : List (String × GenerationTask)) (distinct : (entries.map Prod.fst).Nodup)
    (tables : EdgeTables)
    (started : ∀ entry ∈ entries, tables.inDegree.get? entry.1 = some 0) :
    let added := entries.foldl (fun tables entry =>
      (wanted entry.2).foldl (EdgeTables.addEdge entry.1) tables) tables
    (∀ depId taskId, (added.adjList.listed depId).count taskId =
        (tables.adjList.listed depId).count taskId +
          (((OrderedDict.lookup taskId entries).map wanted).getD []).count depId) ∧
      ∀ taskId, added.inDegree.get? taskId =
        match OrderedDict.lookup taskId entries with
        | none => tables.inDegree.get? taskId
        | some task => some ((wanted task).length : Int) := by
  induction entries generalizing tables with
  | nil => simp [OrderedDict.lookup]
  | cons entry rest ih =>
    rw [List.map_cons, List.nodup_cons] at distinct
    rw [List.forall_mem_cons] at started
    have apart : ∀ other ∈ rest, other.1 ≠ entry.1 := by
      intro other member same
      exact distinct.1 (same ▸ List.mem_map_of_mem member)
    have absent : OrderedDict.lookup entry.1 rest = none := by
      cases found : OrderedDict.lookup entry.1 rest with
      | none => rfl
      | some task =>
        have listed := (OrderedDict.lookup_eq_some_iff distinct.2).mp found
        exact absurd rfl (apart (entry.1, task) listed)
    have degrees := fun taskId =>
      OrderedDict.get_raise_each entry.1 taskId (wanted entry.2) _ started.1
    obtain ⟨adjacency, inDegree⟩ := ih distinct.2
      ((wanted entry.2).foldl (EdgeTables.addEdge entry.1) tables) (by
        intro other member
        rw [add_edges]
        dsimp only
        rw [degrees, if_neg (apart other member), started.2 other member])
    rw [List.foldl_cons]
    constructor
    · intro depId taskId
      rw [adjacency, add_edges]
      dsimp only
      rw [OrderedDict.count_append_each, OrderedDict.lookup]
      by_cases own : taskId = entry.1
      · simp [own, absent]
      · simp [own, Ne.symm own]
    · intro taskId
      rw [inDegree, add_edges]
      dsimp only
      rw [degrees, OrderedDict.lookup]
      by_cases own : taskId = entry.1
      · simp [own, absent]
      · simp [own, Ne.symm own]

theorem edge_tables (plan : GenerationPlan) :
    (∀ depId taskId, (plan.edgeTables.adjList.listed depId).count taskId =
        (plan.presentDependencies taskId).count depId) ∧
      ∀ taskId, plan.edgeTables.inDegree.get? taskId =
        (plan.tasks.get? taskId).map fun task => ((plan.present task).length : Int) := by
  have started : ∀ taskId, plan.startTables.inDegree.get? taskId =
      if taskId ∈ plan.tasks.keys then some 0 else none :=
    OrderedDict.get_setAll_const _ _ _
  obtain ⟨adjacency, degrees⟩ := add_all_edges plan.present plan.tasks.entries
    plan.tasks.distinct plan.startTables (by
      intro entry member
      have listed : entry.1 ∈ plan.tasks.keys := List.mem_map_of_mem member
      rw [started, if_pos listed])
  have nothing : ∀ depId, plan.startTables.adjList.listed depId = [] := by
    intro depId
    have empty : plan.startTables.adjList.get? depId =
        if depId ∈ plan.tasks.keys then some [] else none :=
      OrderedDict.get_setAll_const _ _ _ depId
    rw [OrderedDict.listed, OrderedDict.getD, empty]
    split <;> rfl
  constructor
  · intro depId taskId
    refine (adjacency depId taskId).trans ?_
    rw [nothing, List.count_nil, Nat.zero_add]
    rfl
  · intro taskId
    refine (degrees taskId).trans ?_
    rw [started]
    cases found : plan.tasks.get? taskId with
    | none =>
      have absent := (OrderedDict.get_eq_none_iff _ _).mp found
      rw [OrderedDict.get?] at found
      rw [found, if_neg absent]
      rfl
    | some task =>
      rw [OrderedDict.get?] at found
      rw [found]
      rfl

theorem mirrors (plan : GenerationPlan) :
    TopologicalSort.Mirrors plan.tasks.keys plan.presentDependencies
      plan.edgeTables.adjList.listed where
  distinct := plan.tasks.distinct
  counted depId taskId := by
    rw [(edge_tables plan).1]
    split
    · rfl
    next absent => rw [present_of_absent absent, List.count_nil]

theorem counting (plan : GenerationPlan) :
    TopologicalSort.Counting plan.tasks.keys plan.presentDependencies
      (fun taskId => plan.edgeTables.inDegree.getD taskId 0)
      ((plan.edgeTables.inDegree.entries.filter fun entry => entry.2 = 0).map Prod.fst) [] := by
  have degrees := (edge_tables plan).2
  apply TopologicalSort.counting_start
  · exact plan.edgeTables.inDegree.distinct.sublist (List.filter_sublist.map _)
  · intro taskId
    have entry : taskId ∈ (plan.edgeTables.inDegree.entries.filter
          fun entry => entry.2 = 0).map Prod.fst ↔
        plan.edgeTables.inDegree.get? taskId = some 0 := by
      rw [OrderedDict.get_eq_some_iff]
      simp
    rw [entry, degrees, OrderedDict.mem_keys_iff]
    cases found : plan.tasks.get? taskId with
    | none => simp
    | some task => simp [present_of_found found]
  · intro taskId listed
    obtain ⟨task, found⟩ := (OrderedDict.mem_keys_iff _ _).mp listed
    rw [OrderedDict.getD, degrees, found, present_of_found found]
    rfl

theorem sortable_of_acyclic (acyclic : TopologicalSort.Acyclic plan.DependsOn) :
    TopologicalSort.Sortable plan.tasks.keys plan.presentDependencies where
  closed _ _ _ depends := (mem_of_depends depends).2
  acyclic taskId cyclic := acyclic taskId (cyclic.lift (fun taskId => taskId)
    fun _ _ both => both.2)

theorem kahn_order_right (acyclic : TopologicalSort.Acyclic plan.DependsOn) :
    plan.kahnOrder.Perm plan.tasks.keys ∧
      TopologicalSort.DependenciesFirst plan.DependsOn plan.kahnOrder := by
  obtain ⟨final, sorted⟩ := (counting plan).run (mirrors plan) plan.rounds (by
    unfold rounds
    rw [List.length_nil]
    omega)
  have once : plan.kahnOrder.Nodup := by
    have distinct := sorted.distinct
    rwa [List.append_nil] at distinct
  refine ⟨(List.perm_ext_iff_of_nodup once plan.tasks.distinct).mpr ?_, sorted.first⟩
  intro taskId
  constructor
  · intro listed
    exact ((sorted.ready taskId).mp (List.mem_append_left _ listed)).1
  · exact sorted.all_sorted (sortable_of_acyclic acyclic) taskId

theorem execution_order_right (acyclic : TopologicalSort.Acyclic plan.DependsOn) :
    plan.Ordered plan.generateExecutionOrder.1 := by
  obtain ⟨all, first⟩ := kahn_order_right acyclic
  unfold generateExecutionOrder
  split
  next empty =>
    refine ⟨[], rfl, ?_, List.Pairwise.nil⟩
    rw [List.isEmpty_iff.mp empty]
  · rw [if_neg (not_not.mpr all.length_eq)]
    exact ⟨plan.kahnOrder, rfl, all, first⟩

/-! ## The search by levels -/

/-- How a search goes that meets these items. -/
def outcome (state : LevelSearch) (left items : List (String × Nat)) :
    Except PlanError LevelSearch :=
  match DepthLevels.levelsOf (items.foldl DepthLevels.keepFirst left) with
  | none => .error .indexError
  | some levels =>
    .ok { visited := state.visited ∪ (items.map Prod.fst).toFinset, levels := levels }

/-- The tasks visited were left, or are being visited and rank at least so high. -/
structure Tracks (plan : GenerationPlan) (rank : String → Nat) (ceiling : Nat)
    (left : List (String × Nat)) (state : LevelSearch) : Prop where
  levels : DepthLevels.levelsOf left = some state.levels
  entered : ∀ taskId ∈ left.map Prod.fst, taskId ∈ state.visited
  above : ∀ taskId ∈ state.visited, taskId ∉ left.map Prod.fst → ceiling ≤ rank taskId
  grounded : DepthLevels.Grounded plan.presentDependencies (left.map Prod.fst)

section Search

variable {rank : String → Nat} {ceiling : Nat} {left items : List (String × Nat)}
  {state : LevelSearch}

theorem Tracks.left_of_visited (tracks : Tracks plan rank ceiling left state) {taskId : String}
    (visited : taskId ∈ state.visited) (below : rank taskId < ceiling) :
    taskId ∈ left.map Prod.fst := by
  by_contra waiting
  have high := tracks.above taskId visited waiting
  omega

theorem Tracks.after (tracks : Tracks plan rank ceiling left state)
    (grounded : DepthLevels.Grounded plan.presentDependencies (items.map Prod.fst))
    {levels : List (List String)}
    (placed : DepthLevels.levelsOf (items.foldl DepthLevels.keepFirst left) = some levels) :
    Tracks plan rank ceiling (items.foldl DepthLevels.keepFirst left)
      { visited := state.visited ∪ (items.map Prod.fst).toFinset, levels := levels } := by
  constructor
  · exact placed
  · intro taskId listed
    rw [Finset.mem_union, List.mem_toFinset]
    exact ((DepthLevels.mem_kept_iff items left taskId).mp listed).imp_left (tracks.entered taskId)
  · intro taskId visited waiting
    rw [DepthLevels.mem_kept_iff, not_or] at waiting
    rcases Finset.mem_union.mp visited with early | met
    · exact tracks.above taskId early waiting.1
    · exact absurd (List.mem_toFinset.mp met) waiting.2
  · exact DepthLevels.kept_grounded tracks.grounded grounded

theorem Tracks.enter (tracks : Tracks plan rank ceiling left state) {taskId : String}
    (below : rank taskId < ceiling) :
    Tracks plan rank (rank taskId) left { state with visited := insert taskId state.visited } := by
  constructor
  · exact tracks.levels
  · exact fun other listed => Finset.mem_insert_of_mem (tracks.entered other listed)
  · intro other visited waiting
    rcases Finset.mem_insert.mp visited with same | early
    · rw [same]
    · exact below.le.trans (tracks.above other early waiting)
  · exact tracks.grounded

theorem outcome_append (state : LevelSearch) (left first second : List (String × Nat)) :
    outcome state left (first ++ second) = (outcome state left first).bind fun after =>
        outcome after (first.foldl DepthLevels.keepFirst left) second := by
  unfold outcome
  rw [List.foldl_append]
  cases placed : DepthLevels.levelsOf (first.foldl DepthLevels.keepFirst left) with
  | none =>
    rw [DepthLevels.levels_kept_none placed]
    rfl
  | some levels =>
    rw [List.map_append, List.toFinset_append, ← Finset.union_assoc]
    rfl

theorem Tracks.outcome_known (tracks : Tracks plan rank ceiling left state)
    (known : ∀ taskId ∈ items.map Prod.fst, taskId ∈ left.map Prod.fst) :
    outcome state left items = .ok state := by
  have same : state.visited ∪ (items.map Prod.fst).toFinset = state.visited := by
    apply Finset.union_eq_left.mpr
    intro taskId met
    exact tracks.entered taskId (known taskId (List.mem_toFinset.mp met))
  rw [outcome, DepthLevels.keep_all_known known, tracks.levels, same]

theorem search_each {body : LevelSearch → String → Except PlanError LevelSearch}
    {walk : String → List (String × Nat)} (taskIds : List String)
    (grounded : ∀ taskId ∈ taskIds,
      DepthLevels.Grounded plan.presentDependencies ((walk taskId).map Prod.fst))
    (each : ∀ taskId ∈ taskIds, ∀ left state, Tracks plan rank ceiling left state →
      body state taskId = outcome state left (walk taskId))
    (tracks : Tracks plan rank ceiling left state) :
    taskIds.foldlM body state = outcome state left (taskIds.flatMap walk) := by
  induction taskIds generalizing left state with
  | nil => exact (tracks.outcome_known (List.forall_mem_nil _)).symm
  | cons taskId rest ih =>
    rw [List.forall_mem_cons] at grounded each
    rw [List.foldlM_cons, each.1 left state tracks, List.flatMap_cons, outcome_append]
    cases placed : DepthLevels.levelsOf ((walk taskId).foldl DepthLevels.keepFirst left) with
    | none =>
      rw [outcome, placed]
      rfl
    | some levels =>
      rw [outcome, placed]
      exact ih grounded.2 each.2 (tracks.after grounded.1 placed)

theorem dfs_walk
    (lowers : ∀ taskId, ∀ depId ∈ plan.presentDependencies taskId, rank depId < rank taskId)
    (rounds depth : Nat) {taskId : String} (enough : rank taskId < rounds)
    (below : rank taskId < ceiling) (tracks : Tracks plan rank ceiling left state) :
    plan.dfs rounds depth state taskId =
      outcome state left (DepthLevels.walk plan.presentDependencies rounds depth taskId) := by
  induction rounds generalizing depth taskId ceiling left state with
  | zero => omega
  | succ rounds ih =>
    by_cases visited : taskId ∈ state.visited
    · -- a task visited that ranks below the ceiling was left with all that it needs
      have known := tracks.left_of_visited visited below
      rw [dfs, if_pos visited, tracks.outcome_known]
      intro other met
      exact DepthLevels.walk_inside
        (fun _ listed => DepthLevels.grounded_closed tracks.grounded listed)
        (rounds + 1) depth known met
    · have lower : ∀ depId ∈ plan.presentDependencies taskId, rank depId < rounds := by
        intro depId depends
        have less := lowers taskId depId depends
        omega
      have grounded : ∀ depId ∈ plan.presentDependencies taskId,
          DepthLevels.Grounded plan.presentDependencies
            ((DepthLevels.walk plan.presentDependencies rounds (depth + 1) depId).map Prod.fst) :=
        fun depId depends =>
          DepthLevels.walk_grounded lowers rounds (depth + 1) depId (lower depId depends)
      have searched := search_each (plan.presentDependencies taskId) grounded
        (fun depId depends left state inner =>
          ih (depth + 1) (lower depId depends) (lowers taskId depId depends) inner)
        (tracks.enter below)
      have fresh : taskId ∉ ((((plan.presentDependencies taskId).flatMap
          (DepthLevels.walk plan.presentDependencies rounds (depth + 1))).foldl
            DepthLevels.keepFirst left).map Prod.fst) := by
        rw [DepthLevels.mem_kept_iff, not_or]
        constructor
        · exact fun listed => visited (tracks.entered taskId listed)
        · intro met
          rw [List.map_flatMap, List.mem_flatMap] at met
          obtain ⟨depId, depends, inside⟩ := met
          have small := DepthLevels.walk_ranked lowers rounds (depth + 1) depId taskId inside
          have less := lowers taskId depId depends
          omega
      rw [dfs, if_neg visited, searched, DepthLevels.walk, outcome_append]
      generalize (plan.presentDependencies taskId).flatMap
        (DepthLevels.walk plan.presentDependencies rounds (depth + 1)) = met at fresh ⊢
      unfold outcome
      cases placed : DepthLevels.levelsOf (met.foldl DepthLevels.keepFirst left) with
      | none => rfl
      | some levels =>
        have union : insert taskId state.visited ∪ (met.map Prod.fst).toFinset =
            state.visited ∪ (met.map Prod.fst).toFinset ∪ {taskId} := by
          ext other
          simp only [Finset.mem_union, Finset.mem_insert, Finset.mem_singleton]
          tauto
        have kept : DepthLevels.keepFirst (met.foldl DepthLevels.keepFirst left)
            (taskId, depth) = met.foldl DepthLevels.keepFirst left ++ [(taskId, depth)] :=
          DepthLevels.keep_first_fresh fresh
        simp only [Except.bind, bind, List.foldl_cons, List.foldl_nil, List.map_cons,
          List.map_nil, List.toFinset_cons, List.toFinset_nil, insert_empty_eq, kept,
          DepthLevels.levels_of_concat, placed, Option.bind_some, union]

end Search

theorem rank_lowers (acyclic : TopologicalSort.Acyclic plan.DependsOn) (taskId : String) :
    ∀ depId ∈ plan.presentDependencies taskId,
      plan.kahnOrder.idxOf depId < plan.kahnOrder.idxOf taskId := by
  intro depId depends
  obtain ⟨all, first⟩ := kahn_order_right acyclic
  obtain ⟨listed, depListed⟩ := mem_of_depends depends
  apply TopologicalSort.index_lt_of_first first (all.mem_iff.mpr listed)
    (all.mem_iff.mpr depListed) _ depends
  intro same
  rw [← same] at depends
  exact acyclic taskId (Relation.TransGen.single depends)

theorem rank_lt_rounds (acyclic : TopologicalSort.Acyclic plan.DependsOn) {taskId : String}
    (listed : taskId ∈ plan.tasks.keys) : plan.kahnOrder.idxOf taskId < plan.rounds := by
  obtain ⟨all, _⟩ := kahn_order_right acyclic
  have inside := List.idxOf_lt_length_of_mem (all.mem_iff.mpr listed)
  have length := all.length_eq
  unfold rounds
  omega

theorem search_levels (acyclic : TopologicalSort.Acyclic plan.DependsOn) :
    plan.searchLevels = outcome { visited := ∅, levels := [] } []
      (plan.tasks.keys.flatMap (DepthLevels.walk plan.presentDependencies plan.rounds 0)) := by
  have lowers := rank_lowers acyclic
  apply search_each
  · intro taskId listed
    exact DepthLevels.walk_grounded lowers _ _ _ (rank_lt_rounds acyclic listed)
  · intro taskId listed left state tracks
    have enough := rank_lt_rounds acyclic listed
    have searched := dfs_walk lowers plan.rounds 0 enough enough tracks
    split
    · exact searched
    next visited =>
      rw [← searched, rounds, dfs, if_pos (not_not.mp visited)]
  · constructor
    · rfl
    · exact fun taskId listed => absurd listed List.not_mem_nil
    · exact fun taskId visited => absurd visited (Finset.notMem_empty taskId)
    · exact DepthLevels.supported_nil

theorem listings_grounded (acyclic : TopologicalSort.Acyclic plan.DependsOn) :
    DepthLevels.Grounded plan.presentDependencies (plan.listings.map Prod.fst) := by
  have start : DepthLevels.Grounded plan.presentDependencies
      (([] : List (String × Nat)).map Prod.fst) := DepthLevels.supported_nil
  apply DepthLevels.kept_grounded start
  rw [List.map_flatMap]
  apply DepthLevels.grounded_flat
  intro taskId listed
  exact DepthLevels.walk_grounded (rank_lowers acyclic) _ _ _ (rank_lt_rounds acyclic listed)

theorem listings_perm (plan : GenerationPlan) :
    (plan.listings.map Prod.fst).Perm plan.tasks.keys := by
  have once : (plan.listings.map Prod.fst).Nodup := DepthLevels.kept_nodup List.nodup_nil
  apply (List.perm_ext_iff_of_nodup once plan.tasks.distinct).mpr
  intro taskId
  rw [listings, DepthLevels.firstListings, DepthLevels.mem_kept_iff, List.map_flatMap,
    List.mem_flatMap]
  constructor
  · rintro (impossible | ⟨root, listed, met⟩)
    · cases impossible
    · exact DepthLevels.walk_inside (fun _ _ _ depends => (mem_of_depends depends).2)
        plan.rounds 0 listed met
  · intro listed
    have enough : 0 < plan.rounds := Nat.succ_pos _
    exact Or.inr ⟨taskId, listed, DepthLevels.mem_walk_self 0 enough⟩

/-- The condition under which the levels give a right order. -/
structure Levelled (plan : GenerationPlan) : Prop where
  gradual : DepthLevels.Gradual plan.listings
  deeper : ∀ item ∈ plan.listings, ∀ dep ∈ plan.listings,
    plan.DependsOn item.1 dep.1 → item.2 ≤ dep.2

/-- Of a plan without cycles the order by degrees is right; the order by levels is
right exactly if no level is missing and no dependency is met on a lower level. -/
theorem plan_orders_right_iff (plan : GenerationPlan)
    (acyclic : TopologicalSort.Acyclic plan.DependsOn) :
    plan.Ordered plan.generateExecutionOrder.1 ∧
        plan.Ordered plan.sortTasksByPriorityAndDependencies.1 ↔
      plan.Levelled := by
  have grounded := listings_grounded acyclic
  have all := listings_perm plan
  have once : (plan.listings.map Prod.fst).Nodup := all.nodup_iff.mpr plan.tasks.distinct
  have searched : plan.searchLevels =
      match DepthLevels.levelsOf plan.listings with
      | none => .error .indexError
      | some levels => .ok
          { visited := ∅ ∪ ((plan.tasks.keys.flatMap
              (DepthLevels.walk plan.presentDependencies plan.rounds 0)).map Prod.fst).toFinset
            levels := levels } := search_levels acyclic
  rw [and_iff_right (execution_order_right acyclic), sortTasksByPriorityAndDependencies, searched]
  rcases DepthLevels.levels_of_cases plan.listings with
    ⟨gradual, levels, placed, holds⟩ | ⟨sudden, missing⟩
  · have first := DepthLevels.deepest_first_iff holds grounded once
    rw [placed]
    constructor
    · rintro ⟨order, same, _, right⟩
      cases same
      exact ⟨gradual, first.mp right⟩
    · intro levelled
      refine ⟨levels.reverse.flatten, rfl, ?_, first.mpr levelled.deeper⟩
      exact ((List.reverse_perm levels).flatten).trans (holds.all.trans all)
  · rw [missing]
    refine iff_of_false ?_ fun levelled => sudden levelled.gradual
    rintro ⟨order, impossible, _⟩
    cases impossible

theorem acyclic_of_listed (rank : String → Nat)
    (lowers : ∀ taskId ∈ plan.tasks.keys, ∀ depId ∈ plan.presentDependencies taskId,
      rank depId < rank taskId) : TopologicalSort.Acyclic plan.DependsOn := by
  apply TopologicalSort.acyclic_of_rank rank
  intro taskId depId depends
  exact lowers taskId (mem_of_depends depends).1 depId depends

/-- A dependency that is added later opens a level of its own. -/
theorem late_dependency_ordered :
    let plan := [⟨"role", "a", []⟩, ⟨"role", "c", ["role:d", "role:x"]⟩, ⟨"role", "d", []⟩].foldl
      addTask ({} : GenerationPlan)
    plan.Ordered plan.generateExecutionOrder.1 ∧
      plan.Ordered plan.sortTasksByPriorityAndDependencies.1 := by
  intro plan
  have acyclic : TopologicalSort.Acyclic plan.DependsOn :=
    acyclic_of_listed ["role:d", "role:a", "role:c"].idxOf (by decide)
  apply (plan_orders_right_iff plan acyclic).mpr
  constructor
  · rcases DepthLevels.levels_of_cases plan.listings with ⟨gradual, _⟩ | ⟨_, missing⟩
    · exact gradual
    · exact absurd missing (by decide)
  · unfold DependsOn
    decide

/-- The first task has a dependency: its level comes before the level above it. -/
theorem first_dependency_raises :
    let plan := [⟨"role", "x", ["role:d"]⟩, ⟨"role", "d", []⟩].foldl addTask ({} : GenerationPlan)
    TopologicalSort.Acyclic plan.DependsOn ∧
      plan.generateExecutionOrder.1 = .ok ["role:d", "role:x"] ∧
      plan.sortTasksByPriorityAndDependencies.1 = .error .indexError ∧
      ¬(plan.Ordered plan.generateExecutionOrder.1 ∧
        plan.Ordered plan.sortTasksByPriorityAndDependencies.1) := by
  intro plan
  have raised : plan.sortTasksByPriorityAndDependencies.1 = .error .indexError := by decide
  refine ⟨acyclic_of_listed ["role:d", "role:x"].idxOf (by decide), by decide, raised, ?_⟩
  rintro ⟨_, order, returned, _⟩
  rw [raised] at returned
  cases returned

end GenerationPlan

end AiEnterpriseOs.Generator
