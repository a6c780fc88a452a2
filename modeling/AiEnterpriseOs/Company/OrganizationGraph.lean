import AiEnterpriseOs.Company.Hierarchy
import AiEnterpriseOs.Library.OptionFold
import AiEnterpriseOs.Library.ReachCount
import Mathlib.Data.List.Chain
import Mathlib.Data.List.MinMax

/-!
# The organization graph engine

Edges lead from subordinates to managers, and the queries take the predecessors of a node
for its managers.
-/

namespace AiEnterpriseOs.Company

open Library

/-- A directed graph; nodes and edges are listed once, as they were first added. -/
structure DiGraph where
  nodes : List String
  edges : List (String × String)
  inside : ∀ edge ∈ edges, edge.1 ∈ nodes ∧ edge.2 ∈ nodes

namespace DiGraph

def empty : DiGraph where
  nodes := []
  edges := []
  inside := nofun

variable (graph : DiGraph)

def addNode (node : String) : DiGraph where
  nodes := if node ∈ graph.nodes then graph.nodes else graph.nodes ++ [node]
  edges := graph.edges
  inside := by
    intro edge member
    have ends := graph.inside edge member
    split
    · exact ends
    · exact ⟨List.mem_append_left _ ends.1, List.mem_append_left _ ends.2⟩

theorem mem_add_node_iff (node other : String) :
    other ∈ (graph.addNode node).nodes ↔ other ∈ graph.nodes ∨ other = node := by
  rw [addNode]
  split
  next known => exact ⟨Or.inl, fun here => here.elim id fun same => same ▸ known⟩
  next => rw [List.mem_append, List.mem_singleton]

/-- `add_edge`, which adds the nodes that are missing. -/
def addEdge (edge : String × String) : DiGraph where
  nodes := ((graph.addNode edge.1).addNode edge.2).nodes
  edges := if edge ∈ graph.edges then graph.edges else graph.edges ++ [edge]
  inside := by
    intro other member
    simp only [mem_add_node_iff]
    have known : other ∈ graph.edges ∨ other = edge := by
      split at member
      · exact Or.inl member
      · rwa [List.mem_append, List.mem_singleton] at member
    rcases known with old | rfl
    · exact ⟨Or.inl (Or.inl (graph.inside other old).1), Or.inl (Or.inl (graph.inside other old).2)⟩
    · exact ⟨Or.inl (Or.inr rfl), Or.inr rfl⟩

theorem mem_add_edge_iff (edge other : String × String) :
    other ∈ (graph.addEdge edge).edges ↔ other ∈ graph.edges ∨ other = edge := by
  rw [addEdge]
  dsimp only
  split
  next known => exact ⟨Or.inl, fun here => here.elim id fun same => same ▸ known⟩
  next => rw [List.mem_append, List.mem_singleton]

def predecessors (node : String) : List String :=
  (graph.edges.filter fun edge => edge.2 = node).map Prod.fst

def successors (node : String) : List String :=
  (graph.edges.filter fun edge => edge.1 = node).map Prod.snd

/-- The recursion of `get_hierarchy_level`, to a depth. -/
def levelFrom : Nat → String → Option Nat
  | 0, _ => none
  | depth + 1, node =>
    if graph.predecessors node = [] then some 0
    else ((graph.predecessors node).mapM (levelFrom depth)).map fun levels =>
      levels.foldr max 0 + 1

/-- `none` where the recursion does not end. -/
def getHierarchyLevel (node : String) : Option Int :=
  if node ∈ graph.nodes then
    (graph.levelFrom (graph.nodes.length + 1) node).map Int.ofNat
  else some (-1)

/-- The loop of `get_reporting_chain` after its first node. -/
def chainFrom : Nat → String → Option (List String)
  | 0, _ => none
  | rounds + 1, current =>
    match graph.predecessors current with
    | [] => some []
    | next :: _ => (chainFrom rounds next).map fun chain => next :: chain

def getReportingChain (node : String) : Option (List String) :=
  (graph.chainFrom (graph.nodes.length + 1) node).map fun chain => node :: chain

def getTeamSize (node : String) : Option Nat :=
  if node ∈ graph.nodes then
    (ReachCount.count graph.successors (graph.nodes.length + 1) ∅ node).map Prod.snd
  else some 0

theorem level_more {depth level : Nat} {node : String}
    (found : graph.levelFrom depth node = some level) :
    graph.levelFrom (depth + 1) node = some level := by
  induction depth generalizing node level with
  | zero => cases found
  | succ depth ih =>
    rw [levelFrom] at found ⊢
    split
    next top => rwa [if_pos top] at found
    next below =>
      rw [if_neg below] at found
      obtain ⟨levels, each, same⟩ := Option.map_eq_some_iff.mp found
      have every := mapM_is_some_iff.mp (Option.isSome_iff_exists.mpr ⟨levels, each⟩)
      obtain ⟨results, earlier, later⟩ := mapM_agree_iff.mpr fun item member => by
        obtain ⟨value, here⟩ := Option.isSome_iff_exists.mp (every item member)
        exact ⟨value, here, ih here⟩
      cases each.symm.trans earlier
      rw [later, Option.map_some, same]

theorem level_predecessor {node other : String} {level : Int}
    (found : graph.getHierarchyLevel node = some level) (edge : (other, node) ∈ graph.edges) :
    ∃ below < level, graph.getHierarchyLevel other = some below := by
  have ends := graph.inside _ edge
  have listed : other ∈ graph.predecessors node :=
    List.mem_map.mpr ⟨(other, node), List.mem_filter.mpr ⟨edge, decide_eq_true rfl⟩, rfl⟩
  rw [getHierarchyLevel, if_pos ends.2] at found
  obtain ⟨number, computed, rfl⟩ := Option.map_eq_some_iff.mp found
  rw [levelFrom, if_neg (List.ne_nil_of_mem listed)] at computed
  obtain ⟨levels, each, rfl⟩ := Option.map_eq_some_iff.mp computed
  obtain ⟨below, here⟩ := Option.isSome_iff_exists.mp
    (mapM_is_some_iff.mp (Option.isSome_iff_exists.mpr ⟨levels, each⟩) other listed)
  have member : below ∈ levels := by
    rw [← filterMap_of_mapM each]
    exact List.mem_filterMap.mpr ⟨other, listed, here⟩
  have bound : below ≤ levels.foldr max 0 := List.le_max_of_le' 0 member le_rfl
  refine ⟨Int.ofNat below, Int.ofNat_lt.mpr (by omega), ?_⟩
  rw [getHierarchyLevel, if_pos ends.1, graph.level_more here]
  rfl

end DiGraph

namespace CompanyRegistry

variable (reg : CompanyRegistry)

/-- The first person reports to the second, as either of them says. -/
def Reports (person manager : String) : Prop :=
  (∃ entry ∈ reg.executives, given entry.name = some person ∧ entry.reportsTo = manager ∧
    manager ≠ "") ∨
  ∃ entry ∈ reg.executives, given entry.name = some manager ∧ person ∈ entry.directReports

/-- The edges of the two passes over the executives. -/
def reportEdges : List (String × String) :=
  (reg.executives.filterMap fun entry => (given entry.name).bind fun name =>
    if entry.reportsTo = "" then none else some (name, entry.reportsTo)) ++
  reg.executives.flatMap fun entry => match given entry.name with
    | some name => entry.directReports.map fun report => (report, name)
    | none => []

/-- `build_from_registry`, `none` where it raises: the graph has no node without a name. -/
def organization : Option DiGraph :=
  (reg.executives.mapM ExecutiveEntry.name).map fun names =>
    (reg.boardMembers.map BoardMember.name ++ reg.departments.keys).foldl DiGraph.addNode
      (reg.reportEdges.foldl DiGraph.addEdge (names.foldl DiGraph.addNode DiGraph.empty))

/-- The level of a person is zero without a manager, else one more than the greatest level
of a manager. -/
def LevelRight (graph : DiGraph) (person : String) : Prop :=
  ((∀ manager, ¬reg.Reports person manager) ∧ graph.getHierarchyLevel person = some 0) ∨
  ∃ level, graph.getHierarchyLevel person = some (level + 1) ∧
    (∃ manager, reg.Reports person manager ∧ graph.getHierarchyLevel manager = some level) ∧
    ∀ manager, reg.Reports person manager →
      ∃ other ≤ level, graph.getHierarchyLevel manager = some other

/-- The chain goes up from manager to manager until there is none. -/
def ChainRight (graph : DiGraph) (person : String) : Prop :=
  ∃ chain, graph.getReportingChain person = some chain ∧ chain.head? = some person ∧
    chain.IsChain reg.Reports ∧ ∀ last ∈ chain.getLast?, ∀ manager, ¬reg.Reports last manager

def TeamRight (graph : DiGraph) (person : String) : Prop :=
  ∃ team : Finset String, graph.getTeamSize person = some team.card ∧
    ∀ other, other ∈ team ↔ Relation.TransGen reg.Reports other person

/-- The graph is built, and its queries follow the reporting relation. -/
def OrganizationRight : Prop :=
  ∃ graph, reg.organization = some graph ∧ ∀ person ∈ graph.nodes,
    reg.LevelRight graph person ∧ reg.ChainRight graph person ∧ reg.TeamRight graph person

variable {reg}

theorem mem_report_edges_iff (person manager : String) :
    (person, manager) ∈ reg.reportEdges ↔ reg.Reports person manager := by
  rw [reportEdges, List.mem_append, Reports, List.mem_filterMap, List.mem_flatMap]
  apply or_congr
  · apply exists_congr
    intro entry
    apply and_congr_right
    intro _
    rw [Option.bind_eq_some_iff]
    constructor
    · rintro ⟨name, named, here⟩
      split at here
      · cases here
      next reports =>
        cases here
        exact ⟨named, rfl, reports⟩
    · rintro ⟨named, rfl, reports⟩
      exact ⟨person, named, if_neg reports⟩
  · apply exists_congr
    intro entry
    apply and_congr_right
    intro _
    cases given entry.name with
    | none => simp
    | some name => simp [and_comm]

theorem nodes_added (names : List String) (graph : DiGraph) :
    (names.foldl DiGraph.addNode graph).edges = graph.edges ∧
      ∀ node ∈ graph.nodes, node ∈ (names.foldl DiGraph.addNode graph).nodes := by
  induction names generalizing graph with
  | nil => exact ⟨rfl, fun _ member => member⟩
  | cons name rest ih =>
    obtain ⟨edges, nodes⟩ := ih (graph.addNode name)
    exact ⟨edges, fun node member => nodes node ((graph.mem_add_node_iff _ _).mpr (Or.inl member))⟩

theorem edges_added (edges : List (String × String)) (graph : DiGraph) (edge : String × String) :
    edge ∈ (edges.foldl DiGraph.addEdge graph).edges ↔ edge ∈ graph.edges ∨ edge ∈ edges := by
  induction edges generalizing graph with
  | nil => simp
  | cons first rest ih =>
    rw [List.foldl_cons, ih, DiGraph.mem_add_edge_iff, List.mem_cons, or_assoc]

theorem organization_edges {graph : DiGraph} (built : reg.organization = some graph)
    (person manager : String) :
    (person, manager) ∈ graph.edges ↔ reg.Reports person manager := by
  obtain ⟨names, _, rfl⟩ := Option.map_eq_some_iff.mp built
  rw [(nodes_added _ _).1, edges_added, (nodes_added _ _).1, mem_report_edges_iff]
  exact or_iff_right List.not_mem_nil

theorem not_right_of_reports {person manager : String} (reports : reg.Reports person manager) :
    ¬reg.OrganizationRight := by
  rintro ⟨graph, built, right⟩
  have edge := (organization_edges built person manager).mpr reports
  rcases (right person (graph.inside _ edge).1).1 with ⟨alone, _⟩ | ⟨level, own, _, managers⟩
  · exact alone manager reports
  · obtain ⟨other, less, theirs⟩ := managers manager reports
    obtain ⟨below, lower, again⟩ := graph.level_predecessor theirs edge
    rw [own] at again
    have same := Option.some.inj again
    omega

end CompanyRegistry

end AiEnterpriseOs.Company
