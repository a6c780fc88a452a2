import AiEnterpriseOs.Library.Grouping
import Mathlib.Logic.Relation

/-!
# The organization graph

Nodes under their ids, edges from subordinates to managers, and two tables
that list the edges from either end.
-/

namespace AiEnterpriseOs.Company

open Library

structure OrgNode where
  id : String
  name : String
  title : String := ""
  nodeType : String := "executive"
  level : Int := 0
  department : String := ""
  parentId : Option String := none
  deriving DecidableEq

structure OrgEdge where
  sourceId : String
  targetId : String
  edgeType : String := "reports_to"
  deriving DecidableEq

structure OrgGraph where
  nodes : OrderedDict String OrgNode
  edges : List OrgEdge
  adjacency : OrderedDict String (List String)
  reverseAdj : OrderedDict String (List String)
  keyed : ∀ nodeId node, nodes.get? nodeId = some node → node.id = nodeId
  forward : ∀ nodeId, adjacency.listed nodeId =
    (edges.filter fun edge => edge.sourceId = nodeId).map OrgEdge.targetId
  backward : ∀ nodeId, reverseAdj.listed nodeId =
    (edges.filter fun edge => edge.targetId = nodeId).map OrgEdge.sourceId

namespace OrgGraph

def empty : OrgGraph where
  nodes := OrderedDict.empty
  edges := []
  adjacency := OrderedDict.empty
  reverseAdj := OrderedDict.empty
  keyed _ _ found := by cases found
  forward _ := rfl
  backward _ := rfl

variable (graph : OrgGraph)

def addNode (node : OrgNode) : OrgGraph :=
  { graph with
    nodes := graph.nodes.set node.id node
    keyed := by
      intro nodeId other found
      rw [OrderedDict.get_set] at found
      split at found
      next same =>
        cases found
        exact same.symm
      next => exact graph.keyed nodeId other found }

theorem listed_append_edge {table : OrderedDict String (List String)} {edges : List OrgEdge}
    {key item : OrgEdge → String}
    (lists : ∀ nodeId, table.listed nodeId =
      (edges.filter fun edge => key edge = nodeId).map item) (edge : OrgEdge) (nodeId : String) :
    (table.append (key edge) (item edge)).listed nodeId =
      ((edges ++ [edge]).filter fun edge => key edge = nodeId).map item := by
  rw [OrderedDict.listed_append, List.filter_append, List.map_append, ← lists]
  by_cases here : nodeId = key edge
  · simp [here]
  · simp [here, Ne.symm here]

def addEdge (edge : OrgEdge) : OrgGraph :=
  { graph with
    edges := graph.edges ++ [edge]
    adjacency := graph.adjacency.append edge.sourceId edge.targetId
    reverseAdj := graph.reverseAdj.append edge.targetId edge.sourceId
    forward := listed_append_edge graph.forward edge
    backward := listed_append_edge graph.backward edge }

def getNode (nodeId : String) : Option OrgNode := graph.nodes.get? nodeId

/-- The nodes that report to the node. -/
def childrenOf (nodeId : String) : List OrgNode :=
  (graph.reverseAdj.listed nodeId).filterMap graph.nodes.get?

/-- The nodes that the node reports to. -/
def parentsOf (nodeId : String) : List OrgNode :=
  (graph.adjacency.listed nodeId).filterMap graph.nodes.get?

/-- An edge between two nodes of the graph, from the lower to the upper. -/
def Linked (lower upper : String) : Prop :=
  lower ∈ graph.nodes.keys ∧ upper ∈ graph.nodes.keys ∧
    ∃ edge ∈ graph.edges, edge.sourceId = lower ∧ edge.targetId = upper

variable {graph}

theorem mem_found_iff (ids : List String) (node : OrgNode) : node ∈ ids.filterMap graph.nodes.get? ↔
      node.id ∈ ids ∧ graph.nodes.get? node.id = some node := by
  rw [List.mem_filterMap]
  constructor
  · rintro ⟨nodeId, listed, found⟩
    rw [graph.keyed nodeId node found]
    exact ⟨listed, found⟩
  · rintro ⟨listed, found⟩
    exact ⟨node.id, listed, found⟩

theorem mem_found_ids_iff (ids : List String) (nodeId : String) :
    nodeId ∈ (ids.filterMap graph.nodes.get?).map OrgNode.id ↔
      nodeId ∈ ids ∧ nodeId ∈ graph.nodes.keys := by
  rw [List.mem_map, OrderedDict.mem_keys_iff]
  constructor
  · rintro ⟨node, member, same⟩
    obtain ⟨listed, found⟩ := (mem_found_iff ids node).mp member
    rw [← same]
    exact ⟨listed, node, found⟩
  · rintro ⟨listed, node, found⟩
    have named := graph.keyed nodeId node found
    exact ⟨node, (mem_found_iff ids node).mpr ⟨named ▸ listed, named ▸ found⟩, named⟩

theorem mem_children_iff (lower upper : String) : lower ∈ (graph.childrenOf upper).map OrgNode.id ↔
      lower ∈ graph.nodes.keys ∧
        ∃ edge ∈ graph.edges, edge.sourceId = lower ∧ edge.targetId = upper := by
  rw [childrenOf, mem_found_ids_iff, graph.backward, and_comm]
  simp only [List.mem_map, List.mem_filter, decide_eq_true_eq]
  constructor
  · rintro ⟨present, edge, ⟨listed, target⟩, source⟩
    exact ⟨present, edge, listed, source, target⟩
  · rintro ⟨present, edge, listed, source, target⟩
    exact ⟨present, edge, ⟨listed, target⟩, source⟩

theorem mem_parents_iff (lower upper : String) : upper ∈ (graph.parentsOf lower).map OrgNode.id ↔
      upper ∈ graph.nodes.keys ∧
        ∃ edge ∈ graph.edges, edge.sourceId = lower ∧ edge.targetId = upper := by
  rw [parentsOf, mem_found_ids_iff, graph.forward, and_comm]
  simp only [List.mem_map, List.mem_filter, decide_eq_true_eq]
  constructor
  · rintro ⟨present, edge, ⟨listed, source⟩, target⟩
    exact ⟨present, edge, listed, source, target⟩
  · rintro ⟨present, edge, listed, source, target⟩
    exact ⟨present, edge, ⟨listed, source⟩, target⟩

end OrgGraph

end AiEnterpriseOs.Company
