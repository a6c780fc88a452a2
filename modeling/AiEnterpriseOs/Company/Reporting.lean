import AiEnterpriseOs.Company.OrgGraph
import AiEnterpriseOs.Library.ReachCount
import Mathlib.Data.List.Chain

/-!
# Reporting structures

The chain of command and the total span of control of a node. Both walks keep
what they have met, and neither counts the node that it starts from as met.
-/

namespace AiEnterpriseOs.Company

open Library

namespace OrgGraph

variable (graph : OrgGraph)

/-- `get_total_span_of_control`; the rounds bound the nesting of `_count`. -/
def getTotalSpanOfControl (nodeId : String) : Option Nat :=
  (ReachCount.count (fun nodeId => (graph.childrenOf nodeId).map OrgNode.id)
    (graph.nodes.keys.length + 1) ∅ nodeId).map Prod.snd

/-- The next node of the chain; an edge of type `reports_to` comes first. -/
def nextInChain (current : String) : Option String :=
  let parents := graph.parentsOf current
  let reportsToParents := parents.flatMap fun parent =>
    (graph.edges.filter fun edge =>
      edge.sourceId = current && edge.targetId = parent.id &&
        edge.edgeType = "reports_to").map fun _ => parent.id
  match reportsToParents with
  | nextId :: _ => some nextId
  | [] => parents.head?.map OrgNode.id

/-- The loop of `get_reporting_chain`. -/
def chainFrom : Nat → Finset String → List String → String → Option (List String)
  | 0, _, _, _ => none
  | rounds + 1, visited, chain, current =>
    match graph.nextInChain current with
    | none => some chain
    | some nextId =>
      if nextId ∈ visited then some chain
      else chainFrom rounds (insert nextId visited) (chain ++ [nextId]) nextId

def getReportingChain (nodeId : String) : Option (List String) :=
  graph.chainFrom (graph.nodes.keys.length + 1) ∅ [nodeId] nodeId

/-- A path of edges from the node without a repetition. -/
def ChainRight (nodeId : String) : Prop :=
  ∃ chain, graph.getReportingChain nodeId = some chain ∧ chain.head? = some nodeId ∧
    chain.IsChain graph.Linked ∧ chain.Nodup

/-- The number of the other nodes that the node is reached from. -/
def SpanRight (nodeId : String) : Prop :=
  ∃ team : Finset String, graph.getTotalSpanOfControl nodeId = some team.card ∧
    ∀ other, other ∈ team ↔ other ≠ nodeId ∧ Relation.TransGen graph.Linked other nodeId

variable {graph} {nodeId : String}

/-! ## The span of control -/

theorem below_linked_iff (listed : nodeId ∈ graph.nodes.keys) (other : String) :
    ReachCount.Below (fun nodeId => (graph.childrenOf nodeId).map OrgNode.id) nodeId other ↔
      graph.Linked other nodeId := by
  rw [ReachCount.Below, mem_children_iff, Linked]
  simp [listed]

theorem reached_iff (listed : nodeId ∈ graph.nodes.keys) (other : String) : Relation.TransGen
        (ReachCount.Below fun nodeId => (graph.childrenOf nodeId).map OrgNode.id) nodeId other ↔
      Relation.TransGen graph.Linked other nodeId := by
  constructor
  · intro path
    have both : other ∈ graph.nodes.keys ∧ Relation.TransGen graph.Linked other nodeId := by
      induction path with
      | single first =>
        have linked := (below_linked_iff listed _).mp first
        exact ⟨linked.1, .single linked⟩
      | tail _ last reached =>
        have linked := (below_linked_iff reached.1 _).mp last
        exact ⟨linked.1, reached.2.head linked⟩
    exact both.2
  · intro path
    induction path using Relation.TransGen.head_induction_on with
    | single linked => exact .single ((below_linked_iff linked.2.1 _).mpr linked)
    | head linked _ reached => exact reached.tail ((below_linked_iff linked.2.1 _).mpr linked)

theorem span_counts (listed : nodeId ∈ graph.nodes.keys) :
    ∃ found : Finset String, graph.getTotalSpanOfControl nodeId = some found.card ∧
      ∀ other, other ∈ found ↔ Relation.TransGen graph.Linked other nodeId := by
  have inside : ∀ nodeId, ∀ other ∈ (graph.childrenOf nodeId).map OrgNode.id,
      other ∈ graph.nodes.keys.toFinset := by
    intro nodeId other member
    exact List.mem_toFinset.mpr ((mem_children_iff other nodeId).mp member).1
  have enough : graph.nodes.keys.toFinset.card < graph.nodes.keys.length + 1 :=
    Nat.lt_succ_of_le (List.toFinset_card_le _)
  obtain ⟨found, counted, reached⟩ := ReachCount.count_reached inside enough nodeId
  refine ⟨found, ?_, fun other => (reached other).trans (reached_iff listed other)⟩
  rw [getTotalSpanOfControl, counted]
  rfl

theorem span_right_iff (listed : nodeId ∈ graph.nodes.keys) :
    graph.SpanRight nodeId ↔ ¬Relation.TransGen graph.Linked nodeId nodeId := by
  obtain ⟨found, counted, reached⟩ := span_counts listed
  constructor
  · rintro ⟨team, same, others⟩ cyclic
    rw [counted, Option.some.injEq] at same
    have fewer : team.card < found.card := by
      apply Finset.card_lt_card
      rw [Finset.ssubset_iff_of_subset]
      · exact ⟨nodeId, (reached nodeId).mpr cyclic, fun member => ((others nodeId).mp member).1 rfl⟩
      · intro other member
        exact (reached other).mpr ((others other).mp member).2
    omega
  · intro acyclic
    refine ⟨found, counted, fun other => ?_⟩
    rw [reached]
    refine ⟨fun path => ⟨?_, path⟩, And.right⟩
    intro same
    rw [same] at path
    exact acyclic path

/-! ## The chain of command -/

theorem next_linked {current nextId : String} (listed : current ∈ graph.nodes.keys)
    (found : graph.nextInChain current = some nextId) : graph.Linked current nextId := by
  have parent : nextId ∈ (graph.parentsOf current).map OrgNode.id := by
    unfold nextInChain at found
    dsimp only at found
    split at found
    next chosen rest picked =>
      have member : chosen ∈ chosen :: rest := List.mem_cons_self
      rw [← picked, List.mem_flatMap] at member
      obtain ⟨parent, listed, inside⟩ := member
      obtain ⟨edge, _, same⟩ := List.mem_map.mp inside
      rw [← Option.some.inj found, ← same]
      exact List.mem_map_of_mem listed
    next =>
      obtain ⟨parent, first, same⟩ := Option.map_eq_some_iff.mp found
      rw [← same]
      exact List.mem_map_of_mem (List.mem_of_head? first)
  obtain ⟨present, edge, member, source, target⟩ := (mem_parents_iff current nextId).mp parent
  exact ⟨listed, present, edge, member, source, target⟩

/-- The chain walked so far, and what has been met on it. -/
structure Walked (graph : OrgGraph) (start : String) (tail : List String) (current : String) :
    Prop where
  linked : (start :: tail).IsChain graph.Linked
  last : (start :: tail).getLast? = some current
  once : tail.Nodup
  above : ∀ nodeId ∈ tail, nodeId ∈ graph.nodes.keys ∧ Relation.TransGen graph.Linked start nodeId

theorem Walked.listed {start current : String} {tail : List String}
    (walked : Walked graph start tail current) (listed : start ∈ graph.nodes.keys) :
    current ∈ graph.nodes.keys ∧ Relation.ReflTransGen graph.Linked start current := by
  have member := List.mem_of_getLast? walked.last
  rcases List.mem_cons.mp member with same | later
  · rw [same]
    exact ⟨listed, .refl⟩
  · obtain ⟨present, path⟩ := walked.above current later
    exact ⟨present, path.to_reflTransGen⟩

theorem Walked.step {start current nextId : String} {tail : List String}
    (walked : Walked graph start tail current) (listed : start ∈ graph.nodes.keys)
    (found : graph.nextInChain current = some nextId) (fresh : nextId ∉ tail) :
    Walked graph start (tail ++ [nextId]) nextId := by
  obtain ⟨present, path⟩ := walked.listed listed
  have linked := next_linked present found
  constructor
  · rw [← List.cons_append, List.isChain_append]
    refine ⟨walked.linked, List.isChain_singleton nextId, ?_⟩
    intro before isLast after isHead
    rw [walked.last] at isLast
    cases isLast
    cases isHead
    exact linked
  · rw [← List.cons_append, List.getLast?_concat]
  · rw [← List.concat_eq_append]
    exact walked.once.concat fresh
  · intro nodeId member
    rcases List.mem_append.mp member with early | here
    · exact walked.above nodeId early
    · rw [List.mem_singleton.mp here]
      exact ⟨linked.2.1, Relation.TransGen.tail' path linked⟩

theorem chain_from_walked {start : String} (listed : start ∈ graph.nodes.keys) (rounds : Nat)
    {tail : List String} {current : String} (walked : Walked graph start tail current)
    (enough : graph.nodes.keys.length < tail.length + rounds) :
    ∃ later last, graph.chainFrom rounds tail.toFinset (start :: tail) current =
        some (start :: later) ∧ Walked graph start later last := by
  induction rounds generalizing tail current with
  | zero =>
    have few : tail.length ≤ graph.nodes.keys.length := by
      apply List.Subperm.length_le
      apply List.subperm_of_subset walked.once
      exact fun nodeId member => (walked.above nodeId member).1
    omega
  | succ rounds ih =>
    rw [chainFrom]
    cases found : graph.nextInChain current with
    | none => exact ⟨tail, current, rfl, walked⟩
    | some nextId =>
      by_cases known : nextId ∈ tail
      · refine ⟨tail, current, ?_, walked⟩
        dsimp only
        rw [if_pos (List.mem_toFinset.mpr known)]
      · have after := walked.step listed found known
        have visited : insert nextId tail.toFinset = (tail ++ [nextId]).toFinset := by
          ext other
          simp
        dsimp only
        rw [if_neg fun member => known (List.mem_toFinset.mp member), visited]
        apply ih after
        rw [List.length_append, List.length_singleton]
        omega

theorem chain_right_of_acyclic (listed : nodeId ∈ graph.nodes.keys)
    (acyclic : ¬Relation.TransGen graph.Linked nodeId nodeId) : graph.ChainRight nodeId := by
  have start : Walked graph nodeId [] nodeId := by
    constructor
    · exact List.isChain_singleton nodeId
    · rfl
    · exact List.nodup_nil
    · exact fun other member => absurd member List.not_mem_nil
  obtain ⟨later, last, found, walked⟩ := chain_from_walked listed
    (graph.nodes.keys.length + 1) start (by rw [List.length_nil]; omega)
  refine ⟨nodeId :: later, found, rfl, walked.linked, ?_⟩
  rw [List.nodup_cons]
  exact ⟨fun member => acyclic (walked.above nodeId member).2, walked.once⟩

/-- Chain and span of a node are right exactly if the node is on no cycle. -/
theorem reporting_right_iff (graph : OrgGraph) (nodeId : String)
    (listed : nodeId ∈ graph.nodes.keys) :
    graph.ChainRight nodeId ∧ graph.SpanRight nodeId ↔
      ¬Relation.TransGen graph.Linked nodeId nodeId := by
  constructor
  · intro both
    exact (span_right_iff listed).mp both.2
  · intro acyclic
    exact ⟨chain_right_of_acyclic listed acyclic, (span_right_iff listed).mpr acyclic⟩

/-- A graph of nodes without titles. -/
def ofReports (ids : List String) (reports : List (String × String)) : OrgGraph :=
  reports.foldl (fun graph line => graph.addEdge { sourceId := line.1, targetId := line.2 })
    (ids.foldl (fun graph nodeId => graph.addNode { id := nodeId, name := nodeId }) empty)

/-- A node below a cycle is on none. -/
theorem below_a_cycle :
    let graph := ofReports ["a", "b", "c"] [("a", "b"), ("b", "c"), ("c", "b")]
    graph.ChainRight "a" ∧ graph.SpanRight "a" := by
  intro graph
  apply (reporting_right_iff graph "a" (by decide)).mpr
  intro cyclic
  obtain ⟨_, _, linked⟩ := Relation.TransGen.tail'_iff.mp cyclic
  have none : ∀ edge ∈ graph.edges, edge.targetId ≠ "a" := by decide
  obtain ⟨edge, member, _, target⟩ := linked.2.2
  exact none edge member target

/-- Two who report to each other: the chain comes back and both are counted. -/
theorem mutual_reports :
    let graph := ofReports ["a", "b"] [("a", "b"), ("b", "a")]
    graph.getReportingChain "a" = some ["a", "b", "a"] ∧
      graph.getTotalSpanOfControl "a" = some 2 ∧ ¬graph.ChainRight "a" ∧
      ¬graph.SpanRight "a" := by
  intro graph
  have chain : graph.getReportingChain "a" = some ["a", "b", "a"] := by decide
  have span : graph.getTotalSpanOfControl "a" = some 2 := by decide
  refine ⟨chain, span, ?_, ?_⟩
  · rintro ⟨found, same, _, _, once⟩
    rw [chain, Option.some.injEq] at same
    rw [← same] at once
    exact absurd once (by decide)
  · rw [span_right_iff (by decide), not_not]
    have up : graph.Linked "a" "b" :=
      ⟨by decide, by decide, { sourceId := "a", targetId := "b" }, by decide, rfl, rfl⟩
    have back : graph.Linked "b" "a" :=
      ⟨by decide, by decide, { sourceId := "b", targetId := "a" }, by decide, rfl, rfl⟩
    exact (Relation.TransGen.single up).tail back

end OrgGraph

end AiEnterpriseOs.Company
