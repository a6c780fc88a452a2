import Mathlib.Data.Finset.Card
import Mathlib.Data.Finset.Filter
import Mathlib.Data.Finset.SDiff
import Mathlib.Data.List.Flatten

/-!
# Layering by readiness

In every round the nodes that are ready form a layer and count as completed in
the next. While some node is ready in every round, the layers share the nodes
out, and a layer holds exactly the nodes that the earlier layers make ready.
-/

namespace AiEnterpriseOs.Library

namespace Layering

variable {Node : Type*}

/-- The order in which a loop over a set takes its elements. -/
structure SetOrder (Node : Type*) where
  list : Finset Node → List Node
  nodup : ∀ nodes, (list nodes).Nodup
  mem : ∀ nodes node, node ∈ list nodes ↔ node ∈ nodes

/-- The nodes not completed, in layers. -/
inductive Layered (nodes : Finset Node) (ready : List Node → Node → Bool) :
    List Node → List (List Node) → Prop
  | done (completed : List Node) (all : ∀ node ∈ nodes, node ∈ completed) :
      Layered nodes ready completed []
  | layer (completed layer : List Node) (rest : List (List Node)) (nonempty : layer ≠ [])
      (once : layer.Nodup)
      (next : ∀ node, node ∈ layer ↔ node ∈ nodes ∧ node ∉ completed ∧ ready completed node)
      (later : Layered nodes ready (completed ++ layer) rest) :
      Layered nodes ready completed (layer :: rest)

namespace Layered

variable {nodes : Finset Node} {ready : List Node → Node → Bool} {completed : List Node}
  {found : List (List Node)}

theorem nonempty (layered : Layered nodes ready completed found) : ∀ layer ∈ found, layer ≠ [] := by
  induction layered with
  | done => simp
  | layer _ _ _ nonempty _ _ _ ih => exact List.forall_mem_cons.mpr ⟨nonempty, ih⟩

theorem mem_flatten_iff (layered : Layered nodes ready completed found) (node : Node) :
    node ∈ found.flatten ↔ node ∈ nodes ∧ node ∉ completed := by
  induction layered with
  | done completed all =>
    constructor
    · intro member
      cases member
    · rintro ⟨listed, undone⟩
      exact absurd (all node listed) undone
  | layer completed layer rest _ _ next _ ih =>
    rw [List.flatten_cons, List.mem_append, ih, next, List.mem_append, not_or]
    constructor
    · rintro (⟨listed, undone, _⟩ | ⟨listed, undone, _⟩) <;> exact ⟨listed, undone⟩
    · rintro ⟨listed, undone⟩
      by_cases here : ready completed node = true
      · exact Or.inl ⟨listed, undone, here⟩
      · exact Or.inr ⟨listed, undone, fun member => here ((next node).mp member).2.2⟩

theorem flatten_nodup (layered : Layered nodes ready completed found) :
    found.flatten.Nodup := by
  induction layered with
  | done => exact List.nodup_nil
  | layer completed layer rest _ once _ later ih =>
    rw [List.flatten_cons]
    apply once.append ih
    intro node here further
    have undone := ((later.mem_flatten_iff node).mp further).2
    exact undone (List.mem_append_right _ here)

/-- A layer holds the nodes that the completed ones and the earlier layers make
ready. -/
theorem mem_layer_iff (layered : Layered nodes ready completed found) {index : Nat}
    {layer : List Node} (taken : found[index]? = some layer) (node : Node) :
    node ∈ layer ↔ node ∈ nodes ∧ node ∉ completed ++ (found.take index).flatten ∧
      ready (completed ++ (found.take index).flatten) node := by
  induction layered generalizing index with
  | done => cases taken
  | layer completed first rest _ _ next _ ih =>
    cases index with
    | zero =>
      cases taken
      rw [List.take_zero, List.flatten_nil, List.append_nil]
      exact next node
    | succ index =>
      rw [List.take_succ_cons, List.flatten_cons, ← List.append_assoc]
      exact ih taken

end Layered

variable [DecidableEq Node]

/-- The loop over the remaining nodes; `none` when none of them is ready. -/
def layers (order : SetOrder Node) (ready : List Node → Node → Bool) :
    Nat → Finset Node → List Node → Option (List (List Node))
  | rounds, remaining, completed =>
    if remaining = ∅ then some []
    else
      let layer := (order.list remaining).filter (ready completed)
      if layer = [] then none
      else
        match rounds with
        | 0 => none
        | rounds + 1 =>
          (layers order ready rounds (remaining \ layer.toFinset)
            (completed ++ layer)).map (layer :: ·)

section Rounds

variable {nodes : Finset Node} {ready : List Node → Node → Bool}

theorem remaining_after (completed layer : List Node) :
    nodes.filter (· ∉ completed) \ layer.toFinset = nodes.filter (· ∉ completed ++ layer) := by
  ext node
  simp [and_assoc]

theorem all_completed {completed : List Node} (empty : nodes.filter (· ∉ completed) = ∅) :
    ∀ node ∈ nodes, node ∈ completed := by
  intro node listed
  by_contra undone
  exact Finset.notMem_empty node (empty ▸ Finset.mem_filter.mpr ⟨listed, undone⟩)

theorem fewer_remaining {completed layer : List Node} {node : Node} (listed : node ∈ nodes)
    (undone : node ∉ completed) (taken : node ∈ layer) :
    (nodes.filter (· ∉ completed ++ layer)).card < (nodes.filter (· ∉ completed)).card := by
  apply Finset.card_lt_card
  rw [← remaining_after]
  apply (Finset.ssubset_iff_of_subset Finset.sdiff_subset).mpr
  refine ⟨node, Finset.mem_filter.mpr ⟨listed, undone⟩, ?_⟩
  intro left
  exact (Finset.mem_sdiff.mp left).2 (List.mem_toFinset.mpr taken)

variable (order : SetOrder Node)
  (progress : ∀ completed : List Node, (∃ node ∈ nodes, node ∉ completed) →
    ∃ node ∈ nodes, node ∉ completed ∧ ready completed node)
include progress

theorem layers_layered (rounds : Nat) (completed : List Node)
    (enough : (nodes.filter (· ∉ completed)).card ≤ rounds) :
    ∃ found, layers order ready rounds (nodes.filter (· ∉ completed)) completed = some found ∧
      Layered nodes ready completed found := by
  induction rounds generalizing completed with
  | zero =>
    have empty := Finset.card_eq_zero.mp (Nat.le_zero.mp enough)
    refine ⟨[], ?_, Layered.done completed (all_completed empty)⟩
    rw [layers, if_pos empty]
  | succ rounds ih =>
    by_cases empty : nodes.filter (· ∉ completed) = ∅
    · refine ⟨[], ?_, Layered.done completed (all_completed empty)⟩
      rw [layers, if_pos empty]
    · let layer := (order.list (nodes.filter (· ∉ completed))).filter (ready completed)
      have mem_layer : ∀ node, node ∈ layer ↔
          node ∈ nodes ∧ node ∉ completed ∧ ready completed node := by
        intro node
        simp only [layer, List.mem_filter, order.mem, Finset.mem_filter, and_assoc]
      obtain ⟨start, member⟩ := Finset.nonempty_iff_ne_empty.mpr empty
      obtain ⟨node, listed, undone, free⟩ :=
        progress completed ⟨start, Finset.mem_filter.mp member⟩
      have taken : node ∈ layer := (mem_layer node).mpr ⟨listed, undone, free⟩
      have nonempty : layer ≠ [] := List.ne_nil_of_mem taken
      have fewer := fewer_remaining listed undone taken
      obtain ⟨rest, reached, later⟩ := ih (completed ++ layer) (by omega)
      refine ⟨layer :: rest, ?_, Layered.layer completed layer rest nonempty
        ((order.nodup _).filter _) mem_layer later⟩
      rw [layers, if_neg empty]
      dsimp only
      rw [if_neg nonempty, remaining_after, reached, Option.map_some]

end Rounds

end Layering

end AiEnterpriseOs.Library
