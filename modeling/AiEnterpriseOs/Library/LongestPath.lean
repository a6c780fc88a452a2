import AiEnterpriseOs.Library.DegreeSort
import Mathlib.Data.List.Chain

/-!
# Longest chains

In an acyclic relation the layer of a node is the length of the longest chain
that ends at it, and a search that leaves no path out meets a longest one.
-/

namespace AiEnterpriseOs.Library

namespace LongestPath

variable {Node : Type*}

/-- Known nodes, each linked to the next. -/
structure Chain (known : List Node) (edge : Node → Node → Prop) (chain : List Node) : Prop where
  linked : chain.IsChain edge
  inside : ∀ node ∈ chain, node ∈ known

/-- The longest chain that ends at the node has this length. -/
structure LongestTo (known : List Node) (edge : Node → Node → Prop) (node : Node)
    (length : Nat) : Prop where
  reached : ∃ chain, Chain known edge chain ∧ chain.getLast? = some node ∧ chain.length = length
  longest : ∀ chain, Chain known edge chain → chain.getLast? = some node → chain.length ≤ length

variable {known : List Node} {edge : Node → Node → Prop}

theorem LongestTo.unique {node : Node} {first second : Nat}
    (one : LongestTo known edge node first) (other : LongestTo known edge node second) :
    first = second := by
  obtain ⟨chain, linked, ends, length⟩ := one.reached
  obtain ⟨chain', linked', ends', length'⟩ := other.reached
  have below := other.longest chain linked ends
  have above := one.longest chain' linked' ends'
  omega

theorem Chain.concat {chain : List Node} {last node : Node} (linked : Chain known edge chain)
    (ends : chain.getLast? = some last) (step : edge last node) (listed : node ∈ known) :
    Chain known edge (chain ++ [node]) := by
  constructor
  · apply List.isChain_append.mpr
    refine ⟨linked.linked, List.isChain_singleton node, ?_⟩
    intro before beforeLast after head
    rw [ends] at beforeLast
    cases beforeLast
    cases head
    exact step
  · intro other member
    rcases List.mem_append.mp member with early | here
    · exact linked.inside other early
    · rw [List.mem_singleton.mp here]
      exact listed

theorem Chain.single {node : Node} (listed : node ∈ known) : Chain known edge [node] where
  linked := List.isChain_singleton node
  inside := by simpa using listed

theorem nodup_of_acyclic (acyclic : ∀ node, ¬Relation.TransGen edge node node)
    {chain : List Node} (linked : chain.IsChain edge) : chain.Nodup := by
  have steps : chain.IsChain (Relation.TransGen edge) :=
    linked.imp fun _ _ => Relation.TransGen.single
  apply steps.pairwise.imp
  intro first second path same
  rw [same] at path
  exact acyclic second path

section Layers

variable [DecidableEq Node] {dependencies : Node → List Node}

omit [DecidableEq Node] in
theorem mem_flatten_take {found : List (List Node)} {index : Nat} {node : Node}
    (member : node ∈ (found.take index).flatten) :
    ∃ earlier layer, earlier < index ∧ found[earlier]? = some layer ∧ node ∈ layer := by
  obtain ⟨layer, taken, inside⟩ := List.mem_flatten.mp member
  obtain ⟨earlier, bound, same⟩ := List.mem_take_iff_getElem.mp taken
  exact ⟨earlier, layer, by omega, List.getElem?_eq_some_iff.mpr ⟨by omega, same⟩, inside⟩

theorem dependency_before {found : List (List Node)}
    (layered : Layering.Layered known.toFinset (TopologicalSort.allIn dependencies) [] found)
    {index : Nat} {layer : List Node} (taken : found[index + 1]? = some layer) {node : Node}
    (member : node ∈ layer) :
    ∃ previous dependency, found[index]? = some previous ∧ dependency ∈ previous ∧
      dependency ∈ dependencies node := by
  have inRange := (List.getElem?_eq_some_iff.mp taken).1
  have atPrevious : found[index]? = some found[index] := List.getElem?_eq_getElem (by omega)
  have split : (found.take (index + 1)).flatten = (found.take index).flatten ++ found[index] := by
    rw [List.take_add_one, atPrevious, List.flatten_append]
    simp
  obtain ⟨listed, later, ready⟩ := (layered.mem_layer_iff taken node).mp member
  rw [List.nil_append, split] at later ready
  rw [List.mem_append, not_or] at later
  have unready : ¬TopologicalSort.allIn dependencies (found.take index).flatten node = true := by
    intro early
    apply later.2
    apply (layered.mem_layer_iff atPrevious node).mpr
    rw [List.nil_append]
    exact ⟨listed, later.1, early⟩
  rw [TopologicalSort.all_in_iff] at ready unready
  obtain ⟨dependency, depends, missing⟩ : ∃ dependency ∈ dependencies node,
      dependency ∉ (found.take index).flatten := by simpa using unready
  refine ⟨found[index], dependency, atPrevious, ?_, depends⟩
  exact (List.mem_append.mp (ready dependency depends)).resolve_left missing

theorem longest_of_layer {found : List (List Node)}
    (layered : Layering.Layered known.toFinset (TopologicalSort.allIn dependencies) [] found)
    (index : Nat) {layer : List Node} (taken : found[index]? = some layer) {node : Node}
    (member : node ∈ layer) :
    LongestTo known (fun dependency item => dependency ∈ dependencies item) node (index + 1) := by
  induction index using Nat.strong_induction_on generalizing layer node with
  | _ index ih =>
    obtain ⟨listed, later, ready⟩ := (layered.mem_layer_iff taken node).mp member
    rw [List.nil_append] at later ready
    rw [TopologicalSort.all_in_iff] at ready
    have there := List.mem_toFinset.mp listed
    constructor
    · cases index with
      | zero => exact ⟨[node], Chain.single there, rfl, rfl⟩
      | succ index =>
        obtain ⟨previous, dependency, atPrevious, inside, depends⟩ :=
          dependency_before layered taken member
        obtain ⟨chain, linked, ends, length⟩ :=
          (ih index (Nat.lt_succ_self _) atPrevious inside).reached
        refine ⟨chain ++ [node], linked.concat ends depends there, ?_, ?_⟩
        · exact List.getLast?_concat
        · rw [List.length_append, length, List.length_singleton]
    · intro chain linked ends
      rcases List.eq_nil_or_concat chain with empty | ⟨front, last, split⟩
      · rw [empty] at ends
        cases ends
      · rw [List.concat_eq_append] at split
        rw [split, List.getLast?_concat] at ends
        cases ends
        have parts := List.isChain_append.mp (split ▸ linked.linked)
        rw [split, List.length_append, List.length_singleton]
        cases before : front.getLast? with
        | none =>
          rw [List.getLast?_eq_none_iff.mp before, List.length_nil]
          omega
        | some dependency =>
          have depends := parts.2.2 dependency before node rfl
          obtain ⟨earlier, layer', less, atEarlier, inside⟩ :=
            mem_flatten_take (ready dependency depends)
          have bound := (ih earlier less atEarlier inside).longest front
            ⟨parts.1, fun other member => linked.inside other
              (by rw [split]; exact List.mem_append_left _ member)⟩ before
          omega

/-- A node is in a layer exactly if the longest chain to it is as long as that says. -/
theorem mem_layer_iff_longest {found : List (List Node)}
    (layered : Layering.Layered known.toFinset (TopologicalSort.allIn dependencies) [] found)
    (index : Nat) (node : Node) :
    node ∈ found.getD index [] ↔ node ∈ known ∧
      LongestTo known (fun dependency item => dependency ∈ dependencies item) node (index + 1) := by
  constructor
  · intro member
    cases taken : found[index]? with
    | none =>
      rw [List.getD_eq_getElem?_getD, taken] at member
      cases member
    | some layer =>
      rw [List.getD_eq_getElem?_getD, taken, Option.getD_some] at member
      have listed := ((layered.mem_layer_iff taken node).mp member).1
      exact ⟨List.mem_toFinset.mp listed, longest_of_layer layered index taken member⟩
  · intro found'
    obtain ⟨listed, longest⟩ := found'
    have all := (layered.mem_flatten_iff node).mpr ⟨List.mem_toFinset.mpr listed, List.not_mem_nil⟩
    rw [← List.take_length (l := found)] at all
    obtain ⟨at', layer, _, taken, inside⟩ := mem_flatten_take all
    have same := (longest_of_layer layered at' taken inside).unique longest
    rw [List.getD_eq_getElem?_getD, ← Nat.succ.inj same, taken]
    exact inside

theorem layers_length {found : List (List Node)}
    (layered : Layering.Layered known.toFinset (TopologicalSort.allIn dependencies) [] found)
    {chain : List Node}
    (linked : Chain known (fun dependency item => dependency ∈ dependencies item) chain)
    (longest : ∀ other, Chain known (fun dependency item => dependency ∈ dependencies item) other →
        other.length ≤ chain.length) :
    chain.length = found.length := by
  apply Nat.le_antisymm
  · cases ends : chain.getLast? with
    | none =>
      rw [List.getLast?_eq_none_iff.mp ends]
      exact Nat.zero_le _
    | some node =>
      have listed := linked.inside node (List.mem_of_getLast? ends)
      have all := (layered.mem_flatten_iff node).mpr
        ⟨List.mem_toFinset.mpr listed, List.not_mem_nil⟩
      rw [← List.take_length (l := found)] at all
      obtain ⟨index, layer, less, taken, inside⟩ := mem_flatten_take all
      have bound := (longest_of_layer layered index taken inside).longest chain linked ends
      omega
  · cases last : found.getLast? with
    | none =>
      rw [List.getLast?_eq_none_iff.mp last]
      exact Nat.zero_le _
    | some layer =>
      rw [List.getLast?_eq_getElem?] at last
      obtain ⟨node, inside⟩ := List.exists_mem_of_ne_nil layer
        (layered.nonempty layer (List.mem_of_getElem? last))
      obtain ⟨other, linked', _, length⟩ :=
        (longest_of_layer layered _ last inside).reached
      have bound := longest other linked'
      omega

end Layers

section Search

variable [DecidableEq Node]

/-- The paths on from the node, all of them one after the other; the best path so far
and its number of edges are kept. -/
def search (next : Node → List Node) :
    Nat → Node → List Node → List Node → List Node × Int → List Node × Int
  | 0, _, _, _, best => best
  | depth + 1, node, path, visited, best =>
    let current := path ++ [node]
    let entered := node :: visited
    let edges : Int := current.length - 1
    let better := if best.2 < edges then (current, edges) else best
    (next node).foldl (fun best neighbor =>
      if neighbor ∈ entered then best
      else search next depth neighbor current entered best) better

/-- The best path so far is a chain of known nodes, or there is none yet. -/
inductive Best (known : List Node) (edge : Node → Node → Prop) : List Node × Int → Prop
  | start : Best known edge ([], -1)
  | path (chain : List Node) (linked : Chain known edge chain) :
      Best known edge (chain, chain.length - 1)

/-- What a search does with the best path: it stays a chain, and no path on from the node
is longer. -/
structure Improves (known : List Node) (edge : Node → Node → Prop) (path : List Node)
    (node : Node) (best after : List Node × Int) : Prop where
  valid : Best known edge after
  kept : best.2 ≤ after.2
  covers : ∀ rest, (node :: rest).IsChain edge → ((path.length + rest.length : Nat) : Int) ≤ after.2

variable {next : Node → List Node}

omit [DecidableEq Node] in
theorem fold_improves {path nodes : List Node} {body : List Node × Int → Node → List Node × Int}
    (each : ∀ best, ∀ node ∈ nodes, Best known edge best →
      Improves known edge path node best (body best node))
    {best : List Node × Int} (valid : Best known edge best) :
    Best known edge (nodes.foldl body best) ∧ best.2 ≤ (nodes.foldl body best).2 ∧
      ∀ node ∈ nodes, Improves known edge path node best (nodes.foldl body best) := by
  induction nodes generalizing best with
  | nil => exact ⟨valid, le_rfl, List.forall_mem_nil _⟩
  | cons first rest ih =>
    have head := each best first List.mem_cons_self valid
    obtain ⟨validAll, keptAll, all⟩ := ih
      (fun best node member => each best node (List.mem_cons_of_mem _ member)) head.valid
    have kept := head.kept.trans keptAll
    refine ⟨validAll, kept, List.forall_mem_cons.mpr ⟨?_, ?_⟩⟩
    · exact ⟨validAll, kept, fun later linked => (head.covers later linked).trans keptAll⟩
    · intro node member
      exact ⟨validAll, kept, (all node member).covers⟩

/-- The best path after looking at the one that ends at the node. -/
def better (path : List Node) (node : Node) (best : List Node × Int) : List Node × Int :=
  if best.2 < ((path ++ [node]).length : Int) - 1 then
    (path ++ [node], ((path ++ [node]).length : Int) - 1)
  else best

omit [DecidableEq Node] in
theorem better_improves {path : List Node} {node : Node} {best : List Node × Int}
    (linked : Chain known edge (path ++ [node])) (valid : Best known edge best) :
    Best known edge (better path node best) ∧ best.2 ≤ (better path node best).2 ∧
      (path.length : Int) ≤ (better path node best).2 := by
  have edges : ((path ++ [node]).length : Int) - 1 = path.length := by
    rw [List.length_append, List.length_singleton]
    omega
  unfold better
  split
  next less => exact ⟨.path _ linked, by dsimp only; omega, by dsimp only; omega⟩
  next more => exact ⟨valid, le_rfl, by omega⟩

theorem search_improves (acyclic : ∀ node, ¬Relation.TransGen edge node node)
    (step : ∀ node other, other ∈ next node ↔ edge node other)
    (closed : ∀ node other, edge node other → other ∈ known) (depth : Nat) {node : Node}
    {path visited : List Node} {best : List Node × Int}
    (linked : Chain known edge (path ++ [node]))
    (entered : ∀ other, other ∈ visited ↔ other ∈ path)
    (deep : known.length ≤ path.length + depth) (valid : Best known edge best) :
    Improves known edge path node best (search next depth node path visited best) := by
  induction depth generalizing node path visited best with
  | zero =>
    have within := (List.subperm_of_subset (nodup_of_acyclic acyclic linked.linked)
      linked.inside).length_le
    rw [List.length_append, List.length_singleton] at within
    omega
  | succ depth ih =>
    let body := fun (best : List Node × Int) (neighbor : Node) =>
      if neighbor ∈ node :: visited then best
      else search next depth neighbor (path ++ [node]) (node :: visited) best
    have each : ∀ best, ∀ neighbor ∈ next node, Best known edge best →
        Improves known edge (path ++ [node]) neighbor best (body best neighbor) := by
      intro best neighbor member valid
      have follows := (step node neighbor).mp member
      have further := linked.concat List.getLast?_concat follows (closed node neighbor follows)
      have enteredBelow : ∀ other, other ∈ node :: visited ↔ other ∈ path ++ [node] := by
        intro other
        rw [List.mem_cons, List.mem_append, List.mem_singleton, entered]
        exact or_comm
      have fresh : neighbor ∉ node :: visited := by
        intro again
        have once := nodup_of_acyclic acyclic further.linked
        exact (List.nodup_append.mp once).2.2 neighbor ((enteredBelow neighbor).mp again)
          neighbor (List.mem_singleton_self _) rfl
      rw [show body best neighbor = _ from if_neg fresh]
      apply ih further enteredBelow _ valid
      rw [List.length_append, List.length_singleton]
      omega
    obtain ⟨betterValid, betterKept, here⟩ := better_improves linked valid
    obtain ⟨validAll, keptAll, all⟩ := fold_improves each betterValid
    refine ⟨validAll, betterKept.trans keptAll, ?_⟩
    intro rest chain
    cases rest with
    | nil =>
      rw [List.length_nil, Nat.add_zero]
      exact here.trans keptAll
    | cons neighbor rest =>
      obtain ⟨follows, onward⟩ := List.isChain_cons_cons.mp chain
      have covered := (all neighbor ((step node neighbor).mpr follows)).covers rest onward
      rw [List.length_append, List.length_singleton] at covered
      rw [List.length_cons]
      refine le_trans (le_of_eq ?_) covered
      omega

theorem search_all (acyclic : ∀ node, ¬Relation.TransGen edge node node)
    (step : ∀ node other, other ∈ next node ↔ edge node other)
    (closed : ∀ node other, edge node other → other ∈ known) {depth : Nat}
    (deep : known.length ≤ depth) :
    let longest := (known.foldl (fun best node => search next depth node [] [] best) ([], -1)).1
    Chain known edge longest ∧ ∀ chain, Chain known edge chain → chain.length ≤ longest.length := by
  intro longest
  have each : ∀ best, ∀ node ∈ known, Best known edge best →
      Improves known edge [] node best (search next depth node [] [] best) := by
    intro best node listed valid
    apply search_improves acyclic step closed depth _ (fun _ => Iff.rfl) _ valid
    · exact Chain.single listed
    · rw [List.length_nil]
      omega
  have longestOf : ∀ best : List Node × Int, Best known edge best →
      (∀ node ∈ known, ∀ rest, (node :: rest).IsChain edge → (rest.length : Int) ≤ best.2) →
        Chain known edge best.1 ∧
          ∀ chain, Chain known edge chain → chain.length ≤ best.1.length := by
    intro best valid covers
    have shorter : ∀ chain, Chain known edge chain → (chain.length : Int) ≤ best.2 + 1 := by
      intro chain linked
      cases chain with
      | nil =>
        cases valid with
        | start =>
          dsimp only
          rw [List.length_nil]
          omega
        | path longest linked =>
          dsimp only
          rw [List.length_nil]
          omega
      | cons node rest =>
        have covered := covers node (linked.inside node List.mem_cons_self) rest linked.linked
        rw [List.length_cons]
        omega
    cases valid with
    | start =>
      refine ⟨⟨List.isChain_nil, List.forall_mem_nil _⟩, ?_⟩
      intro chain linked
      have bound := shorter chain linked
      dsimp only at bound ⊢
      rw [List.length_nil]
      omega
    | path longest linked =>
      refine ⟨linked, ?_⟩
      intro chain linked
      have bound := shorter chain linked
      dsimp only at bound ⊢
      omega
  obtain ⟨valid, _, all⟩ := fold_improves each .start
  apply longestOf _ valid
  intro node listed rest chain
  have covered := (all node listed).covers rest chain
  rwa [List.length_nil, Nat.zero_add] at covered

end Search

end LongestPath

end AiEnterpriseOs.Library
