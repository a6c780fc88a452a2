import Mathlib.Data.List.Chain
import Mathlib.Data.List.Nodup
import Mathlib.Data.List.Perm.Subperm
import Mathlib.Logic.Relation

/-!
# Depth-first cycle search

The search keeps the path to the current node and the nodes entered so far. A
node met again on the path closes a cycle. A node that was left has its
successors among the nodes left before it, so no path from it comes back.
-/

namespace AiEnterpriseOs.Library

namespace CycleSearch

variable {Node : Type*}

/-- A path of at least one edge that ends where it starts. -/
structure IsClosedPath (edge : Node → Node → Prop) (nodes : List Node) : Prop where
  chain : nodes.IsChain edge
  long : 2 ≤ nodes.length
  closed : nodes.head? = nodes.getLast?

theorem IsClosedPath.cyclic {edge : Node → Node → Prop} {nodes : List Node}
    (path : IsClosedPath edge nodes) : ∃ node, Relation.TransGen edge node node := by
  cases nodes with
  | nil => exact absurd path.long (by simp)
  | cons first rest =>
    have nonempty : rest ≠ [] := by
      intro empty
      have long := path.long
      rw [empty] at long
      exact absurd long (by simp)
    have last : rest.getLast nonempty = first := by
      have closed := path.closed
      rw [List.head?_cons, List.getLast?_eq_some_getLast (List.cons_ne_nil _ _),
        List.getLast_cons nonempty] at closed
      exact (Option.some.inj closed).symm
    have steps : (first :: rest).IsChain (Relation.TransGen edge) :=
      path.chain.imp fun _ _ => Relation.TransGen.single
    refine ⟨first, steps.rel_cons ?_⟩
    rw [← last]
    exact List.getLast_mem nonempty

/-- Nodes that no path from leaves and to which no path comes back. -/
structure Finished (edge : Node → Node → Prop) (left : Node → Prop) : Prop where
  closed : ∀ node other, left node → edge node other → left other
  acyclic : ∀ node, left node → ¬Relation.TransGen edge node node

section Finished

variable {edge : Node → Node → Prop} {left : Node → Prop}

theorem Finished.stays (finished : Finished edge left) {node other : Node} (member : left node)
    (path : Relation.TransGen edge node other) : left other := by
  induction path with
  | single step => exact finished.closed _ _ member step
  | tail _ step ih => exact finished.closed _ _ ih step

theorem Finished.leave (finished : Finished edge left) {node : Node} (fresh : ¬left node)
    (below : ∀ other, edge node other → left other) :
    Finished edge fun other => other = node ∨ left other := by
  constructor
  · intro inner other member step
    rcases member with same | earlier
    · rw [same] at step
      exact Or.inr (below other step)
    · exact Or.inr (finished.closed inner other earlier step)
  · intro inner member cyclic
    rcases member with same | earlier
    · rw [same] at cyclic
      obtain ⟨other, step, rest⟩ := Relation.TransGen.head'_iff.mp cyclic
      rcases Relation.reflTransGen_iff_eq_or_transGen.mp rest with back | path
      · exact fresh (back ▸ below other step)
      · exact fresh (finished.stays (below other step) path)
    · exact finished.acyclic inner earlier cyclic

theorem Finished.congr {other : Node → Prop} (finished : Finished edge left)
    (same : ∀ node, left node ↔ other node) : Finished edge other := by
  have equal : left = other := funext fun node => propext (same node)
  rwa [← equal]

end Finished

variable (next : Node → List Node)

def Edge (node other : Node) : Prop := other ∈ next node

/-- Between two visits every node entered is finished or on the path. -/
structure Explored (path visited : List Node) : Prop where
  entered : ∀ node ∈ path, node ∈ visited
  finished : Finished (Edge next) fun node => node ∈ visited ∧ node ∉ path

/-- What a visit of some nodes leaves when no cycle was met. -/
structure Leaves (path visited seen nodes : List Node) : Prop where
  explored : Explored next path seen
  kept : ∀ node ∈ visited, node ∈ seen
  left : ∀ node ∈ nodes, node ∈ seen ∧ node ∉ path

/-- The path is a list of distinct known nodes, and the depth covers the others. -/
structure Reaches (known : List Node) (depth : Nat) (path : List Node) : Prop where
  distinct : path.Nodup
  inside : ∀ node ∈ path, node ∈ known
  enough : known.length ≤ path.length + depth

variable {next}

theorem Explored.start : Explored next [] [] := by
  constructor
  · intro node member
    cases member
  · constructor
    · rintro node other ⟨member, _⟩
      cases member
    · rintro node ⟨member, _⟩
      cases member

theorem Explored.enter {path visited : List Node} (explored : Explored next path visited)
    {node : Node} (fresh : node ∉ visited) :
    Explored next (path ++ [node]) (node :: visited) := by
  constructor
  · intro other member
    rcases List.mem_append.mp member with above | here
    · exact List.mem_cons_of_mem _ (explored.entered other above)
    · rw [List.mem_singleton.mp here]
      exact List.mem_cons_self
  · apply explored.finished.congr
    intro other
    by_cases same : other = node
    · rw [same]
      simp [fresh]
    · simp [same]

theorem Explored.leave {path seen : List Node} {node : Node}
    (explored : Explored next (path ++ [node]) seen) (outside : node ∉ path)
    (below : ∀ other ∈ next node, other ∈ seen ∧ other ∉ path ++ [node]) :
    Explored next path seen := by
  constructor
  · intro other member
    exact explored.entered other (List.mem_append_left _ member)
  · have current : node ∈ path ++ [node] := List.mem_append_right _ (List.mem_singleton_self _)
    have fresh : ¬(node ∈ seen ∧ node ∉ path ++ [node]) := fun left => left.2 current
    apply (explored.finished.leave fresh below).congr
    intro other
    by_cases same : other = node
    · rw [same]
      simp [outside, explored.entered node current]
    · simp [same]

theorem Reaches.enter {known path : List Node} {depth : Nat}
    (reaches : Reaches known (depth + 1) path) {node : Node} (outside : node ∉ path)
    (listed : node ∈ known) : Reaches known depth (path ++ [node]) := by
  constructor
  · apply reaches.distinct.append (List.nodup_singleton _)
    intro other member here
    rw [List.mem_singleton.mp here] at member
    exact outside member
  · intro other member
    rcases List.mem_append.mp member with above | here
    · exact reaches.inside other above
    · rw [List.mem_singleton.mp here]
      exact listed
  · have enough := reaches.enough
    rw [List.length_append, List.length_singleton]
    omega

/-- The path never holds all known nodes while one more is entered. -/
theorem Reaches.positive {known path : List Node} {depth : Nat}
    (reaches : Reaches known depth path) {node : Node} (outside : node ∉ path)
    (listed : node ∈ known) : 0 < depth := by
  have distinct : (node :: path).Nodup := List.nodup_cons.mpr ⟨outside, reaches.distinct⟩
  have inside : ∀ other ∈ node :: path, other ∈ known :=
    List.forall_mem_cons.mpr ⟨listed, reaches.inside⟩
  have fewer := (List.subperm_of_subset distinct inside).length_le
  have enough := reaches.enough
  rw [List.length_cons] at fewer
  omega

theorem fold_leaves {path : List Node}
    {body : List Node → Node → Except (List Node) (List Node)} {nodes visited seen : List Node}
    (each : ∀ before after, ∀ node ∈ nodes, Explored next path before →
      body before node = .ok after → Leaves next path before after [node])
    (explored : Explored next path visited) (folded : nodes.foldlM body visited = .ok seen) :
    Leaves next path visited seen nodes := by
  induction nodes generalizing visited with
  | nil =>
    cases folded
    exact ⟨explored, fun _ member => member, by simp⟩
  | cons node rest ih =>
    rw [List.foldlM_cons] at folded
    cases here : body visited node with
    | error met =>
      rw [here] at folded
      cases folded
    | ok middle =>
      rw [here] at folded
      have head := each visited middle node List.mem_cons_self explored here
      have tail := ih (fun before after other member => each before after other
          (List.mem_cons_of_mem _ member)) head.explored folded
      refine ⟨tail.explored, fun other member => tail.kept other (head.kept other member), ?_⟩
      intro other member
      rcases List.mem_cons.mp member with same | later
      · rw [same]
        have done := head.left node (List.mem_singleton_self _)
        exact ⟨tail.kept node done.1, done.2⟩
      · exact tail.left other later

theorem fold_error {body : List Node → Node → Except (List Node) (List Node)}
    {nodes cycle visited : List Node} (failed : nodes.foldlM body visited = .error cycle) :
    ∃ seen, ∃ node ∈ nodes, body seen node = .error cycle := by
  induction nodes generalizing visited with
  | nil => cases failed
  | cons node rest ih =>
    rw [List.foldlM_cons] at failed
    cases here : body visited node with
    | error met =>
      rw [here] at failed
      cases failed
      exact ⟨visited, node, List.mem_cons_self, here⟩
    | ok seen =>
      rw [here] at failed
      obtain ⟨later, other, member, found⟩ := ih failed
      exact ⟨later, other, List.mem_cons_of_mem _ member, found⟩

variable [DecidableEq Node]

section Search

variable (next)

/-- One node is entered. The result is the nodes entered so far, or the cycle met. -/
def search : Nat → List Node → List Node → Node → Except (List Node) (List Node)
  | depth, path, visited, node =>
    if node ∈ path then
      .error (path.drop (path.idxOf node) ++ [node])
    else if node ∈ visited then
      .ok visited
    else
      match depth with
      | 0 => .ok visited
      | depth + 1 =>
        (next node).foldlM (search depth (path ++ [node])) (node :: visited)

/-- The first cycle met from the nodes in turn, or the empty list. -/
def find (depth : Nat) (nodes : List Node) : List Node :=
  match nodes.foldlM (search next depth []) [] with
  | .error cycle => cycle
  | .ok _ => []

end Search

theorem closed_path {edge : Node → Node → Prop} {path : List Node} {node : Node}
    (chain : (path ++ [node]).IsChain edge) (again : node ∈ path) :
    IsClosedPath edge (path.drop (path.idxOf node) ++ [node]) := by
  have position := List.idxOf_lt_length_of_mem again
  have start : path.drop (path.idxOf node) = node :: path.drop (path.idxOf node + 1) := by
    rw [List.drop_eq_getElem_cons position, List.getElem_idxOf]
  have suffix : (path ++ [node]).drop (path.idxOf node) =
      path.drop (path.idxOf node) ++ [node] := by
    rw [List.drop_append_of_le_length (by omega)]
  constructor
  · rw [← suffix]
    exact chain.drop _
  · rw [start]
    simp
  · rw [start, List.getLast?_append, List.cons_append, List.head?_cons]
    rfl

theorem search_closed (depth : Nat) {path visited : List Node} {node : Node}
    {cycle : List Node} (chain : (path ++ [node]).IsChain (Edge next))
    (failed : search next depth path visited node = .error cycle) :
    IsClosedPath (Edge next) cycle := by
  induction depth generalizing path visited node with
  | zero =>
    unfold search at failed
    split at failed
    next again =>
      cases failed
      exact closed_path chain again
    · split at failed <;> cases failed
  | succ depth ih =>
    unfold search at failed
    split at failed
    next again =>
      cases failed
      exact closed_path chain again
    · split at failed
      · cases failed
      · obtain ⟨seen, other, successor, found⟩ := fold_error failed
        apply ih _ found
        rw [List.append_assoc, List.singleton_append]
        exact List.isChain_split.mpr ⟨chain, List.isChain_pair.mpr successor⟩

omit [DecidableEq Node] in
theorem fold_keeps {body : List Node → Node → Except (List Node) (List Node)}
    (each : ∀ before node after, body before node = .ok after → before ⊆ after)
    {nodes visited seen : List Node} (folded : nodes.foldlM body visited = .ok seen) :
    visited ⊆ seen := by
  induction nodes generalizing visited with
  | nil =>
    cases folded
    exact List.Subset.refl _
  | cons node rest ih =>
    rw [List.foldlM_cons] at folded
    cases here : body visited node with
    | error cycle =>
      rw [here] at folded
      cases folded
    | ok middle =>
      rw [here] at folded
      exact List.Subset.trans (each visited node middle here) (ih folded)

omit [DecidableEq Node] in
theorem fold_alike {first second : List Node → Node → Except (List Node) (List Node)}
    {kind : List Node → Prop}
    (alike : ∀ seen node, kind seen → (first seen node).toOption = (second seen node).toOption)
    (keeps : ∀ seen node after, kind seen → second seen node = .ok after → kind after)
    (nodes : List Node) {seen : List Node} (start : kind seen) :
    (nodes.foldlM first seen).toOption = (nodes.foldlM second seen).toOption := by
  induction nodes generalizing seen with
  | nil => rfl
  | cons node rest ih =>
    have same := alike seen node start
    rw [List.foldlM_cons, List.foldlM_cons]
    cases there : second seen node with
    | error cycle =>
      cases here : first seen node with
      | error met => rfl
      | ok after =>
        rw [here, there] at same
        cases same
    | ok after =>
      cases here : first seen node with
      | error met =>
        rw [here, there] at same
        cases same
      | ok also =>
        rw [here, there] at same
        cases same
        exact ih (keeps seen node after start there)

theorem search_keeps (depth : Nat) {path visited seen : List Node} {node : Node}
    (found : search next depth path visited node = .ok seen) : visited ⊆ seen := by
  induction depth generalizing path visited node seen with
  | zero =>
    unfold search at found
    split at found
    · cases found
    · split at found <;> cases found <;> exact List.Subset.refl _
  | succ depth ih =>
    unfold search at found
    split at found
    · cases found
    · split at found
      · cases found
        exact List.Subset.refl _
      · intro other member
        exact fold_keeps (fun _ _ _ here => ih here) found (List.mem_cons_of_mem _ member)

section Complete

variable {known : List Node} (closed : ∀ node ∈ known, ∀ other ∈ next node, other ∈ known)
include closed

theorem search_leaves (depth : Nat) {path visited seen : List Node} {node : Node}
    (reaches : Reaches known depth path) (listed : node ∈ known)
    (explored : Explored next path visited)
    (found : search next depth path visited node = .ok seen) :
    Leaves next path visited seen [node] := by
  induction depth generalizing path visited seen node with
  | zero =>
    unfold search at found
    split at found
    · cases found
    next outside => exact absurd (reaches.positive outside listed) (by decide)
  | succ depth ih =>
    unfold search at found
    split at found
    · cases found
    next outside =>
      split at found
      next entered =>
        cases found
        exact ⟨explored, fun _ member => member, by simp [entered, outside]⟩
      next fresh =>
        have inner : Leaves next (path ++ [node]) (node :: visited) seen (next node) :=
          fold_leaves (fun before after other successor explored found =>
              ih (reaches.enter outside listed) (closed node listed other successor) explored found)
            (explored.enter fresh) found
        refine ⟨inner.explored.leave outside inner.left, ?_, ?_⟩
        · exact fun other member => inner.kept other (List.mem_cons_of_mem _ member)
        · intro other member
          rw [List.mem_singleton.mp member]
          exact ⟨inner.kept node List.mem_cons_self, outside⟩

theorem search_acyclic {depth : Nat} (deep : known.length ≤ depth) {seen : List Node}
    (searched : known.foldlM (search next depth []) [] = .ok seen) {node : Node}
    (listed : node ∈ known) : ¬Relation.TransGen (Edge next) node node := by
  have reaches : Reaches known depth [] := ⟨List.nodup_nil, by simp, by simpa using deep⟩
  have all : Leaves next [] [] seen known :=
    fold_leaves
      (fun _ _ _ listed explored found => search_leaves closed _ reaches listed explored found)
      Explored.start searched
  exact all.explored.finished.acyclic node (all.left node listed)

/-- Searching every node ends without a cycle exactly if there is none. -/
theorem search_ends_iff {depth : Nat} (deep : known.length ≤ depth)
    (inside : ∀ node, Relation.TransGen (Edge next) node node → node ∈ known) :
    (∃ seen, known.foldlM (search next depth []) [] = .ok seen) ↔
      ∀ node, ¬Relation.TransGen (Edge next) node node := by
  constructor
  · rintro ⟨seen, searched⟩ node cyclic
    exact search_acyclic closed deep searched (inside node cyclic) cyclic
  · intro acyclic
    cases searched : known.foldlM (search next depth []) [] with
    | ok seen => exact ⟨seen, rfl⟩
    | error cycle =>
      obtain ⟨seen, start, _, met⟩ := fold_error searched
      obtain ⟨node, cyclic⟩ := (search_closed _ (List.isChain_singleton start) met).cyclic
      exact absurd cyclic (acyclic node)

end Complete

theorem find_closed {depth : Nat} {nodes : List Node} (found : find next depth nodes ≠ []) :
    IsClosedPath (Edge next) (find next depth nodes) := by
  unfold find at found ⊢
  split at found
  next cycle failed =>
    obtain ⟨seen, node, _, met⟩ := fold_error failed
    exact search_closed depth (List.isChain_singleton node) met
  · exact absurd rfl found

/-- Searching every node finds a cycle exactly when there is one. -/
theorem find_nonempty_iff {known : List Node}
    (closed : ∀ node ∈ known, ∀ other ∈ next node, other ∈ known)
    (isolated : ∀ node, node ∉ known → next node = []) :
    find next known.length known ≠ [] ↔ ∃ node, Relation.TransGen (Edge next) node node := by
  constructor
  · intro found
    exact (find_closed found).cyclic
  · rintro ⟨node, cyclic⟩ empty
    have inside : ∀ node, Relation.TransGen (Edge next) node node → node ∈ known := by
      intro node cyclic
      obtain ⟨other, step, _⟩ := Relation.TransGen.head'_iff.mp cyclic
      by_contra unknown
      have none : other ∈ next node := step
      rw [isolated node unknown] at none
      cases none
    cases searched : known.foldlM (search next known.length []) [] with
    | ok seen =>
      exact (search_ends_iff closed le_rfl inside).mp ⟨seen, searched⟩ node cyclic
    | error cycle =>
      have same : find next known.length known = cycle := by
        unfold find
        rw [searched]
      obtain ⟨seen, start, _, met⟩ := fold_error searched
      have path := search_closed _ (List.isChain_singleton start) met
      rw [← same, empty] at path
      exact absurd path.long (by simp)

end CycleSearch

end AiEnterpriseOs.Library
