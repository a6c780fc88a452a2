import AiEnterpriseOs.Library.TopologicalSort

/-!
# Parent chains

Nodes with at most one parent each. A walk from parent to parent that meets no cycle
ends at a root, and it visits no more nodes than there are nodes with a parent.
-/

namespace AiEnterpriseOs.Library.ParentChain

variable {Node : Type*} (parent : Node → Option Node)

def Above (node higher : Node) : Prop := parent node = some higher

/-- The parent, or the node itself where it has none. -/
def up (node : Node) : Node := (parent node).getD node

/-- The nodes on the way up with the root at the end; `none` where the rounds do not
suffice. -/
def walk : Nat → Node → Option (List Node × Node)
  | 0, _ => none
  | rounds + 1, node =>
    match parent node with
    | none => some ([], node)
    | some higher =>
      (walk rounds higher).map fun visited => (node :: visited.1, visited.2)

variable {parent}

theorem up_root {node : Node} (root : parent node = none) : up parent node = node := by
  rw [up, root, Option.getD_none]

theorem up_above {node higher : Node} (above : parent node = some higher) :
    up parent node = higher := by
  rw [up, above, Option.getD_some]

theorem above_ne (acyclic : TopologicalSort.Acyclic (Above parent)) {node higher : Node}
    (above : parent node = some higher) : higher ≠ node := by
  intro same
  rw [same] at above
  exact acyclic node (.single above)

theorem up_fixed_iff (acyclic : TopologicalSort.Acyclic (Above parent)) (node : Node) :
    up parent node = node ↔ parent node = none := by
  cases above : parent node with
  | none => exact iff_of_true (up_root above) rfl
  | some higher =>
    rw [up_above above]
    exact iff_of_false (above_ne acyclic above) nofun

theorem iterate_up_root {node : Node} (root : parent node = none) (count : Nat) :
    (up parent)^[count] node = node :=
  Function.iterate_fixed (up_root root) count

/-- No node from `start` upwards lies on a cycle. -/
def NoCycleFrom (parent : Node → Option Node) (start : Node) : Prop :=
  ∀ node, Relation.ReflTransGen (Above parent) start node →
    ¬Relation.TransGen (Above parent) node node

theorem no_cycle_from_above {node higher : Node} (above : parent node = some higher)
    (clear : NoCycleFrom parent node) : NoCycleFrom parent higher :=
  fun reached path => clear reached (path.head above)

theorem walk_root {node : Node} (root : parent node = none) (rounds : Nat) :
    walk parent (rounds + 1) node = some ([], node) := by
  rw [walk, root]

theorem walk_above {node higher : Node} (above : parent node = some higher) (rounds : Nat) :
    walk parent (rounds + 1) node =
      (walk parent rounds higher).map fun visited => (node :: visited.1, visited.2) := by
  rw [walk, above]

theorem walk_more {rounds : Nat} {node : Node} {visited : List Node × Node}
    (walked : walk parent rounds node = some visited) (more : Nat) :
    walk parent (rounds + more) node = some visited := by
  induction rounds generalizing node visited with
  | zero => cases walked
  | succ rounds ih =>
    rw [Nat.add_right_comm]
    cases above : parent node with
    | none =>
      rw [walk_root above] at walked ⊢
      exact walked
    | some higher =>
      rw [walk_above above] at walked ⊢
      obtain ⟨later, found, same⟩ := Option.map_eq_some_iff.mp walked
      rw [ih found, Option.map_some, same]

theorem walk_unique {first second : Nat} {node : Node} {visited other : List Node × Node}
    (walked : walk parent first node = some visited)
    (again : walk parent second node = some other) : visited = other := by
  have left := walk_more walked second
  have right := walk_more again first
  rw [Nat.add_comm, right] at left
  exact (Option.some.inj left).symm

theorem walk_starts {rounds : Nat} {start : Node} {visited : List Node × Node}
    (walked : walk parent rounds start = some visited) :
    ∃ later, visited.1 ++ [visited.2] = start :: later := by
  cases rounds with
  | zero => cases walked
  | succ rounds =>
    cases above : parent start with
    | none =>
      rw [walk_root above] at walked
      cases walked
      exact ⟨[], rfl⟩
    | some higher =>
      rw [walk_above above] at walked
      obtain ⟨later, _, same⟩ := Option.map_eq_some_iff.mp walked
      cases same
      exact ⟨later.1 ++ [later.2], rfl⟩

theorem walk_visits {rounds : Nat} {start : Node} {visited : List Node × Node}
    (walked : walk parent rounds start = some visited) :
    ∀ node ∈ visited.1 ++ [visited.2], Relation.ReflTransGen (Above parent) start node := by
  induction rounds generalizing start visited with
  | zero => cases walked
  | succ rounds ih =>
    intro node member
    cases above : parent start with
    | none =>
      rw [walk_root above] at walked
      rw [← Option.some.inj walked] at member
      rw [List.mem_singleton.mp member]
    | some higher =>
      rw [walk_above above] at walked
      obtain ⟨later, found, same⟩ := Option.map_eq_some_iff.mp walked
      rw [← same] at member
      rcases List.mem_cons.mp member with first | rest
      · rw [first]
      · exact (ih found node rest).head above

theorem no_cycle_of_walk {rounds : Nat} {start : Node} {visited : List Node × Node}
    (walked : walk parent rounds start = some visited) : NoCycleFrom parent start := by
  induction rounds generalizing start visited with
  | zero => cases walked
  | succ rounds ih =>
    intro node path cyclic
    cases above : parent start with
    | none =>
      have stays : node = start := by
        rcases path.cases_head with same | climbs
        · exact same.symm
        · obtain ⟨higher, first, rest⟩ := climbs
          rw [Above, above] at first
          cases first
      obtain ⟨higher, first, rest⟩ := Relation.TransGen.head'_iff.mp cyclic
      rw [stays, Above, above] at first
      cases first
    | some higher =>
      rw [walk_above above] at walked
      obtain ⟨later, found, same⟩ := Option.map_eq_some_iff.mp walked
      have clear := ih found
      have only : ∀ other, Above parent start other → other = higher := by
        intro other first
        rw [Above, above] at first
        exact (Option.some.inj first).symm
      rcases path.cases_head with start_eq | climbs
      · -- A cycle through the start comes back to it from its parent.
        rw [← start_eq] at cyclic
        obtain ⟨other, first, rest⟩ := Relation.TransGen.head'_iff.mp cyclic
        rw [only other first] at rest
        exact clear start rest cyclic
      · obtain ⟨other, first, rest⟩ := climbs
        rw [only other first] at rest
        exact clear node rest cyclic

theorem walk_nodup {rounds : Nat} {start : Node} {visited : List Node × Node}
    (walked : walk parent rounds start = some visited) :
    (visited.1 ++ [visited.2]).Nodup := by
  induction rounds generalizing start visited with
  | zero => cases walked
  | succ rounds ih =>
    have clear := no_cycle_of_walk walked
    cases above : parent start with
    | none =>
      rw [walk_root above] at walked
      rw [← Option.some.inj walked]
      exact List.nodup_singleton _
    | some higher =>
      rw [walk_above above] at walked
      obtain ⟨later, found, same⟩ := Option.map_eq_some_iff.mp walked
      rw [← same, List.cons_append]
      refine List.nodup_cons.mpr ⟨?_, ih found⟩
      intro again
      have back := walk_visits found start again
      exact clear start .refl (Relation.TransGen.head' above back)

variable [DecidableEq Node]

theorem walk_some_of_seen (nodes : Finset Node)
    (covers : ∀ node higher, parent node = some higher → node ∈ nodes)
    (rounds : Nat) (seen : Finset Node) (node : Node) (clear : NoCycleFrom parent node)
    (inside : seen ⊆ nodes)
    (below : ∀ other ∈ seen, Relation.TransGen (Above parent) other node)
    (enough : nodes.card < seen.card + rounds) :
    ∃ visited, walk parent rounds node = some visited := by
  induction rounds generalizing seen node with
  | zero =>
    have few := Finset.card_le_card inside
    omega
  | succ rounds ih =>
    cases above : parent node with
    | none => exact ⟨([], node), walk_root above rounds⟩
    | some higher =>
      have new : node ∉ seen := fun old => clear node .refl (below node old)
      obtain ⟨visited, found⟩ := ih (insert node seen) higher (no_cycle_from_above above clear)
        (Finset.insert_subset (covers node higher above) inside)
        (by
          intro other member
          rcases Finset.mem_insert.mp member with same | old
          · rw [same]
            exact .single above
          · exact (below other old).tail above)
        (by
          rw [Finset.card_insert_of_notMem new]
          omega)
      exact ⟨(node :: visited.1, visited.2), by rw [walk_above above, found]; rfl⟩

theorem walk_some_of_no_cycle (nodes : Finset Node)
    (covers : ∀ node higher, parent node = some higher → node ∈ nodes) {node : Node}
    (clear : NoCycleFrom parent node) {rounds : Nat} (enough : nodes.card < rounds) :
    ∃ visited, walk parent rounds node = some visited := by
  apply walk_some_of_seen nodes covers rounds ∅ node clear (Finset.empty_subset nodes)
  · intro other member
    exact absurd member (Finset.notMem_empty other)
  · rw [Finset.card_empty]
    omega

/-- A walk ends exactly where it meets no cycle. -/
theorem walk_ends_iff (nodes : Finset Node)
    (covers : ∀ node higher, parent node = some higher → node ∈ nodes) (start : Node) :
    (∃ rounds visited, walk parent rounds start = some visited) ↔ NoCycleFrom parent start := by
  constructor
  · intro ends
    obtain ⟨rounds, visited, walked⟩ := ends
    exact no_cycle_of_walk walked
  · intro clear
    exact ⟨nodes.card + 1, walk_some_of_no_cycle nodes covers clear (Nat.lt_succ_self _)⟩

theorem walk_some (acyclic : TopologicalSort.Acyclic (Above parent)) (nodes : Finset Node)
    (covers : ∀ node higher, parent node = some higher → node ∈ nodes) (node : Node)
    {rounds : Nat} (enough : nodes.card < rounds) :
    ∃ visited, walk parent rounds node = some visited :=
  walk_some_of_no_cycle nodes covers (fun reached _ => acyclic reached) enough

end AiEnterpriseOs.Library.ParentChain
