import Mathlib.Data.Fintype.EquivFin
import Mathlib.Data.List.Nodup
import Mathlib.Data.List.Pairwise
import Mathlib.Data.List.Perm.Basic
import Mathlib.Logic.Relation
import Mathlib.Order.WellFounded

/-!
# Descents without a visited set

A stack of nodes: the top one is taken, and its children are listed and pushed.
On finitely many nodes this ends exactly where no cycle lies below the start,
and lists nothing twice exactly where, besides, no child below the start has
two parents there.
-/

namespace AiEnterpriseOs.Library.Descent

variable {Node : Type*} (children : Node → List Node)

/-- The nodes in the order in which they are taken; `none` where the rounds do
not suffice. -/
def taken : Nat → List Node → Option (List Node)
  | _, [] => some []
  | 0, _ :: _ => none
  | rounds + 1, node :: stack =>
    (taken rounds ((children node).reverse ++ stack)).map fun later => node :: later

def Child (parent child : Node) : Prop := child ∈ children parent

def NoCycleBelow (start : Node) : Prop :=
  ∀ node, Relation.ReflTransGen (Child children) start node →
    ¬Relation.TransGen (Child children) node node

/-- Below the start every child has one parent. -/
def OneParentBelow (start : Node) : Prop :=
  ∀ first second child, Relation.ReflTransGen (Child children) start first →
    Relation.ReflTransGen (Child children) start second →
      Child children first child → Child children second child → first = second

variable {children}

theorem taken_cons (rounds : Nat) (node : Node) (stack : List Node) :
    taken children (rounds + 1) (node :: stack) =
      (taken children rounds ((children node).reverse ++ stack)).map
        fun later => node :: later := rfl

theorem taken_induction {holds : List Node → List Node → Prop} (done : holds [] [])
    (take : ∀ node stack later, holds ((children node).reverse ++ stack) later →
      holds (node :: stack) (node :: later))
    {rounds : Nat} {stack nodes : List Node}
    (ended : taken children rounds stack = some nodes) : holds stack nodes := by
  induction rounds generalizing stack nodes with
  | zero =>
    cases stack with
    | nil =>
      cases ended
      exact done
    | cons node stack => cases ended
  | succ rounds ih =>
    cases stack with
    | nil =>
      cases ended
      exact done
    | cons node stack =>
      rw [taken_cons] at ended
      obtain ⟨later, found, same⟩ := Option.map_eq_some_iff.mp ended
      rw [← same]
      exact take node stack later (ih found)

theorem taken_perm {rounds : Nat} {stack nodes : List Node}
    (ended : taken children rounds stack = some nodes) :
    nodes.Perm (stack ++ nodes.flatMap children) := by
  apply taken_induction _ _ ended
  · rfl
  · intro node stack later ih
    rw [List.cons_append, List.flatMap_cons]
    apply List.Perm.cons
    calc later.Perm (((children node).reverse ++ stack) ++ later.flatMap children) := ih
      List.Perm _ ((children node ++ stack) ++ later.flatMap children) :=
          ((children node).reverse_perm.append_right stack).append_right _
      List.Perm _ ((stack ++ children node) ++ later.flatMap children) :=
          List.perm_append_comm.append_right _
      List.Perm _ (stack ++ (children node ++ later.flatMap children)) := by
          rw [List.append_assoc]

theorem mem_taken {rounds : Nat} {stack nodes : List Node}
    (ended : taken children rounds stack = some nodes) {start node : Node}
    (member : start ∈ stack) (path : Relation.ReflTransGen (Child children) start node) :
    node ∈ nodes := by
  have same := taken_perm ended
  induction path with
  | refl => exact same.mem_iff.mpr (List.mem_append_left _ member)
  | tail _ child ih =>
    apply same.mem_iff.mpr
    exact List.mem_append_right _ (List.mem_flatMap.mpr ⟨_, ih, child⟩)

/-- Nothing is taken that the stack does not lead to. -/
theorem taken_reached {rounds : Nat} {stack nodes : List Node}
    (ended : taken children rounds stack = some nodes) :
    ∀ node ∈ nodes, ∃ start ∈ stack, Relation.ReflTransGen (Child children) start node := by
  apply taken_induction _ _ ended
  · exact List.forall_mem_nil _
  · intro head stack later ih node member
    rcases List.mem_cons.mp member with first | rest
    · rw [first]
      exact ⟨head, List.mem_cons_self, .refl⟩
    · obtain ⟨start, pushed, path⟩ := ih node rest
      rcases List.mem_append.mp pushed with child | waiting
      · exact ⟨head, List.mem_cons_self, path.head (List.mem_reverse.mp child)⟩
      · exact ⟨start, List.mem_cons_of_mem _ waiting, path⟩

/-! ## Ending -/

theorem accessible_of_taken {rounds : Nat} {stack nodes : List Node}
    (ended : taken children rounds stack = some nodes) :
    ∀ node ∈ stack, Acc (fun child parent => Child children parent child) node := by
  apply taken_induction _ _ ended
  · exact List.forall_mem_nil _
  · intro head stack later each node member
    rcases List.mem_cons.mp member with first | waiting
    · rw [first]
      constructor
      intro child below
      exact each child (List.mem_append_left _ (List.mem_reverse.mpr below))
    · exact each node (List.mem_append_right _ waiting)

theorem no_cycle_of_accessible {start : Node}
    (accessible : Acc (fun child parent => Child children parent child) start) :
    NoCycleBelow children start := by
  induction accessible with
  | intro start _ ih =>
    intro node path cyclic
    rcases path.cases_head with same | ⟨child, first, rest⟩
    · rw [← same] at cyclic
      obtain ⟨child, first, rest⟩ := Relation.TransGen.head'_iff.mp cyclic
      exact ih child first start rest cyclic
    · exact ih child first node rest cyclic

theorem accessible_of_no_cycle (nodes : Finset Node)
    (covers : ∀ parent child, Child children parent child → child ∈ nodes) {start : Node}
    (clear : NoCycleBelow children start) :
    Acc (fun child parent => Child children parent child) start := by
  let Reached := { node : nodes // Relation.ReflTransGen (Child children) start node.1 }
  let below : Reached → Reached → Prop :=
    fun lower upper => Relation.TransGen (Child children) upper.1.1 lower.1.1
  have transitive : IsTrans Reached below := ⟨fun _ _ _ left right => right.trans left⟩
  have irreflexive : Std.Irrefl below := ⟨fun node => clear node.1.1 node.2⟩
  have founded : WellFounded below := Finite.wellFounded_of_trans_of_irrefl below
  have each : ∀ node : Reached, Acc (fun child parent => Child children parent child) node.1.1 := by
    intro node
    induction node using founded.induction with
    | _ node ih =>
      constructor
      intro child first
      exact ih ⟨⟨child, covers _ _ first⟩, node.2.tail first⟩ (.single first)
  constructor
  intro child first
  exact each ⟨⟨child, covers _ _ first⟩, .single first⟩

/-- A node on the stack costs some rounds, after which the rest of the stack is
taken. -/
def Passes (children : Node → List Node) (front : List Node) : Prop :=
  ∃ cost first, ∀ rounds stack nodes, taken children rounds stack = some nodes →
    taken children (cost + rounds) (front ++ stack) = some (first ++ nodes)

theorem passes_all {front : List Node} (each : ∀ node ∈ front, Passes children [node]) :
    Passes children front := by
  induction front with
  | nil =>
    refine ⟨0, [], ?_⟩
    intro rounds stack nodes ended
    rw [Nat.zero_add]
    exact ended
  | cons node rest ih =>
    obtain ⟨headCost, head, headPasses⟩ := each node List.mem_cons_self
    obtain ⟨cost, first, passes⟩ :=
      ih fun other member => each other (List.mem_cons_of_mem _ member)
    refine ⟨headCost + cost, head ++ first, ?_⟩
    intro rounds stack nodes ended
    have later := headPasses _ _ _ (passes rounds stack nodes ended)
    rw [Nat.add_assoc, List.append_assoc]
    exact later

theorem passes_of_accessible {node : Node}
    (accessible : Acc (fun child parent => Child children parent child) node) :
    Passes children [node] := by
  induction accessible with
  | intro node _ ih =>
    have each : ∀ child ∈ (children node).reverse, Passes children [child] :=
      fun child member => ih child (List.mem_reverse.mp member)
    obtain ⟨cost, first, passes⟩ := passes_all each
    refine ⟨cost + 1, node :: first, ?_⟩
    intro rounds stack nodes ended
    rw [Nat.add_right_comm, List.singleton_append, taken_cons, passes rounds stack nodes ended]
    rfl

theorem taken_ends_iff (nodes : Finset Node)
    (covers : ∀ parent child, Child children parent child → child ∈ nodes) (start : Node) :
    (∃ rounds found, taken children rounds [start] = some found) ↔
      NoCycleBelow children start := by
  constructor
  · rintro ⟨rounds, found, ended⟩
    exact no_cycle_of_accessible (accessible_of_taken ended start List.mem_cons_self)
  · intro clear
    obtain ⟨cost, first, passes⟩ :=
      passes_of_accessible (accessible_of_no_cycle nodes covers clear)
    exact ⟨cost + 0, first ++ [], passes 0 [] [] rfl⟩

/-! ## Listing once -/

section Once

variable [DecidableEq Node]

/-- The only parent of a child accounts for all of its listings. -/
theorem count_only_parent {nodes : List Node} {parent child : Node}
    (only : ∀ node ∈ nodes, node ≠ parent → child ∉ children node) :
    (nodes.flatMap children).count child = nodes.count parent * (children parent).count child := by
  induction nodes with
  | nil => simp
  | cons node rest ih =>
    have later := ih fun other member => only other (List.mem_cons_of_mem _ member)
    rw [List.flatMap_cons, List.count_append, later, List.count_cons]
    by_cases here : node = parent
    · simp only [here, beq_self_eq_true, if_true, Nat.add_mul, Nat.one_mul]
      omega
    · have none_here := List.count_eq_zero.mpr (only node List.mem_cons_self here)
      simp [none_here, here]

theorem taken_once {rounds : Nat} {start : Node} {nodes : List Node}
    (ended : taken children rounds [start] = some nodes)
    (distinct : ∀ node, (children node).Nodup) (clear : NoCycleBelow children start)
    (oneParent : OneParentBelow children start) : nodes.Nodup := by
  have same := taken_perm ended
  have reached : ∀ node ∈ nodes, Relation.ReflTransGen (Child children) start node := by
    intro node member
    obtain ⟨head, only, path⟩ := taken_reached ended node member
    rw [List.mem_singleton.mp only] at path
    exact path
  have once : ∀ node, Relation.ReflTransGen (Child children) start node → nodes.count node = 1 := by
    intro node path
    have counted : nodes.count node = [start].count node + (nodes.flatMap children).count node := by
      rw [← List.count_append]
      exact same.count_eq node
    induction path with
    | refl =>
      have unlisted : start ∉ nodes.flatMap children := by
        intro listed
        obtain ⟨parent, member, child⟩ := List.mem_flatMap.mp listed
        exact clear start .refl (Relation.TransGen.tail' (reached parent member) child)
      rw [counted, List.count_eq_zero.mpr unlisted]
      simp
    | @tail parent node path child ih =>
      have above := ih (by
        rw [← List.count_append]
        exact same.count_eq parent)
      have other : node ≠ start := by
        intro back
        rw [back] at child
        exact clear start .refl (Relation.TransGen.tail' path child)
      have only : (nodes.flatMap children).count node =
          nodes.count parent * (children parent).count node := by
        apply count_only_parent
        intro second member apart listed
        exact apart (oneParent second parent node (reached second member) path listed child)
      rw [counted, only, above, List.count_eq_one_of_mem (distinct parent) child]
      simp [other.symm]
  rw [List.nodup_iff_count_le_one]
  intro node
  by_cases member : node ∈ nodes
  · rw [once node (reached node member)]
  · rw [List.count_eq_zero.mpr member]
    exact Nat.zero_le _

/-- The descent ends without listing a node twice exactly where what lies below
the start is a tree. -/
theorem listed_once_iff (nodes : Finset Node)
    (covers : ∀ parent child, Child children parent child → child ∈ nodes)
    (distinct : ∀ node, (children node).Nodup) (start : Node) :
    (∃ rounds found, taken children rounds [start] = some found ∧ (found.flatMap children).Nodup) ↔
      NoCycleBelow children start ∧ OneParentBelow children start := by
  constructor
  · rintro ⟨rounds, found, ended, once⟩
    refine ⟨(taken_ends_iff nodes covers start).mp ⟨rounds, found, ended⟩, ?_⟩
    intro first second child firstPath secondPath left right
    by_contra apart
    have symmetric : Std.Symm (Function.onFun List.Disjoint children) :=
      ⟨fun _ _ disjoint => List.Disjoint.symm disjoint⟩
    have disjoint := (List.nodup_flatMap.mp once).2.forall
      (mem_taken ended List.mem_cons_self firstPath)
      (mem_taken ended List.mem_cons_self secondPath) apart
    exact disjoint left right
  · rintro ⟨clear, oneParent⟩
    obtain ⟨rounds, found, ended⟩ := (taken_ends_iff nodes covers start).mpr clear
    refine ⟨rounds, found, ended, ?_⟩
    have all := (taken_perm ended).nodup_iff.mp (taken_once ended distinct clear oneParent)
    exact (List.nodup_append.mp all).2.1

end Once

end AiEnterpriseOs.Library.Descent
