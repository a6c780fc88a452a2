import AiEnterpriseOs.Library.OptionFold
import Mathlib.Data.Finset.Card
import Mathlib.Data.Finset.Insert
import Mathlib.Data.Finset.SDiff

/-!
# Depth-first ordering

A name is entered once. An item is listed when every name it depends on has
been visited, so it follows those that were not yet entered. A name without an
item is entered and lists nothing. The depth bounds the nesting of visits.
-/

namespace AiEnterpriseOs.Library

namespace DepthFirst

variable {Name Item : Type*}

structure Traversal (Name Item : Type*) where
  visited : Finset Name
  result : List Item

/-- What visiting did: the names entered on the way, and their items, listed. -/
structure Visits (find : Name → Option Item) (state next : Traversal Name Item) : Prop where
  kept : state.visited ⊆ next.visited
  listed : ∀ item, item ∈ next.result ↔ item ∈ state.result ∨
    ∃ name ∈ next.visited, name ∉ state.visited ∧ find name = some item

theorem Visits.refl (find : Name → Option Item) (state : Traversal Name Item) :
    Visits find state state := by
  constructor
  · exact Finset.Subset.refl _
  · intro item
    constructor
    · exact Or.inl
    · rintro (listed | ⟨name, entered, fresh, _⟩)
      · exact listed
      · exact absurd entered fresh

variable [DecidableEq Name] (find : Name → Option Item) (dependencies : Item → List Name)

def visit : Nat → Traversal Name Item → Name → Option (Traversal Name Item)
  | 0, _, _ => none
  | depth + 1, state, name =>
    if name ∈ state.visited then some state
    else
      let entered := { state with visited := insert name state.visited }
      match find name with
      | none => some entered
      | some item =>
        ((dependencies item).foldlM (visit depth) entered).map fun done =>
          { done with result := done.result ++ [item] }

def order (depth : Nat) (names : List Name) : Option (List Item) :=
  (names.foldlM (visit find dependencies depth) { visited := ∅, result := [] }).map Traversal.result

variable {find dependencies}

theorem Visits.trans {state middle next : Traversal Name Item}
    (first : Visits find state middle) (second : Visits find middle next) :
    Visits find state next := by
  constructor
  · exact first.kept.trans second.kept
  · intro item
    rw [second.listed, first.listed]
    constructor
    · rintro ((listed | ⟨name, entered, fresh, found⟩) | ⟨name, entered, fresh, found⟩)
      · exact Or.inl listed
      · exact Or.inr ⟨name, second.kept entered, fresh, found⟩
      · exact Or.inr ⟨name, entered, fun early => fresh (first.kept early), found⟩
    · rintro (listed | ⟨name, entered, fresh, found⟩)
      · exact Or.inl (Or.inl listed)
      · by_cases early : name ∈ middle.visited
        · exact Or.inl (Or.inr ⟨name, early, fresh, found⟩)
        · exact Or.inr ⟨name, entered, early, found⟩

theorem fold_visits {body : Traversal Name Item → Name → Option (Traversal Name Item)}
    (each : ∀ state name next, body state name = some next →
      Visits find state next ∧ name ∈ next.visited)
    (names : List Name) (state next : Traversal Name Item)
    (folded : names.foldlM body state = some next) :
    Visits find state next ∧ ∀ name ∈ names, name ∈ next.visited := by
  constructor
  · apply foldlM_keeps (Visits find state) _ (Visits.refl find state) folded
    intro before after name _ sofar here
    exact sofar.trans (each before name after here).1
  · apply foldlM_marks (fun reached name => name ∈ reached.visited) _ _ folded
    · exact fun before after name here => (each before name after here).2
    · exact fun before after name other here entered =>
        (each before name after here).1.kept entered

theorem Visits.enter (state : Traversal Name Item) {name : Name} (itemless : find name = none) :
    Visits find state { state with visited := insert name state.visited } := by
  refine ⟨Finset.subset_insert _ _, ?_⟩
  intro item
  constructor
  · exact Or.inl
  · rintro (listed | ⟨other, entered, unseen, has⟩)
    · exact listed
    · rcases Finset.mem_insert.mp entered with same | early
      · rw [same, itemless] at has
        cases has
      · exact absurd early unseen

theorem Visits.list {state done : Traversal Name Item} {name : Name} {item : Item}
    (below : Visits find { state with visited := insert name state.visited } done)
    (fresh : name ∉ state.visited) (found : find name = some item) :
    Visits find state { done with result := done.result ++ [item] } := by
  have entered : name ∈ done.visited := below.kept (Finset.mem_insert_self _ _)
  refine ⟨(Finset.subset_insert _ _).trans below.kept, ?_⟩
  intro other
  rw [List.mem_append, List.mem_singleton, below.listed]
  constructor
  · rintro ((listed | ⟨inner, reached, unseen, has⟩) | same)
    · exact Or.inl listed
    · exact Or.inr ⟨inner, reached, fun early => unseen (Finset.mem_insert_of_mem early), has⟩
    · exact Or.inr ⟨name, entered, fresh, same ▸ found⟩
  · rintro (listed | ⟨inner, reached, unseen, has⟩)
    · exact Or.inl (Or.inl listed)
    · by_cases same : inner = name
      · rw [same, found] at has
        exact Or.inr (Option.some.inj has).symm
      · refine Or.inl (Or.inr ⟨inner, reached, ?_, has⟩)
        intro early
        rcases Finset.mem_insert.mp early with equal | older
        · exact same equal
        · exact unseen older

theorem visit_visits (depth : Nat) (state : Traversal Name Item) (name : Name)
    (next : Traversal Name Item) (visited : visit find dependencies depth state name = some next) :
    Visits find state next ∧ name ∈ next.visited := by
  induction depth generalizing state name next with
  | zero => cases visited
  | succ depth ih =>
    rw [visit] at visited
    split at visited
    next known =>
      cases visited
      exact ⟨Visits.refl find state, known⟩
    next fresh =>
      cases found : find name with
      | none =>
        simp only [found, Option.some.injEq] at visited
        subst visited
        exact ⟨Visits.enter state found, Finset.mem_insert_self _ _⟩
      | some item =>
        simp only [found, Option.map_eq_some_iff] at visited
        obtain ⟨done, folded, rfl⟩ := visited
        have below := (fold_visits ih (dependencies item) _ done folded).1
        exact ⟨below.list fresh found, below.kept (Finset.mem_insert_self _ _)⟩

theorem order_complete {depth : Nat} {names : List Name} {items : List Item}
    (ordered : order find dependencies depth names = some items) {name : Name}
    (named : name ∈ names) {item : Item} (found : find name = some item) : item ∈ items := by
  obtain ⟨done, folded, rfl⟩ := Option.map_eq_some_iff.mp ordered
  have visits := fold_visits (visit_visits depth) names _ done folded
  exact (visits.1.listed item).mpr
    (Or.inr ⟨name, visits.2 name named, Finset.notMem_empty name, found⟩)

section Depth

variable {known : Finset Name}

theorem fold_returns {room : Nat} {body : Traversal Name Item → Name → Option (Traversal Name Item)}
    (grows : ∀ state name next, body state name = some next → state.visited ⊆ next.visited)
    (names : List Name)
    (each : ∀ state, ∀ name ∈ names, (known \ state.visited).card < room →
      ∃ next, body state name = some next)
    (state : Traversal Name Item) (enough : (known \ state.visited).card < room) :
    ∃ done, names.foldlM body state = some done := by
  induction names generalizing state with
  | nil => exact ⟨state, rfl⟩
  | cons name rest ih =>
    obtain ⟨next, here⟩ := each state name List.mem_cons_self enough
    have fewer := Finset.card_le_card
      (Finset.sdiff_subset_sdiff (Finset.Subset.refl known) (grows state name next here))
    obtain ⟨done, folded⟩ := ih
      (fun later other member => each later other (List.mem_cons_of_mem _ member)) next
      (by omega)
    refine ⟨done, ?_⟩
    rw [List.foldlM_cons, here]
    exact folded

/-- A name outside the known ones has no item. -/
def Covered (find : Name → Option Item) (known : Finset Name) (name : Name) : Prop :=
  ∀ item, find name = some item → name ∈ known

variable (closed : ∀ name ∈ known, ∀ item, find name = some item →
  ∀ other ∈ dependencies item, Covered find known other)

include closed

/-- Every nested visit has entered one more of the names with an item, so a depth
above their number is never used up. -/
theorem visit_returns (depth : Nat) (state : Traversal Name Item) (name : Name)
    (covered : Covered find known name) (enough : (known \ state.visited).card < depth) :
    ∃ next, visit find dependencies depth state name = some next := by
  induction depth generalizing state name with
  | zero => omega
  | succ depth ih =>
    rw [visit]
    split
    · exact ⟨state, rfl⟩
    next fresh =>
      cases found : find name with
      | none => exact ⟨_, rfl⟩
      | some item =>
        have listed : name ∈ known := covered item found
        have unseen : name ∈ known \ state.visited := Finset.mem_sdiff.mpr ⟨listed, fresh⟩
        have smaller : (known \ insert name state.visited).card < depth := by
          rw [Finset.sdiff_insert, Finset.card_erase_of_mem unseen]
          have positive := Finset.card_pos.mpr ⟨name, unseen⟩
          omega
        obtain ⟨done, folded⟩ := fold_returns
          (fun state name next here => (visit_visits depth state name next here).1.kept)
          (dependencies item)
          (fun state other depends =>
            ih state other (closed name listed item found other depends))
          { state with visited := insert name state.visited } smaller
        exact ⟨_, Option.map_eq_some_iff.mpr ⟨done, folded, rfl⟩⟩

theorem order_returns_on {depth : Nat} (enough : known.card < depth) {names : List Name}
    (covered : ∀ name ∈ names, Covered find known name) :
    ∃ items, order find dependencies depth names = some items := by
  have empty : (known \ (∅ : Finset Name)).card < depth := by
    rw [Finset.sdiff_empty]
    exact enough
  obtain ⟨done, folded⟩ := fold_returns
    (fun state name next here => (visit_visits depth state name next here).1.kept) names
    (fun state name listed => visit_returns closed depth state name (covered name listed))
    { visited := ∅, result := [] } empty
  exact ⟨done.result, Option.map_eq_some_iff.mpr ⟨done, folded, rfl⟩⟩

end Depth

end DepthFirst

end AiEnterpriseOs.Library
