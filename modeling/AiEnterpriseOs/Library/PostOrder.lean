import AiEnterpriseOs.Library.DepthFirst
import AiEnterpriseOs.Library.TopologicalSort

/-!
# Depth-first ordering of an acyclic relation

Between two visits the names entered are listed or wait on the stack, and every
name on the stack leads to the name that is visited next. In an acyclic
relation a dependency is then never on the stack, so it is listed before the
item that needs it.
-/

namespace AiEnterpriseOs.Library

namespace DepthFirst

variable {Name Item : Type*}

section Relations

variable (find : Name → Option Item) (dependencies : Item → List Name)

def Edge (name other : Name) : Prop :=
  ∃ item, find name = some item ∧ other ∈ dependencies item

def DependsOn (item other : Item) : Prop :=
  ∃ name ∈ dependencies item, find name = some other

/-- The state of an ordering while the names on the stack are being visited. -/
structure Settled (region : Name → Prop) (stack : List Name)
    (state : Traversal Name Item) : Prop where
  inside : ∀ name ∈ state.visited, region name
  entered : ∀ name ∈ stack, name ∈ state.visited
  once : state.result.Nodup
  listed : ∀ item, item ∈ state.result ↔
    ∃ name ∈ state.visited, name ∉ stack ∧ find name = some item
  closed : ∀ item ∈ state.result, ∀ name ∈ dependencies item, name ∈ state.visited ∧ name ∉ stack
  first : TopologicalSort.DependenciesFirst (DependsOn find dependencies) state.result

end Relations

variable {find : Name → Option Item} {dependencies : Item → List Name}
  {region : Name → Prop} {stack : List Name}

theorem Settled.start : Settled find dependencies region []
    ({ visited := ∅, result := [] } : Traversal Name Item) := by
  constructor
  · simp
  · simp
  · exact List.nodup_nil
  · simp
  · simp
  · exact List.Pairwise.nil

theorem Settled.pass {state : Traversal Name Item} {name : Name}
    (settled : Settled find dependencies region (name :: stack) state)
    (itemless : find name = none) : Settled find dependencies region stack state := by
  constructor
  · exact settled.inside
  · exact fun other above => settled.entered other (List.mem_cons_of_mem _ above)
  · exact settled.once
  · intro item
    rw [settled.listed]
    constructor
    · rintro ⟨other, member, outside, found⟩
      exact ⟨other, member, fun above => outside (List.mem_cons_of_mem _ above), found⟩
    · rintro ⟨other, member, outside, found⟩
      have apart : other ≠ name := by
        intro same
        rw [same, itemless] at found
        cases found
      exact ⟨other, member, by simp [apart, outside], found⟩
  · intro item member other depends
    have earlier := settled.closed item member other depends
    exact ⟨earlier.1, fun above => earlier.2 (List.mem_cons_of_mem _ above)⟩
  · exact settled.first

/-- The names on the stack lead to the name. -/
def Above (find : Name → Option Item) (dependencies : Item → List Name) (stack : List Name)
    (name : Name) : Prop :=
  ∀ above ∈ stack, Relation.TransGen (Edge find dependencies) above name

theorem Above.outside {name : Name} (acyclic : TopologicalSort.Acyclic (Edge find dependencies))
    (above : Above find dependencies stack name) : name ∉ stack :=
  fun member => acyclic name (above name member)

theorem Above.next {name : Name} (above : Above find dependencies stack name) {item : Item}
    (found : find name = some item) {other : Name} (depends : other ∈ dependencies item) :
    Above find dependencies (name :: stack) other := by
  have edge : Edge find dependencies name other := ⟨item, found, depends⟩
  intro earlier member
  rcases List.mem_cons.mp member with same | before
  · rw [same]
    exact Relation.TransGen.single edge
  · exact (above earlier before).tail edge

section Steps

variable [DecidableEq Name] {state done : Traversal Name Item} {name : Name}

theorem Settled.enter (settled : Settled find dependencies region stack state)
    (known : region name) (fresh : name ∉ state.visited) :
    Settled find dependencies region (name :: stack)
      { state with visited := insert name state.visited } := by
  have apart : ∀ other ∈ state.visited, other ≠ name := by
    intro other member same
    exact fresh (same ▸ member)
  constructor
  · intro other member
    rcases Finset.mem_insert.mp member with same | earlier
    · rw [same]
      exact known
    · exact settled.inside other earlier
  · intro other member
    rcases List.mem_cons.mp member with same | above
    · exact Finset.mem_insert.mpr (Or.inl same)
    · exact Finset.mem_insert_of_mem (settled.entered other above)
  · exact settled.once
  · intro item
    rw [settled.listed]
    constructor
    · rintro ⟨other, member, outside, found⟩
      exact ⟨other, Finset.mem_insert_of_mem member,
        by simp [apart other member, outside], found⟩
    · rintro ⟨other, member, outside, found⟩
      rw [List.mem_cons, not_or] at outside
      exact ⟨other, Finset.mem_of_mem_insert_of_ne member outside.1, outside.2, found⟩
  · intro item member other depends
    have earlier := settled.closed item member other depends
    exact ⟨Finset.mem_insert_of_mem earlier.1, by simp [apart other earlier.1, earlier.2]⟩
  · exact settled.first

variable (injective : ∀ first second item, find first = some item → find second = some item →
  first = second)
include injective

/-- With its dependencies listed, the item of a name is listed and the name
leaves the stack. -/
theorem Settled.leave (settled : Settled find dependencies region (name :: stack) done)
    (outside : name ∉ stack) {item : Item} (found : find name = some item)
    (below : ∀ other ∈ dependencies item, other ∈ done.visited ∧ other ∉ name :: stack) :
    Settled find dependencies region stack { done with result := done.result ++ [item] } := by
  have unlisted : item ∉ done.result := by
    intro member
    obtain ⟨other, _, apart, same⟩ := (settled.listed item).mp member
    exact apart (List.mem_cons.mpr (Or.inl (injective other name item same found)))
  have weaken : ∀ other, other ∉ name :: stack → other ∉ stack :=
    fun other apart above => apart (List.mem_cons_of_mem _ above)
  constructor
  · exact settled.inside
  · exact fun other above => settled.entered other (List.mem_cons_of_mem _ above)
  · apply settled.once.append (List.nodup_singleton _)
    intro other member here
    rw [List.mem_singleton.mp here] at member
    exact unlisted member
  · intro other
    rw [List.mem_append, List.mem_singleton, settled.listed]
    constructor
    · rintro (⟨inner, member, apart, same⟩ | same)
      · exact ⟨inner, member, weaken inner apart, same⟩
      · rw [same]
        exact ⟨name, settled.entered name List.mem_cons_self, outside, found⟩
    · rintro ⟨inner, member, apart, same⟩
      by_cases current : inner = name
      · rw [current, found] at same
        exact Or.inr (Option.some.inj same).symm
      · exact Or.inl ⟨inner, member, by simp [current, apart], same⟩
  · intro other member inner depends
    rcases List.mem_append.mp member with earlier | here
    · have known := settled.closed other earlier inner depends
      exact ⟨known.1, weaken inner known.2⟩
    · rw [List.mem_singleton.mp here] at depends
      have known := below inner depends
      exact ⟨known.1, weaken inner known.2⟩
  · -- an earlier item that needed this one would have had it listed already
    apply List.pairwise_append.mpr
    refine ⟨settled.first, List.pairwise_singleton _ _, ?_⟩
    rintro earlier member later here ⟨inner, depends, same⟩
    rw [List.mem_singleton.mp here] at same
    have apart := (settled.closed earlier member inner depends).2
    exact apart (List.mem_cons.mpr (Or.inl (injective inner name item same found)))

/-- A visit lists the name and what it needs, unless the name was entered before. -/
theorem visit_settled (acyclic : TopologicalSort.Acyclic (Edge find dependencies))
    (spreads : ∀ name other, region name → Edge find dependencies name other → region other)
    (depth : Nat) (known : region name) (above : Above find dependencies stack name)
    (settled : Settled find dependencies region stack state)
    (visited : visit find dependencies depth state name = some done) :
    Settled find dependencies region stack done := by
  induction depth generalizing state name done stack with
  | zero => cases visited
  | succ depth ih =>
    rw [visit] at visited
    split at visited
    · cases visited
      exact settled
    next fresh =>
      have entered := settled.enter known fresh
      cases found : find name with
      | none =>
        simp only [found, Option.some.injEq] at visited
        subst visited
        exact entered.pass found
      | some item =>
        simp only [found, Option.map_eq_some_iff] at visited
        obtain ⟨inner, folded, rfl⟩ := visited
        have next : ∀ other ∈ dependencies item, Above find dependencies (name :: stack) other :=
          fun other depends => above.next found depends
        have below : Settled find dependencies region (name :: stack) inner := by
          apply foldlM_keeps (Settled find dependencies region (name :: stack)) _ entered folded
          intro before after other depends settled here
          exact ih (spreads name other known ⟨item, found, depends⟩) (next other depends)
            settled here
        have reached := (fold_visits (visit_visits depth) (dependencies item) _ inner folded).2
        exact below.leave injective (above.outside acyclic) found fun other depends =>
          ⟨reached other depends, (next other depends).outside acyclic⟩

/-- The ordering lists the items of the names it reaches, each once and after
those it depends on. -/
theorem order_settled (acyclic : TopologicalSort.Acyclic (Edge find dependencies))
    (spreads : ∀ name other, region name → Edge find dependencies name other → region other)
    {depth : Nat} {names : List Name} (known : ∀ name ∈ names, region name) {items : List Item}
    (ordered : order find dependencies depth names = some items) :
    items.Nodup ∧ (∀ item ∈ items, ∃ name, region name ∧ find name = some item) ∧
      TopologicalSort.DependenciesFirst (DependsOn find dependencies) items := by
  obtain ⟨done, folded, rfl⟩ := Option.map_eq_some_iff.mp ordered
  have nothing : ∀ name, Above find dependencies [] name := by simp [Above]
  have settled : Settled find dependencies region [] done := by
    apply foldlM_keeps (Settled find dependencies region []) _ Settled.start folded
    intro before after name listed settled here
    exact visit_settled injective acyclic spreads depth (known name listed) (nothing name)
      settled here
  refine ⟨settled.once, ?_, settled.first⟩
  intro item member
  obtain ⟨name, visited, _, found⟩ := (settled.listed item).mp member
  exact ⟨name, settled.inside name visited, found⟩

end Steps

end DepthFirst

end AiEnterpriseOs.Library
