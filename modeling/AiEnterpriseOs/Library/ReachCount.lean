import Mathlib.Data.Finset.Card
import Mathlib.Data.Finset.SDiff
import Mathlib.Data.List.Induction
import Mathlib.Logic.Relation

/-!
# Counting what can be reached

A search counts the names that it enters. The name that it starts from is not
entered beforehand, so it is counted if it can be reached from itself.
-/

namespace AiEnterpriseOs.Library

namespace ReachCount

variable {Name : Type*}

def Below (next : Name → List Name) (name other : Name) : Prop := other ∈ next name

section

variable (next : Name → List Name)

/-- What has been counted below a name when the names listed have been met. -/
structure Counted (visited : Finset Name) (name : Name) (listed : List Name)
    (state : Finset Name × Nat) : Prop where
  kept : visited ⊆ state.1
  number : state.1.card = visited.card + state.2
  met : ∀ other ∈ listed, other ∈ state.1
  below : ∀ other ∈ state.1, other ∉ visited →
    Relation.TransGen (Below next) name other ∧ ∀ inner ∈ next other, inner ∈ state.1

variable {next} {visited known : Finset Name} {name other : Name} {listed : List Name}
  {state : Finset Name × Nat}

theorem Counted.start : Counted next visited name [] (visited, 0) where
  kept := Finset.Subset.refl visited
  number := rfl
  met _ member := absurd member List.not_mem_nil
  below _ member fresh := absurd member fresh

theorem Counted.meet (counted : Counted next visited name listed state)
    (entered : other ∈ state.1) : Counted next visited name (listed ++ [other]) state where
  kept := counted.kept
  number := counted.number
  met inner member := by
    rcases List.mem_append.mp member with early | here
    · exact counted.met inner early
    · rw [List.mem_singleton.mp here]
      exact entered
  below := counted.below

variable [DecidableEq Name]

variable (next) in
/-- The names entered so far, with those entered below a name, and the number of the latter. -/
def count : Nat → Finset Name → Name → Option (Finset Name × Nat)
  | 0, _, _ => none
  | rounds + 1, visited, name =>
    (next name).foldlM (fun state other =>
      if other ∈ state.1 then some state
      else
        (count rounds (insert other state.1) other).map fun below =>
          (below.1, state.2 + (1 + below.2)))
      (visited, 0)

theorem Counted.enter (counted : Counted next visited name listed state)
    (depends : other ∈ next name) (fresh : other ∉ state.1) {inner : Finset Name × Nat}
    (searched : Counted next (insert other state.1) other (next other) inner) :
    Counted next visited name (listed ++ [other]) (inner.1, state.2 + (1 + inner.2)) := by
  have entered : other ∈ inner.1 := searched.kept (Finset.mem_insert_self other state.1)
  have grown : state.1 ⊆ inner.1 := (Finset.subset_insert other state.1).trans searched.kept
  constructor
  · exact counted.kept.trans grown
  · have number := searched.number
    rw [Finset.card_insert_of_notMem fresh, counted.number] at number
    dsimp only
    omega
  · intro last member
    rcases List.mem_append.mp member with early | here
    · exact grown (counted.met last early)
    · rw [List.mem_singleton.mp here]
      exact entered
  · intro last member new
    by_cases early : last ∈ state.1
    · obtain ⟨path, closed⟩ := counted.below last early new
      exact ⟨path, fun deeper needed => grown (closed deeper needed)⟩
    · by_cases same : last = other
      · rw [same]
        exact ⟨Relation.TransGen.single depends, searched.met⟩
      · have apart : last ∉ insert other state.1 := by
          rw [Finset.mem_insert, not_or]
          exact ⟨same, early⟩
        obtain ⟨path, closed⟩ := searched.below last member apart
        exact ⟨Relation.TransGen.head depends path, closed⟩

theorem count_counted (inside : ∀ name, ∀ other ∈ next name, other ∈ known) (rounds : Nat)
    (visited : Finset Name) (name : Name) (enough : (known \ visited).card < rounds) :
    ∃ state, count next rounds visited name = some state ∧
      Counted next visited name (next name) state := by
  induction rounds generalizing visited name with
  | zero => omega
  | succ rounds ih =>
    rw [count]
    have fold : ∀ names : List Name, (∀ other ∈ names, other ∈ next name) →
        ∃ state, names.foldlM (fun state other =>
            if other ∈ state.1 then some state
            else
              (count next rounds (insert other state.1) other).map fun below =>
                (below.1, state.2 + (1 + below.2))) (visited, 0) = some state ∧
          Counted next visited name names state := by
      intro names all
      induction names using List.reverseRecOn with
      | nil => exact ⟨_, rfl, .start⟩
      | append_singleton names other before =>
        obtain ⟨state, folded, counted⟩ :=
          before fun early member => all early (List.mem_append_left _ member)
        have depends : other ∈ next name := all other (by simp)
        rw [List.foldlM_append, folded]
        by_cases entered : other ∈ state.1
        · refine ⟨state, ?_, counted.meet entered⟩
          simp [entered]
        · have fewer : (known \ insert other state.1).card < rounds := by
            have member := inside name other depends
            have less : (known \ insert other state.1).card < (known \ visited).card := by
              apply Finset.card_lt_card
              rw [Finset.ssubset_iff_of_subset]
              · refine ⟨other, ?_, by simp⟩
                exact Finset.mem_sdiff.mpr ⟨member, fun old => entered (counted.kept old)⟩
              · exact Finset.sdiff_subset_sdiff (Finset.Subset.refl known)
                  (counted.kept.trans (Finset.subset_insert other state.1))
            omega
          obtain ⟨inner, found, searched⟩ := ih (insert other state.1) other fewer
          refine ⟨_, ?_, counted.enter depends entered searched⟩
          simp [entered, found]
    exact fold (next name) fun _ member => member

theorem count_reached (inside : ∀ name, ∀ other ∈ next name, other ∈ known) {rounds : Nat}
    (enough : known.card < rounds) (name : Name) :
    ∃ found, count next rounds ∅ name = some (found, found.card) ∧
      ∀ other, other ∈ found ↔ Relation.TransGen (Below next) name other := by
  have room : (known \ ∅).card < rounds := by
    rw [Finset.sdiff_empty]
    exact enough
  obtain ⟨state, searched, counted⟩ := count_counted inside rounds ∅ name room
  have number := counted.number
  rw [Finset.card_empty, Nat.zero_add] at number
  refine ⟨state.1, ?_, ?_⟩
  · rw [searched, number]
  · intro other
    constructor
    · intro member
      exact (counted.below other member (Finset.notMem_empty other)).1
    · intro path
      induction path with
      | single first => exact counted.met _ first
      | tail _ last reached =>
        exact (counted.below _ reached (Finset.notMem_empty _)).2 _ last

end

end ReachCount

end AiEnterpriseOs.Library
