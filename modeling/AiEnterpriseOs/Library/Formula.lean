import Mathlib.Data.List.Basic

/-!
# Boolean formulas

Formulas over atoms with conjunctions and disjunctions of any length. What a formula says
depends on its own atoms only.
-/

namespace AiEnterpriseOs.Library

inductive Formula (Atom : Type*) where
  | atom (value : Atom)
  | all (parts : List (Formula Atom))
  | any (parts : List (Formula Atom))
  | not (inner : Formula Atom)

namespace Formula

variable {Atom : Type*}

section Meaning

variable (holds : Atom → Prop)

mutual

/-- The boolean combination of what the atoms say. -/
def Holds : Formula Atom → Prop
  | .atom value => holds value
  | .all parts => HoldsAll parts
  | .any parts => HoldsAny parts
  | .not inner => ¬Holds inner

def HoldsAll : List (Formula Atom) → Prop
  | [] => True
  | part :: rest => Holds part ∧ HoldsAll rest

def HoldsAny : List (Formula Atom) → Prop
  | [] => False
  | part :: rest => Holds part ∨ HoldsAny rest

end

end Meaning

section Atoms

mutual

def atoms : Formula Atom → List Atom
  | .atom value => [value]
  | .all parts => atomsOf parts
  | .any parts => atomsOf parts
  | .not inner => atoms inner

def atomsOf : List (Formula Atom) → List Atom
  | [] => []
  | part :: rest => atoms part ++ atomsOf rest

end

variable {first second : Atom → Prop}

mutual

theorem holds_congr : ∀ formula : Formula Atom, (∀ atom ∈ formula.atoms, first atom ↔ second atom) →
      (formula.Holds first ↔ formula.Holds second)
  | .atom value, same => same value (List.mem_singleton_self value)
  | .all parts, same => holds_all_congr parts same
  | .any parts, same => holds_any_congr parts same
  | .not inner, same => not_congr (holds_congr inner same)

theorem holds_all_congr : ∀ parts : List (Formula Atom),
    (∀ atom ∈ atomsOf parts, first atom ↔ second atom) →
      (HoldsAll first parts ↔ HoldsAll second parts)
  | [], _ => Iff.rfl
  | part :: rest, same =>
    and_congr (holds_congr part fun atom member => same atom (List.mem_append_left _ member))
      (holds_all_congr rest fun atom member => same atom (List.mem_append_right _ member))

theorem holds_any_congr : ∀ parts : List (Formula Atom),
    (∀ atom ∈ atomsOf parts, first atom ↔ second atom) →
      (HoldsAny first parts ↔ HoldsAny second parts)
  | [], _ => Iff.rfl
  | part :: rest, same =>
    or_congr (holds_congr part fun atom member => same atom (List.mem_append_left _ member))
      (holds_any_congr rest fun atom member => same atom (List.mem_append_right _ member))

end

end Atoms

end Formula

end AiEnterpriseOs.Library
