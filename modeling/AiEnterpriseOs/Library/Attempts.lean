import Mathlib.Data.List.Basic
import Mathlib.Data.Int.Order.Basic
import Mathlib.Data.Nat.Find

/-!
# Attempts until a final outcome

Attempts are numbered from zero on, and the outcome of each is given by a
stream. They end with the first final outcome, or at a limit.
-/

namespace AiEnterpriseOs.Library

variable {Outcome : Type*}

/-- `count` attempts are those until the first final outcome, at most `limit`. -/
structure EndsAfter (final : Outcome → Prop) (limit : Int) (stream : Nat → Outcome)
    (count : Nat) : Prop where
  within : (count : Int) ≤ max limit 0
  before : ∀ attempt, attempt + 1 < count → ¬final (stream attempt)
  ends : (count : Int) = max limit 0 ∨ ∃ last, count = last + 1 ∧ final (stream last)

section

variable {final first second : Outcome → Prop} {stream : Nat → Outcome} {limit : Int} {count : Nat}

theorem ends_after_iff {last : Int} (positive : 0 ≤ last) :
    EndsAfter final (last + 1) stream count ↔
      ∃ attempt : Nat, count = attempt + 1 ∧ (attempt : Int) ≤ last ∧
        (∀ earlier < attempt, ¬final (stream earlier)) ∧
        ((attempt : Int) = last ∨ final (stream attempt)) := by
  constructor
  · intro ends
    have within := ends.within
    cases count with
    | zero =>
      cases ends.ends with
      | inl full => omega
      | inr stopped =>
        obtain ⟨attempt, counted, _⟩ := stopped
        omega
    | succ attempt =>
      refine ⟨attempt, rfl, by omega, ?_, ?_⟩
      · intro earlier less
        exact ends.before earlier (by omega)
      · cases ends.ends with
        | inl full => exact Or.inl (by omega)
        | inr stopped =>
          obtain ⟨other, counted, isFinal⟩ := stopped
          rw [Nat.succ.inj counted]
          exact Or.inr isFinal
  · intro found
    obtain ⟨attempt, rfl, within, before, stopped⟩ := found
    constructor
    · omega
    · intro earlier less
      exact before earlier (by omega)
    · cases stopped with
      | inl full => exact Or.inl (by omega)
      | inr isFinal => exact Or.inr ⟨attempt, rfl, isFinal⟩

theorem ends_after_none_iff (none_left : limit ≤ 0) :
    EndsAfter final limit stream count ↔ count = 0 := by
  constructor
  · intro ends
    have within := ends.within
    omega
  · rintro rfl
    constructor
    · omega
    · intro attempt less
      omega
    · exact Or.inl (by omega)

/-- One attempt ends both: all before it are final for neither. -/
def EndTogether (first : Outcome → Prop) (firstLast : Int) (second : Outcome → Prop)
    (secondLast : Int) (stream : Nat → Outcome) : Prop :=
  ∃ attempt : Nat, (attempt : Int) ≤ firstLast ∧ (attempt : Int) ≤ secondLast ∧
    (∀ earlier < attempt, ¬first (stream earlier) ∧ ¬second (stream earlier)) ∧
    ((attempt : Int) = firstLast ∨ first (stream attempt)) ∧
    ((attempt : Int) = secondLast ∨ second (stream attempt))

/-- The attempts of one rule are those of another exactly if one attempt ends
both. -/
theorem ends_after_other_iff {firstLast secondLast : Int} (positive : 0 ≤ firstLast)
    (ends : EndsAfter first (firstLast + 1) stream count) :
    EndsAfter second (secondLast + 1) stream count ↔
      EndTogether first firstLast second secondLast stream := by
  obtain ⟨last, rfl, within, before, stopped⟩ := (ends_after_iff positive).mp ends
  constructor
  · intro other
    have room : 0 ≤ secondLast := by
      by_contra negative
      have nothing := (ends_after_none_iff (by omega)).mp other
      omega
    obtain ⟨attempt, same, otherWithin, otherBefore, otherStopped⟩ :=
      (ends_after_iff room).mp other
    have sameAttempt : last = attempt := Nat.succ.inj same
    subst sameAttempt
    exact ⟨last, within, otherWithin,
      fun earlier less => ⟨before earlier less, otherBefore earlier less⟩, stopped, otherStopped⟩
  · intro together
    obtain ⟨attempt, firstWithin, secondWithin, neither, firstStop, secondStop⟩ := together
    -- the first rule ends at one attempt only
    have sameAttempt : last = attempt := by
      rcases Nat.lt_trichotomy last attempt with less | same | more
      · cases stopped with
        | inl full => omega
        | inr isFinal => exact absurd isFinal (neither last less).1
      · exact same
      · cases firstStop with
        | inl full => omega
        | inr isFinal => exact absurd isFinal (before attempt more)
    subst sameAttempt
    apply (ends_after_iff (by omega)).mpr
    exact ⟨last, rfl, secondWithin, fun earlier less => (neither earlier less).2, secondStop⟩

end

end AiEnterpriseOs.Library
