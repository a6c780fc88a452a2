import Mathlib.Data.Finset.Card
import Mathlib.Data.String.Basic

/-!
# Free names

A name that is taken is tried again with the numbers from two on. Among more names than
are taken one is free.
-/

namespace AiEnterpriseOs.Library

/-- The stem, and the stem with the numbers from two on. -/
def withNumber (stem : String) : Nat → String
  | 0 => stem
  | count + 1 => stem ++ "-" ++ Nat.repr (count + 2)

/-- The first name that is not taken, from the given one on; the last one tried where the
rounds do not suffice. -/
def firstFree (taken : String → Bool) (stem : String) : Nat → Nat → String
  | 0, count => withNumber stem count
  | rounds + 1, count =>
    if taken (withNumber stem count) then firstFree taken stem rounds (count + 1)
    else withNumber stem count

theorem with_number_injective (stem : String) : Function.Injective (withNumber stem) := by
  have longer : ∀ count, withNumber stem (count + 1) ≠ stem := by
    intro count same
    have lengths := congrArg String.length same
    simp only [withNumber, String.length_append] at lengths
    have hyphen : "-".length = 1 := rfl
    omega
  intro first second same
  cases first with
  | zero =>
    cases second with
    | zero => rfl
    | succ second => exact absurd same.symm (longer second)
  | succ first =>
    cases second with
    | zero => exact absurd same (longer first)
    | succ second =>
      have digits := (String.append_right_inj (stem ++ "-")).mp same
      have chars := congrArg (fun text => Nat.ofDigitChars 10 text.toList 0) digits
      simp only [Nat.toList_repr, Nat.ofDigitChars_ten_toDigits] at chars
      omega

theorem first_free_form (taken : String → Bool) (stem : String) (rounds count : Nat) :
    ∃ later, firstFree taken stem rounds count = withNumber stem later := by
  induction rounds generalizing count with
  | zero => exact ⟨count, rfl⟩
  | succ rounds ih =>
    rw [firstFree]
    split
    · exact ih (count + 1)
    · exact ⟨count, rfl⟩

theorem first_free_of_exists (taken : String → Bool) {stem : String} {rounds count : Nat}
    (free : ∃ tries < rounds, taken (withNumber stem (count + tries)) = false) :
    taken (firstFree taken stem rounds count) = false := by
  induction rounds generalizing count with
  | zero =>
    obtain ⟨tries, few, _⟩ := free
    omega
  | succ rounds ih =>
    obtain ⟨tries, few, unused⟩ := free
    rw [firstFree]
    split
    next used =>
      apply ih
      cases tries with
      | zero =>
        rw [Nat.add_zero, used] at unused
        cases unused
      | succ tries => exact ⟨tries, by omega, by rw [Nat.add_assoc, Nat.add_comm 1]; exact unused⟩
    next unused => exact Bool.eq_false_iff.mpr unused

theorem first_free_not_taken (names : List String) (stem : String) :
    firstFree (fun name => decide (name ∈ names)) stem (names.length + 1) 0 ∉ names := by
  have free : ∃ tries < names.length + 1,
      decide (withNumber stem (0 + tries) ∈ names) = false := by
    by_contra none_free
    have all : Set.MapsTo (withNumber stem) (Finset.range (names.length + 1)) names.toFinset := by
      intro tries listed
      by_contra missing
      refine none_free ⟨tries, Finset.mem_range.mp listed, ?_⟩
      rw [Nat.zero_add]
      exact decide_eq_false fun member => missing (List.mem_toFinset.mpr member)
    have few : names.toFinset.card < (Finset.range (names.length + 1)).card := by
      rw [Finset.card_range]
      exact Nat.lt_succ_of_le (List.toFinset_card_le names)
    obtain ⟨first, _, second, _, different, same⟩ :=
      Finset.exists_ne_map_eq_of_card_lt_of_maps_to few all
    exact different (with_number_injective stem same)
  have unused := first_free_of_exists (fun name => decide (name ∈ names)) free
  exact of_decide_eq_false unused

end AiEnterpriseOs.Library
