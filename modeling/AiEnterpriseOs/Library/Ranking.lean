import Mathlib.Data.List.Sort
import Mathlib.Data.Prod.Lex

/-!
# First maxima and ranked prefixes

`firstMax` is the selection of `max(items, key=...)`: among the items of the
greatest key, the one listed first. A stable sort keeps the listed order among
equals, and a prefix of a strictly ordered list holds the items that few others
come before.
-/

namespace AiEnterpriseOs.Library

section FirstMax

variable {Item Key : Type*} [LinearOrder Key] (key : Item → Key)

def firstMaxFrom (best : Item) (items : List Item) : Item :=
  items.foldl (fun best item => if key best < key item then item else best) best

def firstMax : List Item → Option Item
  | [] => none
  | item :: rest => some (firstMaxFrom key item rest)

theorem first_max_from_split (best : Item) (items : List Item) : ∃ before after,
      best :: items = before ++ firstMaxFrom key best items :: after ∧
        (∀ item ∈ before, key item < key (firstMaxFrom key best items)) ∧
        ∀ item ∈ after, key item ≤ key (firstMaxFrom key best items) := by
  induction items generalizing best with
  | nil => exact ⟨[], [], rfl, by simp, by simp⟩
  | cons item rest ih =>
    by_cases larger : key best < key item
    · obtain ⟨before, after, split, below, above⟩ := ih item
      have step : firstMaxFrom key best (item :: rest) =
          firstMaxFrom key item rest := by
        simp [firstMaxFrom, larger]
      rw [step]
      refine ⟨best :: before, after, by rw [split]; rfl, ?_, above⟩
      intro other member
      have itemBelow : key item ≤ key (firstMaxFrom key item rest) := by
        have listed : item ∈ before ++ firstMaxFrom key item rest :: after := by
          rw [← split]
          exact List.mem_cons_self
        rcases List.mem_append.mp listed with early | late
        · exact le_of_lt (below item early)
        · rcases List.mem_cons.mp late with equal | later
          · rw [← equal]
          · exact above item later
      rcases List.mem_cons.mp member with rfl | early
      · exact lt_of_lt_of_le larger itemBelow
      · exact below other early
    · obtain ⟨before, after, split, below, above⟩ := ih best
      have step : firstMaxFrom key best (item :: rest) =
          firstMaxFrom key best rest := by
        simp [firstMaxFrom, larger]
      rw [step]
      cases before with
      | nil =>
        obtain ⟨bestEq, restEq⟩ := List.cons.inj split
        refine ⟨[], item :: after, ?_, by simp, ?_⟩
        · rw [← bestEq, ← restEq]
          rfl
        · intro other member
          rcases List.mem_cons.mp member with rfl | later
          · rw [← bestEq]
            exact not_lt.mp larger
          · exact above other later
      | cons head before =>
        obtain ⟨headEq, restEq⟩ := List.cons.inj split
        subst headEq
        refine ⟨best :: item :: before, after,
          congrArg (fun tail => best :: item :: tail) restEq, ?_, above⟩
        intro other member
        have bestBelow := below best List.mem_cons_self
        rcases List.mem_cons.mp member with rfl | later
        · exact bestBelow
        · rcases List.mem_cons.mp later with rfl | early
          · exact lt_of_le_of_lt (not_lt.mp larger) bestBelow
          · exact below other (List.mem_cons_of_mem _ early)

theorem first_max_split {items : List Item} {best : Item}
    (selected : firstMax key items = some best) :
    ∃ before after, items = before ++ best :: after ∧ (∀ item ∈ before, key item < key best) ∧
      ∀ item ∈ after, key item ≤ key best := by
  cases items with
  | nil => cases selected
  | cons item rest =>
    cases selected
    exact first_max_from_split key item rest

theorem first_max_mem {items : List Item} {best : Item}
    (selected : firstMax key items = some best) : best ∈ items := by
  obtain ⟨before, after, split, _⟩ := first_max_split key selected
  rw [split]
  exact List.mem_append_right _ List.mem_cons_self

end FirstMax

theorem insertion_sort_congr {Item : Type*} {first second : Item → Item → Prop}
    [DecidableRel first] [DecidableRel second]
    (same : ∀ left right, first left right ↔ second left right) (items : List Item) :
    items.insertionSort first = items.insertionSort second := by
  have mapped := List.map_insertionSort first second id items fun left _ right _ => same left right
  rw [List.map_id, List.map_id] at mapped
  exact mapped

section StableSort

variable {Item : Type*} (le listed : Item → Item → Prop) [DecidableRel le]

/-- What a stable sort leaves in front of what. -/
def StablyBefore (left right : Item) : Prop :=
  le left right ∧ (le right left → listed left right)

theorem pairwise_ordered_insert (total : ∀ left right, le left right ∨ le right left)
    (transitive : ∀ first second third, le first second → le second third →
      le first third) (item : Item) (items : List Item)
    (first : ∀ other ∈ items, listed item other)
    (sorted : items.Pairwise (StablyBefore le listed)) :
    (items.orderedInsert le item).Pairwise (StablyBefore le listed) := by
  induction items with
  | nil => exact List.pairwise_singleton _ _
  | cons head rest ih =>
    obtain ⟨below, restSorted⟩ := List.pairwise_cons.mp sorted
    by_cases here : le item head
    · rw [List.orderedInsert_cons_of_le _ _ here]
      apply List.pairwise_cons.mpr
      refine ⟨?_, sorted⟩
      intro other member
      refine ⟨?_, fun _ => first other member⟩
      rcases List.mem_cons.mp member with rfl | later
      · exact here
      · exact transitive _ _ _ here (below other later).1
    · rw [List.orderedInsert_of_not_le _ _ here]
      apply List.pairwise_cons.mpr
      constructor
      · intro other member
        rcases (List.mem_orderedInsert le).mp member with rfl | later
        · exact ⟨(total _ _).resolve_left here, fun above => absurd above here⟩
        · exact below other later
      · exact ih (fun other member => first other (List.mem_cons_of_mem _ member)) restSorted

theorem pairwise_stable_sort (total : ∀ left right, le left right ∨ le right left)
    (transitive : ∀ first second third, le first second → le second third →
      le first third) (items : List Item) (inOrder : items.Pairwise listed) :
    (items.insertionSort le).Pairwise (StablyBefore le listed) := by
  induction items with
  | nil => exact List.Pairwise.nil
  | cons item rest ih =>
    obtain ⟨first, restOrder⟩ := List.pairwise_cons.mp inOrder
    apply pairwise_ordered_insert le listed total transitive
    · intro other member
      exact first other ((List.mem_insertionSort le).mp member)
    · exact ih restOrder

end StableSort

section Ranked

variable {Item : Type*} {before : Item → Item → Prop} [DecidableRel before]

/-- An item of a strictly ordered list is among the first `count` exactly if
fewer than `count` items come before it. -/
theorem mem_take_iff (asymmetric : ∀ left right, before left right →
      ¬before right left) {items : List Item} (sorted : items.Pairwise before)
    {item : Item} (member : item ∈ items) (count : Nat) :
    item ∈ items.take count ↔ items.countP (fun other => before other item) < count := by
  induction items generalizing count with
  | nil => cases member
  | cons head rest ih =>
    obtain ⟨below, restSorted⟩ := List.pairwise_cons.mp sorted
    cases count with
    | zero => simp
    | succ count =>
      rw [List.take_succ_cons, List.mem_cons]
      rcases List.mem_cons.mp member with rfl | later
      · have alone : (item :: rest).countP (fun other => before other item) = 0 := by
          apply List.countP_eq_zero.mpr
          intro other listed
          rw [decide_eq_true_eq]
          rcases List.mem_cons.mp listed with rfl | behind
          · exact fun self => asymmetric _ _ self self
          · exact asymmetric _ _ (below other behind)
        rw [alone]
        simp
      · have apart : item ≠ head := by
          rintro rfl
          exact asymmetric _ _ (below item later) (below item later)
        rw [List.countP_cons_of_pos (by simpa using below item later),
          or_iff_right apart, ih restSorted later count]
        omega

/-- The first match among the first `count` items of a strictly ordered list is the match
that no other match comes before, and that fewer than `count` items come before. -/
theorem find_take_iff (asymmetric : ∀ left right, before left right → ¬before right left)
    {items : List Item} (sorted : items.Pairwise before) (count : Nat)
    (found : Item → Bool) (item : Item) :
    (items.take count).find? found = some item ↔
      item ∈ items ∧ items.countP (fun other => before other item) < count ∧
        found item = true ∧ ∀ other ∈ items, before other item → found other = false := by
  constructor
  · intro first
    obtain ⟨matched, early, late, split, unmatched⟩ :=
      List.find?_eq_some_iff_append.mp first
    have taken : item ∈ items.take count := by
      rw [split]
      exact List.mem_append_right _ List.mem_cons_self
    have member := List.mem_of_mem_take taken
    refine ⟨member, (mem_take_iff asymmetric sorted member count).mp taken, matched, ?_⟩
    intro other listed ahead
    rw [← List.take_append_drop count items, split] at listed sorted
    rw [List.append_assoc] at listed sorted
    obtain ⟨_, behind, _⟩ := List.pairwise_append.mp sorted
    obtain ⟨below, _⟩ := List.pairwise_cons.mp behind
    rcases List.mem_append.mp listed with front | back
    · exact Bool.eq_false_iff.mpr fun matches' => by simpa [matches'] using unmatched other front
    · rcases List.mem_cons.mp back with rfl | later
      · exact absurd ahead (asymmetric _ _ ahead)
      · exact absurd ahead (asymmetric _ _ (below other later))
  · rintro ⟨member, few, matched, first⟩
    have taken := (mem_take_iff asymmetric sorted member count).mpr few
    obtain ⟨early, late, split⟩ := List.append_of_mem taken
    apply List.find?_eq_some_iff_append.mpr
    refine ⟨matched, early, late, split, ?_⟩
    intro other front
    have ordered := sorted.sublist (List.take_sublist count items)
    rw [split] at ordered
    have ahead := (List.pairwise_append.mp ordered).2.2 other front item List.mem_cons_self
    have listed : other ∈ items := by
      apply List.mem_of_mem_take (i := count)
      rw [split]
      exact List.mem_append_left _ front
    rw [first other listed ahead]
    rfl

end Ranked

section RankedSort

variable {Item : Type*} {le listed : Item → Item → Prop}

theorem stably_before_asymmetric (asymmetric : ∀ left right, listed left right → ¬listed right left)
    (left right : Item) (before : StablyBefore le listed left right) :
    ¬StablyBefore le listed right left := by
  intro after
  exact asymmetric left right (before.2 after.1) (after.2 before.1)

variable [DecidableRel le] [DecidableRel listed]

instance (left right : Item) : Decidable (StablyBefore le listed left right) :=
  inferInstanceAs (Decidable (_ ∧ _))

theorem mem_take_sorted_iff (total : ∀ left right, le left right ∨ le right left)
    (transitive : ∀ first second third, le first second → le second third → le first third)
    (asymmetric : ∀ left right, listed left right → ¬listed right left)
    {items : List Item} (inOrder : items.Pairwise listed) {item : Item}
    (member : item ∈ items) (count : Nat) :
    item ∈ (items.insertionSort le).take count ↔
      items.countP (fun other => StablyBefore le listed other item) < count := by
  have sorted := pairwise_stable_sort le listed total transitive items inOrder
  have counted := (List.perm_insertionSort le items).countP_eq
    fun other => decide (StablyBefore le listed other item)
  rw [← counted]
  exact mem_take_iff (stably_before_asymmetric asymmetric) sorted
    ((List.mem_insertionSort le).mpr member) count

end RankedSort

theorem pairwise_idx_of {Item : Type*} [DecidableEq Item] {items : List Item}
    (distinct : items.Nodup) :
    items.Pairwise fun left right => items.idxOf left < items.idxOf right := by
  rw [List.pairwise_iff_getElem]
  intro early late earlyBound lateBound before
  rw [distinct.idxOf_getElem early earlyBound, distinct.idxOf_getElem late lateBound]
  exact before

end AiEnterpriseOs.Library
