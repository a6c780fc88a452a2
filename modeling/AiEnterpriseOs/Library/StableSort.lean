import Mathlib.Data.List.Sort

/-!
# Stable sorting by a key

Items sorted by falling key, those of one key in the order in which they were listed.
-/

namespace AiEnterpriseOs.Library

variable {Item Key : Type*} [LinearOrder Key] (key : Item → Key)

/-- `sorted(items, key=key, reverse=True)`. -/
def sortedDown (items : List Item) : List Item :=
  items.insertionSort fun left right => key right ≤ key left

variable {key}

theorem filter_ordered_insert (item : Item) (items : List Item) (value : Key) :
    (items.orderedInsert (fun left right => key right ≤ key left) item).filter
        (fun other => key other = value) =
      (item :: items).filter fun other => key other = value := by
  induction items with
  | nil => rfl
  | cons head rest ih =>
    rw [List.orderedInsert_cons]
    split
    · rfl
    next smaller =>
      rw [List.filter_cons, ih]
      by_cases here : key item = value
      · have apart : key head ≠ value := by
          intro same
          rw [here, same] at smaller
          exact smaller le_rfl
        simp [here, apart]
      · simp [List.filter_cons, here]

theorem filter_sorted_down (items : List Item) (value : Key) :
    (sortedDown key items).filter (fun item => key item = value) =
      items.filter fun item => key item = value := by
  induction items with
  | nil => rfl
  | cons item rest ih =>
    rw [sortedDown, List.insertionSort_cons, filter_ordered_insert, List.filter_cons,
      List.filter_cons]
    rw [sortedDown] at ih
    rw [ih]

theorem sorted_down_pairwise (items : List Item) :
    (sortedDown key items).Pairwise fun left right => key right ≤ key left := by
  have total : Std.Total fun left right : Item => key right ≤ key left :=
    ⟨fun left right => le_total (key right) (key left)⟩
  have transitive : IsTrans Item fun left right : Item => key right ≤ key left :=
    ⟨fun _ _ _ first second => second.trans first⟩
  exact List.pairwise_insertionSort _ items

theorem eq_of_filters {first second : List Item}
    (firstSorted : first.Pairwise fun left right => key right ≤ key left)
    (secondSorted : second.Pairwise fun left right => key right ≤ key left)
    (same : ∀ value, first.filter (fun item => key item = value) =
      second.filter fun item => key item = value) : first = second := by
  have mem_iff : ∀ item, item ∈ first ↔ item ∈ second := by
    intro item
    have members := congrArg (fun items => item ∈ items) (same (key item))
    simpa using members
  induction first generalizing second with
  | nil =>
    cases second with
    | nil => rfl
    | cons item rest => exact absurd ((mem_iff item).mpr List.mem_cons_self) List.not_mem_nil
  | cons head rest ih =>
    cases second with
    | nil => exact absurd ((mem_iff head).mp List.mem_cons_self) List.not_mem_nil
    | cons other others =>
      obtain ⟨above, restSorted⟩ := List.pairwise_cons.mp firstSorted
      obtain ⟨otherAbove, othersSorted⟩ := List.pairwise_cons.mp secondSorted
      have keys : key head = key other := by
        apply le_antisymm
        · rcases List.mem_cons.mp ((mem_iff head).mp List.mem_cons_self) with equal | later
          · rw [equal]
          · exact otherAbove head later
        · rcases List.mem_cons.mp ((mem_iff other).mpr List.mem_cons_self) with equal | later
          · rw [equal]
          · exact above other later
      have heads : head = other := by
        have lists := same (key head)
        rw [List.filter_cons_of_pos (by simp), List.filter_cons_of_pos (by simp [keys])] at lists
        exact (List.cons.inj lists).1
      have tails : ∀ value, rest.filter (fun item => key item = value) =
          others.filter fun item => key item = value := by
        intro value
        have lists := same value
        rw [heads, List.filter_cons, List.filter_cons] at lists
        split at lists
        · exact (List.cons.inj lists).2
        · exact lists
      rw [heads, ih restSorted othersSorted tails]
      intro item
      have members := congrArg (fun items => item ∈ items) (tails (key item))
      simpa using members

/-- Two lists are sorted alike exactly if they list the items of each key alike. -/
theorem sorted_down_eq_iff (first second : List Item) :
    sortedDown key first = sortedDown key second ↔
      ∀ value, first.filter (fun item => key item = value) =
        second.filter fun item => key item = value := by
  constructor
  · intro same value
    rw [← filter_sorted_down first, same, filter_sorted_down]
  · intro same
    apply eq_of_filters (sorted_down_pairwise first) (sorted_down_pairwise second)
    intro value
    rw [filter_sorted_down, filter_sorted_down, same]

theorem head_sorted_down {items before after : List Item} {best : Item}
    (split : items = before ++ best :: after) (below : ∀ item ∈ before, key item < key best)
    (above : ∀ item ∈ after, key item ≤ key best) :
    (sortedDown key items).head? = some best := by
  have greatest : ∀ item ∈ items, key item ≤ key best := by
    intro item member
    rw [split, List.mem_append, List.mem_cons] at member
    rcases member with early | rfl | late
    · exact le_of_lt (below item early)
    · exact le_rfl
    · exact above item late
  have same : (sortedDown key items).Perm items := List.perm_insertionSort _ items
  have equals := @filter_sorted_down _ _ _ key items (key best)
  have none_before : before.filter (fun item => key item = key best) = [] := by
    rw [List.filter_eq_nil_iff]
    intro item member equal
    exact absurd (of_decide_eq_true equal) (ne_of_lt (below item member))
  rw [split, List.filter_append, none_before, List.nil_append,
    List.filter_cons_of_pos (by simp), ← split] at equals
  have listed : best ∈ sortedDown key items := by
    rw [same.mem_iff, split]
    exact List.mem_append_right _ List.mem_cons_self
  have ordered := @sorted_down_pairwise _ _ _ key items
  cases sorted : sortedDown key items with
  | nil =>
    rw [sorted] at listed
    cases listed
  | cons head rest =>
    rw [sorted] at equals listed ordered same
    have equal : key head = key best := by
      apply le_antisymm
      · exact greatest head (same.mem_iff.mp List.mem_cons_self)
      · rcases List.mem_cons.mp listed with rfl | later
        · exact le_rfl
        · exact (List.pairwise_cons.mp ordered).1 best later
    rw [List.filter_cons_of_pos (by simp [equal])] at equals
    rw [List.head?_cons, (List.cons.inj equals).1]

/-! ## Items with rising keys -/

theorem sorted_up_of_rising {items arranged : List Item}
    (rising : items.Pairwise fun left right => key left < key right)
    (same : arranged.Perm items) :
    (arranged.insertionSort fun left right => key left ≤ key right) = items := by
  have total : Std.Total fun left right : Item => key left ≤ key right :=
    ⟨fun left right => le_total (key left) (key right)⟩
  have transitive : IsTrans Item fun left right : Item => key left ≤ key right :=
    ⟨fun _ _ _ first second => first.trans second⟩
  have sorted := (List.perm_insertionSort (fun left right => key left ≤ key right)
    arranged).trans same
  apply sorted.eq_of_pairwise
  · intro first second firstIn secondIn below above
    have injective : ∀ ⦃left⦄, left ∈ items → ∀ ⦃right⦄, right ∈ items →
        key left = key right → left = right := by
      apply List.Pairwise.forall_of_forall_of_flip
      · exact fun _ _ _ => rfl
      · exact rising.imp fun less equal => absurd equal (ne_of_lt less)
      · exact rising.imp fun less equal => absurd equal (ne_of_gt less)
    exact injective (sorted.mem_iff.mp firstIn) secondIn (le_antisymm below above)
  · exact List.pairwise_insertionSort _ arranged
  · exact rising.imp fun less => le_of_lt less

theorem sorted_down_of_rising {items arranged : List Item}
    (rising : items.Pairwise fun left right => key left < key right)
    (same : arranged.Perm items) : sortedDown key arranged = items.reverse := by
  have falling : items.reverse.Pairwise fun left right =>
      OrderDual.toDual (key left) < OrderDual.toDual (key right) :=
    List.pairwise_reverse.mpr rising
  exact @sorted_up_of_rising _ _ _ (fun item => OrderDual.toDual (key item)) _ _ falling
    (same.trans (List.reverse_perm items).symm)

/-! ## The best items -/

/-- The best `count` of all items by score, best first; which of equals are
taken is left open. -/
structure IsTop (score : Item → Key) (count : Nat) (all results : List Item) : Prop where
  listed : ∀ item ∈ results, item ∈ all
  distinct : results.Nodup
  length : results.length = min count all.length
  ordered : results.Pairwise fun left right => score right ≤ score left
  best : ∀ item ∈ all, item ∉ results → ∀ result ∈ results, score item ≤ score result

/-- A selection of at most `count` items, put in the order of their scores, has
the best of all items exactly if it has no others, and leaves one out only where
it is full of items that score no less. -/
theorem is_top_sorted_iff {score : Item → Key} {count : Nat} {all kept : List Item}
    (allDistinct : all.Nodup) (distinct : kept.Nodup) (few : kept.length ≤ count) :
    IsTop score count all (sortedDown score kept) ↔
      (∀ item ∈ kept, item ∈ all) ∧ ∀ item ∈ all, item ∉ kept →
        kept.length = count ∧ ∀ other ∈ kept, score item ≤ score other := by
  have same : (sortedDown score kept).Perm kept := List.perm_insertionSort _ kept
  constructor
  · intro top
    have listed : ∀ item ∈ kept, item ∈ all :=
      fun item member => top.listed item (same.mem_iff.mpr member)
    refine ⟨listed, ?_⟩
    intro item member left_out
    constructor
    · have length := top.length
      rw [same.length_eq] at length
      have more : (item :: kept).length ≤ all.length := by
        apply List.Subperm.length_le
        apply List.subperm_of_subset (List.nodup_cons.mpr ⟨left_out, distinct⟩)
        exact List.cons_subset.mpr ⟨member, listed⟩
      rw [List.length_cons] at more
      omega
    · intro other present
      apply top.best item member
      · exact fun result => left_out (same.mem_iff.mp result)
      · exact same.mem_iff.mpr present
  · rintro ⟨listed, full⟩
    have fits : kept.length ≤ all.length := (List.subperm_of_subset distinct listed).length_le
    refine
      { listed := fun item result => listed item (same.mem_iff.mp result)
        distinct := same.nodup_iff.mpr distinct
        length := ?_
        ordered := sorted_down_pairwise kept
        best := ?_ }
    · rw [same.length_eq]
      by_cases left_out : ∃ item ∈ all, item ∉ kept
      · obtain ⟨item, member, absent⟩ := left_out
        have this := (full item member absent).1
        omega
      · have covers : all ⊆ kept := by
          intro item member
          by_contra absent
          exact left_out ⟨item, member, absent⟩
        have most := (List.subperm_of_subset allDistinct covers).length_le
        omega
    · intro item member absent result present
      have left_out : item ∉ kept := fun here => absent (same.mem_iff.mpr here)
      exact (full item member left_out).2 result (same.mem_iff.mp present)

end AiEnterpriseOs.Library
