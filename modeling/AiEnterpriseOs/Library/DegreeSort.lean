import AiEnterpriseOs.Library.Layering
import AiEnterpriseOs.Library.TopologicalSort
import Mathlib.Data.List.Count

/-!
# Topological sorting with repeated dependencies

An element may list a dependency several times, and one that is not there at
all. Degrees count every listing, and each listing is lowered once when the
dependency is sorted. The elements sorted are those whose dependencies are, and
the queue can be taken a whole layer at a time.
-/

namespace AiEnterpriseOs.Library

namespace TopologicalSort

variable {Item : Type*} [DecidableEq Item]

theorem relax_repeated {dependents : List Item} {degrees : Item → Int} (queue : List Item)
    (enough : ∀ item ∈ dependents, (dependents.count item : Int) ≤ degrees item) :
    ∃ fresh, dependents.foldl relax (degrees, queue) =
        (fun item => degrees item - dependents.count item, queue ++ fresh) ∧
      fresh.Nodup ∧
      ∀ item, item ∈ fresh ↔ item ∈ dependents ∧ degrees item = dependents.count item := by
  induction dependents generalizing degrees queue with
  | nil =>
    refine ⟨[], ?_, List.nodup_nil, ?_⟩
    · simp
    · simp
  | cons head rest ih =>
    let lowered := Function.update degrees head (degrees head - 1)
    have here : lowered head = degrees head - 1 := Function.update_self head _ degrees
    have apart : ∀ item, item ≠ head → lowered item = degrees item :=
      fun item different => Function.update_of_ne different _ degrees
    have still : ∀ item ∈ rest, (rest.count item : Int) ≤ lowered item := by
      intro item member
      have before := enough item (List.mem_cons_of_mem _ member)
      by_cases same : item = head
      · rw [same] at before ⊢
        rw [List.count_cons_self] at before
        rw [here]
        omega
      · rw [List.count_cons_of_ne (Ne.symm same)] at before
        rw [apart item same]
        exact before
    let ready := if degrees head - 1 = 0 then queue ++ [head] else queue
    obtain ⟨fresh, folded, once, member⟩ := ih ready still
    have counts : (fun item => lowered item - (rest.count item : Int)) =
        fun item => degrees item - ((head :: rest).count item : Int) := by
      funext item
      by_cases same : item = head
      · rw [same, here, List.count_cons_self]
        omega
      · rw [apart item same, List.count_cons_of_ne (Ne.symm same)]
    have first := enough head List.mem_cons_self
    rw [List.count_cons_self] at first
    have others : ∀ item, item ≠ head →
        (item ∈ fresh ↔ item ∈ head :: rest ∧ degrees item = (head :: rest).count item) := by
      intro item different
      rw [member, apart item different, List.count_cons_of_ne (Ne.symm different), List.mem_cons]
      simp [different]
    rw [List.foldl_cons]
    have begun : relax (degrees, queue) head = (lowered, ready) := rfl
    rw [begun, folded, counts]
    by_cases last : degrees head - 1 = 0
    · -- the head is listed once, so the rest does not make it ready again
      have gone : head ∉ rest := by
        rw [← List.count_eq_zero]
        omega
      have unlisted : head ∉ fresh := fun listed => gone ((member head).mp listed).1
      refine ⟨head :: fresh, ?_, List.nodup_cons.mpr ⟨unlisted, once⟩, ?_⟩
      · rw [show ready = queue ++ [head] from if_pos last, List.append_assoc]
        rfl
      · intro item
        by_cases same : item = head
        · rw [same, List.count_cons_self, List.count_eq_zero.mpr gone]
          simp only [List.mem_cons_self, true_and, true_iff]
          omega
        · rw [List.mem_cons, ← others item same]
          simp [same]
    · refine ⟨fresh, ?_, once, ?_⟩
      · rw [show ready = queue from if_neg last]
      · intro item
        by_cases same : item = head
        · rw [same, member, here, List.count_cons_self]
          simp only [List.mem_cons_self, true_and]
          constructor
          · intro listed
            omega
          · intro full
            refine ⟨List.count_pos_iff.mp ?_, ?_⟩
            · omega
            · omega
        · exact others item same

/-- A number of elements is taken from the queue into a level. -/
def takeLevel (dependents : Item → List Item) :
    Nat → (Item → Int) → List Item → List Item → (Item → Int) × List Item × List Item
  | 0, degrees, queue, level => (degrees, queue, level)
  | _ + 1, degrees, [], level => (degrees, [], level)
  | count + 1, degrees, item :: queue, level =>
    let state := (dependents item).foldl relax (degrees, queue)
    takeLevel dependents count state.1 state.2 (level ++ [item])

/-- The loop over the queue that takes all of it in every round. -/
def levelQueue (dependents : Item → List Item) : Nat → (Item → Int) → List Item → List (List Item)
  | 0, _, _ => []
  | rounds + 1, degrees, queue =>
    if queue.isEmpty then []
    else
      let (lowered, rest, level) := takeLevel dependents queue.length degrees queue []
      level :: levelQueue dependents rounds lowered rest

/-- The dependents of an element are listed as often as they list it. -/
structure Mirrors (items : List Item) (dependencies dependents : Item → List Item) : Prop where
  distinct : items.Nodup
  counted : ∀ item other, (dependents item).count other =
    if other ∈ items then (dependencies other).count item else 0

/-- The state of the sort: degrees count the listings of dependencies not yet
sorted, and the elements without such a listing are sorted or in the queue. -/
structure Counting (items : List Item) (dependencies : Item → List Item)
    (degrees : Item → Int) (queue ordered : List Item) : Prop where
  distinct : (ordered ++ queue).Nodup
  degree : ∀ item ∈ items,
    degrees item = ((dependencies item).countP fun other => other ∉ ordered : Nat)
  ready : ∀ item, item ∈ ordered ++ queue ↔
    item ∈ items ∧ ∀ other ∈ dependencies item, other ∈ ordered
  first : DependenciesFirst (fun item other => other ∈ dependencies item) ordered
  loopless : ∀ item ∈ ordered, item ∉ dependencies item

section

variable {items : List Item} {dependencies dependents : Item → List Item}
  {degrees : Item → Int} {queue ordered : List Item} {item : Item}

theorem Mirrors.mem_iff (mirrors : Mirrors items dependencies dependents) (item other : Item) :
    other ∈ dependents item ↔ other ∈ items ∧ item ∈ dependencies other := by
  have counted := mirrors.counted item other
  rw [← List.count_pos_iff, counted]
  split
  next listed => simp [listed]
  next unlisted => simp [unlisted]

theorem counting_start (once : queue.Nodup)
    (free : ∀ item, item ∈ queue ↔ item ∈ items ∧ dependencies item = [])
    (counted : ∀ item ∈ items, degrees item = (dependencies item).length) :
    Counting items dependencies degrees queue [] where
  distinct := once
  degree item listed := by simp [counted item listed]
  ready item := by
    rw [List.nil_append, free, List.eq_nil_iff_forall_not_mem]
    simp only [List.not_mem_nil]
  first := List.Pairwise.nil
  loopless _ member := absurd member List.not_mem_nil

theorem count_unsorted (fresh : item ∉ ordered) (wanted : List Item) :
    wanted.countP (fun other => other ∉ ordered) =
      wanted.countP (fun other => other ∉ ordered ++ [item]) + wanted.count item := by
  induction wanted with
  | nil => rfl
  | cons other rest ih =>
    rw [List.countP_cons, List.countP_cons, List.count_cons, ih]
    by_cases same : other = item
    · simp [same, fresh]
      omega
    · have different : (other == item) = false := by simpa using same
      rw [different]
      simp only [List.mem_append, List.mem_singleton, same, or_false, Bool.false_eq_true, if_false]
      omega

theorem Counting.unsorted (counting : Counting items dependencies degrees (item :: queue) ordered) :
    item ∉ ordered := by
  intro sorted
  exact (List.nodup_append.mp counting.distinct).2.2 item sorted item List.mem_cons_self rfl

/-- An element that depends on the one to be sorted is not yet in the queue. -/
theorem Counting.waiting
    (counting : Counting items dependencies degrees (item :: queue) ordered) {other : Item}
    (depends : item ∈ dependencies other) : other ∉ ordered ++ item :: queue := by
  intro listed
  exact counting.unsorted (((counting.ready other).mp listed).2 item depends)

theorem Counting.all_sorted_iff
    (counting : Counting items dependencies degrees (item :: queue) ordered) {other : Item}
    (listed : other ∈ items) :
    degrees other = (dependencies other).count item ↔
      ∀ known ∈ dependencies other, known ∈ ordered ++ [item] := by
  have parts := count_unsorted counting.unsorted (dependencies other)
  have none : (dependencies other).countP (fun known => known ∉ ordered ++ [item]) = 0 ↔
      ∀ known ∈ dependencies other, known ∈ ordered ++ [item] := by
    rw [List.countP_eq_zero]
    simp only [decide_eq_true_eq, not_not]
  rw [← none, counting.degree other listed, parts]
  omega

theorem Counting.step (mirrors : Mirrors items dependencies dependents)
    (counting : Counting items dependencies degrees (item :: queue) ordered) :
    Counting items dependencies ((dependents item).foldl relax (degrees, queue)).1
      ((dependents item).foldl relax (degrees, queue)).2 (ordered ++ [item]) := by
  have unsorted := counting.unsorted
  have counted : ∀ other ∈ items,
      (dependents item).count other = (dependencies other).count item := by
    intro other listed
    rw [mirrors.counted, if_pos listed]
  have enough : ∀ other ∈ dependents item,
      ((dependents item).count other : Int) ≤ degrees other := by
    intro other member
    have listed := ((mirrors.mem_iff item other).mp member).1
    rw [counted other listed, counting.degree other listed, count_unsorted unsorted]
    omega
  obtain ⟨fresh, folded, once, member⟩ := relax_repeated queue enough
  rw [folded]
  have parts : ordered ++ [item] ++ (queue ++ fresh) = (ordered ++ item :: queue) ++ fresh := by
    simp only [List.append_assoc, List.cons_append, List.nil_append]
  have freshReady : ∀ other, other ∈ fresh ↔ other ∈ items ∧ item ∈ dependencies other ∧
      ∀ known ∈ dependencies other, known ∈ ordered ++ [item] := by
    intro other
    rw [member, mirrors.mem_iff]
    constructor
    · intro found
      obtain ⟨⟨listed, depends⟩, degree⟩ := found
      rw [counted other listed] at degree
      exact ⟨listed, depends, (counting.all_sorted_iff listed).mp degree⟩
    · intro found
      obtain ⟨listed, depends, sorted⟩ := found
      refine ⟨⟨listed, depends⟩, ?_⟩
      rw [counted other listed]
      exact (counting.all_sorted_iff listed).mpr sorted
  constructor
  · rw [parts]
    refine List.Nodup.append counting.distinct once ?_
    intro other early late
    exact counting.waiting ((freshReady other).mp late).2.1 early
  · intro other listed
    dsimp only
    rw [counting.degree other listed, counted other listed, count_unsorted unsorted]
    omega
  · intro other
    rw [parts, List.mem_append, freshReady, counting.ready]
    constructor
    · intro found
      rcases found with old | new
      · exact ⟨old.1, fun known depends => List.mem_append_left _ (old.2 known depends)⟩
      · exact ⟨new.1, new.2.2⟩
    · intro found
      obtain ⟨listed, sorted⟩ := found
      by_cases depends : item ∈ dependencies other
      · exact Or.inr ⟨listed, depends, sorted⟩
      · refine Or.inl ⟨listed, ?_⟩
        intro known needs
        rcases List.mem_append.mp (sorted known needs) with early | here
        · exact early
        · rw [List.mem_singleton.mp here] at needs
          exact absurd needs depends
  · rw [DependenciesFirst, List.pairwise_append]
    refine ⟨counting.first, List.pairwise_singleton _ _, ?_⟩
    intro earlier sorted later here depends
    rw [List.mem_singleton.mp here] at depends
    exact counting.waiting depends (List.mem_append_left _ sorted)
  · intro other sorted depends
    rcases List.mem_append.mp sorted with early | here
    · exact counting.loopless other early depends
    · rw [List.mem_singleton.mp here] at depends
      exact counting.waiting depends (List.mem_append_right _ List.mem_cons_self)

theorem Counting.within (counting : Counting items dependencies degrees queue ordered) :
    ordered.length + queue.length ≤ items.length := by
  rw [← List.length_append]
  apply List.Subperm.length_le
  apply List.subperm_of_subset counting.distinct
  intro other listed
  exact ((counting.ready other).mp listed).1

theorem Counting.run (mirrors : Mirrors items dependencies dependents) (rounds : Nat)
    (counting : Counting items dependencies degrees queue ordered)
    (enough : items.length ≤ ordered.length + rounds) :
    ∃ final, Counting items dependencies final []
      (sortQueue dependents rounds degrees queue ordered) := by
  induction rounds generalizing degrees queue ordered with
  | zero =>
    have within := counting.within
    have empty : queue = [] := List.length_eq_zero_iff.mp (by omega)
    rw [empty] at counting
    exact ⟨degrees, counting⟩
  | succ rounds ih =>
    cases queue with
    | nil => exact ⟨degrees, counting⟩
    | cons item rest =>
      apply ih (counting.step mirrors)
      rw [List.length_append, List.length_singleton]
      omega

/-- Every element depends on elements that are there, and on none in a cycle. -/
structure Sortable (items : List Item) (dependencies : Item → List Item) : Prop where
  closed : ∀ item ∈ items, ∀ other ∈ dependencies item, other ∈ items
  acyclic : Acyclic fun item other => item ∈ items ∧ other ∈ dependencies item

theorem Counting.all_sorted (counting : Counting items dependencies degrees [] ordered)
    (sortable : Sortable items dependencies) : ∀ item ∈ items, item ∈ ordered := by
  by_contra missing
  obtain ⟨item, listed, unsorted⟩ : ∃ item, item ∈ items ∧ item ∉ ordered := by
    simpa using missing
  obtain ⟨least, inside, independent⟩ := exists_independent sortable.acyclic
    (items.toFinset.filter fun item => item ∉ ordered)
    ⟨item, Finset.mem_filter.mpr ⟨List.mem_toFinset.mpr listed, unsorted⟩⟩
  obtain ⟨known, left⟩ := Finset.mem_filter.mp inside
  have member := List.mem_toFinset.mp known
  apply left
  have ready := (counting.ready least).mpr ⟨member, ?_⟩
  · simpa using ready
  · intro other depends
    by_contra later
    apply independent other ?_ ⟨member, depends⟩
    exact Finset.mem_filter.mpr
      ⟨List.mem_toFinset.mpr (sortable.closed least member other depends), later⟩

theorem index_lt_of_first {dependsOn : Item → Item → Prop} {order : List Item}
    (first : DependenciesFirst dependsOn order) {item other : Item} (listed : item ∈ order)
    (otherListed : other ∈ order) (different : item ≠ other) (depends : dependsOn item other) :
    order.idxOf other < order.idxOf item := by
  by_contra later
  have itemAt := List.idxOf_lt_length_of_mem listed
  have otherAt := List.idxOf_lt_length_of_mem otherListed
  rcases Nat.lt_or_eq_of_le (Nat.not_lt.mp later) with before | same
  · have apart := List.pairwise_iff_getElem.mp first _ _ itemAt otherAt before
    rw [List.getElem_idxOf, List.getElem_idxOf] at apart
    exact apart depends
  · exact different ((List.idxOf_inj listed).mp same)

theorem acyclic_of_first {dependsOn : Item → Item → Prop} {order : List Item}
    (first : DependenciesFirst dependsOn order)
    (closed : ∀ item other, dependsOn item other → item ∈ order ∧ other ∈ order)
    (loopless : ∀ item, ¬dependsOn item item) : Acyclic dependsOn := by
  apply acyclic_of_rank order.idxOf
  intro item other depends
  obtain ⟨listed, otherListed⟩ := closed item other depends
  apply index_lt_of_first first listed otherListed _ depends
  intro same
  rw [← same] at depends
  exact loopless item depends

/-- The sort takes every element exactly if they can all be sorted. -/
theorem Counting.sorted_iff (counting : Counting items dependencies degrees [] ordered) :
    (∀ item ∈ items, item ∈ ordered) ↔ Sortable items dependencies := by
  constructor
  · intro all
    have ready : ∀ item, item ∈ ordered → item ∈ items ∧
        ∀ other ∈ dependencies item, other ∈ ordered := by
      intro item listed
      exact (counting.ready item).mp (List.mem_append_left _ listed)
    constructor
    · intro item listed other depends
      exact (ready other ((ready item (all item listed)).2 other depends)).1
    · apply acyclic_of_first (counting.first.imp fun apart both => apart both.2)
      · intro item other depends
        have sorted := all item depends.1
        exact ⟨sorted, (ready item sorted).2 other depends.2⟩
      · intro item depends
        exact counting.loopless item (all item depends.1) depends.2
  · exact counting.all_sorted

/-! ## Levels -/

/-- All dependencies are among the elements completed. -/
def allIn (dependencies : Item → List Item) (completed : List Item) (item : Item) : Bool :=
  (dependencies item).all fun other => decide (other ∈ completed)

theorem all_in_iff (completed : List Item) (item : Item) :
    allIn dependencies completed item = true ↔ ∀ other ∈ dependencies item, other ∈ completed := by
  simp [allIn]

theorem Counting.take_level (mirrors : Mirrors items dependencies dependents)
    (front level : List Item) {back : List Item}
    (counting : Counting items dependencies degrees (front ++ back) ordered) :
    ∃ lowered fresh, takeLevel dependents front.length degrees (front ++ back) level =
        (lowered, back ++ fresh, level ++ front) ∧
      Counting items dependencies lowered (back ++ fresh) (ordered ++ front) := by
  induction front generalizing degrees back level ordered with
  | nil =>
    refine ⟨degrees, [], ?_, ?_⟩
    · rw [List.append_nil, List.append_nil]
      rfl
    · rw [List.append_nil, List.append_nil]
      exact counting
  | cons item rest ih =>
    rw [List.cons_append] at counting
    have step := counting.step mirrors
    have grown : ∃ fresh, ((dependents item).foldl relax (degrees, rest ++ back)).2 =
        rest ++ (back ++ fresh) := by
      have enough : ∀ other ∈ dependents item,
          ((dependents item).count other : Int) ≤ degrees other := by
        intro other member
        have listed := ((mirrors.mem_iff item other).mp member).1
        rw [mirrors.counted, if_pos listed, counting.degree other listed,
          count_unsorted counting.unsorted]
        omega
      obtain ⟨fresh, folded, _, _⟩ := relax_repeated (rest ++ back) enough
      exact ⟨fresh, by rw [folded, List.append_assoc]⟩
    obtain ⟨fresh, queued⟩ := grown
    rw [queued] at step
    obtain ⟨lowered, later, taken, sorted⟩ := ih (level ++ [item]) step
    refine ⟨lowered, fresh ++ later, ?_, ?_⟩
    · rw [List.cons_append, List.length_cons, takeLevel, queued, taken]
      simp only [List.append_assoc, List.cons_append, List.nil_append]
    · simpa only [List.append_assoc, List.cons_append, List.nil_append] using sorted

/-- The levels of elements that can be sorted are the layers of those whose dependencies
are completed. -/
theorem Counting.levels (mirrors : Mirrors items dependencies dependents)
    (sortable : Sortable items dependencies) (rounds : Nat)
    (counting : Counting items dependencies degrees queue ordered)
    (enough : items.length ≤ ordered.length + rounds) :
    Layering.Layered items.toFinset (allIn dependencies) ordered
      (levelQueue dependents rounds degrees queue) := by
  have finished : ∀ {degrees : Item → Int} {ordered : List Item},
      Counting items dependencies degrees [] ordered → ∀ item ∈ items.toFinset, item ∈ ordered := by
    intro degrees ordered counting item listed
    exact counting.all_sorted sortable item (List.mem_toFinset.mp listed)
  induction rounds generalizing degrees queue ordered with
  | zero =>
    have within := counting.within
    have empty : queue = [] := List.length_eq_zero_iff.mp (by omega)
    rw [empty] at counting
    exact .done ordered (finished counting)
  | succ rounds ih =>
    rw [levelQueue]
    cases queue with
    | nil => exact .done ordered (finished counting)
    | cons item rest =>
      have whole : item :: rest = (item :: rest) ++ [] := (List.append_nil _).symm
      rw [if_neg (by simp)]
      rw [whole] at counting
      obtain ⟨lowered, fresh, taken, sorted⟩ :=
        counting.take_level mirrors (item :: rest) []
      rw [← whole] at taken counting
      rw [taken]
      dsimp only
      have once := List.nodup_append.mp counting.distinct
      rw [List.nil_append] at sorted ⊢
      refine .layer ordered (item :: rest) _ (List.cons_ne_nil _ _) once.2.1 ?_ (ih sorted ?_)
      · intro other
        rw [all_in_iff, List.mem_toFinset]
        constructor
        · intro queued
          have ready := (counting.ready other).mp (List.mem_append_right _ queued)
          exact ⟨ready.1, fun early => once.2.2 other early other queued rfl, ready.2⟩
        · intro ready
          have listed := (counting.ready other).mpr ⟨ready.1, ready.2.2⟩
          exact (List.mem_append.mp listed).resolve_left ready.2.1
      · rw [List.length_append, List.length_cons]
        omega

end

end TopologicalSort

end AiEnterpriseOs.Library
