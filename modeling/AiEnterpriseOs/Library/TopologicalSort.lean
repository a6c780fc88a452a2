import Mathlib.Data.Fintype.EquivFin
import Mathlib.Data.Finset.Card
import Mathlib.Data.List.Perm.Subperm
import Mathlib.Logic.Relation
import Mathlib.Order.WellFounded

/-!
# Topological sorting by in-degrees

A queue holds the elements whose dependencies are all sorted. Taking one from
the queue lowers the degrees of the elements that depend on it. On a finite
acyclic relation every element is taken, and after those it depends on.
-/

namespace AiEnterpriseOs.Library

namespace TopologicalSort

variable {Item : Type*}

def Acyclic (dependsOn : Item → Item → Prop) : Prop :=
  ∀ item, ¬Relation.TransGen dependsOn item item

/-- No element depends on a later one. -/
def DependenciesFirst (dependsOn : Item → Item → Prop) (order : List Item) : Prop :=
  order.Pairwise fun earlier later => ¬dependsOn earlier later

theorem acyclic_of_rank {dependsOn : Item → Item → Prop} (rank : Item → Nat)
    (lowers : ∀ item dependency, dependsOn item dependency → rank dependency < rank item) :
    Acyclic dependsOn := by
  have below : ∀ item dependency, Relation.TransGen dependsOn item dependency →
      rank dependency < rank item := by
    intro item dependency path
    induction path with
    | single depends => exact lowers _ _ depends
    | tail _ depends ih => exact (lowers _ _ depends).trans ih
  intro item cyclic
  exact (below item item cyclic).false

theorem exists_independent {dependsOn : Item → Item → Prop} (acyclic : Acyclic dependsOn)
    (items : Finset Item) (nonempty : items.Nonempty) :
    ∃ item ∈ items, ∀ other ∈ items, ¬dependsOn item other := by
  let below : items → items → Prop :=
    fun first second => Relation.TransGen dependsOn second.1 first.1
  have transitive : IsTrans items below := ⟨fun _ _ _ left right => right.trans left⟩
  have irreflexive : Std.Irrefl below := ⟨fun item => acyclic item.1⟩
  have founded : WellFounded below := Finite.wellFounded_of_trans_of_irrefl below
  obtain ⟨start, member⟩ := nonempty
  obtain ⟨least, _, minimal⟩ := founded.has_min Set.univ ⟨⟨start, member⟩, trivial⟩
  refine ⟨least.1, least.2, ?_⟩
  intro other listed depends
  exact minimal ⟨other, listed⟩ trivial (Relation.TransGen.single depends)

variable [DecidableEq Item]

/-- One dependency of the element is sorted. -/
def relax (state : (Item → Int) × List Item) (dependent : Item) : (Item → Int) × List Item :=
  let degree := state.1 dependent - 1
  (Function.update state.1 dependent degree,
    if degree = 0 then state.2 ++ [dependent] else state.2)

/-- The loop over the queue; each round sorts one element. -/
def sortQueue (dependents : Item → List Item) :
    Nat → (Item → Int) → List Item → List Item → List Item
  | 0, _, _, ordered => ordered
  | _ + 1, _, [], ordered => ordered
  | rounds + 1, degrees, item :: queue, ordered =>
    let state := (dependents item).foldl relax (degrees, queue)
    sortQueue dependents rounds state.1 state.2 (ordered ++ [item])

theorem relax_all {dependents : List Item} (distinct : dependents.Nodup)
    (degrees : Item → Int) (queue : List Item) :
    dependents.foldl relax (degrees, queue) =
      (fun item => if item ∈ dependents then degrees item - 1 else degrees item,
        queue ++ dependents.filter fun item => degrees item = 1) := by
  induction dependents generalizing degrees queue with
  | nil => simp
  | cons item rest ih =>
    obtain ⟨fresh, restDistinct⟩ := List.nodup_cons.mp distinct
    have unchanged : ∀ other ∈ rest,
        Function.update degrees item (degrees item - 1) other = degrees other := by
      intro other member
      apply Function.update_of_ne
      intro same
      rw [same] at member
      exact fresh member
    have laterReady : (rest.filter fun other =>
        decide (Function.update degrees item (degrees item - 1) other = 1)) =
        rest.filter fun other => decide (degrees other = 1) := by
      apply List.filter_congr
      intro other member
      rw [unchanged other member]
    rw [List.foldl_cons, relax, ih restDistinct, laterReady]
    apply Prod.ext
    · funext other
      dsimp only
      by_cases same : other = item
      · rw [same, if_neg fresh, if_pos List.mem_cons_self, Function.update_self]
      · simp only [List.mem_cons, same, false_or, Function.update_of_ne same]
    · dsimp only
      by_cases ready : degrees item = 1
      · rw [if_pos (by omega), List.filter_cons_of_pos (by simpa using ready), List.append_assoc]
        rfl
      · rw [if_neg (by omega), List.filter_cons_of_neg (by simpa using ready)]

section Sorting

variable (dependencies : Item → Finset Item) (items : List Item)

/-- The state of the sort: degrees count the dependencies not yet sorted, and
the elements without such a dependency are sorted or in the queue. -/
structure Sorting (degrees : Item → Int) (queue ordered : List Item) : Prop where
  distinct : (ordered ++ queue).Nodup
  degree : ∀ item ∈ items,
    degrees item = (((dependencies item).filter fun other => other ∉ ordered).card : Int)
  ready : ∀ item, item ∈ ordered ++ queue ↔
    item ∈ items ∧ ∀ other ∈ dependencies item, other ∈ ordered
  first : DependenciesFirst (fun item other => other ∈ dependencies item) ordered

def dependentsOf (item : Item) : List Item :=
  items.filter fun other => item ∈ dependencies other

variable {dependencies items}

theorem sorting_start (distinct : items.Nodup) :
    Sorting dependencies items (fun item => ((dependencies item).card : Int))
      (items.filter fun item => ((dependencies item).card : Int) = 0) [] where
  distinct := distinct.filter _
  degree item _ := by simp
  ready item := by
    simp only [List.nil_append, List.mem_filter, decide_eq_true_eq, Int.natCast_eq_zero,
      Finset.card_eq_zero]
    apply and_congr_right
    intro _
    rw [Finset.eq_empty_iff_forall_notMem]
    simp
  first := List.Pairwise.nil

theorem remaining_append (item : Item) (ordered : List Item) (wanted : Finset Item) :
    (wanted.filter fun other => other ∉ ordered ++ [item]) =
      (wanted.filter fun other => other ∉ ordered).erase item := by
  ext other
  simp only [Finset.mem_filter, Finset.mem_erase, List.mem_append, List.mem_singleton, not_or]
  tauto

theorem Sorting.unsorted {degrees : Item → Int} {item : Item} {queue ordered : List Item}
    (sorting : Sorting dependencies items degrees (item :: queue) ordered) : item ∉ ordered := by
  intro sorted
  exact (List.nodup_append.mp sorting.distinct).2.2 item sorted item List.mem_cons_self rfl

/-- An element that depends on the one to be sorted is not yet in the queue. -/
theorem Sorting.waiting {degrees : Item → Int} {item : Item} {queue ordered : List Item}
    (sorting : Sorting dependencies items degrees (item :: queue) ordered) {other : Item}
    (depends : item ∈ dependencies other) : other ∉ ordered ++ item :: queue := by
  intro listed
  exact sorting.unsorted (((sorting.ready other).mp listed).2 item depends)

theorem Sorting.missing {degrees : Item → Int} {item : Item} {queue ordered : List Item}
    (sorting : Sorting dependencies items degrees (item :: queue) ordered) {other : Item}
    (depends : item ∈ dependencies other) :
    item ∈ (dependencies other).filter fun known => known ∉ ordered :=
  Finset.mem_filter.mpr ⟨depends, sorting.unsorted⟩

theorem Sorting.last_dependency {degrees : Item → Int} {item : Item} {queue ordered : List Item}
    (sorting : Sorting dependencies items degrees (item :: queue) ordered) {other : Item}
    (listed : other ∈ items) (depends : item ∈ dependencies other) :
    degrees other = 1 ↔ ∀ known ∈ dependencies other, known ∈ ordered ++ [item] := by
  have card := Finset.card_erase_of_mem (sorting.missing depends)
  have some := Finset.card_pos.mpr ⟨item, sorting.missing depends⟩
  rw [sorting.degree other listed]
  rw [← remaining_append] at card
  have gone : (∀ known ∈ dependencies other, known ∈ ordered ++ [item]) ↔
      ((dependencies other).filter fun known => known ∉ ordered ++ [item]).card = 0 := by
    rw [Finset.card_eq_zero, Finset.filter_eq_empty_iff]
    simp only [not_not]
  rw [gone]
  omega

theorem sorting_step (distinct : items.Nodup) {degrees : Item → Int} {item : Item}
    {queue ordered : List Item}
    (sorting : Sorting dependencies items degrees (item :: queue) ordered) :
    let state := (dependentsOf dependencies items item).foldl relax (degrees, queue)
    Sorting dependencies items state.1 state.2 (ordered ++ [item]) := by
  intro state
  have stateEq : state = _ :=
    relax_all (distinct.filter fun other => decide (item ∈ dependencies other)) degrees queue
  rw [stateEq]
  constructor
  · have parts : ∀ fresh, ordered ++ [item] ++ (queue ++ fresh) =
        (ordered ++ item :: queue) ++ fresh := by
      intro fresh
      simp only [List.append_assoc, List.cons_append, List.nil_append]
    rw [parts]
    refine List.Nodup.append sorting.distinct ((distinct.filter _).filter _) ?_
    intro other listed fresh
    have depends := (List.mem_filter.mp (List.mem_filter.mp fresh).1).2
    exact sorting.waiting (by simpa using depends) listed
  · intro other listed
    dsimp only
    rw [remaining_append]
    by_cases depends : item ∈ dependencies other
    · have hit : other ∈ items.filter fun known => decide (item ∈ dependencies known) :=
        List.mem_filter.mpr ⟨listed, by simpa using depends⟩
      have some := Finset.card_pos.mpr ⟨item, sorting.missing depends⟩
      rw [if_pos hit, sorting.degree other listed,
        Finset.card_erase_of_mem (sorting.missing depends)]
      omega
    · have miss : other ∉ items.filter fun known => decide (item ∈ dependencies known) := by
        intro hit
        exact depends (by simpa using (List.mem_filter.mp hit).2)
      have absent : item ∉ (dependencies other).filter fun known => known ∉ ordered := by
        intro hit
        exact depends (Finset.mem_filter.mp hit).1
      rw [if_neg miss, sorting.degree other listed, Finset.erase_eq_of_notMem absent]
  · intro other
    constructor
    · intro listed
      have cases : other ∈ ordered ++ item :: queue ∨
          other ∈ (items.filter fun known => decide (item ∈ dependencies known)).filter
            fun known => decide (degrees known = 1) := by
        simp only [List.mem_append, List.mem_cons] at listed ⊢
        tauto
      rcases cases with old | fresh
      · obtain ⟨known, sorted⟩ := (sorting.ready other).mp old
        exact ⟨known, fun wanted depends => List.mem_append_left _ (sorted wanted depends)⟩
      · obtain ⟨inner, one⟩ := List.mem_filter.mp fresh
        obtain ⟨known, depends⟩ := List.mem_filter.mp inner
        have last := sorting.last_dependency known (by simpa using depends)
        exact ⟨known, last.mp (by simpa using one)⟩
    · rintro ⟨known, sorted⟩
      by_cases depends : item ∈ dependencies other
      · have one := (sorting.last_dependency known depends).mpr sorted
        have fresh : other ∈ (items.filter fun known => decide (item ∈ dependencies known)).filter
            fun known => decide (degrees known = 1) :=
          List.mem_filter.mpr ⟨List.mem_filter.mpr ⟨known, by simpa using depends⟩,
            by simpa using one⟩
        exact List.mem_append_right _ (List.mem_append_right _ fresh)
      · have old : other ∈ ordered ++ item :: queue := by
          apply (sorting.ready other).mpr ⟨known, ?_⟩
          intro wanted needs
          rcases List.mem_append.mp (sorted wanted needs) with early | here
          · exact early
          · rw [List.mem_singleton.mp here] at needs
            exact absurd needs depends
        simp only [List.mem_append, List.mem_cons] at old ⊢
        tauto
  · rw [DependenciesFirst, List.pairwise_append]
    refine ⟨sorting.first, List.pairwise_singleton _ _, ?_⟩
    intro earlier sorted later here depends
    rw [List.mem_singleton.mp here] at depends
    exact sorting.waiting depends (List.mem_append_left _ sorted)

theorem sort_queue_sorting (distinct : items.Nodup) (rounds : Nat) {degrees : Item → Int}
    {queue ordered : List Item} (sorting : Sorting dependencies items degrees queue ordered)
    (enough : items.length ≤ ordered.length + rounds) :
    ∃ final, Sorting dependencies items final []
      (sortQueue (dependentsOf dependencies items) rounds degrees queue ordered) := by
  induction rounds generalizing degrees queue ordered with
  | zero =>
    have within : (ordered ++ queue).length ≤ items.length := by
      apply List.Subperm.length_le
      apply List.subperm_of_subset sorting.distinct
      intro item listed
      exact ((sorting.ready item).mp listed).1
    rw [List.length_append] at within
    have empty : queue = [] := List.length_eq_zero_iff.mp (by omega)
    rw [empty] at sorting
    exact ⟨degrees, sorting⟩
  | succ rounds ih =>
    cases queue with
    | nil => exact ⟨degrees, sorting⟩
    | cons item rest =>
      apply ih (sorting_step distinct sorting)
      rw [List.length_append, List.length_singleton]
      omega

/-- The sort of finitely many elements whose dependencies are among them and
acyclic. -/
theorem sort_queue_complete (distinct : items.Nodup)
    (closed : ∀ item ∈ items, ∀ other ∈ dependencies item, other ∈ items)
    (acyclic : Acyclic fun item other => item ∈ items ∧ other ∈ dependencies item) :
    let ordered := sortQueue (dependentsOf dependencies items) items.length
      (fun item => ((dependencies item).card : Int))
      (items.filter fun item => ((dependencies item).card : Int) = 0) []
    ordered.Perm items ∧
      DependenciesFirst (fun item other => other ∈ dependencies item) ordered := by
  intro ordered
  obtain ⟨degrees, sorting⟩ : ∃ degrees, Sorting dependencies items degrees [] ordered :=
    sort_queue_sorting distinct items.length (sorting_start distinct) (by simp)
  have sorted : ∀ item ∈ items, item ∈ ordered := by
    by_contra missing
    obtain ⟨item, listed, unsorted⟩ : ∃ item, item ∈ items ∧ item ∉ ordered := by
      simpa using missing
    obtain ⟨least, inside, independent⟩ := exists_independent acyclic
      (items.toFinset.filter fun item => item ∉ ordered)
      ⟨item, Finset.mem_filter.mpr ⟨List.mem_toFinset.mpr listed, unsorted⟩⟩
    obtain ⟨known, left⟩ := Finset.mem_filter.mp inside
    have member := List.mem_toFinset.mp known
    apply left
    have ready := (sorting.ready least).mpr ⟨member, ?_⟩
    · simpa using ready
    · intro other depends
      by_contra later
      apply independent other ?_ ⟨member, depends⟩
      exact Finset.mem_filter.mpr ⟨List.mem_toFinset.mpr (closed least member other depends), later⟩
  have once : ordered.Nodup := by simpa using sorting.distinct
  refine ⟨(List.perm_ext_iff_of_nodup once distinct).mpr ?_, sorting.first⟩
  intro item
  constructor
  · intro listed
    exact ((sorting.ready item).mp (by simpa using listed)).1
  · exact sorted item

end Sorting

end TopologicalSort

end AiEnterpriseOs.Library
