import Mathlib.Algebra.BigOperators.Group.List.Basic
import Mathlib.Algebra.Ring.Int.Defs
import Mathlib.Data.List.Basic

/-!
# Folds that may fail

A fold whose step fails on some items, whatever has been accumulated before
them, succeeds exactly on the lists without such items, and is a plain fold
there.
-/

namespace AiEnterpriseOs.Library

section

variable {Item State : Type*} {step : State → Item → Option State}
  {next : State → Item → State} {accepted : Item → Prop}

/-- On the accumulated states that matter, the step is the plain step on
accepted items and fails on the others. -/
structure FailsOnlyOn (step : State → Item → Option State) (next : State → Item → State)
    (accepted : Item → Prop) (sound : State → Prop) : Prop where
  accepts : ∀ state item, sound state → accepted item → step state item = some (next state item)
  refuses : ∀ state item, sound state → ¬accepted item → step state item = none
  keeps : ∀ state item, sound state → accepted item → sound (next state item)

namespace FailsOnlyOn

variable {sound : State → Prop} (fold : FailsOnlyOn step next accepted sound)
include fold

theorem eq_foldl {items : List Item} {start : State} (initial : sound start)
    (all : ∀ item ∈ items, accepted item) :
    items.foldlM step start = some (items.foldl next start) := by
  induction items generalizing start with
  | nil => rfl
  | cons item rest ih =>
    have head : accepted item := all item List.mem_cons_self
    rw [List.foldlM_cons, fold.accepts start item initial head]
    exact ih (fold.keeps start item initial head)
      fun other member => all other (List.mem_cons_of_mem _ member)

theorem foldl_sound {items : List Item} {start : State} (initial : sound start)
    (all : ∀ item ∈ items, accepted item) : sound (items.foldl next start) := by
  induction items generalizing start with
  | nil => exact initial
  | cons item rest ih =>
    exact ih (fold.keeps start item initial (all item List.mem_cons_self))
      fun other member => all other (List.mem_cons_of_mem _ member)

theorem eq_none {items : List Item} {start : State} (initial : sound start)
    (some_refused : ¬∀ item ∈ items, accepted item) :
    items.foldlM step start = none := by
  induction items generalizing start with
  | nil => exact absurd (List.forall_mem_nil _) some_refused
  | cons item rest ih =>
    rw [List.foldlM_cons]
    by_cases head : accepted item
    · rw [fold.accepts start item initial head]
      apply ih (fold.keeps start item initial head)
      intro all
      exact some_refused (List.forall_mem_cons.mpr ⟨head, all⟩)
    · rw [fold.refuses start item initial head]
      rfl

theorem is_some_iff {items : List Item} {start : State} (initial : sound start) :
    (items.foldlM step start).isSome = true ↔ ∀ item ∈ items, accepted item := by
  by_cases all : ∀ item ∈ items, accepted item
  · rw [fold.eq_foldl initial all]
    exact iff_of_true rfl all
  · rw [fold.eq_none initial all]
    exact iff_of_false Bool.false_ne_true all

end FailsOnlyOn

theorem FailsOnlyOn.of_is_some
    (defined : ∀ state item, (step state item).isSome = true ↔ accepted item) :
    FailsOnlyOn step (fun state item => (step state item).getD state) accepted fun _ => True where
  accepts state item _ fits := by
    obtain ⟨after, stepped⟩ := Option.isSome_iff_exists.mp ((defined state item).mpr fits)
    rw [stepped, Option.getD_some]
  refuses state item _ refused :=
    Option.not_isSome_iff_eq_none.mp fun found => refused ((defined state item).mp found)
  keeps _ _ _ _ := trivial

theorem foldlM_sum (measure : State → Int) (amount : Item → Int)
    (adds : ∀ state item after, step state item = some after →
      measure after = measure state + amount item)
    {items : List Item} {start final : State} (found : items.foldlM step start = some final) :
    measure final = measure start + (items.map amount).sum := by
  induction items generalizing start with
  | nil =>
    rw [← Option.some.inj found]
    simp
  | cons item rest ih =>
    rw [List.foldlM_cons] at found
    obtain ⟨after, stepped, later⟩ := Option.bind_eq_some_iff.mp found
    rw [ih later, adds start item after stepped, List.map_cons, List.sum_cons]
    omega

theorem foldlM_keeps (holds : State → Prop) {items : List Item}
    (each : ∀ before after, ∀ item ∈ items, holds before → step before item = some after →
      holds after)
    {start final : State} (initial : holds start) (found : items.foldlM step start = some final) :
    holds final := by
  induction items generalizing start with
  | nil =>
    rw [← Option.some.inj found]
    exact initial
  | cons item rest ih =>
    rw [List.foldlM_cons] at found
    obtain ⟨after, stepped, later⟩ := Option.bind_eq_some_iff.mp found
    apply ih _ (each start after item List.mem_cons_self initial stepped) later
    intro before after other member
    exact each before after other (List.mem_cons_of_mem _ member)

theorem foldlM_marks (marks : State → Item → Prop)
    (fresh : ∀ before after item, step before item = some after → marks after item)
    (kept : ∀ before after item other, step before item = some after → marks before other →
      marks after other)
    {items : List Item} {start final : State} (found : items.foldlM step start = some final) :
    ∀ item ∈ items, marks final item := by
  induction items generalizing start with
  | nil => simp
  | cons item rest ih =>
    rw [List.foldlM_cons] at found
    obtain ⟨after, stepped, later⟩ := Option.bind_eq_some_iff.mp found
    have first : marks final item := foldlM_keeps (fun state => marks state item)
      (fun before after other _ marked here => kept before after other item here marked)
      (fresh start after item stepped) later
    exact List.forall_mem_cons.mpr ⟨first, ih later⟩

theorem bind_is_some_iff {First Last : Type*} {value : Option First}
    {next : First → Option Last} {rest : Prop}
    (later : ∀ found, value = some found → ((next found).isSome = true ↔ rest)) :
    (value.bind next).isSome = true ↔ value.isSome = true ∧ rest := by
  cases read : value with
  | none => simp
  | some found => simpa using later found read

theorem bind_some_is_some_iff {First Last : Type*} (value : Option First) (make : First → Last) :
    (value.bind fun found => some (make found)).isSome = true ↔ value.isSome = true := by
  cases value <;> simp

theorem mapM_is_some_iff {Result : Type*} {read : Item → Option Result} {items : List Item} :
    (items.mapM read).isSome = true ↔ ∀ item ∈ items, (read item).isSome = true := by
  induction items with
  | nil => simp
  | cons item rest ih =>
    rw [List.mapM_cons, List.forall_mem_cons, ← ih]
    cases read item with
    | none => simp
    | some result => cases rest.mapM read <;> simp

theorem map_of_mapM {Result : Type*} {read : Item → Option Result} {part : Result → Item}
    (back : ∀ item result, read item = some result → part result = item)
    {items : List Item} {results : List Result} (found : items.mapM read = some results) :
    results.map part = items := by
  induction items generalizing results with
  | nil =>
    cases found
    rfl
  | cons item rest ih =>
    rw [List.mapM_cons] at found
    obtain ⟨result, here, later⟩ := Option.bind_eq_some_iff.mp found
    obtain ⟨others, remaining, same⟩ := Option.bind_eq_some_iff.mp later
    cases same
    rw [List.map_cons, back item result here, ih remaining]

theorem mem_of_mapM {Result : Type*} {read : Item → Option Result} {items : List Item}
    {results : List Result} (found : items.mapM read = some results) {result : Result}
    (member : result ∈ results) : ∃ item ∈ items, read item = some result := by
  induction items generalizing results with
  | nil =>
    cases found
    cases member
  | cons item rest ih =>
    rw [List.mapM_cons] at found
    obtain ⟨head, headFound, found⟩ := Option.bind_eq_some_iff.mp found
    obtain ⟨tail, tailFound, found⟩ := Option.bind_eq_some_iff.mp found
    cases found
    rcases List.mem_cons.mp member with rfl | later
    · exact ⟨item, List.mem_cons_self, headFound⟩
    · obtain ⟨other, listed, same⟩ := ih tailFound later
      exact ⟨other, List.mem_cons_of_mem _ listed, same⟩

theorem mapM_eq_map {Result : Type*} {read : Item → Option Result} {value : Item → Result}
    {items : List Item} (all : ∀ item ∈ items, read item = some (value item)) :
    items.mapM read = some (items.map value) := by
  induction items with
  | nil => rfl
  | cons item rest ih =>
    have others := ih fun other member => all other (List.mem_cons_of_mem _ member)
    rw [List.mapM_cons, all item List.mem_cons_self, others]
    rfl

theorem filterMap_of_mapM {Result : Type*} {read : Item → Option Result} {items : List Item}
    {results : List Result} (found : items.mapM read = some results) :
    items.filterMap read = results := by
  induction items generalizing results with
  | nil =>
    cases found
    rfl
  | cons item rest ih =>
    rw [List.mapM_cons] at found
    obtain ⟨result, here, later⟩ := Option.bind_eq_some_iff.mp found
    obtain ⟨others, remaining, same⟩ := Option.bind_eq_some_iff.mp later
    cases same
    rw [List.filterMap_cons_some here, ih remaining]

theorem mapM_agree_iff {Result : Type*} {left right : Item → Option Result} {items : List Item} :
    (∃ results, items.mapM left = some results ∧ items.mapM right = some results) ↔
      ∀ item ∈ items, ∃ result, left item = some result ∧ right item = some result := by
  induction items with
  | nil => simp
  | cons item rest ih =>
    rw [List.forall_mem_cons, ← ih, List.mapM_cons, List.mapM_cons]
    constructor
    · rintro ⟨results, leftFound, rightFound⟩
      obtain ⟨first, leftRead, leftRest⟩ := Option.bind_eq_some_iff.mp leftFound
      obtain ⟨others, leftOthers, same⟩ := Option.bind_eq_some_iff.mp leftRest
      obtain ⟨second, rightRead, rightRest⟩ := Option.bind_eq_some_iff.mp rightFound
      obtain ⟨remaining, rightOthers, equal⟩ := Option.bind_eq_some_iff.mp rightRest
      cases (Option.some.inj same).trans (Option.some.inj equal).symm
      exact ⟨⟨first, leftRead, rightRead⟩, others, leftOthers, rightOthers⟩
    · rintro ⟨⟨first, leftRead, rightRead⟩, others, leftOthers, rightOthers⟩
      exact ⟨first :: others, by simp [leftRead, leftOthers], by simp [rightRead, rightOthers]⟩

end

end AiEnterpriseOs.Library
