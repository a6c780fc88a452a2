import AiEnterpriseOs.Library.TopologicalSort
import Mathlib.Data.List.Flatten
import Mathlib.Data.List.Induction
import Mathlib.Data.List.Nodup

/-!
# Names on the levels of a walk

A walk from a name lists what the name needs before the name itself, each with
the depth at which it was met, as often as it is met. A search that enters every
name once keeps the first listings. They can be put on levels one after the
other as long as no level is missing.
-/

namespace AiEnterpriseOs.Library

namespace DepthLevels

/-- Every item stands as the condition on the items before it demands. -/
def Supported {Item : Type*} (holds : List Item → Item → Prop) (items : List Item) : Prop :=
  ∀ early item late, items = early ++ item :: late → holds early item

section Supported

variable {Item : Type*} {holds : List Item → Item → Prop}

theorem supported_nil : Supported holds [] := by
  intro early item late split
  cases early <;> cases split

theorem supported_concat_iff (items : List Item) (item : Item) :
    Supported holds (items ++ [item]) ↔ Supported holds items ∧ holds items item := by
  constructor
  · intro supported
    constructor
    · intro early other late split
      apply supported early other (late ++ [item])
      rw [split, List.append_assoc]
      rfl
    · exact supported items item [] rfl
  · intro both early other late split
    obtain ⟨supported, last⟩ := both
    rcases List.eq_nil_or_concat late with empty | ⟨front, final, concat⟩
    · rw [empty] at split
      obtain ⟨same, here⟩ := List.append_inj' split rfl
      rw [← same, ← List.singleton_inj.mp here]
      exact last
    · rw [concat, List.concat_eq_append, ← List.cons_append, ← List.append_assoc] at split
      obtain ⟨same, _⟩ := List.append_inj' split rfl
      exact supported early other front same

end Supported

variable {Name : Type*}

/-- Every level below the depth of a name is reached before it. -/
def Gradual (left : List (Name × Nat)) : Prop :=
  Supported (fun early item => ∀ level < item.2, ∃ other ∈ early, level ≤ other.2) left

/-- Every name comes after the names that it needs. -/
def Grounded (needs : Name → List Name) (names : List Name) : Prop :=
  Supported (fun early name => ∀ other ∈ needs name, other ∈ early) names

/-- A name goes to the end of its level; `none` where the level before it is missing. -/
def place (levels : List (List Name)) (item : Name × Nat) : Option (List (List Name)) :=
  let grown := if levels.length ≤ item.2 then levels ++ [[]] else levels
  if item.2 < grown.length then some (grown.modify item.2 fun level => level ++ [item.1])
  else none

def levelsOf (left : List (Name × Nat)) : Option (List (List Name)) := left.foldlM place []

section Levels

variable {left : List (Name × Nat)}

theorem modify_last (levels : List (List Name)) (change : List Name → List Name) :
    (levels ++ [[]]).modify levels.length change = levels ++ [change []] := by
  have inside : levels.length < (levels ++ [[]]).length := by
    rw [List.length_append, List.length_singleton]
    omega
  rw [List.modify_eq_take_cons_drop inside]
  simp

theorem place_fits {levels : List (List Name)} {item : Name × Nat} (fits : item.2 ≤ levels.length) :
    ∃ after, place levels item = some after ∧
      (∀ level, level < after.length ↔ level < levels.length ∨ level ≤ item.2) ∧
      (∀ level, after.getD level [] =
        levels.getD level [] ++ if item.2 = level then [item.1] else []) ∧
      after.flatten.Perm (levels.flatten ++ [item.1]) := by
  rcases Nat.lt_or_eq_of_le fits with less | full
  · refine ⟨levels.modify item.2 fun level => level ++ [item.1], ?_, ?_, ?_, ?_⟩
    · unfold place
      dsimp only
      rw [if_neg (Nat.not_le.mpr less), if_pos less]
    · intro level
      rw [List.length_modify]
      omega
    · intro level
      rw [List.getD_eq_getElem?_getD, List.getElem?_modify, List.getD_eq_getElem?_getD]
      by_cases here : item.2 = level
      · rw [if_pos here, ← here, List.getElem?_eq_getElem less]
        simp
      · rw [if_neg here, List.append_nil]
        cases levels[level]? <;> simp [here]
    · rw [List.modify_eq_take_cons_drop less]
      have whole : levels = levels.take item.2 ++ levels[item.2] :: levels.drop (item.2 + 1) := by
        rw [← List.drop_eq_getElem_cons less, List.take_append_drop]
      conv_rhs => rw [whole]
      rw [List.flatten_append, List.flatten_cons, List.flatten_append, List.flatten_cons,
        List.append_assoc, List.append_assoc, List.append_assoc]
      exact ((List.perm_append_comm.append_left _)).append_left _
  · refine ⟨levels ++ [[item.1]], ?_, ?_, ?_, ?_⟩
    · unfold place
      dsimp only
      rw [if_pos full.ge, if_pos, full, modify_last]
      · rfl
      · rw [List.length_append, List.length_singleton]
        omega
    · intro level
      rw [List.length_append, List.length_singleton]
      omega
    · intro level
      rw [List.getD_eq_getElem?_getD, List.getD_eq_getElem?_getD, full]
      rcases Nat.lt_trichotomy level levels.length with less | same | more
      · rw [List.getElem?_append_left less, if_neg less.ne', List.append_nil]
      · rw [same, if_pos rfl, List.getElem?_concat_length, List.getElem?_eq_none le_rfl]
        rfl
      · rw [if_neg more.ne, List.getElem?_eq_none more.le, List.getElem?_eq_none]
        · rfl
        · rw [List.length_append, List.length_singleton]
          omega
    · rw [List.flatten_append]
      simp

theorem place_missing {levels : List (List Name)} {item : Name × Nat}
    (missing : levels.length < item.2) : place levels item = none := by
  unfold place
  dsimp only
  rw [if_pos missing.le, if_neg]
  rw [List.length_append, List.length_singleton]
  omega

/-- What the levels hold of the names left. -/
structure Holds (left : List (Name × Nat)) (levels : List (List Name)) : Prop where
  length : ∀ level, level < levels.length ↔ ∃ item ∈ left, level ≤ item.2
  level : ∀ level, levels.getD level [] = (left.filter fun item => item.2 = level).map Prod.fst
  all : levels.flatten.Perm (left.map Prod.fst)

theorem levels_of_concat (left : List (Name × Nat)) (item : Name × Nat) :
    levelsOf (left ++ [item]) = (levelsOf left).bind fun levels => place levels item := by
  unfold levelsOf
  rw [List.foldlM_append]
  cases left.foldlM place [] with
  | none => rfl
  | some levels => simp

/-- The names can be put on levels exactly if their depths are gradual. -/
theorem levels_of_cases (left : List (Name × Nat)) :
    (Gradual left ∧ ∃ levels, levelsOf left = some levels ∧ Holds left levels) ∨
      (¬Gradual left ∧ levelsOf left = none) := by
  induction left using List.reverseRecOn with
  | nil => exact Or.inl ⟨supported_nil, [], rfl, by simp, by simp, List.Perm.refl _⟩
  | append_singleton left item ih =>
    rw [Gradual, supported_concat_iff, levels_of_concat]
    rcases ih with ⟨gradual, levels, found, holds⟩ | ⟨sudden, missing⟩
    · rw [found, Option.bind_some]
      have fits : item.2 ≤ levels.length ↔ ∀ level < item.2, ∃ other ∈ left, level ≤ other.2 := by
        simp only [← holds.length]
        constructor
        · exact fun below level less => less.trans_le below
        · intro forerun
          by_contra above
          exact absurd (forerun levels.length (Nat.not_le.mp above)) (Nat.lt_irrefl _)
      by_cases below : item.2 ≤ levels.length
      · obtain ⟨after, placed, length, level, all⟩ := place_fits below
        refine Or.inl ⟨⟨gradual, fits.mp below⟩, after, placed, ?_, ?_, ?_⟩
        · intro number
          rw [length, holds.length]
          simp only [List.mem_append, List.mem_singleton]
          constructor
          · rintro (⟨other, member, deep⟩ | here)
            · exact ⟨other, Or.inl member, deep⟩
            · exact ⟨item, Or.inr rfl, here⟩
          · rintro ⟨other, member | same, deep⟩
            · exact Or.inl ⟨other, member, deep⟩
            · rw [same] at deep
              exact Or.inr deep
        · intro number
          rw [level, holds.level, List.filter_append, List.map_append]
          by_cases here : item.2 = number <;> simp [here]
        · rw [List.map_append, List.map_singleton]
          exact all.trans (holds.all.append_right _)
      · refine Or.inr ⟨fun both => below (fits.mpr both.2), ?_⟩
        exact place_missing (Nat.not_le.mp below)
    · refine Or.inr ⟨fun both => sudden both.1, ?_⟩
      rw [missing]
      rfl

end Levels

section Kept

variable [DecidableEq Name] {needs : Name → List Name}

def keepFirst (kept : List (Name × Nat)) (item : Name × Nat) : List (Name × Nat) :=
  if item.1 ∈ kept.map Prod.fst then kept else kept ++ [item]

/-- The items that name something for the first time. -/
def firstListings (items : List (Name × Nat)) : List (Name × Nat) := items.foldl keepFirst []

theorem keep_first_known {kept : List (Name × Nat)} {item : Name × Nat}
    (known : item.1 ∈ kept.map Prod.fst) : keepFirst kept item = kept := if_pos known

theorem keep_first_fresh {kept : List (Name × Nat)} {item : Name × Nat}
    (fresh : item.1 ∉ kept.map Prod.fst) : keepFirst kept item = kept ++ [item] := if_neg fresh

theorem mem_kept_iff (items kept : List (Name × Nat)) (name : Name) :
    name ∈ (items.foldl keepFirst kept).map Prod.fst ↔
      name ∈ kept.map Prod.fst ∨ name ∈ items.map Prod.fst := by
  induction items generalizing kept with
  | nil => simp
  | cons item rest ih =>
    rw [List.foldl_cons, ih, List.map_cons, List.mem_cons, ← or_assoc]
    apply or_congr_left
    by_cases known : item.1 ∈ kept.map Prod.fst
    · rw [keep_first_known known]
      constructor
      · exact Or.inl
      · rintro (early | same)
        · exact early
        · rw [same]
          exact known
    · rw [keep_first_fresh known, List.map_append, List.mem_append, List.map_singleton,
        List.mem_singleton]

theorem keep_all_known {items kept : List (Name × Nat)}
    (known : ∀ name ∈ items.map Prod.fst, name ∈ kept.map Prod.fst) :
    items.foldl keepFirst kept = kept := by
  induction items with
  | nil => rfl
  | cons item rest ih =>
    rw [List.map_cons, List.forall_mem_cons] at known
    rw [List.foldl_cons, keep_first_known known.1]
    exact ih known.2

theorem kept_induct {items kept : List (Name × Nat)} {motive : List (Name × Nat) → Prop}
    (start : motive kept)
    (step : ∀ kept item, motive kept → item ∈ items → item.1 ∉ kept.map Prod.fst →
      motive (kept ++ [item])) : motive (items.foldl keepFirst kept) := by
  induction items generalizing kept with
  | nil => exact start
  | cons item rest ih =>
    rw [List.foldl_cons]
    apply ih
    · by_cases known : item.1 ∈ kept.map Prod.fst
      · rw [keep_first_known known]
        exact start
      · rw [keep_first_fresh known]
        exact step kept item start List.mem_cons_self known
    · exact fun kept other holds member => step kept other holds (List.mem_cons_of_mem _ member)

theorem kept_nodup {items kept : List (Name × Nat)} (distinct : (kept.map Prod.fst).Nodup) :
    ((items.foldl keepFirst kept).map Prod.fst).Nodup := by
  apply kept_induct (motive := fun kept => (kept.map Prod.fst).Nodup) distinct
  intro kept item once _ fresh
  rw [List.map_append, List.map_singleton]
  rw [← List.concat_eq_append]
  exact once.concat fresh

theorem levels_kept_none {items kept : List (Name × Nat)} (missing : levelsOf kept = none) :
    levelsOf (items.foldl keepFirst kept) = none := by
  apply kept_induct (motive := fun kept => levelsOf kept = none) missing
  intro kept item none _ _
  rw [levels_of_concat, none]
  rfl

theorem kept_grounded {items kept : List (Name × Nat)}
    (grounded : Grounded needs (kept.map Prod.fst))
    (listed : Grounded needs (items.map Prod.fst)) :
    Grounded needs ((items.foldl keepFirst kept).map Prod.fst) := by
  induction items using List.reverseRecOn with
  | nil => exact grounded
  | append_singleton items item ih =>
    rw [List.map_append, List.map_singleton, Grounded, supported_concat_iff] at listed
    rw [List.foldl_append, List.foldl_cons, List.foldl_nil]
    by_cases known : item.1 ∈ (items.foldl keepFirst kept).map Prod.fst
    · rw [keep_first_known known]
      exact ih listed.1
    · rw [keep_first_fresh known, List.map_append, List.map_singleton, Grounded,
        supported_concat_iff]
      refine ⟨ih listed.1, ?_⟩
      intro other depends
      exact (mem_kept_iff items kept other).mpr (Or.inr (listed.2 other depends))

end Kept

/-! ## Walks -/

/-- What is needed comes before the name, each with the depth at which it is met. -/
def walk (needs : Name → List Name) : Nat → Nat → Name → List (Name × Nat)
  | 0, _, _ => []
  | rounds + 1, depth, name =>
    (needs name).flatMap (walk needs rounds (depth + 1)) ++ [(name, depth)]

section Walk

variable {needs : Name → List Name} {rank : Name → Nat}

theorem grounded_append {first second : List Name} (early : Grounded needs first)
    (late : Grounded needs second) : Grounded needs (first ++ second) := by
  induction second using List.reverseRecOn with
  | nil =>
    rw [List.append_nil]
    exact early
  | append_singleton second name ih =>
    rw [Grounded, supported_concat_iff] at late
    rw [← List.append_assoc, Grounded, supported_concat_iff]
    exact ⟨ih late.1, fun other depends => List.mem_append_right _ (late.2 other depends)⟩

theorem grounded_flat {Item : Type*} {part : Item → List Name} (items : List Item)
    (each : ∀ item ∈ items, Grounded needs (part item)) :
    Grounded needs (items.flatMap part) := by
  induction items with
  | nil => exact supported_nil
  | cons item rest ih =>
    rw [List.forall_mem_cons] at each
    exact grounded_append each.1 (ih each.2)

theorem grounded_closed {names : List Name} (grounded : Grounded needs names) {name : Name}
    (listed : name ∈ names) : ∀ other ∈ needs name, other ∈ names := by
  intro other depends
  obtain ⟨early, late, split⟩ := List.append_of_mem listed
  rw [split]
  exact List.mem_append_left _ (grounded early name late split other depends)

theorem mem_walk_self {rounds : Nat} (depth : Nat) {name : Name} (enough : 0 < rounds) :
    name ∈ (walk needs rounds depth name).map Prod.fst := by
  cases rounds with
  | zero => omega
  | succ rounds => simp [walk]

/-- What a walk meets is not ranked above the name it starts from. -/
theorem walk_ranked (lowers : ∀ name, ∀ other ∈ needs name, rank other < rank name)
    (rounds depth : Nat) (name other : Name)
    (met : other ∈ (walk needs rounds depth name).map Prod.fst) : rank other ≤ rank name := by
  induction rounds generalizing depth name with
  | zero => cases met
  | succ rounds ih =>
    rw [walk, List.map_append, List.mem_append, List.map_flatMap, List.mem_flatMap] at met
    rcases met with ⟨inner, depends, below⟩ | here
    · exact (ih (depth + 1) inner below).trans (lowers name inner depends).le
    · rw [List.mem_singleton.mp here]

theorem walk_grounded (lowers : ∀ name, ∀ other ∈ needs name, rank other < rank name)
    (rounds depth : Nat) (name : Name) (enough : rank name < rounds) :
    Grounded needs ((walk needs rounds depth name).map Prod.fst) := by
  induction rounds generalizing depth name with
  | zero => omega
  | succ rounds ih =>
    rw [walk, List.map_append, List.map_singleton, List.map_flatMap, Grounded, supported_concat_iff]
    constructor
    · apply grounded_flat
      intro other depends
      exact ih (depth + 1) other (by have lower := lowers name other depends; omega)
    · intro other depends
      have lower := lowers name other depends
      exact List.mem_flatMap.mpr ⟨other, depends, mem_walk_self (depth + 1) (by omega)⟩

/-- A walk does not leave what is closed under need. -/
theorem walk_inside {inside : Name → Prop}
    (closed : ∀ name, inside name → ∀ other ∈ needs name, inside other)
    (rounds depth : Nat) {name other : Name} (start : inside name)
    (met : other ∈ (walk needs rounds depth name).map Prod.fst) : inside other := by
  induction rounds generalizing depth name with
  | zero => cases met
  | succ rounds ih =>
    rw [walk, List.map_append, List.mem_append, List.map_flatMap, List.mem_flatMap] at met
    rcases met with ⟨inner, depends, below⟩ | here
    · exact ih (depth + 1) (closed name start inner depends) below
    · rw [List.mem_singleton.mp here]
      exact start

/-! ## The deepest level first -/

theorem grounded_first {names : List Name} (grounded : Grounded needs names)
    (distinct : names.Nodup) :
    TopologicalSort.DependenciesFirst (fun name other => other ∈ needs name) names := by
  induction names using List.reverseRecOn with
  | nil => exact List.Pairwise.nil
  | append_singleton names name ih =>
    obtain ⟨once, _, apart⟩ := List.nodup_append.mp distinct
    have before := ((supported_concat_iff names name).mp grounded).1
    apply List.pairwise_append.mpr
    refine ⟨ih before once, List.pairwise_singleton _ _, ?_⟩
    intro earlier listed later here depends
    exact apart later (grounded_closed before listed later depends) later here rfl

/-- Level by level, the deepest first, names follow what they need exactly if nothing
needed was met at a smaller depth. -/
theorem deepest_first_iff {left : List (Name × Nat)} {levels : List (List Name)}
    (holds : Holds left levels) (grounded : Grounded needs (left.map Prod.fst))
    (distinct : (left.map Prod.fst).Nodup) :
    TopologicalSort.DependenciesFirst (fun name other => other ∈ needs name)
        levels.reverse.flatten ↔
      ∀ item ∈ left, ∀ other ∈ left, other.1 ∈ needs item.1 → item.2 ≤ other.2 := by
  have level : ∀ number (inside : number < levels.length),
      levels[number] = (left.filter fun item => item.2 = number).map Prod.fst := by
    intro number inside
    rw [← holds.level, List.getD_eq_getElem?_getD, List.getElem?_eq_getElem inside,
      Option.getD_some]
  rw [TopologicalSort.DependenciesFirst, List.pairwise_flatten, List.pairwise_reverse,
    List.pairwise_iff_getElem]
  constructor
  · intro both item listed other met depends
    by_contra above
    have deep := (holds.length item.2).mpr ⟨item, listed, le_rfl⟩
    have shallow := (holds.length other.2).mpr ⟨other, met, le_rfl⟩
    have apart := both.2 other.2 item.2 shallow deep (Nat.not_le.mp above)
    rw [level item.2 deep, level other.2 shallow] at apart
    apply apart item.1 _ other.1 _ depends
    · exact List.mem_map_of_mem (List.mem_filter.mpr ⟨listed, by simp⟩)
    · exact List.mem_map_of_mem (List.mem_filter.mpr ⟨met, by simp⟩)
  · intro ordered
    constructor
    · intro names listed
      obtain ⟨number, inside, here⟩ := List.getElem_of_mem (List.mem_reverse.mp listed)
      rw [← here, level number inside]
      exact (grounded_first grounded distinct).sublist (List.filter_sublist.map _)
    · intro low high lowInside highInside less name named other met depends
      rw [level high highInside, List.mem_map] at named
      rw [level low lowInside, List.mem_map] at met
      obtain ⟨item, listed, same⟩ := named
      obtain ⟨needed, found, equal⟩ := met
      obtain ⟨itemListed, itemDepth⟩ := List.mem_filter.mp listed
      obtain ⟨neededListed, neededDepth⟩ := List.mem_filter.mp found
      have deeper := ordered item itemListed needed neededListed (by
        rw [same, equal]
        exact depends)
      rw [of_decide_eq_true itemDepth, of_decide_eq_true neededDepth] at deeper
      omega

end Walk

end DepthLevels

end AiEnterpriseOs.Library
