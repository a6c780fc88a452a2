import Mathlib.Data.Finset.Card
import Mathlib.Data.List.Induction
import Mathlib.Data.List.Nodup

/-!
# Breadth-first search

A queue of names with their depths. A name is entered once, when it is first
met, so it is at most one deeper than any name that it is below.
-/

namespace AiEnterpriseOs.Library

namespace BreadthFirst

variable {Name : Type*}

/-- What a finished search from the roots has taken from its queue. -/
structure Searched (children : Name → List Name) (roots : List Name)
    (entries : List (Name × Nat)) : Prop where
  once : (entries.map Prod.fst).Nodup
  root : ∀ name, (name, 0) ∈ entries ↔ name ∈ roots
  origin : ∀ name depth, (name, depth + 1) ∈ entries →
    ∃ parent, (parent, depth) ∈ entries ∧ name ∈ children parent
  closed : ∀ parent depth, (parent, depth) ∈ entries → ∀ name ∈ children parent,
    ∃ below, below ≤ depth + 1 ∧ (name, below) ∈ entries

/-- What has been taken from the queue and what is in it. -/
structure Searching (children : Name → List Name) (roots : List Name)
    (taken queue : List (Name × Nat)) (visited : Finset Name) : Prop where
  once : ((taken ++ queue).map Prod.fst).Nodup
  visited_iff : ∀ name, name ∈ visited ↔ name ∈ (taken ++ queue).map Prod.fst
  sorted : ((taken ++ queue).map Prod.snd).Pairwise (· ≤ ·)
  close : ∀ first ∈ queue, ∀ last ∈ queue, last.2 ≤ first.2 + 1
  root : ∀ name, (name, 0) ∈ taken ++ queue ↔ name ∈ roots
  origin : ∀ name depth, (name, depth + 1) ∈ taken ++ queue →
    ∃ parent, (parent, depth) ∈ taken ∧ name ∈ children parent
  closed : ∀ parent depth, (parent, depth) ∈ taken → ∀ name ∈ children parent,
    ∃ below, below ≤ depth + 1 ∧ (name, below) ∈ taken ++ queue

section

variable [DecidableEq Name] {children : Name → List Name} {roots : List Name}
  {taken queue : List (Name × Nat)} {visited : Finset Name}

/-- A child that was not met is put at the end of the queue. -/
def enqueue (depth : Nat) (state : Finset Name × List (Name × Nat)) (name : Name) :
    Finset Name × List (Name × Nat) :=
  if name ∈ state.1 then state else (insert name state.1, state.2 ++ [(name, depth)])

/-- The loop over the queue; `none` where the rounds do not suffice. -/
def search (children : Name → List Name) :
    Nat → Finset Name → List (Name × Nat) → Option (List (Name × Nat))
  | _, _, [] => some []
  | 0, _, _ :: _ => none
  | rounds + 1, visited, item :: queue =>
    let (seen, longer) := (children item.1).foldl (enqueue (item.2 + 1)) (visited, queue)
    (search children rounds seen longer).map fun entries => item :: entries

theorem enqueue_all (depth : Nat) (names : List Name) (visited : Finset Name)
    (queue : List (Name × Nat)) :
    ∃ fresh : List Name, names.foldl (enqueue depth) (visited, queue) =
        (visited ∪ fresh.toFinset, queue ++ fresh.map fun name => (name, depth)) ∧
      fresh.Nodup ∧ ∀ name, name ∈ fresh ↔ name ∈ names ∧ name ∉ visited := by
  induction names using List.reverseRecOn with
  | nil => exact ⟨[], by simp, List.nodup_nil, by simp⟩
  | append_singleton names name ih =>
    obtain ⟨fresh, folded, once, member⟩ := ih
    rw [List.foldl_append, folded]
    by_cases met : name ∈ visited ∪ fresh.toFinset
    · refine ⟨fresh, ?_, once, ?_⟩
      · exact if_pos met
      · intro other
        rw [member, List.mem_append, List.mem_singleton]
        constructor
        · exact fun both => ⟨Or.inl both.1, both.2⟩
        · rintro ⟨early | same, new⟩
          · exact ⟨early, new⟩
          · rw [same] at new ⊢
            rcases Finset.mem_union.mp met with old | listed
            · exact absurd old new
            · exact (member name).mp (List.mem_toFinset.mp listed)
    · have parts := met
      rw [Finset.mem_union, List.mem_toFinset, not_or] at parts
      refine ⟨fresh ++ [name], ?_, ?_, ?_⟩
      · refine (if_neg met).trans ?_
        rw [List.map_append, List.append_assoc, List.map_singleton, List.toFinset_append,
          ← Finset.union_assoc]
        congr 1
        ext other
        simp
      · rw [← List.concat_eq_append]
        exact once.concat parts.2
      · intro other
        rw [List.mem_append, member, List.mem_append, List.mem_singleton]
        constructor
        · rintro (⟨early, new⟩ | same)
          · exact ⟨Or.inl early, new⟩
          · rw [same]
            exact ⟨Or.inr rfl, parts.1⟩
        · rintro ⟨early | same, new⟩
          · exact Or.inl ⟨early, new⟩
          · exact Or.inr same

theorem Searching.step {item : Name × Nat} {fresh : List Name}
    (searching : Searching children roots taken (item :: queue) visited) (once : fresh.Nodup)
    (member : ∀ name, name ∈ fresh ↔ name ∈ children item.1 ∧ name ∉ visited) :
    Searching children roots (taken ++ [item])
      (queue ++ fresh.map fun name => (name, item.2 + 1)) (visited ∪ fresh.toFinset) := by
  have parts : taken ++ [item] ++ (queue ++ fresh.map fun name => (name, item.2 + 1)) =
      (taken ++ item :: queue) ++ fresh.map fun name => (name, item.2 + 1) := by
    simp only [List.append_assoc, List.cons_append, List.nil_append]
  have names : (fresh.map fun name => (name, item.2 + 1)).map Prod.fst = fresh := by
    rw [List.map_map]
    exact List.map_id fresh
  have depths : ∀ last ∈ queue, item.2 ≤ last.2 ∧ last.2 ≤ item.2 + 1 := by
    intro last listed
    have sorted := searching.sorted
    rw [List.map_append, List.pairwise_append, List.map_cons, List.pairwise_cons] at sorted
    exact ⟨sorted.2.1.1 last.2 (List.mem_map_of_mem listed),
      searching.close item List.mem_cons_self last (List.mem_cons_of_mem _ listed)⟩
  have early : ∀ first ∈ taken ++ item :: queue, first.2 ≤ item.2 + 1 := by
    intro first listed
    rcases List.mem_append.mp listed with before | waiting
    · have sorted := searching.sorted
      rw [List.map_append, List.pairwise_append] at sorted
      have below := sorted.2.2 first.2 (List.mem_map_of_mem before) item.2
        (List.mem_map_of_mem List.mem_cons_self)
      omega
    · exact searching.close item List.mem_cons_self first waiting
  constructor
  · rw [parts, List.map_append, names]
    refine searching.once.append once ?_
    intro name old new
    exact ((member name).mp new).2 ((searching.visited_iff name).mpr old)
  · intro name
    rw [parts, List.map_append, names, List.mem_append, Finset.mem_union, List.mem_toFinset,
      searching.visited_iff]
  · rw [parts, List.map_append, List.pairwise_append]
    refine ⟨searching.sorted, ?_, ?_⟩
    · rw [List.map_map]
      exact List.pairwise_map.mpr (List.pairwise_of_forall fun _ _ => le_rfl)
    · intro low lowListed high highListed
      obtain ⟨first, listed, same⟩ := List.mem_map.mp lowListed
      rw [List.map_map] at highListed
      obtain ⟨name, _, equal⟩ := List.mem_map.mp highListed
      rw [← same, ← equal]
      exact early first listed
  · have bounds : ∀ last ∈ queue ++ fresh.map fun name => (name, item.2 + 1),
        item.2 ≤ last.2 ∧ last.2 ≤ item.2 + 1 := by
      intro last listed
      rcases List.mem_append.mp listed with old | new
      · exact depths last old
      · obtain ⟨name, _, same⟩ := List.mem_map.mp new
        rw [← same]
        exact ⟨Nat.le_succ _, le_rfl⟩
    intro first listed last also
    have low := bounds first listed
    have high := bounds last also
    omega
  · intro name
    rw [parts, List.mem_append, ← searching.root]
    constructor
    · rintro (old | new)
      · exact old
      · obtain ⟨other, _, same⟩ := List.mem_map.mp new
        exact absurd (congrArg Prod.snd same) (Nat.succ_ne_zero _)
    · exact Or.inl
  · intro name depth listed
    rw [parts, List.mem_append] at listed
    rcases listed with old | new
    · obtain ⟨parent, before, child⟩ := searching.origin name depth old
      exact ⟨parent, List.mem_append_left _ before, child⟩
    · obtain ⟨other, entered, same⟩ := List.mem_map.mp new
      have depthSame : item.2 = depth := Nat.succ_injective (congrArg Prod.snd same)
      have nameSame : other = name := congrArg Prod.fst same
      rw [← depthSame, ← nameSame]
      exact ⟨item.1, List.mem_append_right _ (List.mem_singleton_self _),
        ((member other).mp entered).1⟩
  · intro parent depth before name child
    rw [parts]
    rcases List.mem_append.mp before with old | here
    · obtain ⟨below, close, listed⟩ := searching.closed parent depth old name child
      exact ⟨below, close, List.mem_append_left _ listed⟩
    · -- the children were met before, hence not deeper, or are new and one deeper
      have same := List.mem_singleton.mp here
      rw [← same] at early member
      by_cases met : name ∈ visited
      · obtain ⟨entry, listed, named⟩ :=
          List.mem_map.mp ((searching.visited_iff name).mp met)
        refine ⟨entry.2, ?_, ?_⟩
        · rw [← same] at listed
          exact early entry listed
        · rw [← named]
          exact List.mem_append_left _ listed
      · refine ⟨depth + 1, le_rfl, List.mem_append_right _ ?_⟩
        rw [← same]
        exact List.mem_map_of_mem ((member name).mpr ⟨child, met⟩)

theorem searching_start (once : roots.Nodup) :
    Searching children roots [] (roots.map fun name => (name, 0)) roots.toFinset := by
  have names : (roots.map fun name => (name, 0)).map Prod.fst = roots := by
    rw [List.map_map]
    exact List.map_id roots
  have depths : ∀ item ∈ roots.map fun name => (name, 0), item.2 = 0 := by
    intro item listed
    obtain ⟨name, _, same⟩ := List.mem_map.mp listed
    rw [← same]
  constructor
  · rw [List.nil_append, names]
    exact once
  · intro name
    rw [List.nil_append, names, List.mem_toFinset]
  · rw [List.nil_append, List.map_map]
    exact List.pairwise_map.mpr (List.pairwise_of_forall fun _ _ => le_rfl)
  · intro first listed last also
    rw [depths first listed, depths last also]
    omega
  · intro name
    simp
  · intro name depth listed
    exact absurd (depths _ listed) (Nat.succ_ne_zero depth)
  · exact fun _ _ listed => absurd listed List.not_mem_nil

omit [DecidableEq Name] in
theorem Searching.finished (searching : Searching children roots taken [] visited) :
    Searched children roots (taken ++ []) := by
  refine ⟨searching.once, searching.root, ?_, ?_⟩
  · intro name depth entered
    obtain ⟨parent, before, child⟩ := searching.origin name depth entered
    exact ⟨parent, List.mem_append_left _ before, child⟩
  · intro parent depth entered
    rw [List.append_nil] at entered
    exact searching.closed parent depth entered

theorem search_run {known : List Name} (inside : ∀ parent, ∀ name ∈ children parent, name ∈ known)
    (rounds : Nat) (searching : Searching children roots taken queue visited)
    (listed : ∀ name ∈ (taken ++ queue).map Prod.fst, name ∈ known)
    (enough : known.length ≤ taken.length + rounds) :
    ∃ entries, search children rounds visited queue = some entries ∧
      Searched children roots (taken ++ entries) := by
  induction rounds generalizing taken queue visited with
  | zero =>
    have few : ((taken ++ queue).map Prod.fst).length ≤ known.length :=
      (List.subperm_of_subset searching.once listed).length_le
    rw [List.length_map, List.length_append] at few
    have empty : queue = [] := List.length_eq_zero_iff.mp (by omega)
    rw [empty] at searching ⊢
    exact ⟨[], rfl, searching.finished⟩
  | succ rounds ih =>
    cases queue with
    | nil => exact ⟨[], rfl, searching.finished⟩
    | cons item queue =>
      obtain ⟨fresh, folded, once, member⟩ :=
        enqueue_all (item.2 + 1) (children item.1) visited queue
      obtain ⟨entries, found, searched⟩ := ih (searching.step once member) (by
        intro name named
        have parts : taken ++ [item] ++ (queue ++ fresh.map fun name => (name, item.2 + 1)) =
            (taken ++ item :: queue) ++ fresh.map fun name => (name, item.2 + 1) := by
          simp only [List.append_assoc, List.cons_append, List.nil_append]
        rw [parts, List.map_append, List.mem_append] at named
        rcases named with old | new
        · exact listed name old
        · rw [List.map_map] at new
          obtain ⟨other, entered, same⟩ := List.mem_map.mp new
          rw [← same]
          exact inside item.1 other ((member other).mp entered).1) (by
        rw [List.length_append, List.length_singleton]
        omega)
      refine ⟨item :: entries, ?_, ?_⟩
      · rw [search, folded]
        dsimp only
        rw [found]
        rfl
      · rw [List.append_assoc] at searched
        exact searched

theorem search_searched {known : List Name}
    (inside : ∀ parent, ∀ name ∈ children parent, name ∈ known) (once : roots.Nodup)
    (listed : ∀ name ∈ roots, name ∈ known) :
    ∃ entries, search children known.length roots.toFinset
        (roots.map fun name => (name, 0)) = some entries ∧
      Searched children roots entries := by
  apply search_run inside known.length (searching_start once)
  · intro name member
    rw [List.nil_append, List.map_map] at member
    obtain ⟨root, entered, same⟩ := List.mem_map.mp member
    rw [← same]
    exact listed root entered
  · rw [List.length_nil]
    omega

end

theorem Searched.unique {children : Name → List Name} {roots : List Name}
    {entries : List (Name × Nat)} (searched : Searched children roots entries) {name : Name}
    {first second : Nat} (one : (name, first) ∈ entries) (other : (name, second) ∈ entries) :
    first = second :=
  congrArg Prod.snd (List.inj_on_of_nodup_map searched.once one other rfl)

/-! ## Levels that are made deeper -/

/-- Levels of names with lines to other names: a guess, made deeper by the search. -/
structure Deepened (children : Name → List Name) (roots : List Name)
    (entries : List (Name × Nat)) (line : Name → Name → Prop) (top : Name → Prop)
    (level : Name → Int) : Prop where
  child : ∀ name upper, line name upper → name ∈ children upper
  upper : ∀ name, (∃ other, line name other ∨ line other name) → ¬top name → ∀ parent,
    name ∈ children parent → line name parent
  root : ∀ name, (∃ other, line name other ∨ line other name) →
    (name ∈ roots ↔ top name ∨ ∀ upper, ¬line name upper)
  met : ∀ name, (∃ other, line name other ∨ line other name) → ∀ depth, (name, depth) ∈ entries →
      (top name → level name = depth) ∧ (¬top name → level name = max 1 depth)
  unmet : ∀ name, (∃ other, line name other ∨ line other name) →
    (∀ depth, (name, depth) ∉ entries) → (top name → level name = 0) ∧ (¬top name → level name = 1)

/-- The lines lead up to tops only, and all ways up from a name are equally long. -/
structure Graded (line : Name → Name → Prop) (top : Name → Prop) : Prop where
  free : ∀ name upper, line name upper → ¬top name
  managed : ∀ name upper, line name upper → top upper ∨ ∃ higher, line upper higher
  even : ∃ depth : Name → Nat, ∀ name upper, line name upper →
    (top upper → depth upper = 0) ∧ depth name = depth upper + 1

section

variable {children : Name → List Name} {roots : List Name} {entries : List (Name × Nat)}
  {line : Name → Name → Prop} {top : Name → Prop} {level : Name → Int}

theorem Deepened.least (deepened : Deepened children roots entries line top level) {name : Name}
    (lined : ∃ other, line name other ∨ line other name) :
    0 ≤ level name ∧ (¬top name → 1 ≤ level name) := by
  by_cases met : ∃ depth, (name, depth) ∈ entries
  · obtain ⟨depth, listed⟩ := met
    obtain ⟨high, low⟩ := deepened.met name lined depth listed
    by_cases here : top name
    · rw [high here]
      exact ⟨Int.natCast_nonneg depth, fun absent => absurd here absent⟩
    · rw [low here]
      exact ⟨by omega, fun _ => by omega⟩
  · obtain ⟨high, low⟩ := deepened.unmet name lined (not_exists.mp met)
    by_cases here : top name
    · rw [high here]
      exact ⟨le_rfl, fun absent => absurd here absent⟩
    · rw [low here]
      exact ⟨by omega, fun _ => le_rfl⟩

theorem Deepened.of_graded (deepened : Deepened children roots entries line top level)
    (searched : Searched children roots entries) (graded : Graded line top) (name upper : Name)
    (reports : line name upper) : level upper < level name := by
  obtain ⟨depth, even⟩ := graded.even
  have bottom : ∀ name, (∃ other, line name other ∨ line other name) →
      top name ∨ ∃ higher, line name higher := by
    rintro name ⟨other, up | down⟩
    · exact Or.inr ⟨other, up⟩
    · exact graded.managed other name down
  have topDepth : ∀ name, (∃ other, line name other ∨ line other name) → top name →
      depth name = 0 := by
    rintro name ⟨other, up | down⟩ here
    · exact absurd here (graded.free name other up)
    · exact (even other name down).1 here
  have exact_depth : ∀ found name, (name, found) ∈ entries →
      (∃ other, line name other ∨ line other name) → found = depth name := by
    intro found
    induction found with
    | zero =>
      intro name listed lined
      rcases (deepened.root name lined).mp ((searched.root name).mp listed) with here | none
      · exact (topDepth name lined here).symm
      · rcases bottom name lined with here | ⟨higher, up⟩
        · exact (topDepth name lined here).symm
        · exact absurd up (none higher)
    | succ found ih =>
      intro name listed lined
      obtain ⟨parent, before, child⟩ := searched.origin name found listed
      have low : ¬top name := by
        intro isTop
        have first := (searched.root name).mpr ((deepened.root name lined).mpr (Or.inl isTop))
        exact Nat.succ_ne_zero found (searched.unique listed first)
      have up := deepened.upper name lined low parent child
      rw [ih parent before ⟨name, Or.inr up⟩, (even name parent up).2]
  have all_met : ∀ number name, depth name = number →
      (∃ other, line name other ∨ line other name) → (name, depth name) ∈ entries := by
    intro number
    induction number using Nat.strongRecOn with
    | ind number ih =>
      intro name here lined
      rcases bottom name lined with isTop | ⟨higher, up⟩
      · have listed := (searched.root name).mpr ((deepened.root name lined).mpr (Or.inl isTop))
        rw [topDepth name lined isTop]
        exact listed
      · have step := (even name higher up).2
        have above := ih (depth higher) (by omega) higher rfl ⟨name, Or.inr up⟩
        obtain ⟨found, _, listed⟩ :=
          searched.closed higher (depth higher) above name (deepened.child name higher up)
        rw [← exact_depth found name listed lined]
        exact listed
  have lined : ∃ other, line name other ∨ line other name := ⟨upper, Or.inl reports⟩
  have upperLined : ∃ other, line upper other ∨ line other upper := ⟨name, Or.inr reports⟩
  have here := (deepened.met name lined (depth name) (all_met _ name rfl lined)).2
    (graded.free name upper reports)
  obtain ⟨high, low⟩ := deepened.met upper upperLined (depth upper) (all_met _ upper rfl upperLined)
  have step := (even name upper reports).2
  by_cases isTop : top upper
  · rw [high isTop, here]
    omega
  · obtain ⟨higher, up⟩ := (graded.managed name upper reports).resolve_left isTop
    have above := (even upper higher up).2
    rw [low isTop, here]
    omega

/-- The levels are smaller up every line exactly if the lines are graded. -/
theorem Deepened.respects_iff (deepened : Deepened children roots entries line top level)
    (searched : Searched children roots entries) :
    (∀ name upper, line name upper → level upper < level name) ↔ Graded line top := by
  refine ⟨?_, deepened.of_graded searched⟩
  intro respects
  have free : ∀ name upper, line name upper → ¬top name := by
    intro name upper reports isTop
    have lined : ∃ other, line name other ∨ line other name := ⟨upper, Or.inl reports⟩
    have listed := (searched.root name).mpr ((deepened.root name lined).mpr (Or.inl isTop))
    have here := (deepened.met name lined 0 listed).1 isTop
    have above := (deepened.least ⟨name, Or.inr reports⟩).1
    have less := respects name upper reports
    omega
  have managed : ∀ name upper, line name upper → top upper ∨ ∃ higher, line upper higher := by
    intro name upper reports
    by_contra neither
    obtain ⟨notTop, alone⟩ := not_or.mp neither
    have upperLined : ∃ other, line upper other ∨ line other upper := ⟨name, Or.inr reports⟩
    have listed := (searched.root upper).mpr
      ((deepened.root upper upperLined).mpr (Or.inr (not_exists.mp alone)))
    obtain ⟨below, close, found⟩ := searched.closed upper 0 listed name
      (deepened.child name upper reports)
    have above := (deepened.met upper upperLined 0 listed).2 notTop
    have here := (deepened.met name ⟨upper, Or.inl reports⟩ below found).2 (free name upper reports)
    have less := respects name upper reports
    omega
  have met : ∀ name, (∃ other, line name other ∨ line other name) →
      ∃ depth, (name, depth) ∈ entries := by
    have tops : ∀ name, (∃ other, line name other ∨ line other name) → top name →
        (name, 0) ∈ entries := fun name lined isTop =>
      (searched.root name).mpr ((deepened.root name lined).mpr (Or.inl isTop))
    have source : ∀ name upper, line name upper → ∃ depth, (name, depth) ∈ entries := by
      intro name upper reports
      by_contra never
      have here := (deepened.unmet name ⟨upper, Or.inl reports⟩ (not_exists.mp never)).2
        (free name upper reports)
      have less := respects name upper reports
      have upperLined : ∃ other, line upper other ∨ line other upper := ⟨name, Or.inr reports⟩
      have isTop : top upper := by
        by_contra notTop
        have above := (deepened.least upperLined).2 notTop
        omega
      obtain ⟨below, _, found⟩ := searched.closed upper 0 (tops upper upperLined isTop) name
        (deepened.child name upper reports)
      exact never ⟨below, found⟩
    rintro name ⟨other, up | down⟩
    · exact source name other up
    · rcases managed other name down with isTop | ⟨higher, up⟩
      · exact ⟨0, tops name ⟨other, Or.inr down⟩ isTop⟩
      · exact source name higher up
  refine ⟨free, managed, ?_⟩
  classical
  refine ⟨fun name => if found : ∃ depth, (name, depth) ∈ entries then found.choose else 0, ?_⟩
  intro name upper reports
  have lined : ∃ other, line name other ∨ line other name := ⟨upper, Or.inl reports⟩
  have upperLined : ∃ other, line upper other ∨ line other upper := ⟨name, Or.inr reports⟩
  have nameMet := met name lined
  have upperMet := met upper upperLined
  simp only [nameMet, upperMet, dite_true]
  have listed := nameMet.choose_spec
  have above := upperMet.choose_spec
  generalize nameMet.choose = depth at listed ⊢
  generalize upperMet.choose = higher at above ⊢
  have topZero : top upper → higher = 0 := by
    intro isTop
    exact searched.unique above
      ((searched.root upper).mpr ((deepened.root upper upperLined).mpr (Or.inl isTop)))
  refine ⟨topZero, ?_⟩
  obtain ⟨below, close, found⟩ := searched.closed upper higher above name
    (deepened.child name upper reports)
  rw [searched.unique found listed] at close
  have here := (deepened.met name lined depth listed).2 (free name upper reports)
  obtain ⟨high, low⟩ := deepened.met upper upperLined higher above
  have less := respects name upper reports
  have deep : depth ≠ 0 := by
    intro zero
    rw [zero, searched.root, deepened.root name lined] at listed
    exact listed.elim (free name upper reports) fun alone => alone upper reports
  by_cases isTop : top upper
  · rw [high isTop] at less
    omega
  · obtain ⟨further, up⟩ := (managed name upper reports).resolve_left isTop
    have notRoot : higher ≠ 0 := by
      intro zero
      rw [zero, searched.root, deepened.root upper upperLined] at above
      exact above.elim isTop fun alone => alone further up
    rw [low isTop] at less
    omega

end

end BreadthFirst

end AiEnterpriseOs.Library
