import AiEnterpriseOs.Library.Descent
import AiEnterpriseOs.Library.ParentChain
import AiEnterpriseOs.Memory.Summary
import AiEnterpriseOs.Memory.Upkeep

/-!
# Walks along the hierarchy

The lineage follows the parent ids of the live entries, the subtree follows the
parent index. Neither keeps track of what it has seen, so a walk ends where its
ids make no cycle.
-/

namespace AiEnterpriseOs.Memory

open Library

variable {Value : Type}

/-- `entry.parent_id` where it is given; the empty id counts as none. -/
def MemoryEntry.givenParent (entry : MemoryEntry Value) : Option String :=
  (parentKeys entry.parentId).head?

namespace MemoryStore

/-- `while current and current.parent_id`, for as many rounds as are given. -/
def lineageLoop (store : MemoryStore Value) :
    Nat → MemoryEntry Value → List (MemoryEntry Value) → Option (List (MemoryEntry Value))
  | 0, _, _ => none
  | rounds + 1, current, lineage =>
    match current.givenParent with
    | none => some lineage
    | some parentId =>
      match store.get parentId with
      | none => some lineage
      | some parent => lineageLoop store rounds parent (lineage ++ [parent])

/-- Get the full ancestor chain of a memory entry. -/
def getLineage (rounds : Nat) (id : String) (store : MemoryStore Value) :
    Option (List (MemoryEntry Value)) :=
  match store.get id with
  | none => some []
  | some current => store.lineageLoop rounds current []

/-- The ids in the bucket of a parent that are stored, with their entries. -/
def storedChildren (id : String) (store : MemoryStore Value) : List (String × MemoryEntry Value) :=
  ((store.index .parentIndex).bucket id).ids.filterMap fun child =>
    (store.get child).map fun entry => (child, entry)

/-- `while stack`, for as many rounds as are given. -/
def subtreeLoop (store : MemoryStore Value) :
    Nat → List String → List (MemoryEntry Value) → Option (List (MemoryEntry Value))
  | _, [], result => some result
  | 0, _ :: _, _ => none
  | rounds + 1, current :: stack, result =>
    let children := store.storedChildren current
    subtreeLoop store rounds ((children.map Prod.fst).reverse ++ stack)
      (result ++ children.map Prod.snd)

/-- Get all descendants of a memory entry. -/
def getSubtree (rounds : Nat) (id : String) (store : MemoryStore Value) :
    Option (List (MemoryEntry Value)) :=
  store.subtreeLoop rounds [id] []

/-! ## Lineage -/

/-- The id of the parent that the lineage goes on to. -/
def parentOf (store : MemoryStore Value) (id : String) : Option String :=
  (store.get id).bind fun entry =>
    entry.givenParent.filter fun parentId => (store.get parentId).isSome

theorem parent_of_stored {store : MemoryStore Value} {id : String}
    {entry : MemoryEntry Value} (stored : store.get id = some entry) :
    store.parentOf id = entry.givenParent.filter fun parentId => (store.get parentId).isSome := by
  rw [parentOf, stored, Option.bind_some]

theorem parent_stored {store : MemoryStore Value} {id parentId : String}
    (above : store.parentOf id = some parentId) :
    ∃ parent, store.get parentId = some parent := by
  obtain ⟨entry, _, given⟩ := Option.bind_eq_some_iff.mp above
  exact Option.isSome_iff_exists.mp (Option.filter_eq_some_iff.mp given).2

theorem lineage_loop_walk {store : MemoryStore Value} (rounds : Nat) {id : String}
    {current : MemoryEntry Value} (stored : store.get id = some current)
    (lineage : List (MemoryEntry Value)) :
    store.lineageLoop rounds current lineage =
      (ParentChain.walk store.parentOf rounds id).map fun visited =>
        lineage ++ (visited.1 ++ [visited.2]).tail.filterMap store.get := by
  induction rounds generalizing id current lineage with
  | zero => rfl
  | succ rounds ih =>
    have above := parent_of_stored stored
    unfold lineageLoop
    cases given : current.givenParent with
    | none =>
      rw [given, Option.filter_none] at above
      rw [ParentChain.walk_root above]
      simp
    | some parentId =>
      dsimp only
      rw [given] at above
      cases found : store.get parentId with
      | none =>
        rw [Option.filter_some, found] at above
        rw [ParentChain.walk_root above]
        simp
      | some parent =>
        rw [Option.filter_some, found] at above
        rw [ParentChain.walk_above above]
        dsimp only
        rw [ih found, Option.map_map]
        apply Option.map_congr
        intro visited walked
        obtain ⟨later, starts⟩ := ParentChain.walk_starts walked
        simp [starts, found]

theorem stored_above {store : MemoryStore Value} {rounds : Nat} {id : String}
    {current : MemoryEntry Value} (stored : store.get id = some current)
    {visited : List String × String}
    (walked : ParentChain.walk store.parentOf rounds id = some visited) :
    ∀ node ∈ visited.1 ++ [visited.2], ∃ entry, store.get node = some entry := by
  intro node member
  rcases (ParentChain.walk_visits walked node member).cases_tail with same | climbs
  · rw [same]
    exact ⟨current, stored⟩
  · obtain ⟨lower, _, above⟩ := climbs
    exact parent_stored above

theorem Keyed.ids_of_stored {store : MemoryStore Value} (keyed : store.Keyed)
    {ids : List String} (stored : ∀ id ∈ ids, ∃ entry, store.get id = some entry) :
    (ids.filterMap store.get).map (fun entry => entry.id) = ids := by
  induction ids with
  | nil => rfl
  | cons id rest ih =>
    obtain ⟨entry, found⟩ := stored id List.mem_cons_self
    have later := ih fun other member => stored other (List.mem_cons_of_mem _ member)
    rw [List.filterMap_cons_some found, List.map_cons, later, keyed id entry found]

/-- The lineage is returned, with no entry twice. -/
def LineageOnce (store : MemoryStore Value) (id : String) : Prop :=
  ∃ rounds lineage, store.getLineage rounds id = some lineage ∧
    (lineage.map fun entry => entry.id).Nodup

theorem parents_finite (store : MemoryStore Value) (id parentId : String)
    (above : store.parentOf id = some parentId) : id ∈ store.entries.keys.toFinset := by
  obtain ⟨entry, stored, _⟩ := Option.bind_eq_some_iff.mp above
  exact List.mem_toFinset.mpr ((OrderedDict.mem_keys_iff _ _).mpr ⟨entry, stored⟩)

theorem lineage_no_cycle {store : MemoryStore Value} {rounds : Nat} {id : String}
    {lineage : List (MemoryEntry Value)}
    (returned : store.getLineage rounds id = some lineage) :
    ParentChain.NoCycleFrom store.parentOf id := by
  unfold getLineage at returned
  cases stored : store.get id with
  | none =>
    have root : store.parentOf id = none := by rw [parentOf, stored, Option.bind_none]
    exact ParentChain.no_cycle_of_walk (ParentChain.walk_root root 0)
  | some current =>
    rw [stored] at returned
    dsimp only at returned
    rw [lineage_loop_walk rounds stored] at returned
    obtain ⟨visited, walked, _⟩ := Option.map_eq_some_iff.mp returned
    exact ParentChain.no_cycle_of_walk walked

theorem lineage_once_iff {store : MemoryStore Value} (keyed : store.Keyed) (id : String) :
    store.LineageOnce id ↔ ParentChain.NoCycleFrom store.parentOf id := by
  constructor
  · rintro ⟨rounds, lineage, returned, _⟩
    exact lineage_no_cycle returned
  · intro clear
    unfold LineageOnce getLineage
    cases stored : store.get id with
    | none => exact ⟨0, [], rfl, List.nodup_nil⟩
    | some current =>
      obtain ⟨rounds, visited, walked⟩ :=
        (ParentChain.walk_ends_iff _ store.parents_finite id).mpr clear
      have tailStored : ∀ node ∈ (visited.1 ++ [visited.2]).tail,
          ∃ entry, store.get node = some entry :=
        fun node member => stored_above stored walked node (List.mem_of_mem_tail member)
      refine ⟨rounds, _, by dsimp only; rw [lineage_loop_walk rounds stored, walked]; rfl, ?_⟩
      dsimp only
      rw [List.nil_append, keyed.ids_of_stored tailStored]
      exact (ParentChain.walk_nodup walked).tail

/-! ## Subtree -/

def childIds (store : MemoryStore Value) (id : String) : List String :=
  (store.storedChildren id).map Prod.fst

theorem child_ids_filter (store : MemoryStore Value) (id : String) :
    store.childIds id = ((store.index .parentIndex).bucket id).ids.filter fun child =>
      (store.get child).isSome := by
  unfold childIds storedChildren
  induction ((store.index .parentIndex).bucket id).ids with
  | nil => rfl
  | cons child rest ih =>
    cases found : store.get child with
    | none => simpa [found] using ih
    | some entry => simpa [found] using ih

theorem child_ids_nodup (store : MemoryStore Value) (id : String) : (store.childIds id).Nodup := by
  rw [child_ids_filter]
  exact ((store.index .parentIndex).bucket id).distinct.filter _

theorem subtree_loop_taken (store : MemoryStore Value) (rounds : Nat) (stack : List String)
    (result : List (MemoryEntry Value)) :
    store.subtreeLoop rounds stack result =
      (Descent.taken store.childIds rounds stack).map fun nodes =>
        result ++ nodes.flatMap fun node => (store.storedChildren node).map Prod.snd := by
  induction rounds generalizing stack result with
  | zero =>
    cases stack with
    | nil => simp [subtreeLoop, Descent.taken]
    | cons current stack => rfl
  | succ rounds ih =>
    cases stack with
    | nil => simp [subtreeLoop, Descent.taken]
    | cons current stack =>
      rw [subtreeLoop, ih, Descent.taken_cons, Option.map_map]
      apply Option.map_congr
      intro nodes _
      rw [Function.comp_apply, List.flatMap_cons, List.append_assoc]

theorem Keyed.child_entry_ids {store : MemoryStore Value} (keyed : store.Keyed) (id : String) :
    ((store.storedChildren id).map Prod.snd).map (fun entry => entry.id) =
      store.childIds id := by
  rw [childIds, List.map_map]
  apply List.map_congr_left
  intro item member
  obtain ⟨child, _, listed⟩ := List.mem_filterMap.mp member
  obtain ⟨entry, stored, same⟩ := Option.map_eq_some_iff.mp listed
  rw [← same]
  exact keyed child entry stored

/-- The subtree is returned, with no entry twice. -/
def SubtreeOnce (store : MemoryStore Value) (id : String) : Prop :=
  ∃ rounds subtree, store.getSubtree rounds id = some subtree ∧
    (subtree.map fun entry => entry.id).Nodup

theorem children_finite (store : MemoryStore Value) (parentId child : String)
    (listed : Descent.Child store.childIds parentId child) :
    child ∈ store.entries.keys.toFinset := by
  rw [Descent.Child, child_ids_filter] at listed
  obtain ⟨entry, stored⟩ := Option.isSome_iff_exists.mp (List.mem_filter.mp listed).2
  exact List.mem_toFinset.mpr ((OrderedDict.mem_keys_iff _ _).mpr ⟨entry, stored⟩)

theorem subtree_no_cycle {store : MemoryStore Value} {rounds : Nat} {id : String}
    {subtree : List (MemoryEntry Value)}
    (returned : store.getSubtree rounds id = some subtree) :
    Descent.NoCycleBelow store.childIds id := by
  rw [getSubtree, subtree_loop_taken] at returned
  obtain ⟨nodes, ended, _⟩ := Option.map_eq_some_iff.mp returned
  exact (Descent.taken_ends_iff _ store.children_finite id).mp ⟨rounds, nodes, ended⟩

theorem subtree_once_iff {store : MemoryStore Value} (keyed : store.Keyed) (id : String) :
    store.SubtreeOnce id ↔ Descent.NoCycleBelow store.childIds id ∧
      Descent.OneParentBelow store.childIds id := by
  rw [← Descent.listed_once_iff _ store.children_finite store.child_ids_nodup id]
  have listed : ∀ nodes : List String,
      ((nodes.flatMap fun node => (store.storedChildren node).map Prod.snd).map
        fun entry => entry.id) = nodes.flatMap store.childIds := by
    intro nodes
    rw [List.map_flatMap]
    apply List.flatMap_congr
    intro node _
    exact keyed.child_entry_ids node
  unfold SubtreeOnce getSubtree
  constructor
  · rintro ⟨rounds, subtree, returned, once⟩
    rw [subtree_loop_taken] at returned
    obtain ⟨nodes, ended, same⟩ := Option.map_eq_some_iff.mp returned
    rw [← same, List.nil_append, listed] at once
    exact ⟨rounds, nodes, ended, once⟩
  · rintro ⟨rounds, nodes, ended, once⟩
    refine ⟨rounds, _, by rw [subtree_loop_taken, ended]; rfl, ?_⟩
    dsimp only
    rw [List.nil_append, listed]
    exact once

end MemoryStore

/-- In every state that a run reaches, the lineage of an id is returned without
repetition exactly where the chain of live parents from it meets no cycle, and
its subtree exactly where the parent index below it has no cycle and lists no
child under two parents. -/
theorem hierarchy_walks_iff (env : MemoryEnv Value) (config : MemoryConfig)
    (disk : Option (LogFile Value)) (inputs : List (MemoryInput Value)) (id : String) :
    let store := (MemoryEngine.runs env config (MemoryEngine.openEngine disk) inputs).store
    (store.LineageOnce id ↔ ParentChain.NoCycleFrom store.parentOf id) ∧
      (store.SubtreeOnce id ↔ Descent.NoCycleBelow store.childIds id ∧
        Descent.OneParentBelow store.childIds id) := by
  intro store
  have keyed : store.Keyed := MemoryEngine.runs_keyed config disk inputs
  exact ⟨MemoryStore.lineage_once_iff keyed id, MemoryStore.subtree_once_iff keyed id⟩

/-- A memory linked to itself, then updated. -/
def selfLinkInputs : List (MemoryInput PyValue) :=
  [ { op := .save { content := OrderedDict.empty }, now := 0 },
    { op := .linkMemories "mem_0_0001" "mem_0_0001", now := 1 },
    { op := .update "mem_0_0001" {}, now := 2 } ]

theorem self_link_never_returns :
    let store := (MemoryEngine.runs textEnv {} (MemoryEngine.openEngine none) selfLinkInputs).store
    (∀ rounds, store.getLineage rounds "mem_0_0001" = none) ∧
      ∀ rounds, store.getSubtree rounds "mem_0_0001" = none := by
  intro store
  have parent : store.parentOf "mem_0_0001" = some "mem_0_0001" := by decide +kernel
  have child : "mem_0_0001" ∈ store.childIds "mem_0_0001" := by decide +kernel
  constructor
  · intro rounds
    apply Option.eq_none_iff_forall_ne_some.mpr
    intro lineage returned
    exact MemoryStore.lineage_no_cycle returned _ .refl (.single parent)
  · intro rounds
    apply Option.eq_none_iff_forall_ne_some.mpr
    intro subtree returned
    exact MemoryStore.subtree_no_cycle returned _ .refl (.single child)

end AiEnterpriseOs.Memory
