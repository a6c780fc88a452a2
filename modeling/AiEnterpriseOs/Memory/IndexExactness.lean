import AiEnterpriseOs.Memory.Upkeep
import AiEnterpriseOs.Memory.Summary

/-!
# Exactness of the memory indices

An index stays exact through an operation that leaves every key of the live
object as it is, or adds to them. What an operation takes away from the object
before it is saved stays behind in the index.
-/

namespace AiEnterpriseOs.Memory

open Library

variable {Value : Type} {env : MemoryEnv Value}

namespace MemoryStore

/-- Every entry sits under its id and every index is exact. -/
structure WellIndexed (store : MemoryStore Value) : Prop where
  keyed : store.Keyed
  exact : ∀ kind, SecondaryIndex.Exact (MemoryEntry.indexKeys kind) (store.index kind) store.entries

/-- What `before` is listed under is dropped or kept when `after` is saved,
the removal going by the keys of `removed`. -/
def Covers (before removed after : MemoryEntry Value) : Prop :=
  ∀ kind, ∀ key ∈ before.indexKeys kind, key ∈ removed.removalKeys kind ∨ key ∈ after.indexKeys kind

theorem removal_keys_of_tier {entry : MemoryEntry Value} (tiered : entry.tier ≠ "")
    (kind : IndexKind) : entry.removalKeys kind = entry.indexKeys kind := by
  cases kind with
  | tierIndex => simp [MemoryEntry.removalKeys, MemoryEntry.indexKeys, tiered]
  | _ => rfl

theorem covers_of_tier {before after : MemoryEntry Value}
    (tier : before.tier = "" → after.tier = "") : Covers before before after := by
  intro kind key has
  by_cases tiered : before.tier = ""
  · cases kind with
    | tierIndex =>
      right
      simp only [MemoryEntry.indexKeys, List.mem_singleton] at has ⊢
      rw [has, tiered, tier tiered]
    | _ => exact Or.inl has
  · left
    rwa [removal_keys_of_tier tiered]

theorem covers_of_subset {before after : MemoryEntry Value}
    (kept : ∀ kind, before.indexKeys kind ⊆ after.indexKeys kind) :
    Covers before after after :=
  fun kind _ has => Or.inr (kept kind has)

section Preserved

variable {store : MemoryStore Value}

theorem WellIndexed.save (indexed : store.WellIndexed) (entry : MemoryEntry Value)
    (covered : ∀ old, store.entries.get? entry.id = some old → Covers old old entry) :
    (store.save env entry).state.WellIndexed where
  keyed := Keyed.save indexed.keyed entry
  exact kind := by
    rw [save_entries, save_index env entry store indexed.keyed]
    apply (indexed.exact kind).replace
    intro old stored key has
    rw [droppedKeys, stored]
    exact covered old stored kind key has

theorem WellIndexed.mutate (indexed : store.WellIndexed) (id : String)
    (change : MemoryEntry Value → MemoryEntry Value)
    (keepsId : ∀ entry, (change entry).id = entry.id)
    (sameKeys : ∀ entry, store.entries.get? id = some entry → ∀ kind,
      (change entry).indexKeys kind = entry.indexKeys kind) :
    (store.mutate id change).WellIndexed where
  keyed := Keyed.mutate indexed.keyed id change keepsId
  exact kind := (indexed.exact kind).modify id change fun entry stored =>
    sameKeys entry stored kind

/-- The object is saved after it was changed in place, so it is the changed
object that goes out of the indices before it goes in. -/
theorem WellIndexed.amend (indexed : store.WellIndexed) (id : String)
    (change : MemoryEntry Value → MemoryEntry Value)
    (keepsId : ∀ entry, (change entry).id = entry.id)
    (covered : ∀ entry, store.entries.get? id = some entry →
      Covers entry (change entry) (change entry)) :
    (store.amend env id change).state.WellIndexed where
  keyed := Keyed.amend indexed.keyed id change keepsId
  exact kind := by
    cases stored : store.entries.get? id with
    | none =>
      simp only [MemoryStore.amend, stored]
      exact indexed.exact kind
    | some entry =>
      have mutated : (store.mutate id change).Keyed :=
        Keyed.mutate indexed.keyed id change keepsId
      have sameId : (change entry).id = id := by
        rw [keepsId, indexed.keyed id entry stored]
      have current : (store.mutate id change).entries.get? id = some (change entry) := by
        rw [mutate_entries, if_pos rfl, stored]
        rfl
      have replaced := (indexed.exact kind).replace id (change entry)
        ((change entry).removalKeys kind) (by
          intro old found
          rw [stored] at found
          cases found
          exact covered entry stored kind)
      simp only [MemoryStore.amend, stored]
      rw [save_index env _ _ mutated, save_entries, sameId, droppedKeys, current]
      apply replaced.congr
      intro other
      rw [OrderedDict.get_set, OrderedDict.get_set, mutate_entries]
      by_cases here : other = id
      · simp [here]
      · simp [here]

theorem WellIndexed.amend_same (indexed : store.WellIndexed) (id : String)
    (change : MemoryEntry Value → MemoryEntry Value)
    (keepsId : ∀ entry, (change entry).id = entry.id)
    (sameKeys : ∀ entry, store.entries.get? id = some entry → ∀ kind,
      (change entry).indexKeys kind = entry.indexKeys kind) :
    (store.amend env id change).state.WellIndexed :=
  indexed.amend id change keepsId fun entry stored =>
    covers_of_subset fun kind => by
      rw [sameKeys entry stored kind]
      exact List.Subset.refl _

theorem WellIndexed.delete (indexed : store.WellIndexed) (id : String)
    (tiered : ∀ entry, store.entries.get? id = some entry → entry.tier ≠ "") :
    (store.delete env id).state.WellIndexed where
  keyed := Keyed.delete indexed.keyed id
  exact kind := by
    cases stored : store.entries.get? id with
    | none =>
      simp only [MemoryStore.delete, stored]
      exact indexed.exact kind
    | some entry =>
      simp only [MemoryStore.delete, stored, rebuild_entries, rebuild_index,
        removeFromIndices, indexed.keyed id entry stored]
      apply (indexed.exact kind).erase
      intro old found key has
      rw [stored] at found
      cases found
      rwa [removal_keys_of_tier (tiered entry stored)]

theorem WellIndexed.clear (indexed : store.WellIndexed)
    (empty : ∀ id, store.entries.get? id = none) : store.clear.WellIndexed where
  keyed := by
    intro id entry stored
    cases stored
  exact kind := by
    cases kind with
    | tierIndex => exact (indexed.exact .tierIndex).congr fun id => (empty id).symm
    | _ => exact SecondaryIndex.exact_empty

end Preserved

/-- In the loadable part of a file, the last record of every id has the index
keys of the earlier ones. -/
def KeysKept (file : LogFile Value) : Prop :=
  ∀ kind, ∀ entry ∈ loadable file.allLines, ∀ last,
    (OrderedDict.empty.setAll (byId (loadable file.allLines))).get? entry.id =
      some last → entry.indexKeys kind ⊆ last.indexKeys kind

theorem open_well_indexed (disk : Option (LogFile Value))
    (kept : ∀ file, disk = some file → KeysKept file) :
    (openStore disk).WellIndexed where
  keyed := open_keyed disk
  exact kind := by
    cases disk with
    | none => exact SecondaryIndex.exact_empty
    | some file =>
      rw [open_entries, open_index]
      apply SecondaryIndex.exact_collect
      intro line member last stored
      obtain ⟨listed, sameId⟩ := mem_by_id.mp member
      apply kept file rfl kind line.2 listed last
      rw [sameId]
      exact stored

/-! ## The operations -/

section Operations

variable {store : MemoryStore Value} {now : Time}

theorem WellIndexed.retrieve (indexed : store.WellIndexed) (id : String) :
    (store.retrieve env now id).state.WellIndexed :=
  indexed.amend_same id _ (fun _ => rfl) fun _ _ kind => by cases kind <;> rfl

theorem WellIndexed.archive (indexed : store.WellIndexed) (id : String) :
    (store.archive env now id).state.WellIndexed :=
  indexed.amend_same id _ (fun _ => rfl) fun _ _ kind => by cases kind <;> rfl

theorem WellIndexed.unarchive (indexed : store.WellIndexed) (id : String) :
    (store.unarchive env now id).state.WellIndexed :=
  indexed.amend_same id _ (fun _ => rfl) fun _ _ kind => by cases kind <;> rfl

theorem WellIndexed.archiveListed (indexed : store.WellIndexed)
    (condition : MemoryEntry Value → Bool) (listed : List (MemoryEntry Value)) :
    (store.archiveListed env now condition listed).state.WellIndexed := by
  apply Outcome.for_each_state WellIndexed _ listed _ store indexed
  intro entry _ store indexed
  split
  · exact indexed
  · split
    · exact indexed.archive _
    · exact indexed

theorem summarized_id (entry : MemoryEntry Value) : (entry.summarized env).id = entry.id := by
  unfold MemoryEntry.summarized
  split <;> rfl

theorem summarized_keys (entry : MemoryEntry Value) (kind : IndexKind) :
    (entry.summarized env).indexKeys kind = entry.indexKeys kind := by
  unfold MemoryEntry.summarized
  split
  · rfl
  · cases kind <;> rfl

theorem apply_update_keys (fields : UpdateFields Value)
    (entry : MemoryEntry Value) (kind : IndexKind) :
    (entry.applyUpdate env fields now).indexKeys kind =
      (entry.assignFields fields now).indexKeys kind := by
  unfold MemoryEntry.applyUpdate
  split
  · rfl
  · rw [summarized_keys]

theorem assigned_keys (fields : UpdateFields Value) (entry : MemoryEntry Value)
    (kept : ∀ tags, fields.tags = some tags → entry.tags ⊆ tags)
    (kind : IndexKind) :
    entry.indexKeys kind ⊆ (entry.assignFields fields now).indexKeys kind := by
  cases kind with
  | tagIndex =>
    change entry.tags ⊆ fields.tags.getD entry.tags
    cases given : fields.tags with
    | none => exact List.Subset.refl _
    | some tags => exact kept tags given
  | namespaceIndex => exact List.Subset.refl _
  | typeIndex => exact List.Subset.refl _
  | parentIndex => exact List.Subset.refl _
  | tierIndex => exact List.Subset.refl _

/-- Exact indices, and a condition on the entry under one id. -/
def IndexedWith (id : String) (holds : MemoryEntry Value → Prop)
    (store : MemoryStore Value) : Prop :=
  store.WellIndexed ∧ ∀ entry, store.get id = some entry → holds entry

/-- Exact indices, and a condition on all entries. -/
def IndexedAll (holds : MemoryEntry Value → Prop) (store : MemoryStore Value) :
    Prop :=
  store.WellIndexed ∧ store.All fun _ entry => holds entry

theorem IndexedWith.retrieve {id : String} {holds : MemoryEntry Value → Prop}
    (reached : store.IndexedWith id holds)
    (touched : ∀ entry, holds entry → holds (entry.touch now)) :
    (store.retrieve env now id).state.IndexedWith id holds := by
  constructor
  · exact reached.1.retrieve id
  · intro entry stored
    obtain ⟨before, found, same | changed⟩ := retrieve_stored env reached.1.keyed stored
    · rw [same]
      exact reached.2 before found
    · rw [changed]
      exact touched before (reached.2 before found)

theorem WellIndexed.update (indexed : store.WellIndexed) (id : String) (fields : UpdateFields Value)
    (kept : ∀ entry, store.get id = some entry → ∀ tags,
      fields.tags = some tags → entry.tags ⊆ tags) :
    (store.update env now id fields).state.WellIndexed := by
  apply Outcome.and_then_state (IndexedWith id fun entry =>
    ∀ tags, fields.tags = some tags → entry.tags ⊆ tags)
  · exact IndexedWith.retrieve ⟨indexed, kept⟩ fun _ holds => holds
  · exact fun _ reached => reached.1
  · intro store reached
    apply reached.1.amend id _ (MemoryEntry.apply_update_id env fields now)
    intro entry stored
    apply covers_of_subset
    intro kind
    rw [apply_update_keys]
    exact assigned_keys fields entry (reached.2 entry stored) kind

theorem WellIndexed.promoteToLongTerm (indexed : store.WellIndexed)
    (id : String) (minImportance : Rat)
    (kept : ∀ entry, store.get id = some entry →
      minImportance ≤ entry.importance → entry.tier = "long_term") :
    (store.promoteToLongTerm env now id minImportance).state.WellIndexed := by
  apply Outcome.and_then_state (IndexedWith id fun entry =>
    minImportance ≤ entry.importance → entry.tier = "long_term")
  · exact IndexedWith.retrieve ⟨indexed, kept⟩ fun _ holds => holds
  · exact fun _ reached => reached.1
  · intro store reached
    split
    · exact reached.1
    next entry stored =>
      split
      next important =>
        apply reached.1.amend_same id MemoryEntry.promoted fun _ => rfl
        intro other found kind
        have same : entry = other := Option.some.inj (stored.symm.trans found)
        subst same
        cases kind with
        | tierIndex =>
          change ["long_term"] = [entry.tier]
          rw [reached.2 entry stored important]
        | _ => rfl
      · exact reached.1

theorem retired_keys {entry : MemoryEntry Value} (tier : entry.tier = "archived")
    (kind : IndexKind) :
    (entry.retired now).indexKeys kind = entry.indexKeys kind := by
  cases kind with
  | tierIndex =>
    change ["archived"] = [entry.tier]
    rw [tier]
  | _ => rfl

theorem WellIndexed.demoteToArchived (indexed : store.WellIndexed)
    (id : String) (importanceThreshold : Rat)
    (kept : ∀ entry, store.get id = some entry →
      entry.importance < importanceThreshold → entry.tier = "archived") :
    (store.demoteToArchived env now id importanceThreshold).state.WellIndexed := by
  apply Outcome.and_then_state (IndexedWith id fun entry =>
    entry.importance < importanceThreshold → entry.tier = "archived")
  · exact IndexedWith.retrieve ⟨indexed, kept⟩ fun _ holds => holds
  · exact fun _ reached => reached.1
  · intro store reached
    split
    · exact reached.1
    next entry stored =>
      split
      next unimportant =>
        apply WellIndexed.archive
        apply reached.1.mutate id (MemoryEntry.retired now) fun _ => rfl
        intro other found kind
        have same : entry = other := Option.some.inj (stored.symm.trans found)
        subst same
        exact retired_keys (reached.2 entry stored unimportant) kind
      · exact reached.1

/-- The assignment to the child is never saved: its index keys have to be the
new ones already. -/
theorem WellIndexed.linkMemories (indexed : store.WellIndexed) (parentId childId : String)
    (kept : ∀ parent child, store.get parentId = some parent → store.get childId = some child →
        parentKeys child.parentId = parentKeys (some parentId)) :
    (store.linkMemories env now parentId childId).state.WellIndexed := by
  let linked (store : MemoryStore Value) : Prop :=
    store.WellIndexed ∧ ∀ parent child, store.get parentId = some parent →
      store.get childId = some child → parentKeys child.parentId = parentKeys (some parentId)
  have touched : ∀ (store : MemoryStore Value) (id : String), linked store →
      linked (store.retrieve env now id).state := by
    intro store id reached
    refine ⟨reached.1.retrieve id, ?_⟩
    intro parent child foundParent foundChild
    obtain ⟨_, parentBefore, _⟩ := retrieve_stored env reached.1.keyed foundParent
    obtain ⟨before, childBefore, same | changed⟩ :=
      retrieve_stored env reached.1.keyed foundChild
    · rw [same]
      exact reached.2 _ before parentBefore childBefore
    · rw [changed]
      exact reached.2 _ before parentBefore childBefore
  apply Outcome.and_then_state linked
  · exact touched store parentId ⟨indexed, kept⟩
  · exact fun _ reached => reached.1
  · intro store reached
    apply Outcome.and_then_state linked
    · exact touched store childId reached
    · exact fun _ reached => reached.1
    · intro store reached
      split
      next parent child foundParent foundChild =>
        apply reached.1.mutate childId (MemoryEntry.linkedTo parentId) fun _ => rfl
        intro other found kind
        have same : child = other := Option.some.inj (foundChild.symm.trans found)
        subst same
        cases kind with
        | parentIndex => exact (reached.2 parent child foundParent foundChild).symm
        | _ => rfl
      · exact reached.1

/-! ## Loops -/

theorem IndexedAll.retire {holds : MemoryEntry Value → Prop}
    (reached : store.IndexedAll holds) {id : String} {live : MemoryEntry Value}
    (stored : store.get id = some live) (tier : live.tier = "archived")
    (retires : holds (live.retired now)) :
    (store.amend env live.id (MemoryEntry.retired now)).state.IndexedAll holds := by
  have current : ∀ other, store.entries.get? live.id = some other → live = other := by
    intro other found
    rw [reached.1.keyed _ live stored] at found
    exact Option.some.inj (stored.symm.trans found)
  constructor
  · apply reached.1.amend_same live.id (MemoryEntry.retired now) fun _ => rfl
    intro other found kind
    rw [← current other found]
    exact retired_keys tier kind
  · apply All.amend reached.2 reached.1.keyed live.id (MemoryEntry.retired now) fun _ => rfl
    intro other found
    rw [← current other found]
    exact retires

/-- Entries that expire are in the tier they are moved to. -/
def Retires (now : Time) (holds : MemoryEntry Value → Prop) : Prop :=
  ∀ entry, holds entry → entry.expired now = true →
    entry.tier = "archived" ∧ holds (entry.retired now)

theorem IndexedAll.cleanupExpired {holds : MemoryEntry Value → Prop}
    (reached : store.IndexedAll holds) (retires : Retires now holds) :
    (store.cleanupExpired env now).state.IndexedAll holds := by
  apply Outcome.for_each_state (IndexedAll _) _ _ _ store reached
  intro entry _ store reached
  unfold MemoryStore.cleanupEntry
  split
  · exact reached
  next live stored =>
    split
    next expired =>
      obtain ⟨tier, kept⟩ := retires live (reached.2 _ live stored) expired
      exact reached.retire stored tier kept
    · exact reached

/-- An entry that tier management moves to no other tier. -/
def Placed (promoteThreshold demoteThreshold : Rat) (now : Time)
    (entry : MemoryEntry Value) : Prop :=
  ¬(entry.tier = "working" ∧ promoteThreshold ≤ entry.importance) ∧
    ¬((entry.tier = "short_term" ∨ entry.tier = "long_term") ∧ entry.importance < demoteThreshold) ∧
    (entry.expired now = true → entry.tier = "archived")

theorem retired_placed {promoteThreshold demoteThreshold : Rat} (entry : MemoryEntry Value) :
    Placed promoteThreshold demoteThreshold now (entry.retired now) := by
  simp [Placed, MemoryEntry.retired]

theorem IndexedAll.applyTierManagement {promoteThreshold demoteThreshold : Rat}
    (reached : store.IndexedAll (Placed promoteThreshold demoteThreshold now)) :
    (store.applyTierManagement env now promoteThreshold demoteThreshold).state.IndexedAll
        (Placed promoteThreshold demoteThreshold now) := by
  have retires : @Retires Value now (Placed promoteThreshold demoteThreshold now) :=
    fun entry placed expired => ⟨placed.2.2 expired, retired_placed entry⟩
  apply Outcome.for_each_state (IndexedAll _) _ _ _ store reached
  intro entry _ store reached
  have unmoved : store.moveEntry env now promoteThreshold demoteThreshold entry =
      .returning store := by
    unfold MemoryStore.moveEntry
    split
    · rfl
    next live stored =>
      have placed := reached.2 _ live stored
      rw [if_neg placed.1, if_neg placed.2.1]
  rw [unmoved, Outcome.returning_and_then, MemoryStore.expireEntry]
  split
  · exact reached
  next live stored =>
    split
    next expired =>
      obtain ⟨tier, kept⟩ := retires live (reached.2 _ live stored) expired
      apply Outcome.and_then_state _ (reached.retire stored tier kept)
      · exact fun _ reached => reached
      · exact fun _ reached => reached.cleanupExpired retires
    · exact reached

theorem WellIndexed.purgeArchived (indexed : store.WellIndexed)
    (tiered : ∀ id entry, store.get id = some entry → entry.archived = true →
      entry.tier ≠ "") : (store.purgeArchived env).state.WellIndexed := by
  let ids := (store.getAll.filter fun entry => entry.archived).map fun entry => entry.id
  have initial : store.All fun id entry => id ∈ ids → entry.tier ≠ "" := by
    intro id entry stored listed
    obtain ⟨archived, member, sameId⟩ := List.mem_map.mp listed
    obtain ⟨present, isArchived⟩ := List.mem_filter.mp member
    have found := indexed.keyed.get_listed present
    rw [sameId] at found
    cases stored.symm.trans found
    exact tiered id entry stored isArchived
  apply Outcome.for_each_remaining (fun rest store =>
    store.WellIndexed ∧ store.All fun id entry => id ∈ rest → entry.tier ≠ "")
  · intro id rest store reached
    constructor
    · exact reached.1.delete id fun entry stored =>
        reached.2 id entry stored List.mem_cons_self
    · apply All.delete
      intro other entry stored listed
      exact reached.2 other entry stored (List.mem_cons_of_mem _ listed)
  · exact fun _ _ reached => reached.1
  · exact ⟨indexed, initial⟩

/-- An entry that the retention policy purges has a tier to be found under. -/
def PurgeTiered (maxAgeDays maxVersions : Int) (minImportance : Rat)
    (autoPurge : Bool) (now : Time) (entry : MemoryEntry Value) : Prop :=
  autoPurge = true → entry.archived = true →
    entry.retentionReason maxAgeDays maxVersions minImportance now = true → entry.tier ≠ ""

theorem WellIndexed.applyRetentionPolicy (indexed : store.WellIndexed)
    {maxAgeDays maxVersions : Int} {minImportance : Rat} {autoPurge : Bool}
    (tiered : ∀ id entry, store.get id = some entry →
      PurgeTiered maxAgeDays maxVersions minImportance autoPurge now entry) :
    (store.applyRetentionPolicy env now maxAgeDays maxVersions minImportance
      autoPurge).state.WellIndexed :=
  retention_invariant (fun entry => entry.tier ≠ "")
    (fun _ indexed => indexed.keyed) (fun _ id indexed => indexed.archive id)
    (fun _ id indexed tiered => indexed.delete id tiered) indexed tiered

/-- Every entry that a restore saves can take the place of what is stored
under its id by then, be it an entry of the store or of the snapshot. -/
def Restorable (entries : List (MemoryEntry Value)) (store : MemoryStore Value) :
    Prop :=
  ∀ entry ∈ entries, ∀ old : MemoryEntry Value,
    (store.get entry.id = some old ∨ old ∈ entries ∧ old.id = entry.id) →
      old.tier = "" → entry.tier = ""

theorem WellIndexed.restoreEntries (indexed : store.WellIndexed)
    (entries : List (MemoryEntry Value)) (restorable : Restorable entries store) :
    (store.restoreEntries env entries).state.WellIndexed := by
  apply Outcome.for_each_remaining (fun rest store =>
    store.WellIndexed ∧ rest ⊆ entries ∧ store.All fun id old =>
      ∀ entry ∈ entries, entry.id = id → old.tier = "" → entry.tier = "")
  · intro entry rest store reached
    have listed : entry ∈ entries := reached.2.1 List.mem_cons_self
    have later : rest ⊆ entries := fun other member =>
      reached.2.1 (List.mem_cons_of_mem _ member)
    split
    · refine ⟨reached.1.save entry ?_, later, ?_⟩
      · intro old stored
        exact covers_of_tier (reached.2.2 entry.id old stored entry listed rfl)
      · apply All.save reached.2.2
        intro other member sameId
        exact restorable other member entry (Or.inr ⟨listed, sameId.symm⟩)
    · exact ⟨reached.1, later, reached.2.2⟩
  · exact fun _ _ reached => reached.1
  · refine ⟨indexed, List.Subset.refl _, ?_⟩
    rintro id old stored entry member rfl
    exact restorable entry member old (Or.inl stored)

end Operations

/-! ## Reading through exact indices -/

section Reading

variable {store : MemoryStore Value}

theorem WellIndexed.get_by (indexed : store.WellIndexed) (kind : IndexKind)
    (key : String) (has : MemoryEntry Value → Prop) [DecidablePred has]
    (named : ∀ entry : MemoryEntry Value, key ∈ entry.indexKeys kind ↔ has entry) :
    (store.getBy kind key).Perm (store.getAll.filter has) := by
  have selected := (indexed.exact kind).select_perm key
  simp only [named] at selected
  exact selected

theorem WellIndexed.listed_iff (indexed : store.WellIndexed)
    {entry : MemoryEntry Value} (present : entry ∈ store.getAll)
    (kind : IndexKind) (key : String) :
    entry.id ∈ ((store.index kind).bucket key).ids ↔ key ∈ entry.indexKeys kind := by
  have stored := indexed.keyed.get_listed present
  rw [indexed.exact kind key entry.id]
  constructor
  · rintro ⟨other, found, has⟩
    cases stored.symm.trans found
    exact has
  · intro has
    exact ⟨entry, stored, has⟩

theorem WellIndexed.search (indexed : store.WellIndexed) (filters : SearchFilters Value) :
    store.search env filters = store.scan env filters := by
  have same : ∀ (kind : IndexKind) (key : String), ∀ entry ∈ store.getAll,
      decide (entry.id ∈ ((store.index kind).bucket key).ids) =
        decide (key ∈ entry.indexKeys kind) := by
    intro kind key entry present
    exact decide_eq_decide.mpr (indexed.listed_iff present kind key)
  unfold MemoryStore.search scan filterEntries
  simp only [List.filter_filter]
  congr 1
  apply List.filter_congr
  intro entry present
  simp only [same _ _ entry present]

theorem mem_parent_keys {parentId : Option String} {parent : String}
    (named : parent ≠ "") : parent ∈ parentKeys parentId ↔ parentId = some parent := by
  cases parentId with
  | none => simp [parentKeys]
  | some other =>
    unfold parentKeys
    by_cases empty : other = ""
    · simp [empty, named, eq_comm]
    · simp [empty, eq_comm]

end Reading

end MemoryStore

/-! ## Runs of the engine -/

namespace MemoryEngine

variable (config : MemoryConfig)

/-- The operation takes no index key away from a stored object before the
object is taken out of the indices, as far as the state before it tells. -/
def KeepsIndexKeys (engine : MemoryEngine Value) (input : MemoryInput Value) :
    Prop :=
  let store := engine.store
  match input.op with
  | .save _ =>
    ∀ old ∈ store.get (memoryId input.now (engine.counter + 1)), old.tier ≠ ""
  | .saveEntry entry =>
    ∀ old ∈ store.get entry.id, old.tier = "" → entry.tier = ""
  | .update id fields =>
    ∀ entry ∈ store.get id, ∀ tags ∈ fields.tags, entry.tags ⊆ tags
  | .delete id => ∀ entry ∈ store.get id, entry.tier ≠ ""
  | .purgeArchived =>
    ∀ id, ∀ entry ∈ store.get id, entry.archived = true → entry.tier ≠ ""
  | .applyRetentionPolicy =>
    ∀ id, ∀ entry ∈ store.get id,
      MemoryStore.PurgeTiered (orDefault config.retention.maxAgeDays 365)
        (orDefault config.retention.maxVersions 5) config.retention.minImportance
        config.retention.autoPurge input.now entry
  | .restoreSnapshot snapshotId =>
    ∀ entries ∈ engine.snapshots.get? snapshotId, MemoryStore.Restorable entries store
  | .linkMemories parentId childId =>
    ∀ _ ∈ store.get parentId, ∀ child ∈ store.get childId,
      parentKeys child.parentId = parentKeys (some parentId)
  | .promoteToLongTerm id minImportance =>
    ∀ entry ∈ store.get id, minImportance ≤ entry.importance → entry.tier = "long_term"
  | .demoteToArchived id importanceThreshold =>
    ∀ entry ∈ store.get id, entry.importance < importanceThreshold → entry.tier = "archived"
  | .cleanupExpired =>
    ∀ id, ∀ entry ∈ store.get id, entry.expired input.now = true → entry.tier = "archived"
  | .applyTierManagement promoteThreshold demoteThreshold =>
    ∀ id, ∀ entry ∈ store.get id,
      MemoryStore.Placed promoteThreshold demoteThreshold input.now entry
  | .clear => ∀ id, store.get id = none
  | .reload => ∀ file ∈ store.disk, MemoryStore.KeysKept file
  | _ => True

theorem step_well_indexed (engine : MemoryEngine Value)
    (input : MemoryInput Value) (indexed : engine.store.WellIndexed)
    (kept : KeepsIndexKeys config engine input) :
    (step env config engine input).store.WellIndexed := by
  obtain ⟨op, now⟩ := input
  cases op with
  | save fields =>
    change (engine.save env config fields now).state.store.WellIndexed
    rcases save_cases env config fields now engine with ⟨_, saved⟩ | ⟨_, refused⟩
    · rw [saved]
      apply indexed.save
      intro old stored
      rw [MemoryStore.summarized_id] at stored
      apply MemoryStore.covers_of_tier
      intro untiered
      exact absurd untiered (kept old stored)
    · rw [refused]
      exact indexed
  | retrieve id => exact indexed.retrieve id
  | update id fields => exact indexed.update id fields kept
  | delete id => exact indexed.delete id kept
  | archive id => exact indexed.archive id
  | unarchive id => exact indexed.unarchive id
  | archiveOlderThan days => exact indexed.archiveListed _ _
  | archiveByType memoryType => exact indexed.archiveListed _ _
  | archiveByNamespace memoryNamespace => exact indexed.archiveListed _ _
  | purgeArchived => exact indexed.purgeArchived kept
  | applyRetentionPolicy => exact indexed.applyRetentionPolicy kept
  | snapshot ids =>
    change (engine.createSnapshot env ids now).state.store.WellIndexed
    rw [create_snapshot_store]
    exact indexed
  | restoreSnapshot snapshotId =>
    change (engine.restoreSnapshot env snapshotId).state.store.WellIndexed
    unfold restoreSnapshot
    split
    · exact indexed
    next entries stored => exact indexed.restoreEntries entries (kept entries stored)
  | deleteSnapshot snapshotId => exact indexed
  | linkMemories parentId childId =>
    apply indexed.linkMemories parentId childId
    intro parent child foundParent foundChild
    exact kept parent foundParent child foundChild
  | promoteToLongTerm id minImportance =>
    exact indexed.promoteToLongTerm id minImportance kept
  | demoteToArchived id importanceThreshold =>
    exact indexed.demoteToArchived id importanceThreshold kept
  | cleanupExpired =>
    have cleaned : (engine.store.cleanupExpired env now).state.IndexedAll
        fun entry => entry.expired now = true → entry.tier = "archived" :=
      MemoryStore.IndexedAll.cleanupExpired ⟨indexed, kept⟩
        fun entry holds expired => ⟨holds expired, fun _ => rfl⟩
    exact cleaned.1
  | applyTierManagement promoteThreshold demoteThreshold =>
    exact (MemoryStore.IndexedAll.applyTierManagement ⟨indexed, kept⟩).1
  | clear => exact indexed.clear kept
  | reload => exact MemoryStore.open_well_indexed engine.store.disk kept
  | saveEntry entry =>
    apply indexed.save
    intro old stored
    exact MemoryStore.covers_of_tier (kept old stored)

/-- In every run whose operations take no index key away unsaved, all five
indices are exact, and every reading through them is the linear scan. -/
theorem indices_stay_exact (disk : Option (LogFile Value)) (inputs : List (MemoryInput Value))
    (opened : ∀ file ∈ disk, MemoryStore.KeysKept file)
    (meets : StepsMeet (step env config) (KeepsIndexKeys config) (openEngine disk) inputs) :
    let store := (runs env config (openEngine disk) inputs).store
    (∀ kind key id, id ∈ ((store.index kind).bucket key).ids ↔
      ∃ entry, store.get id = some entry ∧ key ∈ entry.indexKeys kind) ∧
    (∀ tag, (store.getByTag tag).Perm (store.getAll.filter fun entry => tag ∈ entry.tags)) ∧
    (∀ tier, (store.getByTier tier).Perm (store.getAll.filter fun entry => entry.tier = tier)) ∧
    (∀ memoryType, (store.getByType memoryType).Perm
      (store.getAll.filter fun entry => entry.memoryType.value = memoryType)) ∧
    (∀ memoryNamespace, (store.getByNamespace memoryNamespace).Perm
      (store.getAll.filter fun entry =>
        entry.memoryNamespace.value = memoryNamespace)) ∧
    (∀ parentId, parentId ≠ "" → (store.getChildren parentId).Perm
      (store.getAll.filter fun entry => entry.parentId = some parentId)) ∧
    ∀ filters, store.search env filters = store.scan env filters := by
  have indexed : (runs env config (openEngine disk) inputs).store.WellIndexed :=
    invariant_of_steps_meet (step env config)
      (fun engine input => step_well_indexed config engine input)
      (openEngine disk) inputs (MemoryStore.open_well_indexed disk opened) meets
  intro store
  refine ⟨fun kind key id => indexed.exact kind key id, ?_, ?_, ?_, ?_, ?_, indexed.search⟩
  · intro tag
    exact indexed.get_by .tagIndex tag _ fun _ => Iff.rfl
  · intro tier
    exact indexed.get_by .tierIndex tier _ fun entry => by
      rw [MemoryEntry.indexKeys, List.mem_singleton, eq_comm]
  · intro memoryType
    exact indexed.get_by .typeIndex memoryType _ fun entry => by
      rw [MemoryEntry.indexKeys, List.mem_singleton, eq_comm]
  · intro memoryNamespace
    exact indexed.get_by .namespaceIndex memoryNamespace _ fun entry => by
      rw [MemoryEntry.indexKeys, List.mem_singleton, eq_comm]
  · intro parentId named
    exact indexed.get_by .parentIndex parentId _ fun entry =>
      MemoryStore.mem_parent_keys named

/-- A tag is added to a saved entry, which is then archived. -/
def taggingInputs : List (MemoryInput PyValue) :=
  [ { op := .save { content := OrderedDict.empty, tags := ["a"] }, now := 1 },
    { op := .update "mem_1_0001" { tags := some ["b", "a"] }, now := 2 },
    { op := .archive "mem_1_0001", now := 3 } ]

theorem tagging_run_indexed :
    ((runs textEnv {} (openEngine none) taggingInputs).store.getByTag "b").Perm
      ((runs textEnv {} (openEngine none) taggingInputs).store.getAll.filter
        fun entry => "b" ∈ entry.tags) := by
  apply (indices_stay_exact {} none taggingInputs ?_ ?_).2.1 "b"
  · intro file opened
    cases opened
  · refine ⟨?_, ?_, trivial, trivial⟩
    · intro old stored
      cases stored
    · change ∀ entry ∈ MemoryStore.get _ "mem_1_0001", ∀ tags ∈ some ["b", "a"], entry.tags ⊆ tags
      decide +kernel

/-- Dropping a tag leaves the entry in the bucket of the tag: the object was
changed before `save` looked up what to take out. -/
theorem dropped_tag_stays_indexed : ∃ entry ∈ (runs textEnv {} (openEngine none)
      [ { op := .save { content := OrderedDict.empty, tags := ["a"] }, now := 1 },
        { op := .update "mem_1_0001" { tags := some [] }, now := 2 } ]).store.getByTag
          "a", "a" ∉ entry.tags := by
  decide +kernel

end MemoryEngine

end AiEnterpriseOs.Memory
