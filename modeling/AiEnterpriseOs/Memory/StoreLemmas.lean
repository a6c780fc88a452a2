import AiEnterpriseOs.Library.OptionFold
import AiEnterpriseOs.Memory.Engine

/-!
# What the store operations do to table and indices

Writing to disk leaves both as they are, so each operation is one change of
the table and one of the indices whether or not the write succeeds.
-/

namespace AiEnterpriseOs.Memory

open Library

namespace MemoryStore

variable {Value : Type} (env : MemoryEnv Value)

@[simp] theorem append_entries (entry : MemoryEntry Value) (store : MemoryStore Value) :
    (store.appendToDisk env entry).state.entries = store.entries := by
  unfold appendToDisk
  split
  · rfl
  · split <;> rfl

@[simp] theorem append_index (entry : MemoryEntry Value) (store : MemoryStore Value) :
    (store.appendToDisk env entry).state.index = store.index := by
  unfold appendToDisk
  split
  · rfl
  · split <;> rfl

theorem append_has_disk (entry : MemoryEntry Value) (store : MemoryStore Value) :
    (store.appendToDisk env entry).state.disk.isSome = store.disk.isSome := by
  unfold appendToDisk
  split
  · rfl
  next file recorded =>
    split
    · rfl
    · rw [recorded]
      rfl

theorem append_returned (entry : MemoryEntry Value) (store : MemoryStore Value) :
    (store.appendToDisk env entry).returned = !(store.disk.isSome && (env.dump entry).isNone) := by
  unfold appendToDisk
  split
  next absent => simp [absent]
  next file recorded =>
    split
    next refused => simp [recorded, refused]
    next line dumped => simp [recorded, dumped]

@[simp] theorem rebuild_entries (store : MemoryStore Value) :
    (store.rebuildDisk env).state.entries = store.entries := by
  unfold rebuildDisk
  split <;> rfl

@[simp] theorem rebuild_index (store : MemoryStore Value) :
    (store.rebuildDisk env).state.index = store.index := by
  unfold rebuildDisk
  split <;> rfl

/-- Each entry sits under its own id. -/
def Keyed (store : MemoryStore Value) : Prop :=
  ∀ id entry, store.entries.get? id = some entry → entry.id = id

/-- The keys that `save` takes out of an index for the id it stores under. -/
def droppedKeys (store : MemoryStore Value) (id : String) (kind : IndexKind) :
    List String :=
  match store.entries.get? id with
  | none => []
  | some old => old.removalKeys kind

theorem save_entries (entry : MemoryEntry Value) (store : MemoryStore Value) :
    (store.save env entry).state.entries = store.entries.set entry.id entry := by
  unfold save
  cases store.entries.get? entry.id <;> simp [addToIndices, removeFromIndices]

theorem save_has_disk (entry : MemoryEntry Value) (store : MemoryStore Value) :
    (store.save env entry).state.disk.isSome = store.disk.isSome := by
  unfold save
  cases store.entries.get? entry.id <;> exact append_has_disk env entry _

theorem save_returned (entry : MemoryEntry Value) (store : MemoryStore Value) :
    (store.save env entry).returned = !(store.disk.isSome && (env.dump entry).isNone) := by
  unfold save
  cases store.entries.get? entry.id <;> exact append_returned env entry _

theorem save_index (entry : MemoryEntry Value) (store : MemoryStore Value)
    (keyed : store.Keyed) (kind : IndexKind) :
    (store.save env entry).state.index kind =
      ((store.index kind).discardAll entry.id (store.droppedKeys entry.id kind)).addAll
        entry.id (entry.indexKeys kind) := by
  unfold save droppedKeys
  cases stored : store.entries.get? entry.id with
  | none => simp [addToIndices, SecondaryIndex.discardAll]
  | some old => simp [addToIndices, removeFromIndices, keyed _ _ stored]

theorem mutate_entries (id : String)
    (change : MemoryEntry Value → MemoryEntry Value) (store : MemoryStore Value)
    (other : String) :
    (store.mutate id change).entries.get? other =
      if other = id then (store.entries.get? id).map change
      else store.entries.get? other :=
  OrderedDict.get_modify store.entries id other change

theorem amend_entries (id : String) (change : MemoryEntry Value → MemoryEntry Value)
    (keepsId : ∀ entry, (change entry).id = entry.id) (store : MemoryStore Value)
    (keyed : store.Keyed) (other : String) :
    (store.amend env id change).state.entries.get? other =
      if other = id then (store.entries.get? id).map change
      else store.entries.get? other := by
  unfold amend
  cases stored : store.entries.get? id with
  | none =>
    by_cases here : other = id
    · simp [here, stored]
    · simp [here]
  | some entry =>
    have sameId : (change entry).id = id := by
      rw [keepsId, keyed id entry stored]
    rw [save_entries, sameId, OrderedDict.get_set, mutate_entries, stored]
    by_cases here : other = id
    · simp [here]
    · simp [here]

theorem delete_entries (id : String) (store : MemoryStore Value) (other : String) :
    (store.delete env id).state.entries.get? other =
      if other = id then none else store.entries.get? other := by
  unfold delete
  cases stored : store.entries.get? id with
  | none =>
    by_cases here : other = id
    · simp [here, stored]
    · simp [here]
  | some entry => simp [removeFromIndices, OrderedDict.get_erase]

theorem write_lines_returned (entries : List (MemoryEntry Value)) :
    (writeLines env entries).returned = !entries.any fun entry => (env.dump entry).isNone := by
  induction entries with
  | nil => rfl
  | cons entry rest ih =>
    rw [writeLines, List.any_cons]
    cases dumped : env.dump entry with
    | none => simp
    | some line => simpa using ih

theorem delete_has_disk (id : String) (store : MemoryStore Value) :
    (store.delete env id).state.disk.isSome = store.disk.isSome := by
  unfold delete
  cases store.entries.get? id with
  | none => rfl
  | some entry =>
    unfold rebuildDisk
    cases recorded : store.disk <;> simp [removeFromIndices, recorded]

theorem delete_returned {id : String} {entry : MemoryEntry Value}
    {store : MemoryStore Value} (stored : store.get id = some entry) :
    (store.delete env id).returned =
      !(store.disk.isSome && (store.entries.erase id).values.any fun other =>
        (env.dump other).isNone) := by
  rw [MemoryStore.get] at stored
  simp only [delete, stored, rebuildDisk, removeFromIndices]
  cases recorded : store.disk with
  | none => rfl
  | some file => simp [write_lines_returned]

/-! ## Properties of every stored entry -/

section AllEntries

variable {env} {holds : String → MemoryEntry Value → Prop}

/-- Every stored entry has a property, which may speak of its id. -/
def All (holds : String → MemoryEntry Value → Prop) (store : MemoryStore Value) :
    Prop :=
  ∀ id entry, store.entries.get? id = some entry → holds id entry

theorem All.of_get {store after : MemoryStore Value} (all : store.All holds)
    (same : ∀ id, after.entries.get? id = store.entries.get? id) :
    after.All holds := by
  intro id entry stored
  rw [same id] at stored
  exact all id entry stored

theorem All.mutate {store : MemoryStore Value} (all : store.All holds)
    (id : String) (change : MemoryEntry Value → MemoryEntry Value)
    (keeps : ∀ entry, store.entries.get? id = some entry → holds id (change entry)) :
    (store.mutate id change).All holds := by
  intro other entry stored
  rw [mutate_entries] at stored
  split at stored
  next here =>
      obtain ⟨old, found, changed⟩ := Option.map_eq_some_iff.mp stored
      rw [here, ← changed]
      exact keeps old found
  · exact all other entry stored

theorem All.save {store : MemoryStore Value} (all : store.All holds)
    (entry : MemoryEntry Value) (keeps : holds entry.id entry) :
    (store.save env entry).state.All holds := by
  unfold MemoryStore.All
  rw [save_entries]
  exact OrderedDict.forall_set keeps all

theorem All.delete {store : MemoryStore Value} (all : store.All holds)
    (id : String) : (store.delete env id).state.All holds := by
  intro other entry stored
  rw [delete_entries] at stored
  split at stored
  · cases stored
  · exact all other entry stored

theorem Keyed.mutate {store : MemoryStore Value} (keyed : store.Keyed)
    (id : String) (change : MemoryEntry Value → MemoryEntry Value)
    (keepsId : ∀ entry, (change entry).id = entry.id) :
    (store.mutate id change).Keyed := by
  apply @All.mutate Value (fun id entry => entry.id = id) store keyed id change
  intro entry stored
  rw [keepsId, keyed id entry stored]

theorem All.amend {store : MemoryStore Value} (all : store.All holds)
    (keyed : store.Keyed) (id : String)
    (change : MemoryEntry Value → MemoryEntry Value)
    (keepsId : ∀ entry, (change entry).id = entry.id)
    (keeps : ∀ entry, store.entries.get? id = some entry → holds id (change entry)) :
    (store.amend env id change).state.All holds := by
  apply (All.mutate all id change keeps).of_get
  intro other
  rw [amend_entries env id change keepsId store keyed, mutate_entries]

theorem Keyed.save {store : MemoryStore Value} (keyed : store.Keyed)
    (entry : MemoryEntry Value) : (store.save env entry).state.Keyed :=
  All.save keyed entry rfl

theorem Keyed.amend {store : MemoryStore Value} (keyed : store.Keyed)
    (id : String) (change : MemoryEntry Value → MemoryEntry Value)
    (keepsId : ∀ entry, (change entry).id = entry.id) :
    (store.amend env id change).state.Keyed :=
  All.amend keyed keyed id change keepsId fun entry stored => by
    rw [keepsId, keyed id entry stored]

theorem Keyed.delete {store : MemoryStore Value} (keyed : store.Keyed)
    (id : String) : (store.delete env id).state.Keyed :=
  All.delete keyed id

end AllEntries

theorem Keyed.ids_listed {store : MemoryStore Value} (keyed : store.Keyed) :
    store.getAll.map (fun entry => entry.id) = store.entries.keys := by
  rw [getAll, OrderedDict.values, List.map_map]
  apply List.map_congr_left
  intro item member
  exact keyed item.1 item.2 ((OrderedDict.get_eq_some_iff _ _ _).mpr member)

theorem Keyed.distinct_ids {store : MemoryStore Value} (keyed : store.Keyed) :
    (store.getAll.map fun entry => entry.id).Nodup := by
  rw [keyed.ids_listed]
  exact store.entries.distinct

theorem Keyed.get_listed {store : MemoryStore Value} (keyed : store.Keyed)
    {entry : MemoryEntry Value} (listed : entry ∈ store.getAll) :
    store.get entry.id = some entry := by
  obtain ⟨id, stored⟩ := (OrderedDict.mem_values_iff _ _).mp listed
  rw [keyed id entry stored]
  exact stored

theorem retrieve_stored {now : Time} {store : MemoryStore Value}
    (keyed : store.Keyed) {id other : String} {entry : MemoryEntry Value}
    (stored : (store.retrieve env now id).state.entries.get? other = some entry) :
    ∃ before, store.entries.get? other = some before ∧
      (entry = before ∨ entry = before.touch now) := by
  rw [retrieve, amend_entries env id (MemoryEntry.touch now) (fun _ => rfl) store keyed] at stored
  split at stored
  next here =>
      obtain ⟨before, found, touched⟩ := Option.map_eq_some_iff.mp stored
      exact ⟨before, by rw [here, found], Or.inr touched.symm⟩
  · exact ⟨entry, stored, Or.inl rfl⟩

/-! ## Loading -/

/-- The entries of a file up to the first line that does not load. -/
def loadable : List (DiskLine Value) → List (MemoryEntry Value)
  | [] => []
  | .malformed :: _ => []
  | .record entry :: rest =>
    if entry.validates then entry :: loadable rest else []

/-- Entries paired with their ids. -/
def byId (entries : List (MemoryEntry Value)) : List (String × MemoryEntry Value) :=
  entries.map fun entry => (entry.id, entry)

theorem load_lines (lines : List (DiskLine Value)) (store : MemoryStore Value) :
    loadLines lines store =
      (loadable lines).foldl (fun store entry => store.loadEntry entry) store := by
  induction lines generalizing store with
  | nil => rfl
  | cons line rest ih =>
    cases line with
    | malformed => rfl
    | record entry =>
      by_cases valid : entry.validates = true
      · simp only [loadLines, loadable, if_pos valid, List.foldl_cons, ih]
      · simp only [loadLines, loadable, if_neg valid, List.foldl_nil]

theorem loaded_fields (entries : List (MemoryEntry Value)) (store : MemoryStore Value) :
    let loaded := entries.foldl (fun store entry => store.loadEntry entry) store
    loaded.entries = store.entries.setAll (byId entries) ∧
      (∀ kind, loaded.index kind = (byId entries).foldl
        (fun index line => index.addAll line.1 (line.2.indexKeys kind))
        (store.index kind)) ∧ loaded.disk = store.disk := by
  induction entries generalizing store with
  | nil => exact ⟨rfl, fun _ => rfl, rfl⟩
  | cons entry rest ih => exact ih (store.loadEntry entry)

theorem open_entries (file : LogFile Value) : (openStore (some file)).entries =
      OrderedDict.empty.setAll (byId (loadable file.allLines)) := by
  rw [openStore, load_lines]
  exact (loaded_fields (loadable file.allLines) _).1

theorem open_index (file : LogFile Value) (kind : IndexKind) : (openStore (some file)).index kind =
      SecondaryIndex.collect (MemoryEntry.indexKeys kind) (byId (loadable file.allLines)) := by
  rw [openStore, load_lines]
  exact (loaded_fields (loadable file.allLines) _).2.1 kind

theorem open_disk (file : LogFile Value) : (openStore (some file)).disk = some file := by
  rw [openStore, load_lines]
  exact (loaded_fields (loadable file.allLines) _).2.2

theorem mem_by_id {entries : List (MemoryEntry Value)} {id : String} {entry : MemoryEntry Value} :
    (id, entry) ∈ byId entries ↔ entry ∈ entries ∧ entry.id = id := by
  constructor
  · intro member
    obtain ⟨found, listed, same⟩ := List.mem_map.mp member
    cases same
    exact ⟨listed, rfl⟩
  · rintro ⟨listed, rfl⟩
    exact List.mem_map.mpr ⟨entry, listed, rfl⟩

theorem open_listed {file : LogFile Value} {id : String} {entry : MemoryEntry Value}
    (stored : (openStore (some file)).entries.get? id = some entry) :
    entry ∈ loadable file.allLines ∧ entry.id = id := by
  rw [open_entries] at stored
  rcases OrderedDict.get_setAll_cases stored with listed | initial
  · exact mem_by_id.mp listed
  · rw [OrderedDict.get_empty] at initial
    cases initial

theorem open_keyed (disk : Option (LogFile Value)) : (openStore disk).Keyed := by
  cases disk with
  | none =>
    intro id entry stored
    cases stored
  | some file =>
    intro id entry stored
    exact (open_listed stored).2

end MemoryStore

namespace MemoryEngine

variable {Value : Type} (env : MemoryEnv Value)

/-- The entry that a call of `save` stores if it is valid. -/
def newEntry (config : MemoryConfig) (fields : SaveFields Value) (now : Time)
    (engine : MemoryEngine Value) : MemoryEntry Value :=
  fields.entry config now (engine.counter + 1)

theorem save_cases (config : MemoryConfig) (fields : SaveFields Value)
    (now : Time) (engine : MemoryEngine Value) :
    let counted := { engine with counter := engine.counter + 1 }
    let entry := engine.newEntry config fields now
    (entry.validates = true ∧ engine.save env config fields now =
        counted.onStore (engine.store.save env (entry.summarized env))) ∨
      (entry.validates = false ∧ engine.save env config fields now = .raising counted) := by
  unfold save newEntry
  dsimp only
  split
  next valid => exact Or.inl ⟨valid, rfl⟩
  next invalid => exact Or.inr ⟨Bool.eq_false_iff.mpr invalid, rfl⟩

theorem create_snapshot_store (ids : List String) (now : Time) (engine : MemoryEngine Value) :
    (engine.createSnapshot env ids now).state.store = engine.store := by
  unfold createSnapshot
  dsimp only
  generalize List.mapM env.dump _ = dumped
  cases dumped <;> rfl

/-- Every entry of every snapshot has a property. -/
def AllSnapshots (holds : MemoryEntry Value → Prop) (engine : MemoryEngine Value) :
    Prop :=
  ∀ snapshotId, ∀ entries ∈ engine.snapshots.get? snapshotId, ∀ entry ∈ entries, holds entry

theorem create_snapshot_all {holds : MemoryEntry Value → Prop}
    {engine : MemoryEngine Value} (all : engine.AllSnapshots holds)
    (ids : List String) (now : Time)
    (dumps : ∀ id, ∀ entry ∈ engine.store.get id, ∀ line, env.dump entry = some line → holds line) :
    (engine.createSnapshot env ids now).state.AllSnapshots holds := by
  have listed : ∀ entry ∈ (if ids.isEmpty then engine.store.getAll
      else ids.filterMap engine.store.get), ∃ id, engine.store.get id = some entry := by
    intro entry member
    split at member
    · exact (OrderedDict.mem_values_iff _ _).mp member
    · obtain ⟨id, _, stored⟩ := List.mem_filterMap.mp member
      exact ⟨id, stored⟩
  unfold createSnapshot
  dsimp only
  split
  · exact all
  next dumped written =>
    apply OrderedDict.forall_set _ all
    intro line member
    obtain ⟨entry, source, same⟩ := mem_of_mapM written member
    obtain ⟨id, found⟩ := listed entry source
    exact dumps id entry found line same

theorem delete_snapshot_all {holds : MemoryEntry Value → Prop}
    {engine : MemoryEngine Value} (all : engine.AllSnapshots holds)
    (deleted : String) :
    AllSnapshots holds { engine with snapshots := engine.snapshots.erase deleted } :=
  OrderedDict.forall_erase deleted all

end MemoryEngine

namespace MemoryEntry

variable {Value : Type} (env : MemoryEnv Value)

theorem validates_iff (entry : MemoryEntry Value) : entry.validates = true ↔
      (0 ≤ entry.importance ∧ entry.importance ≤ 1) ∧
        (0 ≤ entry.baseImportance ∧ entry.baseImportance ≤ 1) ∧ 1 ≤ entry.version := by
  simp [validates, and_assoc]

theorem summarized_fields (entry : MemoryEntry Value) :
    ∃ summary, entry.summarized env = { entry with summary := summary } := by
  unfold summarized
  split
  · exact ⟨entry.summary, rfl⟩
  next summary _ => exact ⟨summary, rfl⟩

theorem apply_update_fields (fields : UpdateFields Value) (now : Time) (entry : MemoryEntry Value) :
    ∃ summary, entry.applyUpdate env fields now =
      { entry.assignFields fields now with summary := summary } := by
  unfold applyUpdate
  split
  · exact ⟨(entry.assignFields fields now).summary, rfl⟩
  · exact summarized_fields env _

theorem apply_update_id (fields : UpdateFields Value) (now : Time) (entry : MemoryEntry Value) :
    (entry.applyUpdate env fields now).id = entry.id := by
  obtain ⟨summary, updated⟩ := entry.apply_update_fields env fields now
  rw [updated]
  rfl

end MemoryEntry

/-! ## The order of a search -/

section Ranks

variable {Value : Type}

theorem ranks_before_total (left right : MemoryEntry Value) :
    RanksBefore left right ∨ RanksBefore right left := by
  unfold RanksBefore
  rcases lt_trichotomy left.importance right.importance with less | same | more
  · exact .inr (.inl less)
  · rcases le_total left.createdAt right.createdAt with older | newer
    · exact .inr (.inr ⟨same, older⟩)
    · exact .inl (.inr ⟨same.symm, newer⟩)
  · exact .inl (.inl more)

theorem ranks_before_trans (first second third : MemoryEntry Value)
    (before : RanksBefore first second) (after : RanksBefore second third) :
    RanksBefore first third := by
  rcases before with more | ⟨same, newer⟩
  · rcases after with more' | ⟨same', _⟩
    · exact .inl (lt_trans more' more)
    · exact .inl (lt_of_le_of_lt (le_of_eq same') more)
  · rcases after with more' | ⟨same', newer'⟩
    · exact .inl (lt_of_lt_of_le more' (le_of_eq same))
    · exact .inr ⟨same'.trans same, le_trans newer' newer⟩

end Ranks

end AiEnterpriseOs.Memory
