import AiEnterpriseOs.Memory.LogFile
import AiEnterpriseOs.Memory.Summary

/-!
# Durability of the memory log

The live table and the log agree as long as every value that the live path
takes in also passes the load path: it is within the bounds that construction
checks, and JSON gives it back as it was.
-/

namespace AiEnterpriseOs.Memory

open Library

variable {Value : Type} {env : MemoryEnv Value}

namespace MemoryStore

/-- An entry that is read back from disk as it is in memory. -/
def Durable (env : MemoryEnv Value) (entry : MemoryEntry Value) : Prop :=
  entry.validates = true ∧ env.Stable entry

theorem Routine.durable {change : MemoryEntry Value → MemoryEntry Value}
    (routine : Routine change) {entry : MemoryEntry Value}
    (durable : Durable env entry) : Durable env (change entry) :=
  ⟨(routine.validates entry).trans durable.1, routine.stable durable.2⟩

/-- The file loads to its end and says what the live table says. -/
structure Synced (env : MemoryEnv Value) (store : MemoryStore Value)
    (file : LogFile Value) : Prop where
  disk : store.disk = some file
  terminated : file.unterminated = none
  loads : ∀ line ∈ file.lines, line.parsedEntry.isSome = true
  same : ∀ id, file.latest id = store.get id
  keyed : store.Keyed
  durable : store.All fun _ entry => Durable env entry

def InSync (env : MemoryEnv Value) (store : MemoryStore Value) : Prop :=
  ∃ file, Synced env store file

section Preserved

variable {store : MemoryStore Value} {file : LogFile Value}

theorem Synced.append_loads (synced : Synced env store file)
    {entry : MemoryEntry Value} (durable : Durable env entry) :
    ∀ line ∈ (file.append entry).lines, line.parsedEntry.isSome = true := by
  intro line member
  simp only [LogFile.append, synced.terminated] at member
  rcases List.mem_append.mp member with early | late
  · exact synced.loads line early
  · rw [List.mem_singleton.mp late]
    simp [DiskLine.parsedEntry, durable.1]

theorem InSync.amend (sync : InSync env store) (id : String)
    (change : MemoryEntry Value → MemoryEntry Value)
    (keepsId : ∀ entry, (change entry).id = entry.id)
    (keeps : ∀ entry, store.get id = some entry → Durable env entry → Durable env (change entry)) :
    InSync env (store.amend env id change).state := by
  obtain ⟨file, synced⟩ := sync
  cases stored : store.get id with
  | none =>
    rw [amend_absent stored]
    exact ⟨file, synced⟩
  | some entry =>
    have durable := keeps entry stored (synced.durable id entry stored)
    have sameId : (change entry).id = id := by
      rw [keepsId, synced.keyed id entry stored]
    refine ⟨file.append (change entry), ?_⟩
    constructor
    · exact amend_disk synced.disk stored durable.2.dump
    · rfl
    · exact synced.append_loads durable
    · intro other
      have live := amend_entries env id change keepsId store synced.keyed other
      have found : store.entries.get? id = some entry := stored
      rw [found] at live
      rw [LogFile.latest_append synced.terminated durable.1, sameId, synced.same]
      exact live.symm
    · exact Keyed.amend synced.keyed id change keepsId
    · apply All.amend synced.durable synced.keyed id change keepsId
      intro other found
      exact keeps other found (synced.durable id other found)

theorem InSync.save (sync : InSync env store) (entry : MemoryEntry Value)
    (durable : Durable env entry) : InSync env (store.save env entry).state := by
  obtain ⟨file, synced⟩ := sync
  refine ⟨file.append entry, ?_⟩
  constructor
  · exact save_disk synced.disk durable.2.dump
  · rfl
  · exact synced.append_loads durable
  · intro other
    have live : (store.save env entry).state.get other =
        if other = entry.id then some entry else store.get other := by
      rw [get, save_entries, OrderedDict.get_set]
      rfl
    rw [LogFile.latest_append synced.terminated durable.1, synced.same, live]
  · exact Keyed.save synced.keyed entry
  · exact All.save synced.durable entry durable

theorem InSync.delete (sync : InSync env store) (id : String) :
    InSync env (store.delete env id).state := by
  obtain ⟨file, synced⟩ := sync
  cases stored : store.get id with
  | none =>
    rw [delete_absent stored]
    exact ⟨file, synced⟩
  | some entry =>
    have keyed : (store.delete env id).state.Keyed := Keyed.delete synced.keyed id
    have durable : (store.delete env id).state.All
        fun _ entry => Durable env entry := All.delete synced.durable id
    have left : ∀ other ∈ (store.delete env id).state.getAll,
        Durable env other := by
      intro other present
      exact durable other.id other (keyed.get_listed present)
    have sound : ∀ other ∈ (store.delete env id).state.getAll,
        env.Serializes other ∧ other.validates = true :=
      fun other present =>
        ⟨(left other present).2.serializes, (left other present).1⟩
    refine ⟨_, delete_disk synced.disk stored fun other present =>
      (sound other present).1, rfl, ?_, ?_, keyed, durable⟩
    · intro line member
      obtain ⟨written, listed, rfl⟩ := List.mem_map.mp member
      obtain ⟨other, present, rfl⟩ := List.mem_map.mp listed
      rw [(left other present).2.written]
      simp [DiskLine.parsedEntry, (left other present).1]
    · intro other
      rw [latest_rewritten keyed sound]
      cases found : (store.delete env id).state.get other with
      | none => rfl
      | some live =>
        rw [Option.map_some, (durable other live found).2.written]

theorem InSync.routine : AmendRule env (InSync env) :=
  fun _ id change routine sync =>
    sync.amend id change routine.id fun _ _ => Routine.durable routine

theorem InSync.keyed (sync : InSync env store) : store.Keyed := by
  obtain ⟨file, synced⟩ := sync
  exact synced.keyed

theorem InSync.applyRetentionPolicy (sync : InSync env store) {now : Time}
    (maxAgeDays maxVersions : Int) (minImportance : Rat) (autoPurge : Bool) :
    InSync env (store.applyRetentionPolicy env now maxAgeDays maxVersions
      minImportance autoPurge).state :=
  retention_invariant (fun _ => True) (fun _ sync => sync.keyed)
    (fun _ id sync => InSync.routine.archive id sync)
    (fun _ id sync _ => sync.delete id) sync fun _ _ _ _ _ _ => trivial

theorem InSync.clear (sync : InSync env store) : InSync env store.clear := by
  obtain ⟨file, synced⟩ := sync
  have emptied : store.clear.disk = some {} := by
    rw [MemoryStore.clear, synced.disk, Option.map_some]
  refine ⟨{}, emptied, rfl, ?_, fun _ => rfl, ?_, ?_⟩
  · intro line member
    cases member
  · intro id entry stored
    cases stored
  · intro id entry stored
    cases stored

/-- A file that loads to its end, in values as JSON gives them. -/
structure Intact (env : MemoryEnv Value) (file : LogFile Value) : Prop where
  terminated : file.unterminated = none
  loads : ∀ line ∈ file.lines, line.parsedEntry.isSome = true
  stable : ∀ entry ∈ wellFormed file.lines, env.Stable entry

theorem Intact.all_lines (intact : Intact env file) : file.allLines = file.lines := by
  rw [LogFile.allLines, intact.terminated, Option.toList_none, List.append_nil]

theorem open_get (loads : ∀ line ∈ file.allLines, line.parsedEntry.isSome = true)
    (id : String) : (openStore (some file)).get id = file.latest id := by
  rw [get, open_entries, loadable_all loads]
  rfl

theorem Intact.opened (intact : Intact env file) : InSync env (openStore (some file)) := by
  have loads : ∀ line ∈ file.allLines, line.parsedEntry.isSome = true := by
    rw [intact.all_lines]
    exact intact.loads
  refine ⟨file, open_disk file, intact.terminated, intact.loads, ?_, open_keyed _, ?_⟩
  · intro id
    exact (open_get loads id).symm
  · intro id entry stored
    rw [← get, open_get loads] at stored
    have listed := (LogFile.latest_listed stored).1
    rw [intact.all_lines] at listed
    obtain ⟨line, _, holds⟩ := List.mem_filterMap.mp listed
    exact ⟨DiskLine.entry_validates holds, intact.stable entry listed⟩

theorem InSync.reopened (sync : InSync env store) (id : String) :
    (openStore store.disk).get id = store.get id := by
  obtain ⟨file, synced⟩ := sync
  rw [synced.disk, open_get, synced.same]
  rw [LogFile.allLines, synced.terminated, Option.toList_none, List.append_nil]
  exact synced.loads

theorem InSync.open_store (sync : InSync env store) : InSync env (openStore store.disk) := by
  have reopened := sync.reopened
  obtain ⟨file, synced⟩ := sync
  refine ⟨file, ?_, synced.terminated, synced.loads, ?_, open_keyed _, ?_⟩
  · rw [synced.disk]
    exact open_disk file
  · intro id
    rw [synced.same id, reopened id]
  · intro id entry stored
    exact synced.durable id entry ((reopened id).symm.trans stored)

end Preserved

/-- New field values within what loading accepts and JSON gives back. -/
structure Accepted (env : MemoryEnv Value) (fields : UpdateFields Value) : Prop where
  importance : ∀ importance ∈ fields.importance, 0 ≤ importance ∧ importance ≤ 1
  content : ∀ content ∈ fields.content, env.StableDict content
  metadata : ∀ metadata ∈ fields.metadata, env.StableDict metadata

theorem assigned_validates {fields : UpdateFields Value} (now : Time)
    (bounded : ∀ importance ∈ fields.importance, 0 ≤ importance ∧ importance ≤ 1)
    {entry : MemoryEntry Value} (valid : entry.validates = true) :
    (entry.assignFields fields now).validates = true := by
  rw [MemoryEntry.validates_iff] at valid ⊢
  refine ⟨?_, valid.2.1, ?_⟩
  · change 0 ≤ fields.importance.getD entry.importance ∧ fields.importance.getD entry.importance ≤ 1
    cases given : fields.importance with
    | none => exact valid.1
    | some importance => exact bounded importance given
  · change 1 ≤ entry.version + 1
    have := valid.2.2
    omega

theorem Accepted.durable {fields : UpdateFields Value} {now : Time}
    (accepted : Accepted env fields) {entry : MemoryEntry Value}
    (durable : Durable env entry) :
    Durable env (entry.applyUpdate env fields now) := by
  obtain ⟨summary, updated⟩ := entry.apply_update_fields env fields now
  rw [updated]
  refine ⟨assigned_validates now accepted.importance durable.1, ?_, ?_⟩
  · change env.StableDict (fields.content.getD entry.content)
    cases given : fields.content with
    | none => exact durable.2.1
    | some content => exact accepted.content content given
  · simp only [MemoryEntry.assignFields]
    cases given : fields.metadata with
    | none => exact durable.2.2
    | some metadata =>
      apply durable.2.2.setAll
      intro item member
      exact accepted.metadata metadata given item.2 (List.mem_map.mpr ⟨item, member, rfl⟩)

theorem InSync.update {store : MemoryStore Value} (sync : InSync env store)
    (now : Time) (id : String) (fields : UpdateFields Value)
    (accepted : ∀ _ ∈ store.get id, Accepted env fields) :
    InSync env (store.update env now id fields).state := by
  apply Outcome.and_then_state
    (fun store => InSync env store ∧ ∀ _ ∈ store.get id, Accepted env fields)
  · refine ⟨InSync.routine.retrieve id sync, ?_⟩
    intro entry stored
    obtain ⟨before, found, _⟩ := retrieve_stored env sync.keyed stored
    exact accepted before found
  · exact fun _ reached => reached.1
  · rintro store ⟨sync, accepted⟩
    apply sync.amend
    · exact MemoryEntry.apply_update_id env fields now
    · intro entry stored durable
      exact (accepted entry stored).durable durable

theorem InSync.linkMemories {store : MemoryStore Value} (sync : InSync env store)
    (now : Time) (parentId childId : String)
    (returned : (store.linkMemories env now parentId childId).returned = true) :
    InSync env (store.linkMemories env now parentId childId).state := by
  obtain ⟨_, parentRead⟩ := Outcome.and_then_returned returned
  rw [MemoryStore.linkMemories, parentRead] at returned ⊢
  obtain ⟨_, childRead⟩ := Outcome.and_then_returned returned
  rw [childRead] at returned ⊢
  have touched : InSync env (store.retrieve env now parentId).state :=
    InSync.routine.retrieve parentId sync
  have read : InSync env ((store.retrieve env now parentId).state.retrieve env now childId).state :=
    InSync.routine.retrieve childId touched
  split at returned
  · cases returned
  · exact read

end MemoryStore

namespace MemoryEngine

open MemoryStore (Durable InSync Accepted Intact)

variable (config : MemoryConfig)

/-- The call returns normally, and what it takes in passes the load path. -/
def LosesNothing (env : MemoryEnv Value) (engine : MemoryEngine Value)
    (input : MemoryInput Value) : Prop :=
  (engine.call env config input.op input.now).returned = true ∧
    match input.op with
    | .save fields => env.StableDict fields.content ∧ env.StableDict fields.metadata
    | .update id fields => ∀ _ ∈ engine.store.get id, Accepted env fields
    | .saveEntry entry => Durable env entry
    | _ => True

/-- The log is in sync, and snapshots hold what could be read back too. -/
structure SyncedEngine (env : MemoryEnv Value) (engine : MemoryEngine Value) : Prop where
  sync : InSync env engine.store
  snapshots : engine.AllSnapshots (Durable env)

theorem SyncedEngine.of_store {engine after : MemoryEngine Value}
    (synced : SyncedEngine env engine) (sync : InSync env after.store)
    (same : after.snapshots = engine.snapshots) : SyncedEngine env after where
  sync := sync
  snapshots := by
    intro snapshotId
    rw [same]
    exact synced.snapshots snapshotId

theorem step_synced (engine : MemoryEngine Value) (input : MemoryInput Value)
    (synced : SyncedEngine env engine) (loses : LosesNothing config env engine input) :
    SyncedEngine env (step env config engine input) := by
  obtain ⟨op, now⟩ := input
  obtain ⟨returned, accepted⟩ := loses
  by_cases amends : op.amends = true
  · obtain ⟨sync, same⟩ :=
      amends_call InSync.routine config op amends now engine synced.sync
    exact synced.of_store sync same
  cases op with
  | save fields =>
    change (engine.save env config fields now).returned = true at returned
    change SyncedEngine env (engine.save env config fields now).state
    rcases save_cases env config fields now engine with ⟨valid, saved⟩ | ⟨_, refused⟩
    · rw [saved]
      obtain ⟨summary, summarized⟩ :=
        (engine.newEntry config fields now).summarized_fields env
      rw [summarized]
      exact synced.of_store (synced.sync.save _ ⟨valid, accepted⟩) rfl
    · rw [refused] at returned
      cases returned
  | update id fields =>
    exact synced.of_store (synced.sync.update now id fields accepted) rfl
  | delete id => exact synced.of_store (synced.sync.delete id) rfl
  | purgeArchived =>
    have purges : MemoryStore.DeleteRule env (InSync env) :=
      fun _ id sync => sync.delete id
    exact synced.of_store (purges.purgeArchived synced.sync) rfl
  | applyRetentionPolicy =>
    exact synced.of_store (synced.sync.applyRetentionPolicy _ _ _ _) rfl
  | snapshot ids =>
    constructor
    · change InSync env (engine.createSnapshot env ids now).state.store
      rw [create_snapshot_store]
      exact synced.sync
    · apply create_snapshot_all env synced.snapshots
      intro id entry stored line dumped
      obtain ⟨file, inSync⟩ := synced.sync
      have durable := inSync.durable id entry stored
      rw [durable.2.dump] at dumped
      cases dumped
      exact durable
  | restoreSnapshot snapshotId =>
    change SyncedEngine env (engine.restoreSnapshot env snapshotId).state
    unfold restoreSnapshot
    split
    · exact synced
    next entries stored =>
      refine synced.of_store ?_ rfl
      apply Outcome.for_each_state (InSync env)
      · intro entry member store sync
        have durable := synced.snapshots snapshotId entries stored entry member
        rw [if_pos durable.1]
        exact sync.save entry durable
      · exact synced.sync
  | deleteSnapshot snapshotId =>
    exact ⟨synced.sync, delete_snapshot_all synced.snapshots snapshotId⟩
  | linkMemories parentId childId =>
    exact synced.of_store (synced.sync.linkMemories now parentId childId returned) rfl
  | clear => exact synced.of_store synced.sync.clear rfl
  | reload =>
    constructor
    · exact synced.sync.open_store
    · intro snapshotId entries stored
      cases stored
  | saveEntry entry =>
    exact synced.of_store (synced.sync.save entry accepted) rfl
  | _ => exact absurd rfl amends

/-- After every run of calls that return, whose values pass the load path,
a new store on the same file finds the entries of the live store. -/
theorem reopened_store_agrees (file : LogFile Value)
    (inputs : List (MemoryInput Value)) (intact : Intact env file)
    (meets : StepsMeet (step env config) (LosesNothing config env)
      (openEngine (some file)) inputs) (id : String) :
    let live := (runs env config (openEngine (some file)) inputs).store
    (MemoryStore.openStore live.disk).get id = live.get id := by
  have initial : SyncedEngine env (openEngine (some file)) := by
    refine ⟨intact.opened, ?_⟩
    intro snapshotId entries stored
    cases stored
  have synced : SyncedEngine env (runs env config (openEngine (some file)) inputs) :=
    invariant_of_steps_meet (step env config) (fun engine input => step_synced config engine input)
      (openEngine (some file)) inputs initial meets
  exact synced.sync.reopened id

theorem reweighted_entry_reopened :
    let live := (runs textEnv {} (openEngine (some {}))
      [ { op := .save { content := OrderedDict.empty }, now := 1 },
        { op := .update "mem_1_0001" { importance := some 1 }, now := 2 },
        { op := .delete "mem_0_0000", now := 3 } ]).store
    (MemoryStore.openStore live.disk).get "mem_1_0001" = live.get "mem_1_0001" := by
  apply reopened_store_agrees {} {}
  · refine ⟨rfl, ?_, ?_⟩
    · intro line member
      cases member
    · intro entry member
      cases member
  · have empty : textEnv.StableDict OrderedDict.empty := textEnv.stable_dict_empty
    refine ⟨⟨by decide +kernel, empty, empty⟩, ⟨by decide +kernel, ?_⟩,
      ⟨by decide +kernel, trivial⟩, trivial⟩
    intro entry stored
    constructor
    · intro importance given
      cases given
      decide
    · intro content given
      cases given
    · intro metadata given
      cases given

/-- An update past the bounds returns normally and is live, and the record it
leaves does not load. -/
theorem unbounded_update_not_reopened :
    let inputs : List (MemoryInput PyValue) :=
      [ { op := .save { content := OrderedDict.empty }, now := 1 },
        { op := .update "mem_1_0001" { importance := some (3 / 2) }, now := 2 } ]
    let live := (runs textEnv {} (openEngine (some {})) inputs).store
    StepsMeet (step textEnv {}) (fun engine input =>
        (engine.call textEnv {} input.op input.now).returned = true)
      (openEngine (some {})) inputs ∧
    ((live.get "mem_1_0001").map fun entry => entry.importance) = some (3 / 2) ∧
    (((MemoryStore.openStore live.disk).get "mem_1_0001").map
      fun entry => entry.importance) = some (1 / 2) := by
  refine ⟨⟨by decide +kernel, by decide +kernel, trivial⟩, ?_, ?_⟩
  · decide +kernel
  · decide +kernel

end MemoryEngine

end AiEnterpriseOs.Memory
