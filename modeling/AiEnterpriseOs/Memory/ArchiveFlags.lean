import AiEnterpriseOs.Memory.RetentionScans

/-!
# The archived flag and the tier

Demotion and expiry set the flag and the tier of an entry together. The
archiver and the two retention scans set the flag alone, unarchiving clears the
flag alone, promotion sets the tier alone.
-/

namespace AiEnterpriseOs.Memory

open Library

variable {Value : Type} {env : MemoryEnv Value}

namespace MemoryStore

/-- A property of every record of the file, if there is one. -/
def Recorded (holds : MemoryEntry Value → Prop) (disk : Option (LogFile Value)) : Prop :=
  ∀ file ∈ disk, ∀ entry, DiskLine.record entry ∈ file.allLines → holds entry

/-- A property of every stored entry and of every record of the file. -/
structure Throughout (holds : MemoryEntry Value → Prop) (store : MemoryStore Value) : Prop where
  keyed : store.Keyed
  entries : store.All fun _ entry => holds entry
  records : Recorded holds store.disk

/-- A property that the written form of an entry keeps. -/
def KeptByDump (env : MemoryEnv Value) (holds : MemoryEntry Value → Prop) : Prop :=
  ∀ entry line, env.dump entry = some line → holds entry → holds line

variable {holds : MemoryEntry Value → Prop} {store : MemoryStore Value}

theorem record_of_append {file : LogFile Value} {line entry : MemoryEntry Value}
    (member : DiskLine.record entry ∈ (file.append line).allLines) :
    entry = line ∨ DiskLine.record entry ∈ file.allLines := by
  simp only [LogFile.append, LogFile.allLines, Option.toList_none, List.append_nil] at member
  rcases List.mem_append.mp member with early | late
  · exact Or.inr (List.mem_append_left _ early)
  · cases last : file.unterminated with
    | none =>
      rw [last] at late
      cases List.mem_singleton.mp late
      exact Or.inl rfl
    | some torn =>
      rw [last] at late
      cases List.mem_singleton.mp late

theorem append_recorded (records : Recorded holds store.disk)
    (dumps : KeptByDump env holds) {entry : MemoryEntry Value} (fits : holds entry) :
    Recorded holds (store.appendToDisk env entry).state.disk := by
  unfold appendToDisk
  cases recorded : store.disk with
  | none =>
    intro file present
    rw [Outcome.returning_state, recorded] at present
    cases present
  | some before =>
    have early := records before recorded
    cases dumped : env.dump entry with
    | none =>
      intro file present
      rw [Outcome.raising_state, recorded] at present
      cases present
      exact early
    | some line =>
      intro file present
      cases present
      intro other member
      rcases record_of_append member with same | old
      · rw [same]
        exact dumps entry line dumped fits
      · exact early other old

theorem Throughout.save (throughout : store.Throughout holds)
    (dumps : KeptByDump env holds) {entry : MemoryEntry Value} (fits : holds entry) :
    (store.save env entry).state.Throughout holds where
  keyed := Keyed.save throughout.keyed entry
  entries := All.save throughout.entries entry fits
  records := by
    unfold MemoryStore.save
    refine append_recorded ?_ dumps fits
    cases store.entries.get? entry.id with
    | none => exact throughout.records
    | some old => exact throughout.records

theorem Throughout.mutate (throughout : store.Throughout holds) (id : String)
    (change : MemoryEntry Value → MemoryEntry Value)
    (keepsId : ∀ entry, (change entry).id = entry.id)
    (keeps : ∀ entry, store.get id = some entry → holds (change entry)) :
    (store.mutate id change).Throughout holds where
  keyed := Keyed.mutate throughout.keyed id change keepsId
  entries := All.mutate throughout.entries id change keeps
  records := throughout.records

theorem Throughout.amend (throughout : store.Throughout holds)
    (dumps : KeptByDump env holds) (id : String)
    (change : MemoryEntry Value → MemoryEntry Value)
    (keepsId : ∀ entry, (change entry).id = entry.id)
    (keeps : ∀ entry, store.get id = some entry → holds (change entry)) :
    (store.amend env id change).state.Throughout holds := by
  unfold MemoryStore.amend
  cases stored : store.entries.get? id with
  | none => exact throughout
  | some entry =>
    have mutated := throughout.mutate id change keepsId keeps
    exact mutated.save dumps (keeps entry stored)

theorem mem_write_lines {entries : List (MemoryEntry Value)} {line : MemoryEntry Value}
    (member : DiskLine.record line ∈ (writeLines env entries).state) :
    ∃ entry ∈ entries, env.dump entry = some line := by
  induction entries with
  | nil => cases member
  | cons entry rest ih =>
    unfold writeLines at member
    cases dumped : env.dump entry with
    | none =>
      rw [dumped] at member
      cases member
    | some written =>
      rw [dumped] at member
      rcases List.mem_cons.mp member with same | later
      · cases same
        exact ⟨entry, List.mem_cons_self, dumped⟩
      · obtain ⟨other, listed, found⟩ := ih later
        exact ⟨other, List.mem_cons_of_mem _ listed, found⟩

theorem Throughout.delete (throughout : store.Throughout holds)
    (dumps : KeptByDump env holds) (id : String) :
    (store.delete env id).state.Throughout holds where
  keyed := Keyed.delete throughout.keyed id
  entries := All.delete throughout.entries id
  records := by
    unfold MemoryStore.delete
    cases stored : store.entries.get? id with
    | none => exact throughout.records
    | some entry =>
      unfold rebuildDisk
      cases recorded : store.disk with
      | none =>
        intro file present
        simp [removeFromIndices, recorded] at present
      | some before =>
        intro file present line member
        simp only [removeFromIndices, recorded, Option.mem_def, Option.some.injEq] at present
        rw [← present] at member
        simp only [LogFile.allLines, Option.toList_none, List.append_nil] at member
        obtain ⟨other, kept, dumped⟩ := mem_write_lines member
        obtain ⟨otherId, found⟩ :=
          (OrderedDict.mem_values_iff _ _).mp (OrderedDict.mem_values_erase kept)
        exact dumps other line dumped (throughout.entries otherId other found)

theorem record_of_loadable {lines : List (DiskLine Value)} {entry : MemoryEntry Value}
    (member : entry ∈ loadable lines) : DiskLine.record entry ∈ lines := by
  induction lines with
  | nil => cases member
  | cons line rest ih =>
    cases line with
    | malformed => cases member
    | record first =>
      by_cases valid : first.validates = true
      · rw [loadable, if_pos valid] at member
        rcases List.mem_cons.mp member with same | later
        · rw [same]
          exact List.mem_cons_self
        · exact List.mem_cons_of_mem _ (ih later)
      · rw [loadable, if_neg valid] at member
        cases member

theorem Throughout.openStore {disk : Option (LogFile Value)} (records : Recorded holds disk) :
    (openStore disk).Throughout holds where
  keyed := open_keyed disk
  entries := by
    intro id entry stored
    cases disk with
    | none => cases stored
    | some file => exact records file rfl entry (record_of_loadable (open_listed stored).1)
  records := by
    cases disk with
    | none =>
      intro file present
      cases present
    | some file =>
      intro other present
      rw [open_disk] at present
      exact records other present

theorem Throughout.of_clear (store : MemoryStore Value) : store.clear.Throughout holds where
  keyed := by
    intro id entry stored
    cases stored
  entries := by
    intro id entry stored
    cases stored
  records := by
    intro file present entry member
    obtain ⟨before, _, rfl⟩ := Option.map_eq_some_iff.mp present
    cases member

end MemoryStore

/-! ## The flag and the tier -/

/-- The archived flag is set just where the tier is "archived". -/
def MemoryEntry.FlagIsTier (entry : MemoryEntry Value) : Prop :=
  entry.archived = true ↔ entry.tier = "archived"

/-- A scan comes to no entry that it archives, up to the first purge that is
refused. -/
def ArchivesNone (env : MemoryEnv Value) (onDisk : Bool)
    (action : MemoryEntry Value → RetentionAction) :
    List (MemoryEntry Value) → List (MemoryEntry Value) → Prop
  | _, [] => True
  | kept, entry :: rest =>
    action entry ≠ .archive ∧ (refuses env onDisk false (kept ++ rest) entry (action entry) = true ∨
        ArchivesNone env onDisk action (staying kept entry (action entry)) rest)

/-- A call of the engine, or the retention scan of the store. -/
inductive ArchiveOp (Value : Type) where
  | engine (op : MemoryOp Value)
  | enforceRetention (policy : RetentionPolicy)

structure ArchiveInput (Value : Type) where
  op : ArchiveOp Value
  now : Time

namespace MemoryEngine

section Steps

variable (env : MemoryEnv Value) (config : MemoryConfig)

def archiveStep (engine : MemoryEngine Value) (input : ArchiveInput Value) :
    MemoryEngine Value :=
  match input.op with
  | .engine op => (engine.call env config op input.now).state
  | .enforceRetention policy =>
    (engine.onStore (engine.store.enforceRetention env input.now policy)).state

/-- No entry gets its flag or its tier changed without the other: what is
archived is archived already, what is unarchived is not archived, what is
promoted is not archived, and neither scan comes to an entry to archive. -/
def KeepsFlags (engine : MemoryEngine Value) (input : ArchiveInput Value) : Prop :=
  let store := engine.store
  match input.op with
  | .engine (.archive id) => ∀ entry ∈ store.get id, entry.archived = true
  | .engine (.unarchive id) => ∀ entry ∈ store.get id, entry.archived = false
  | .engine (.archiveOlderThan days) => ∀ id, ∀ entry ∈ store.get id,
      days < entry.ageDays input.now → entry.archived = true
  | .engine (.archiveByType memoryType) =>
    ∀ entry ∈ store.getByType memoryType, entry.archived = true
  | .engine (.archiveByNamespace memoryNamespace) =>
    ∀ entry ∈ store.getByNamespace memoryNamespace, entry.archived = true
  | .engine .applyRetentionPolicy => ArchivesNone env store.disk.isSome
      (appliedAction input.now config.retention) [] store.getAll
  | .enforceRetention policy => ArchivesNone env store.disk.isSome
      (enforcedAction input.now policy) [] store.getAll
  | .engine (.promoteToLongTerm id minImportance) => ∀ entry ∈ store.get id,
      minImportance ≤ entry.importance → entry.archived = false
  | .engine (.saveEntry entry) => entry.FlagIsTier
  | _ => True

end Steps

end MemoryEngine

namespace MemoryStore

/-- The flag is the tier, wherever entries are kept. -/
abbrev FlagsAgree (store : MemoryStore Value) : Prop :=
  store.Throughout MemoryEntry.FlagIsTier

theorem flags_dump : KeptByDump env (@MemoryEntry.FlagIsTier Value) := by
  intro entry line dumped agrees
  obtain ⟨content, metadata, _, _, rfl⟩ := env.dump_cases dumped
  exact agrees

variable {store : MemoryStore Value} {now : Time}

theorem FlagsAgree.amend_other (agree : store.FlagsAgree) (id : String)
    (change : MemoryEntry Value → MemoryEntry Value)
    (keepsId : ∀ entry, (change entry).id = entry.id)
    (keeps : ∀ entry, (change entry).archived = entry.archived ∧ (change entry).tier = entry.tier) :
    (store.amend env id change).state.FlagsAgree := by
  apply agree.amend flags_dump id change keepsId
  intro entry stored
  unfold MemoryEntry.FlagIsTier
  rw [(keeps entry).1, (keeps entry).2]
  exact agree.entries id entry stored

theorem FlagsAgree.retrieve (agree : store.FlagsAgree) (id : String) :
    (store.retrieve env now id).state.FlagsAgree :=
  agree.amend_other id _ (fun _ => rfl) fun _ => ⟨rfl, rfl⟩

theorem FlagsAgree.retire (agree : store.FlagsAgree) (id : String) :
    (store.amend env id (MemoryEntry.retired now)).state.FlagsAgree :=
  agree.amend flags_dump id _ (fun _ => rfl) fun _ _ => iff_of_true rfl rfl

theorem FlagsAgree.demote (agree : store.FlagsAgree) (id : String) :
    ((store.mutate id (MemoryEntry.retired now)).archive env now id).state.FlagsAgree := by
  rw [MemoryStore.archive, amend_mutate]
  exact agree.amend flags_dump id _ (fun _ => rfl) fun _ _ => iff_of_true rfl rfl

theorem FlagsAgree.promote (agree : store.FlagsAgree) (id : String)
    (unarchived : ∀ entry ∈ store.get id, entry.archived = false) :
    (store.amend env id MemoryEntry.promoted).state.FlagsAgree := by
  apply agree.amend flags_dump id MemoryEntry.promoted fun _ => rfl
  intro entry stored
  refine iff_of_false ?_ (by simp [MemoryEntry.promoted])
  change ¬entry.archived = true
  rw [unarchived entry stored]
  exact Bool.false_ne_true

theorem FlagsAgree.update (agree : store.FlagsAgree) (id : String)
    (fields : UpdateFields Value) : (store.update env now id fields).state.FlagsAgree := by
  apply Outcome.and_then_state FlagsAgree (agree.retrieve id) fun _ agree => agree
  intro store agree
  apply agree.amend_other id _ (MemoryEntry.apply_update_id env fields now)
  intro entry
  obtain ⟨summary, updated⟩ := entry.apply_update_fields env fields now
  rw [updated]
  exact ⟨rfl, rfl⟩

theorem FlagsAgree.linkMemories (agree : store.FlagsAgree) (parentId childId : String) :
    (store.linkMemories env now parentId childId).state.FlagsAgree := by
  apply Outcome.and_then_state FlagsAgree (agree.retrieve parentId) fun _ agree => agree
  intro store agree
  apply Outcome.and_then_state FlagsAgree (agree.retrieve childId) fun _ agree => agree
  intro store agree
  split
  next child _ found =>
    exact agree.mutate childId _ (fun _ => rfl) fun entry stored =>
      agree.entries childId entry stored
  · exact agree

theorem FlagsAgree.promoteToLongTerm (agree : store.FlagsAgree) (id : String) (minImportance : Rat)
    (unarchived : ∀ entry ∈ store.get id, minImportance ≤ entry.importance →
      entry.archived = false) :
    (store.promoteToLongTerm env now id minImportance).state.FlagsAgree := by
  apply Outcome.and_then_state (fun store => FlagsAgree store ∧
    ∀ entry ∈ store.get id, minImportance ≤ entry.importance → entry.archived = false)
  · refine ⟨agree.retrieve id, ?_⟩
    intro entry stored
    obtain ⟨before, found, same | touched⟩ := retrieve_stored env agree.keyed stored
    · rw [same]
      exact unarchived before found
    · rw [touched]
      exact unarchived before found
  · exact fun _ reached => reached.1
  · rintro store ⟨agree, unarchived⟩
    split
    · exact agree
    next entry stored =>
      split
      next important =>
        apply agree.promote id
        intro other found
        rw [stored] at found
        cases found
        exact unarchived entry stored important
      · exact agree

theorem FlagsAgree.demoteToArchived (agree : store.FlagsAgree) (id : String)
    (importanceThreshold : Rat) :
    (store.demoteToArchived env now id importanceThreshold).state.FlagsAgree := by
  apply Outcome.and_then_state FlagsAgree (agree.retrieve id) fun _ agree => agree
  intro store agree
  split
  · exact agree
  · split
    · exact agree.demote id
    · exact agree

theorem FlagsAgree.cleanupExpired (agree : store.FlagsAgree) :
    (store.cleanupExpired env now).state.FlagsAgree := by
  apply Outcome.for_each_state FlagsAgree _ _ _ store agree
  intro entry _ store agree
  unfold MemoryStore.cleanupEntry
  split
  · exact agree
  · split
    · exact agree.retire _
    · exact agree

theorem FlagsAgree.moveEntry (agree : store.FlagsAgree)
    (promoteThreshold demoteThreshold : Rat) (entry : MemoryEntry Value) :
    (store.moveEntry env now promoteThreshold demoteThreshold entry).state.FlagsAgree := by
  unfold MemoryStore.moveEntry
  split
  · exact agree
  next live stored =>
    split
    next working =>
      apply agree.promote live.id
      intro other found
      rw [agree.keyed entry.id live stored] at found
      rw [stored] at found
      cases found
      apply Bool.eq_false_iff.mpr
      intro archived
      have tier := (agree.entries entry.id live stored).mp archived
      rw [working.1] at tier
      revert tier
      decide
    · split
      · exact agree.demote _
      · exact agree

theorem FlagsAgree.applyTierManagement (agree : store.FlagsAgree)
    (promoteThreshold demoteThreshold : Rat) :
    (store.applyTierManagement env now promoteThreshold demoteThreshold).state.FlagsAgree := by
  apply Outcome.for_each_state FlagsAgree _ _ _ store agree
  intro entry _ store agree
  apply Outcome.and_then_state FlagsAgree
  · exact agree.moveEntry promoteThreshold demoteThreshold entry
  · exact fun _ agree => agree
  · intro store agree
    unfold MemoryStore.expireEntry
    split
    · exact agree
    · split
      · apply Outcome.and_then_state FlagsAgree (agree.retire _) fun _ agree => agree
        exact fun _ agree => agree.cleanupExpired
      · exact agree

theorem FlagsAgree.restoreEntries (agree : store.FlagsAgree)
    {entries : List (MemoryEntry Value)} (flagged : ∀ entry ∈ entries, entry.FlagIsTier) :
    (store.restoreEntries env entries).state.FlagsAgree := by
  apply Outcome.for_each_state FlagsAgree _ entries _ store agree
  intro entry member store agree
  split
  · exact agree.save flags_dump (flagged entry member)
  · exact agree

theorem archive_listed_none {condition : MemoryEntry Value → Bool}
    {listed : List (MemoryEntry Value)}
    (archived : ∀ entry ∈ listed, ∀ live ∈ store.get entry.id, condition live = true →
      live.archived = true) :
    store.archiveListed env now condition listed = .returning store := by
  unfold archiveListed
  induction listed with
  | nil => rfl
  | cons entry rest ih =>
    have later := ih fun other member => archived other (List.mem_cons_of_mem _ member)
    rw [Outcome.forEach]
    cases stored : store.get entry.id with
    | none => exact later
    | some live =>
      have idle : (!live.archived && condition live) = false := by
        cases met : condition live with
        | false => exact Bool.and_false _
        | true =>
          rw [archived entry List.mem_cons_self live stored met]
          rfl
      dsimp only
      rw [idle, if_neg Bool.false_ne_true]
      exact later

theorem archive_by_key_none (kind : IndexKind) (key : String) (keyed : store.Keyed)
    (archived : ∀ entry ∈ store.getBy kind key, entry.archived = true) :
    store.archiveListed env now (fun _ => true) (store.getBy kind key) =
      .returning store := by
  apply archive_listed_none
  intro entry listed live stored _
  obtain ⟨id, _, found⟩ := List.mem_filterMap.mp listed
  have sameId : entry.id = id := keyed id entry found
  rw [sameId] at stored
  cases stored.symm.trans found
  exact archived entry listed

theorem archive_older_none {days : Int}
    (archived : ∀ id, ∀ entry ∈ store.get id, days < entry.ageDays now → entry.archived = true) :
    store.archiveOlderThan env now days = .returning store := by
  apply archive_listed_none
  intro entry _ live stored old
  exact archived entry.id live stored (of_decide_eq_true old)

theorem FlagsAgree.retentionScan {onDisk : Bool} {kept rest : List (MemoryEntry Value)}
    {change : MemoryEntry Value → MemoryEntry Value} (agree : store.FlagsAgree)
    (scanning : Scanning env onDisk kept rest store) (routine : Routine change)
    (archives : ∀ entry, (change entry).archived = true)
    {action : MemoryEntry Value → RetentionAction}
    (spares : ArchivesNone env onDisk action kept rest) :
    (store.retentionScan env false change action rest).state.FlagsAgree := by
  induction rest generalizing kept store with
  | nil => exact agree
  | cons entry rest ih =>
    have stored := scanning.listed entry List.mem_cons_self
    obtain ⟨returned, passed, _⟩ := scanning.perform routine archives false (action entry)
    have performed : (store.perform env false change entry.id (action entry)).state.FlagsAgree := by
      cases acts : action entry with
      | keep => exact agree
      | archive => exact absurd acts spares.1
      | purge => exact agree.delete flags_dump entry.id
    unfold MemoryStore.retentionScan Outcome.forEach
    simp only [stored]
    rcases spares.2 with refused | later
    · rw [refused] at returned
      rw [Outcome.and_then_of_raised _ returned]
      exact performed
    · apply Outcome.and_then_state (fun after => after.FlagsAgree ∧
        Scanning env onDisk (staying kept entry (action entry)) rest after)
      · exact ⟨performed, passed⟩
      · exact fun _ reached => reached.1
      · exact fun _ reached => ih reached.1 reached.2 later

theorem FlagsAgree.applyRetention {config : MemoryConfig} (agree : store.FlagsAgree)
    (spares : ArchivesNone env store.disk.isSome (appliedAction now config.retention) []
      store.getAll) :
    (MemoryEngine.applyRetention env false config now store).state.FlagsAgree := by
  rw [MemoryEngine.apply_retention_scan]
  exact agree.retentionScan (.start agree.keyed) (Routine.of_archive now) (fun _ => rfl) spares

theorem FlagsAgree.enforceRetention {policy : RetentionPolicy} (agree : store.FlagsAgree)
    (spares : ArchivesNone env store.disk.isSome (enforcedAction now policy) [] store.getAll) :
    (store.enforceRetention env now policy).state.FlagsAgree := by
  rw [enforce_retention_scan]
  exact agree.retentionScan (.start agree.keyed) (Routine.of_expiry now) (fun _ => rfl) spares

end MemoryStore

namespace MemoryEngine

/-- The flag is the tier in the store, on its file and in the snapshots. -/
structure FlagsAgree (engine : MemoryEngine Value) : Prop where
  store : engine.store.FlagsAgree
  snapshots : engine.AllSnapshots MemoryEntry.FlagIsTier

theorem FlagsAgree.save {engine : MemoryEngine Value} (agree : engine.FlagsAgree)
    (config : MemoryConfig) (fields : SaveFields Value) (now : Time) :
    (engine.save env config fields now).state.FlagsAgree := by
  rcases save_cases env config fields now engine with ⟨_, saved⟩ | ⟨_, refused⟩
  · rw [saved]
    have working : ¬"working" = "archived" := by decide
    refine ⟨agree.store.save MemoryStore.flags_dump ?_, agree.snapshots⟩
    obtain ⟨summary, summarized⟩ :=
      (engine.newEntry config fields now).summarized_fields env
    rw [summarized]
    exact iff_of_false Bool.false_ne_true working
  · rw [refused]
    exact ⟨agree.store, agree.snapshots⟩

theorem FlagsAgree.createSnapshot {engine : MemoryEngine Value} (agree : engine.FlagsAgree)
    (ids : List String) (now : Time) :
    (engine.createSnapshot env ids now).state.FlagsAgree where
  store := by
    rw [create_snapshot_store]
    exact agree.store
  snapshots := by
    apply create_snapshot_all env agree.snapshots
    intro id entry stored line dumped
    exact MemoryStore.flags_dump entry line dumped (agree.store.entries id entry stored)

theorem FlagsAgree.restoreSnapshot {engine : MemoryEngine Value} (agree : engine.FlagsAgree)
    (snapshotId : String) : (engine.restoreSnapshot env snapshotId).state.FlagsAgree := by
  unfold MemoryEngine.restoreSnapshot
  split
  · exact agree
  next entries stored =>
    exact ⟨agree.store.restoreEntries (agree.snapshots snapshotId entries stored), agree.snapshots⟩

theorem FlagsAgree.step {config : MemoryConfig} {engine : MemoryEngine Value}
    {input : ArchiveInput Value} (agree : engine.FlagsAgree)
    (keeps : engine.KeepsFlags env config input) :
    (engine.archiveStep env config input).FlagsAgree := by
  have kept := agree.store
  have onStore : ∀ {outcome : Outcome (MemoryStore Value)},
      outcome.state.FlagsAgree → (engine.onStore outcome).state.FlagsAgree :=
    fun after => ⟨after, agree.snapshots⟩
  have unmoved : ∀ {outcome : Outcome (MemoryStore Value)},
      outcome = .returning engine.store → (engine.onStore outcome).state.FlagsAgree := by
    rintro _ rfl
    exact agree
  obtain ⟨op, now⟩ := input
  cases op with
  | enforceRetention policy => exact onStore (kept.enforceRetention keeps)
  | engine op =>
    cases op with
    | save fields => exact agree.save config fields now
    | retrieve id => exact onStore (kept.retrieve id)
    | update id fields => exact onStore (kept.update id fields)
    | delete id => exact onStore (kept.delete MemoryStore.flags_dump id)
    | archive id =>
      apply onStore
      apply kept.amend MemoryStore.flags_dump id (MemoryEntry.archiveAt now) fun _ => rfl
      intro entry stored
      have tier := (kept.entries id entry stored).mp (keeps entry stored)
      exact iff_of_true rfl tier
    | unarchive id =>
      apply onStore
      apply kept.amend MemoryStore.flags_dump id (MemoryEntry.unarchiveAt now) fun _ => rfl
      intro entry stored
      apply iff_of_false Bool.false_ne_true
      intro tier
      have archived := (kept.entries id entry stored).mpr tier
      rw [keeps entry stored] at archived
      cases archived
    | archiveOlderThan days => exact unmoved (MemoryStore.archive_older_none keeps)
    | archiveByType memoryType =>
      exact unmoved (MemoryStore.archive_by_key_none .typeIndex memoryType kept.keyed keeps)
    | archiveByNamespace memoryNamespace =>
      exact unmoved
        (MemoryStore.archive_by_key_none .namespaceIndex memoryNamespace kept.keyed keeps)
    | purgeArchived =>
      have deletes : MemoryStore.DeleteRule env (@MemoryStore.FlagsAgree Value) :=
        fun store id agree => agree.delete MemoryStore.flags_dump id
      exact onStore (deletes.purgeArchived kept)
    | applyRetentionPolicy =>
      apply onStore
      rw [← MemoryStore.apply_without_file]
      exact kept.applyRetention keeps
    | snapshot ids => exact agree.createSnapshot ids now
    | restoreSnapshot snapshotId => exact agree.restoreSnapshot snapshotId
    | deleteSnapshot snapshotId =>
      exact ⟨kept, delete_snapshot_all agree.snapshots snapshotId⟩
    | linkMemories parentId childId => exact onStore (kept.linkMemories parentId childId)
    | promoteToLongTerm id minImportance =>
      exact onStore (kept.promoteToLongTerm id minImportance keeps)
    | demoteToArchived id importanceThreshold =>
      exact onStore (kept.demoteToArchived id importanceThreshold)
    | cleanupExpired => exact onStore kept.cleanupExpired
    | applyTierManagement promoteThreshold demoteThreshold =>
      exact onStore (kept.applyTierManagement promoteThreshold demoteThreshold)
    | clear => exact onStore (.of_clear engine.store)
    | reload =>
      refine ⟨.openStore kept.records, ?_⟩
      intro snapshotId entries stored
      cases stored
    | saveEntry entry => exact onStore (kept.save MemoryStore.flags_dump keeps)

/-- On a file whose records agree, every entry that a run of such calls
reaches has its flag set just where its tier is "archived". -/
theorem flag_is_tier (env : MemoryEnv Value) (config : MemoryConfig)
    (disk : Option (LogFile Value)) (inputs : List (ArchiveInput Value))
    (recorded : MemoryStore.Recorded MemoryEntry.FlagIsTier disk)
    (keeps : StepsMeet (archiveStep env config) (KeepsFlags env config) (openEngine disk) inputs)
    (id : String) (entry : MemoryEntry Value)
    (stored : (runInputs (archiveStep env config) (openEngine disk) inputs).store.get id =
      some entry) :
    entry.archived = true ↔ entry.tier = "archived" := by
  have opened : (openEngine disk).FlagsAgree := by
    refine ⟨.openStore recorded, ?_⟩
    intro snapshotId entries found
    cases found
  have reached := invariant_of_steps_meet (archiveStep env config)
    (fun _ _ agree keeps => FlagsAgree.step agree keeps) (openEngine disk) inputs opened keeps
  exact reached.store.entries id entry stored

/-- A saved entry is demoted, and unarchiving an entry that is gone is no
change. -/
def demotionInputs : List (ArchiveInput PyValue) :=
  [{ op := .engine (.save { content := OrderedDict.empty }), now := 0 },
    { op := .engine (.demoteToArchived "mem_0_0001" 1), now := 1 },
    { op := .engine (.archive "mem_0_0001"), now := 2 },
    { op := .engine (.unarchive "mem_0_0002"), now := 3 }]

theorem flag_is_tier_demoted : ∃ entry, (runInputs (archiveStep textEnv {}) (openEngine none)
        demotionInputs).store.get "mem_0_0001" = some entry ∧
      (entry.archived = true ↔ entry.tier = "archived") := by
  have present : ((runInputs (archiveStep textEnv {}) (openEngine none)
      demotionInputs).store.get "mem_0_0001").isSome = true := by decide +kernel
  obtain ⟨entry, stored⟩ := Option.isSome_iff_exists.mp present
  refine ⟨entry, stored, flag_is_tier textEnv {} none demotionInputs ?_ ?_ _ entry stored⟩
  · intro file absent
    cases absent
  · have archived : ((runInputs (archiveStep textEnv {}) (openEngine none)
        (demotionInputs.take 2)).store.get "mem_0_0001").all
          (fun entry => entry.archived) = true := by decide +kernel
    have gone : ((runInputs (archiveStep textEnv {}) (openEngine none)
        (demotionInputs.take 3)).store.get "mem_0_0002").isNone = true := by decide +kernel
    refine ⟨trivial, trivial, ?_, ?_, trivial⟩
    · intro entry stored
      exact Option.all_eq_true _ _ |>.mp archived entry stored
    · intro entry stored
      rw [Option.isNone_iff_eq_none] at gone
      cases gone.symm.trans stored

/-- Archiving a working entry sets its flag and leaves its tier. -/
def archivalInputs : List (ArchiveInput PyValue) :=
  [{ op := .engine (.save { content := OrderedDict.empty }), now := 0 },
    { op := .engine (.archive "mem_0_0001"), now := 1 }]

theorem archived_stays_working : ¬∀ id entry, (runInputs (archiveStep textEnv {}) (openEngine none)
        archivalInputs).store.get id = some entry →
      (entry.archived = true ↔ entry.tier = "archived") := by
  intro agrees
  have flags : ((runInputs (archiveStep textEnv {}) (openEngine none)
      archivalInputs).store.get "mem_0_0001").map
        (fun entry => (entry.archived, entry.tier)) = some (true, "working") := by
    decide +kernel
  obtain ⟨entry, stored, same⟩ := Option.map_eq_some_iff.mp flags
  obtain ⟨flagged, working⟩ := Prod.mk.inj same
  have tier := (agrees "mem_0_0001" entry stored).mp flagged
  rw [working] at tier
  revert tier
  decide

end MemoryEngine

end AiEnterpriseOs.Memory
