import AiEnterpriseOs.Memory.LogFile
import AiEnterpriseOs.Memory.Summary

/-!
# Recovery from a damaged memory log

Loading ends at the first damaged line, and a deletion rewrites the file from
what was loaded. An id whose record is in the file and not in memory is lost by
the next rewrite; one that is in both stays in both until it is deleted.
-/

namespace AiEnterpriseOs.Memory

open Library

variable {Value : Type} {env : MemoryEnv Value}

open MemoryStore (byId loadable openStore)

namespace LogFile

/-- What follows the first damaged line repeats, for every id it speaks of,
what was said last before it. -/
def NothingNew (file : LogFile Value) : Prop :=
  ∀ id last, (recordedEntries (unread file.allLines)).get? id = some last →
    (OrderedDict.empty.setAll (byId (loadable file.allLines))).get? id = some last

theorem latest_unread (file : LogFile Value) (id : String) : file.latest id =
      ((recordedEntries (unread file.allLines)).get? id).or ((openStore (some file)).get id) := by
  rw [latest, recordedEntries, loadable_unread, byId, List.map_append,
    OrderedDict.setAll_append, MemoryStore.get, MemoryStore.open_entries]
  exact OrderedDict.get_setAll_rest _ _ id

theorem recovered_iff (file : LogFile Value) :
    (∀ id, (openStore (some file)).get id = file.latest id) ↔ file.NothingNew := by
  have opened : ∀ id, (openStore (some file)).get id =
      (OrderedDict.empty.setAll (byId (loadable file.allLines))).get? id := by
    intro id
    rw [MemoryStore.get, MemoryStore.open_entries]
  constructor
  · intro recovered id last said
    rw [← opened, recovered, latest_unread, said, Option.some_or]
  · intro nothing id
    rw [latest_unread]
    cases said : (recordedEntries (unread file.allLines)).get? id with
    | none => rw [Option.none_or]
    | some last => rw [Option.some_or, opened, nothing id last said]

theorem append_cases {file : LogFile Value}
    (damaged : ∀ torn ∈ file.unterminated, torn.parsedEntry = none)
    (entry : MemoryEntry Value) (id : String) :
    (file.append entry).latest id = file.latest id ∨
      id = entry.id ∧ (file.append entry).latest id = some entry := by
  cases ending : file.unterminated with
  | some torn => exact Or.inl (latest_append_torn ending (damaged torn ending) entry id)
  | none =>
    by_cases valid : entry.validates = true
    · rw [latest_append ending valid]
      by_cases here : id = entry.id
      · exact Or.inr ⟨here, if_pos here⟩
      · exact Or.inl (if_neg here)
    · left
      have lost : wellFormed [DiskLine.record entry] = [] := by
        simp [wellFormed, DiskLine.parsedEntry, valid]
      have same : wellFormed (file.append entry).allLines = wellFormed file.allLines := by
        simp only [append, allLines, ending, Option.toList_none, List.append_nil,
          well_formed_append, lost]
      rw [latest, latest, recordedEntries, recordedEntries, same]

end LogFile

namespace MemoryStore

/-- The file holds a well-formed line of the id. -/
def OnDisk (store : MemoryStore Value) (id : String) : Prop :=
  ∃ file, store.disk = some file ∧ ∃ entry, file.latest id = some entry

/-- Every id in the file is in memory, and an unterminated last line holds no
entry. -/
structure Tracked (store : MemoryStore Value) : Prop where
  keyed : store.Keyed
  recorded : ∃ file, store.disk = some file ∧
    (∀ torn ∈ file.unterminated, torn.parsedEntry = none) ∧
      ∀ id entry, file.latest id = some entry → ∃ live, store.get id = some live

/-- The ids are all on disk still; where deletions are allowed, those that are
not in memory any more need not be. -/
structure Kept (deletes : Bool) (ids : String → Prop) (store : MemoryStore Value) : Prop where
  tracked : store.Tracked
  kept : ∀ id, ids id → store.OnDisk id ∨ (deletes = true ∧ store.get id = none)

section Preserved

variable {store : MemoryStore Value} {deletes : Bool} {ids : String → Prop}

theorem Kept.extend (kept : Kept deletes ids store) {after : MemoryStore Value}
    (keyed : after.Keyed)
    (stays : ∀ id live, store.get id = some live → ∃ live, after.get id = some live)
    (absent : deletes = true → ∀ id, store.get id = none → after.get id = none)
    (written : after.disk = store.disk ∨ ∃ file entry, store.disk = some file ∧
      after.disk = some (file.append entry) ∧ ∃ live, after.get entry.id = some live) :
    Kept deletes ids after := by
  obtain ⟨_, file, recorded, damaged, present⟩ := kept.tracked
  have gone : ∀ id, deletes = true ∧ store.get id = none → deletes = true ∧ after.get id = none :=
    fun id lost => ⟨lost.1, absent lost.1 id lost.2⟩
  rcases written with same | ⟨other, entry, onDisk, appended, live⟩
  · constructor
    · refine ⟨keyed, file, same.trans recorded, damaged, ?_⟩
      intro id entry said
      obtain ⟨live, stored⟩ := present id entry said
      exact stays id live stored
    · intro id member
      apply (kept.kept id member).imp _ (gone id)
      rintro ⟨file, onDisk, said⟩
      exact ⟨file, same.trans onDisk, said⟩
  · cases onDisk.symm.trans recorded
    constructor
    · refine ⟨keyed, file.append entry, appended, ?_, ?_⟩
      · intro torn ending
        cases ending
      · intro id found said
        rcases LogFile.append_cases damaged entry id with same | ⟨here, _⟩
        · rw [same] at said
          obtain ⟨live, stored⟩ := present id found said
          exact stays id live stored
        · rw [here]
          exact live
    · intro id member
      apply (kept.kept id member).imp _ (gone id)
      rintro ⟨before, onDisk, found, said⟩
      cases onDisk.symm.trans recorded
      refine ⟨file.append entry, appended, ?_⟩
      rcases LogFile.append_cases damaged entry id with same | ⟨_, new⟩
      · exact ⟨found, same.trans said⟩
      · exact ⟨entry, new⟩

theorem save_writes (entry : MemoryEntry Value) {file : LogFile Value}
    (recorded : store.disk = some file) :
    (store.save env entry).state.disk = store.disk ∨ ∃ line,
      (store.save env entry).state.disk = some (file.append line) ∧ line.id = entry.id := by
  cases dumped : env.dump entry with
  | some line =>
    exact Or.inr ⟨line, save_disk recorded dumped, env.dump_id dumped⟩
  | none =>
    left
    have refused : ∀ placed : MemoryStore Value, placed.disk = some file →
        (placed.appendToDisk env entry).state.disk = some file := by
      intro placed onDisk
      simp only [appendToDisk, onDisk, dumped]
      exact onDisk
    rw [recorded]
    apply refused
    cases stored : store.entries.get? entry.id with
    | none => exact recorded
    | some old => exact recorded

theorem Kept.save (kept : Kept false ids store) (entry : MemoryEntry Value) :
    Kept false ids (store.save env entry).state := by
  have live : ∀ id, (store.save env entry).state.get id =
      if id = entry.id then some entry else store.get id := by
    intro id
    rw [get, save_entries, OrderedDict.get_set]
    rfl
  obtain ⟨keyed, file, recorded, _⟩ := kept.tracked
  apply kept.extend
  · exact Keyed.save keyed entry
  · intro id old stored
    rw [live]
    by_cases here : id = entry.id
    · exact ⟨entry, if_pos here⟩
    · exact ⟨old, by rw [if_neg here, stored]⟩
  · intro deletes
    cases deletes
  · apply (save_writes entry recorded).imp_right
    rintro ⟨line, appended, sameId⟩
    refine ⟨file, line, recorded, appended, entry, ?_⟩
    rw [live, sameId, if_pos rfl]

theorem Kept.amend (kept : Kept deletes ids store) (id : String)
    (change : MemoryEntry Value → MemoryEntry Value)
    (keepsId : ∀ entry, (change entry).id = entry.id) :
    Kept deletes ids (store.amend env id change).state := by
  obtain ⟨keyed, file, recorded, _⟩ := kept.tracked
  have live := amend_entries env id change keepsId store keyed
  cases stored : store.get id with
  | none =>
    rw [amend_absent stored]
    exact kept
  | some entry =>
    have found : store.entries.get? id = some entry := stored
    rw [found] at live
    apply kept.extend
    · exact Keyed.amend keyed id change keepsId
    · intro other old present
      rw [get, live]
      by_cases here : other = id
      · exact ⟨change entry, if_pos here⟩
      · exact ⟨old, by rw [if_neg here]; exact present⟩
    · intro _ other missing
      have apart : other ≠ id := by
        rintro rfl
        rw [stored] at missing
        cases missing
      rw [get, live, if_neg apart]
      exact missing
    · have mutated : (store.mutate id change).disk = some file := recorded
      have sameId : (change entry).id = id := by
        rw [keepsId, keyed id entry stored]
      have amended : store.amend env id change =
          (store.mutate id change).save env (change entry) := by
        simp only [MemoryStore.amend, found]
      rw [amended] at live ⊢
      apply (save_writes (change entry) mutated).imp_right
      rintro ⟨line, appended, lineId⟩
      refine ⟨file, line, recorded, appended, change entry, ?_⟩
      rw [get, live, lineId, sameId, if_pos rfl]
      rfl

theorem Kept.mutate (kept : Kept deletes ids store) (id : String)
    (change : MemoryEntry Value → MemoryEntry Value)
    (keepsId : ∀ entry, (change entry).id = entry.id) :
    Kept deletes ids (store.mutate id change) := by
  have live := mutate_entries id change store
  apply kept.extend
  · exact Keyed.mutate kept.tracked.keyed id change keepsId
  · intro other old present
    rw [get, live]
    by_cases here : other = id
    · subst here
      exact ⟨change old, by rw [if_pos rfl]; exact congrArg (Option.map change) present⟩
    · exact ⟨old, by rw [if_neg here]; exact present⟩
  · intro _ other missing
    rw [get, live]
    by_cases here : other = id
    · subst here
      rw [if_pos rfl]
      exact congrArg (Option.map change) missing
    · rw [if_neg here]
      exact missing
  · exact Or.inl rfl

/-- An entry that a rewrite of the file leaves well formed. -/
def Rewritable (env : MemoryEnv Value) (entry : MemoryEntry Value) : Prop :=
  env.Serializes entry ∧ entry.validates = true

theorem Kept.delete (kept : Kept true ids store) (id : String)
    (rewritable : ∀ _ ∈ store.get id, ∀ other ≠ id, ∀ entry ∈ store.get other,
      Rewritable env entry) :
    Kept true ids (store.delete env id).state := by
  obtain ⟨keyed, file, recorded, _⟩ := kept.tracked
  cases stored : store.get id with
  | none =>
    rw [delete_absent stored]
    exact kept
  | some entry =>
    have keyedAfter : (store.delete env id).state.Keyed := Keyed.delete keyed id
    have sound : ∀ other ∈ (store.delete env id).state.getAll,
        Rewritable env other := by
      intro other present
      have found := keyedAfter.get_listed present
      rw [get, delete_entries] at found
      split at found
      · cases found
      next apart => exact rewritable entry stored other.id apart other found
    have rewritten := delete_disk recorded stored fun other present =>
      (sound other present).1
    have content := latest_rewritten keyedAfter sound
    constructor
    · refine ⟨keyedAfter, _, rewritten, ?_, ?_⟩
      · intro torn ending
        cases ending
      · intro other said found
        rw [content other] at found
        obtain ⟨live, present, _⟩ := Option.map_eq_some_iff.mp found
        exact ⟨live, present⟩
    · intro other _
      cases remains : (store.delete env id).state.get other with
      | none => exact Or.inr ⟨rfl, rfl⟩
      | some live =>
        apply Or.inl
        refine ⟨_, rewritten, env.written live, ?_⟩
        rw [content other, remains, Option.map_some]

theorem Kept.routine : AmendRule env (Kept deletes ids) :=
  fun _ id change routine kept => kept.amend id change routine.id

theorem delete_rewritable : DeleteRule env (fun store : MemoryStore Value =>
    Kept true ids store ∧ store.All fun _ entry => Rewritable env entry) :=
  fun _ id reached => ⟨reached.1.delete id fun _ _ other _ entry stored =>
    reached.2 other entry stored, All.delete reached.2 id⟩

theorem Kept.purgeArchived (kept : Kept true ids store)
    (rewritable : (∃ id, ∃ entry ∈ store.get id, entry.archived = true) →
      ∀ id, ∀ entry ∈ store.get id, Rewritable env entry) :
    Kept true ids (store.purgeArchived env).state := by
  by_cases purges : ∃ id, ∃ entry ∈ store.get id, entry.archived = true
  · exact (delete_rewritable.purgeArchived ⟨kept, rewritable purges⟩).1
  · have none : store.getAll.filter (fun entry => entry.archived) = [] := by
      apply List.filter_eq_nil_iff.mpr
      intro entry present archived
      exact purges ⟨entry.id, entry, kept.tracked.keyed.get_listed present, archived⟩
    rw [MemoryStore.purgeArchived, none]
    exact kept

theorem Kept.applyRetentionPolicy (kept : Kept true ids store) {now : Time}
    {maxAgeDays maxVersions : Int} {minImportance : Rat} {autoPurge : Bool}
    (rewritable : autoPurge = true → (∃ id, ∃ entry ∈ store.get id, entry.archived = true ∧
        entry.retentionReason maxAgeDays maxVersions minImportance now = true) →
      ∀ id, ∀ entry ∈ store.get id, Rewritable env entry) :
    Kept true ids (store.applyRetentionPolicy env now maxAgeDays maxVersions
      minImportance autoPurge).state := by
  by_cases purges : autoPurge = true ∧ ∃ id, ∃ entry ∈ store.get id, entry.archived = true ∧
        entry.retentionReason maxAgeDays maxVersions minImportance now = true
  · have archives : ∀ (store : MemoryStore Value) (id : String),
        (Kept true ids store ∧ store.All fun _ entry => Rewritable env entry) →
        Kept true ids (store.archive env now id).state ∧
          (store.archive env now id).state.All fun _ entry => Rewritable env entry := by
      intro store id reached
      refine ⟨Kept.routine.archive id reached.1, ?_⟩
      apply All.amend reached.2 reached.1.tracked.keyed id (MemoryEntry.archiveAt now) fun _ => rfl
      intro entry stored
      have sound := reached.2 id entry stored
      exact ⟨(Routine.of_archive now).dump sound.1, sound.2⟩
    have swept := retention_invariant (fun _ => True)
      (fun _ reached => reached.1.tracked.keyed) archives
      (fun store id reached _ => delete_rewritable store id reached)
      ⟨kept, rewritable purges.1 purges.2⟩
      (fun _ _ _ _ _ _ => trivial : ∀ id entry, store.get id = some entry →
        autoPurge = true → entry.archived = true →
          entry.retentionReason maxAgeDays maxVersions minImportance now = true → True)
    exact swept.1
  · apply retention_invariant (fun _ => False) (fun _ kept => kept.tracked.keyed)
      (fun _ id kept => Kept.routine.archive id kept)
    · intro store id kept none
      cases stored : store.get id with
      | none =>
        rw [delete_absent stored]
        exact kept
      | some entry => exact (none entry stored).elim
    · exact kept
    · intro id entry stored purge archived reason
      exact purges ⟨purge, id, entry, stored, archived, reason⟩

theorem Kept.clear (kept : Kept true ids store) : Kept true ids store.clear := by
  obtain ⟨_, file, recorded, _⟩ := kept.tracked
  have emptied : store.clear.disk = some {} := by
    rw [MemoryStore.clear, recorded, Option.map_some]
  constructor
  · refine ⟨?_, {}, emptied, ?_, ?_⟩
    · intro id entry stored
      cases stored
    · intro torn ending
      cases ending
    · intro id entry said
      cases said
  · intro id _
    exact Or.inr ⟨rfl, rfl⟩

theorem tracked_open {file : LogFile Value}
    (damaged : ∀ torn ∈ file.unterminated, torn.parsedEntry = none)
    (nothing : file.NothingNew) : (openStore (some file)).Tracked := by
  refine ⟨open_keyed _, file, open_disk file, damaged, ?_⟩
  intro id entry said
  exact ⟨entry, by rw [(LogFile.recovered_iff file).mpr nothing id, said]⟩

theorem Kept.open_store (kept : Kept false ids store)
    (nothing : ∀ file ∈ store.disk, file.NothingNew) :
    Kept false ids (openStore store.disk) := by
  obtain ⟨_, file, recorded, damaged, _⟩ := kept.tracked
  rw [recorded]
  constructor
  · exact tracked_open damaged (nothing file recorded)
  · intro id member
    rcases kept.kept id member with ⟨other, onDisk, said⟩ | ⟨deletes, _⟩
    · cases onDisk.symm.trans recorded
      exact Or.inl ⟨file, open_disk file, said⟩
    · cases deletes

theorem Kept.update (kept : Kept deletes ids store) (now : Time) (id : String)
    (fields : UpdateFields Value) :
    Kept deletes ids (store.update env now id fields).state := by
  apply Outcome.and_then_state (Kept deletes ids)
  · exact Kept.routine.retrieve id kept
  · exact fun _ kept => kept
  · exact fun _ kept => kept.amend id _ (MemoryEntry.apply_update_id env fields now)

theorem Kept.linkMemories (kept : Kept deletes ids store) (now : Time) (parentId childId : String) :
    Kept deletes ids (store.linkMemories env now parentId childId).state := by
  apply Outcome.and_then_state (Kept deletes ids)
  · exact Kept.routine.retrieve parentId kept
  · exact fun _ kept => kept
  · intro store kept
    apply Outcome.and_then_state (Kept deletes ids)
    · exact Kept.routine.retrieve childId kept
    · exact fun _ kept => kept
    · intro store kept
      split
      · exact kept.mutate childId (MemoryEntry.linkedTo parentId) fun _ => rfl
      · exact kept

theorem Kept.restoreEntries (kept : Kept false ids store) (entries : List (MemoryEntry Value)) :
    Kept false ids (store.restoreEntries env entries).state := by
  apply Outcome.for_each_state (Kept false ids) _ _ _ store kept
  intro entry _ store kept
  split
  · exact kept.save entry
  · exact kept

end Preserved

end MemoryStore

/-! ## Runs of the engine -/

/-- Operations that delete entries. -/
def MemoryOp.deletes : MemoryOp Value → Bool
  | .delete _ | .purgeArchived | .applyRetentionPolicy | .clear => true
  | _ => false

namespace MemoryEngine

open MemoryStore (Kept Rewritable OnDisk)

variable (config : MemoryConfig)

/-- A step that rewrites the file finds every entry that is left fit to be
written, and one that loads it finds nothing new after a damaged line. -/
def KeepsLog (env : MemoryEnv Value) (engine : MemoryEngine Value)
    (input : MemoryInput Value) : Prop :=
  let store := engine.store
  match input.op with
  | .delete id =>
    ∀ _ ∈ store.get id, ∀ other ≠ id, ∀ entry ∈ store.get other, Rewritable env entry
  | .purgeArchived =>
    (∃ id, ∃ entry ∈ store.get id, entry.archived = true) →
      ∀ id, ∀ entry ∈ store.get id, Rewritable env entry
  | .applyRetentionPolicy =>
    config.retention.autoPurge = true →
    (∃ id, ∃ entry ∈ store.get id, entry.archived = true ∧
      entry.retentionReason (orDefault config.retention.maxAgeDays 365)
        (orDefault config.retention.maxVersions 5) config.retention.minImportance
        input.now = true) →
      ∀ id, ∀ entry ∈ store.get id, Rewritable env entry
  | .reload => ∀ file ∈ store.disk, file.NothingNew
  | _ => True

theorem step_kept (ids : String → Prop) (engine : MemoryEngine Value)
    (input : MemoryInput Value) (keeps : KeepsLog config env engine input)
    (kept : Kept input.op.deletes ids engine.store) :
    Kept input.op.deletes ids (step env config engine input).store := by
  obtain ⟨op, now⟩ := input
  by_cases amends : op.amends = true
  · exact (amends_call Kept.routine config op amends now engine kept).1
  cases op with
  | save fields =>
    change Kept false ids (engine.save env config fields now).state.store
    rcases save_cases env config fields now engine with ⟨_, saved⟩ | ⟨_, refused⟩
    · rw [saved]
      exact kept.save _
    · rw [refused]
      exact kept
  | update id fields => exact kept.update now id fields
  | delete id => exact kept.delete id keeps
  | purgeArchived => exact kept.purgeArchived keeps
  | applyRetentionPolicy => exact kept.applyRetentionPolicy keeps
  | snapshot ids =>
    change Kept false _ (engine.createSnapshot env ids now).state.store
    rw [create_snapshot_store]
    exact kept
  | restoreSnapshot snapshotId =>
    change Kept false ids (engine.restoreSnapshot env snapshotId).state.store
    unfold restoreSnapshot
    split
    · exact kept
    next entries _ => exact kept.restoreEntries entries
  | deleteSnapshot snapshotId => exact kept
  | linkMemories parentId childId => exact kept.linkMemories now parentId childId
  | clear => exact kept.clear
  | reload => exact kept.open_store keeps
  | saveEntry entry => exact kept.save entry
  | _ => exact absurd rfl amends

theorem step_tracked (engine : MemoryEngine Value) (input : MemoryInput Value)
    (tracked : engine.store.Tracked) (keeps : KeepsLog config env engine input) :
    (step env config engine input).store.Tracked :=
  (step_kept config (fun _ => False) engine input keeps ⟨tracked, fun _ => False.elim⟩).tracked

/-- A log whose last line is torn, and an entry deleted after it is loaded. -/
def tornLog : LogFile PyValue where
  lines := [.record { id := "a", createdAt := 1 }, .record { id := "b", createdAt := 2 }]
  unterminated := some .malformed

end MemoryEngine

end AiEnterpriseOs.Memory
