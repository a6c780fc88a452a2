import AiEnterpriseOs.Memory.StoreLemmas

/-!
# Upkeep of the store

Archiving, retention, expiry and tier management come down to two moves: a
live entry is changed in fields that neither its validation nor its contents
depend on and saved, or an entry is deleted. What both moves preserve, all of
these operations preserve.
-/

namespace AiEnterpriseOs.Memory

open Library

variable {Value : Type} {env : MemoryEnv Value}

/-- A change that leaves alone the identity of an entry, what it carries, and
what its validation checks. -/
structure Routine (change : MemoryEntry Value → MemoryEntry Value) : Prop where
  id : ∀ entry, (change entry).id = entry.id
  content : ∀ entry, (change entry).content = entry.content
  metadata : ∀ entry, (change entry).metadata = entry.metadata
  validates : ∀ entry, (change entry).validates = entry.validates

theorem Routine.of_archive (now : Time) : Routine (@MemoryEntry.archiveAt Value now) :=
  ⟨fun _ => rfl, fun _ => rfl, fun _ => rfl, fun _ => rfl⟩

theorem Routine.comp {first second : MemoryEntry Value → MemoryEntry Value}
    (routine : Routine second) (earlier : Routine first) :
    Routine (second ∘ first) where
  id entry := (routine.id _).trans (earlier.id entry)
  content entry := (routine.content _).trans (earlier.content entry)
  metadata entry := (routine.metadata _).trans (earlier.metadata entry)
  validates entry := (routine.validates _).trans (earlier.validates entry)

namespace MemoryStore

theorem amend_mutate (id : String) (first second : MemoryEntry Value → MemoryEntry Value)
    (store : MemoryStore Value) :
    (store.mutate id first).amend env id second = store.amend env id (second ∘ first) := by
  cases stored : store.entries.get? id with
  | none =>
    have unchanged : store.mutate id first = store := by
      rw [mutate, OrderedDict.modify_absent stored]
    rw [unchanged, amend, amend, stored]
  | some entry =>
    have current : (store.mutate id first).entries.get? id = some (first entry) := by
      rw [mutate_entries, if_pos rfl, stored, Option.map_some]
    have composed : (store.mutate id first).mutate id second =
        store.mutate id (second ∘ first) := by
      simp only [mutate, OrderedDict.modify_modify]
    simp only [amend, current, stored, composed, Function.comp_apply]

/-- Preserved by a routine change that is saved. -/
def AmendRule (env : MemoryEnv Value) (invariant : MemoryStore Value → Prop) :
    Prop :=
  ∀ store id change, Routine change → invariant store → invariant (store.amend env id change).state

/-- Preserved by a deletion. -/
def DeleteRule (env : MemoryEnv Value) (invariant : MemoryStore Value → Prop) :
    Prop :=
  ∀ store id, invariant store → invariant (store.delete env id).state

theorem DeleteRule.purgeArchived {invariant : MemoryStore Value → Prop}
    (rule : DeleteRule env invariant) {store : MemoryStore Value}
    (holds : invariant store) : invariant (store.purgeArchived env).state := by
  apply Outcome.for_each_state invariant _ _ _ store holds
  intro id _ store holds
  exact rule store id holds

theorem retention_invariant {invariant : MemoryStore Value → Prop}
    (purgeable : MemoryEntry Value → Prop) {now : Time}
    {maxAgeDays maxVersions : Int} {minImportance : Rat} {autoPurge : Bool}
    (keyed : ∀ store, invariant store → store.Keyed)
    (archives : ∀ store id, invariant store → invariant (store.archive env now id).state)
    (deletes : ∀ store id, invariant store →
      (∀ entry, store.get id = some entry → purgeable entry) →
        invariant (store.delete env id).state)
    {store : MemoryStore Value} (holds : invariant store)
    (purged : ∀ id entry, store.get id = some entry → autoPurge = true → entry.archived = true →
        entry.retentionReason maxAgeDays maxVersions minImportance now = true → purgeable entry) :
    invariant (store.applyRetentionPolicy env now maxAgeDays maxVersions
      minImportance autoPurge).state := by
  apply Outcome.for_each_remaining (fun rest store =>
    invariant store ∧ (rest.map fun entry => entry.id).Nodup ∧
      ∀ entry ∈ rest, ∀ live, store.get entry.id = some live → autoPurge = true →
        live.archived = true →
          live.retentionReason maxAgeDays maxVersions minImportance now = true → purgeable live)
  · rintro entry rest store ⟨holds, distinct, remaining⟩
    rw [List.map_cons, List.nodup_cons] at distinct
    have others : ∀ after : MemoryStore Value,
        (∀ id, id ≠ entry.id → after.entries.get? id = store.entries.get? id) →
        ∀ other ∈ rest, ∀ live, after.get other.id = some live →
          autoPurge = true → live.archived = true →
            live.retentionReason maxAgeDays maxVersions minImportance now = true →
              purgeable live := by
      intro after same other member live stored
      have apart : other.id ≠ entry.id := by
        intro equal
        apply distinct.1
        rw [← equal]
        exact List.mem_map.mpr ⟨other, member, rfl⟩
      rw [MemoryStore.get, same other.id apart] at stored
      exact remaining other (List.mem_cons_of_mem _ member) live stored
    split
    · exact ⟨holds, distinct.2, others store fun _ _ => rfl⟩
    next live stored =>
      have sameId : live.id = entry.id := keyed store holds _ live stored
      split
      next reason =>
        split
        next purge =>
          rw [Bool.and_eq_true] at purge
          refine ⟨?_, distinct.2, ?_⟩
          · apply deletes store live.id holds
            intro other found
            rw [sameId] at found
            cases stored.symm.trans found
            exact remaining entry List.mem_cons_self live stored purge.1 purge.2 reason
          · apply others
            intro id apart
            rw [delete_entries, sameId, if_neg apart]
        · split
          · refine ⟨archives store live.id holds, distinct.2, ?_⟩
            apply others
            intro id apart
            rw [MemoryStore.archive, amend_entries env live.id
              (MemoryEntry.archiveAt now) (fun _ => rfl) store (keyed store holds),
              sameId, if_neg apart]
          · exact ⟨holds, distinct.2, others store fun _ _ => rfl⟩
      · exact ⟨holds, distinct.2, others store fun _ _ => rfl⟩
  · exact fun _ _ reached => reached.1
  · refine ⟨holds, (keyed store holds).distinct_ids, ?_⟩
    intro entry _ live stored
    exact purged entry.id live stored

namespace AmendRule

variable {invariant : MemoryStore Value → Prop}
  (rule : AmendRule env invariant) {store : MemoryStore Value} {now : Time}
include rule

theorem retrieve (id : String) (holds : invariant store) :
    invariant (store.retrieve env now id).state :=
  rule store id _ ⟨fun _ => rfl, fun _ => rfl, fun _ => rfl, fun _ => rfl⟩ holds

theorem archive (id : String) (holds : invariant store) :
    invariant (store.archive env now id).state :=
  rule store id _ (Routine.of_archive now) holds

theorem unarchive (id : String) (holds : invariant store) :
    invariant (store.unarchive env now id).state :=
  rule store id _ ⟨fun _ => rfl, fun _ => rfl, fun _ => rfl, fun _ => rfl⟩ holds

theorem archiveListed (condition : MemoryEntry Value → Bool)
    (listed : List (MemoryEntry Value)) (holds : invariant store) :
    invariant (store.archiveListed env now condition listed).state := by
  apply Outcome.for_each_state invariant _ listed _ store holds
  intro entry _ store holds
  split
  · exact holds
  · split
    · exact rule.archive _ holds
    · exact holds

theorem retire (id : String) (holds : invariant store) :
    invariant (store.amend env id (MemoryEntry.retired now)).state :=
  rule store id _ ⟨fun _ => rfl, fun _ => rfl, fun _ => rfl, fun _ => rfl⟩ holds

theorem promote (id : String) (holds : invariant store) :
    invariant (store.amend env id MemoryEntry.promoted).state :=
  rule store id _ ⟨fun _ => rfl, fun _ => rfl, fun _ => rfl, fun _ => rfl⟩ holds

theorem demote (id : String) (holds : invariant store) :
    invariant ((store.mutate id (MemoryEntry.retired now)).archive env now id).state := by
  rw [MemoryStore.archive, amend_mutate]
  exact rule store id _ ((Routine.of_archive now).comp
    ⟨fun _ => rfl, fun _ => rfl, fun _ => rfl, fun _ => rfl⟩) holds

theorem promoteToLongTerm (id : String) (minImportance : Rat) (holds : invariant store) :
    invariant (store.promoteToLongTerm env now id minImportance).state := by
  apply Outcome.and_then_state invariant
  · exact rule.retrieve id holds
  · exact fun _ holds => holds
  · intro store holds
    split
    · exact holds
    · split
      · exact rule.promote id holds
      · exact holds

theorem demoteToArchived (id : String) (importanceThreshold : Rat) (holds : invariant store) :
    invariant (store.demoteToArchived env now id importanceThreshold).state := by
  apply Outcome.and_then_state invariant
  · exact rule.retrieve id holds
  · exact fun _ holds => holds
  · intro store holds
    split
    · exact holds
    · split
      · exact rule.demote id holds
      · exact holds

theorem cleanupExpired (holds : invariant store) :
    invariant (store.cleanupExpired env now).state := by
  apply Outcome.for_each_state invariant _ _ _ store holds
  intro entry _ store holds
  unfold MemoryStore.cleanupEntry
  split
  · exact holds
  · split
    · exact rule.retire _ holds
    · exact holds

theorem moveEntry (promoteThreshold demoteThreshold : Rat)
    (entry : MemoryEntry Value) (holds : invariant store) :
    invariant (store.moveEntry env now promoteThreshold demoteThreshold entry).state := by
  unfold MemoryStore.moveEntry
  split
  · exact holds
  · split
    · exact rule.promote _ holds
    · split
      · exact rule.demote _ holds
      · exact holds

theorem expireEntry (entry : MemoryEntry Value) (holds : invariant store) :
    invariant (store.expireEntry env now entry).state := by
  unfold MemoryStore.expireEntry
  split
  · exact holds
  · split
    · apply Outcome.and_then_state invariant
      · exact rule.retire _ holds
      · exact fun _ holds => holds
      · exact fun _ holds => rule.cleanupExpired holds
    · exact holds

theorem applyTierManagement (promoteThreshold demoteThreshold : Rat) (holds : invariant store) :
    invariant (store.applyTierManagement env now promoteThreshold demoteThreshold).state := by
  apply Outcome.for_each_state invariant _ _ _ store holds
  intro entry _ store holds
  apply Outcome.and_then_state invariant
  · exact rule.moveEntry promoteThreshold demoteThreshold entry holds
  · exact fun _ holds => holds
  · exact fun _ holds => rule.expireEntry entry holds

end AmendRule

end MemoryStore

/-- Operations that change live entries in routine ways and delete none. -/
def MemoryOp.amends : MemoryOp Value → Bool
  | .retrieve _ | .archive _ | .unarchive _ | .archiveOlderThan _
  | .archiveByType _ | .archiveByNamespace _ | .promoteToLongTerm _ _
  | .demoteToArchived _ _ | .cleanupExpired | .applyTierManagement _ _ => true
  | _ => false

theorem amends_call {invariant : MemoryStore Value → Prop}
    (rule : MemoryStore.AmendRule env invariant) (config : MemoryConfig)
    (op : MemoryOp Value) (amends : op.amends = true) (now : Time)
    (engine : MemoryEngine Value) (holds : invariant engine.store) :
    invariant (engine.call env config op now).state.store ∧
      (engine.call env config op now).state.snapshots = engine.snapshots := by
  cases op with
  | retrieve id => exact ⟨rule.retrieve id holds, rfl⟩
  | archive id => exact ⟨rule.archive id holds, rfl⟩
  | unarchive id => exact ⟨rule.unarchive id holds, rfl⟩
  | archiveOlderThan days => exact ⟨rule.archiveListed _ _ holds, rfl⟩
  | archiveByType memoryType => exact ⟨rule.archiveListed _ _ holds, rfl⟩
  | archiveByNamespace memoryNamespace => exact ⟨rule.archiveListed _ _ holds, rfl⟩
  | promoteToLongTerm id minImportance =>
    exact ⟨rule.promoteToLongTerm id minImportance holds, rfl⟩
  | demoteToArchived id importanceThreshold =>
    exact ⟨rule.demoteToArchived id importanceThreshold holds, rfl⟩
  | cleanupExpired => exact ⟨rule.cleanupExpired holds, rfl⟩
  | applyTierManagement promoteThreshold demoteThreshold =>
    exact ⟨rule.applyTierManagement _ _ holds, rfl⟩
  | _ => cases amends

/-! ## Ids -/

namespace MemoryStore

theorem Keyed.restoreEntries (entries : List (MemoryEntry Value))
    {store : MemoryStore Value} (keyed : store.Keyed) :
    (store.restoreEntries env entries).state.Keyed := by
  apply Outcome.for_each_state Keyed _ entries _ store keyed
  intro entry _ store keyed
  split
  · exact Keyed.save keyed entry
  · exact keyed

theorem Keyed.linkMemories {store : MemoryStore Value} (keyed : store.Keyed)
    (now : Time) (parentId childId : String) :
    (store.linkMemories env now parentId childId).state.Keyed := by
  have retrieved : ∀ id, ∀ store : MemoryStore Value, store.Keyed →
      (store.retrieve env now id).state.Keyed :=
    fun id store keyed => Keyed.amend keyed id _ fun _ => rfl
  apply Outcome.and_then_state Keyed (retrieved parentId store keyed) fun _ keyed => keyed
  intro store keyed
  apply Outcome.and_then_state Keyed (retrieved childId store keyed) fun _ keyed => keyed
  intro store keyed
  split
  · exact Keyed.mutate keyed childId _ fun _ => rfl
  · exact keyed

end MemoryStore

namespace MemoryEngine

theorem call_keyed (config : MemoryConfig) (op : MemoryOp Value) (now : Time)
    (engine : MemoryEngine Value) (keyed : engine.store.Keyed) :
    (engine.call env config op now).state.store.Keyed := by
  have amends : MemoryStore.AmendRule env (@MemoryStore.Keyed Value) :=
    fun store id change routine keyed => MemoryStore.Keyed.amend keyed id change routine.id
  have deletes : MemoryStore.DeleteRule env (@MemoryStore.Keyed Value) :=
    fun store id keyed => MemoryStore.Keyed.delete keyed id
  by_cases routine : op.amends = true
  · exact (amends_call amends config op routine now engine keyed).1
  · cases op with
    | save fields =>
      change (engine.save env config fields now).state.store.Keyed
      rcases save_cases env config fields now engine with ⟨_, saved⟩ | ⟨_, refused⟩
      · rw [saved]
        exact MemoryStore.Keyed.save keyed _
      · rw [refused]
        exact keyed
    | update id fields =>
      apply Outcome.and_then_state MemoryStore.Keyed (amends.retrieve id keyed) fun _ keyed => keyed
      intro store keyed
      exact MemoryStore.Keyed.amend keyed id _ (MemoryEntry.apply_update_id env fields now)
    | delete id => exact deletes engine.store id keyed
    | purgeArchived => exact deletes.purgeArchived keyed
    | applyRetentionPolicy =>
      exact MemoryStore.retention_invariant (fun _ => True) (fun _ keyed => keyed)
        (fun _ id keyed => amends.archive id keyed)
        (fun store id keyed _ => deletes store id keyed) keyed
        (fun _ _ _ _ _ _ => trivial)
    | snapshot ids =>
      change (engine.createSnapshot env ids now).state.store.Keyed
      rw [create_snapshot_store]
      exact keyed
    | restoreSnapshot snapshotId =>
      change (engine.restoreSnapshot env snapshotId).state.store.Keyed
      unfold restoreSnapshot
      split
      · exact keyed
      · exact MemoryStore.Keyed.restoreEntries _ keyed
    | deleteSnapshot snapshotId => exact keyed
    | linkMemories parentId childId =>
      exact MemoryStore.Keyed.linkMemories keyed now parentId childId
    | clear =>
      intro id entry stored
      cases stored
    | reload => exact MemoryStore.open_keyed engine.store.disk
    | saveEntry entry => exact MemoryStore.Keyed.save keyed entry
    | _ => exact absurd rfl routine

theorem runs_keyed (config : MemoryConfig) (disk : Option (LogFile Value))
    (inputs : List (MemoryInput Value)) :
    (runs env config (openEngine disk) inputs).store.Keyed :=
  @invariant_of_steps _ _ (step env config) (fun engine => engine.store.Keyed)
    (fun engine input keyed => call_keyed config input.op input.now engine keyed)
    (openEngine disk) inputs (MemoryStore.open_keyed disk)

end MemoryEngine

end AiEnterpriseOs.Memory
