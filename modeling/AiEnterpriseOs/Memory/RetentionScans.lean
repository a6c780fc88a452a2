import AiEnterpriseOs.Memory.LogFile
import AiEnterpriseOs.Memory.Summary

/-!
# The two retention scans

The archiver applies the configured retention with limits of its own where the
configuration has none; the store enforces each entry's own policy, or the
given one. Both walk the entries in the order of the store and end at the first
write that raises.
-/

namespace AiEnterpriseOs.Memory

open Library

variable {Value : Type}

namespace RetentionPolicy

/-- `if policy.max_age_days:` and an age in days over it. -/
def tooOld (policy : RetentionPolicy) (now : Time) (entry : MemoryEntry Value) : Bool :=
  match policy.maxAgeDays with
  | none => false
  | some days => days != 0 && decide (days < entry.ageDays now)

def unimportant (policy : RetentionPolicy) (entry : MemoryEntry Value) : Bool :=
  decide (entry.importance < policy.minImportance)

/-- `policy.max_versions and entry.version > policy.max_versions`. -/
def tooManyVersions (policy : RetentionPolicy) (entry : MemoryEntry Value) : Bool :=
  match policy.maxVersions with
  | none => false
  | some versions => versions != 0 && decide (versions < entry.version)

end RetentionPolicy

namespace MemoryEntry

/-- `archived` and `archived_at`, as the store sets them. -/
def expireAt (now : Time) (entry : MemoryEntry Value) : MemoryEntry Value :=
  { entry with archived := true, archivedAt := some now }

end MemoryEntry

namespace MemoryStore

section Scans

variable (env : MemoryEnv Value) (now : Time)

/-- Write entry to archive file. The store never reads that file. -/
def writeArchiveEntry (id : String) (store : MemoryStore Value) : Outcome (MemoryStore Value) :=
  match store.get id with
  | none => .returning store
  | some entry =>
    match env.dump entry with
    | none => .raising store
    | some _ => .returning store

/-- Archive a memory entry, in the archive file too if there is one. -/
def archiveWithFile (archivePath : Bool) (id : String) (store : MemoryStore Value) :
    Outcome (MemoryStore Value) :=
  (store.archive env now id).andThen fun store =>
    if archivePath then store.writeArchiveEntry env id else .returning store

/-- `applyRetentionPolicy` of an archiver that may have an archive file. -/
def applyRetentionWithFile (archivePath : Bool) (maxAgeDays maxVersions : Int)
    (minImportance : Rat) (autoPurge : Bool) (store : MemoryStore Value) :
    Outcome (MemoryStore Value) :=
  Outcome.forEach (fun entry store =>
    match store.get entry.id with
    | none => .returning store
    | some live =>
      if live.retentionReason maxAgeDays maxVersions minImportance now then
        if autoPurge && live.archived then store.delete env live.id
        else if !live.archived then store.archiveWithFile env now archivePath live.id
        else .returning store
      else .returning store) store.getAll store

def enforceRetention (policy : RetentionPolicy) (store : MemoryStore Value) :
    Outcome (MemoryStore Value) :=
  Outcome.forEach (fun entry store =>
    match store.get entry.id with
    | none => .returning store
    | some live =>
      let entryPolicy := live.retentionPolicy.getD policy
      let old := entryPolicy.tooOld now live
      let mayArchive := entryPolicy.autoArchive && !live.archived
      let shouldArchive := old && mayArchive ||
        entryPolicy.unimportant live && mayArchive ||
          entryPolicy.tooManyVersions live && mayArchive
      -- the purge is the `elif` of the archival for age
      let shouldPurge := old && !mayArchive && entryPolicy.autoPurge && live.archived
      if shouldPurge then store.delete env live.id
      else if shouldArchive then store.amend env live.id (MemoryEntry.expireAt now)
      else .returning store) store.getAll store

theorem apply_without_file (maxAgeDays maxVersions : Int) (minImportance : Rat)
    (autoPurge : Bool) (store : MemoryStore Value) :
    store.applyRetentionWithFile env now false maxAgeDays maxVersions minImportance autoPurge =
      store.applyRetentionPolicy env now maxAgeDays maxVersions minImportance
        autoPurge := by
  have archives : archiveWithFile env now false = @archive Value env now := by
    funext id store
    exact Outcome.and_then_returning _
  rw [applyRetentionWithFile, archives]
  rfl

end Scans

end MemoryStore

/-- What a scan does with an entry. -/
inductive RetentionAction where
  | keep
  | archive
  | purge
  deriving DecidableEq, Repr

section Actions

variable (now : Time) (retention : RetentionPolicy)

/-- The limits of `MemoryEngine.apply_retention_policy`: 365 days and five
versions where the configuration gives none, or zero. -/
def appliedReason (entry : MemoryEntry Value) : Bool :=
  entry.retentionReason (MemoryEngine.orDefault retention.maxAgeDays 365)
    (MemoryEngine.orDefault retention.maxVersions 5) retention.minImportance now

def appliedAction (entry : MemoryEntry Value) : RetentionAction :=
  if appliedReason now retention entry then
    if retention.autoPurge && entry.archived then .purge
    else if !entry.archived then .archive
    else .keep
  else .keep

def entryPolicy (entry : MemoryEntry Value) : RetentionPolicy :=
  entry.retentionPolicy.getD retention

def enforcedAction (entry : MemoryEntry Value) : RetentionAction :=
  let policy := entryPolicy retention entry
  let old := policy.tooOld now entry
  let mayArchive := policy.autoArchive && !entry.archived
  if old && !mayArchive && policy.autoPurge && entry.archived then .purge
  else if old && mayArchive || policy.unimportant entry && mayArchive ||
      policy.tooManyVersions entry && mayArchive then .archive
  else .keep

/-- The two scans treat an entry alike. An entry not yet archived: the limits
of the engine are met exactly if its policy archives and one of the limits of
its policy is met. An archived one: the configuration purges and a limit of
the engine is met, exactly if its policy purges and its age limit is met. -/
def SameLimits (entry : MemoryEntry Value) : Prop :=
  let policy := entryPolicy retention entry
  if entry.archived then
    (retention.autoPurge = true ∧ appliedReason now retention entry = true ↔
      policy.autoPurge = true ∧ policy.tooOld now entry = true)
  else
    (appliedReason now retention entry = true ↔
      policy.autoArchive = true ∧ (policy.tooOld now entry = true ∨
        policy.unimportant entry = true ∨ policy.tooManyVersions entry = true))

theorem same_action_iff (entry : MemoryEntry Value) :
    appliedAction now retention entry = enforcedAction now retention entry ↔
      SameLimits now retention entry := by
  unfold appliedAction enforcedAction SameLimits
  dsimp only
  cases entry.archived <;> cases appliedReason now retention entry <;>
    cases retention.autoPurge <;>
    cases (entryPolicy retention entry).autoArchive <;>
    cases (entryPolicy retention entry).autoPurge <;>
    cases (entryPolicy retention entry).tooOld now entry <;>
    cases (entryPolicy retention entry).unimportant entry <;>
    cases (entryPolicy retention entry).tooManyVersions entry <;> decide

end Actions

namespace MemoryStore

section Scan

variable (env : MemoryEnv Value)

/-- A change of a live entry, which is saved, and written to an archive file
too if there is one. -/
def archiveLive (archiveFile : Bool) (change : MemoryEntry Value → MemoryEntry Value)
    (id : String) (store : MemoryStore Value) : Outcome (MemoryStore Value) :=
  (store.amend env id change).andThen fun store =>
    if archiveFile then store.writeArchiveEntry env id else .returning store

def perform (store : MemoryStore Value) (archiveFile : Bool)
    (change : MemoryEntry Value → MemoryEntry Value) (id : String)
    (action : RetentionAction) :
    Outcome (MemoryStore Value) :=
  match action with
  | .keep => .returning store
  | .archive => store.archiveLive env archiveFile change id
  | .purge => store.delete env id

/-- A walk over the listed entries, with an action for each one still live. -/
def retentionScan (archiveFile : Bool) (change : MemoryEntry Value → MemoryEntry Value)
    (action : MemoryEntry Value → RetentionAction) :
    List (MemoryEntry Value) → MemoryStore Value → Outcome (MemoryStore Value) :=
  Outcome.forEach fun entry store =>
    match store.get entry.id with
    | none => .returning store
    | some live => store.perform env archiveFile change live.id (action live)

end Scan

end MemoryStore

/-- `MemoryEngine.apply_retention_policy`. -/
def MemoryEngine.applyRetention (env : MemoryEnv Value) (archivePath : Bool)
    (config : MemoryConfig) (now : Time) (store : MemoryStore Value) :
    Outcome (MemoryStore Value) :=
  store.applyRetentionWithFile env now archivePath (orDefault config.retention.maxAgeDays 365)
    (orDefault config.retention.maxVersions 5)
    config.retention.minImportance config.retention.autoPurge

theorem MemoryEngine.apply_retention_scan (env : MemoryEnv Value) (archivePath : Bool)
    (config : MemoryConfig) (now : Time) (store : MemoryStore Value) :
    applyRetention env archivePath config now store =
      store.retentionScan env archivePath (MemoryEntry.archiveAt now)
        (appliedAction now config.retention) store.getAll := by
  unfold applyRetention MemoryStore.applyRetentionWithFile MemoryStore.retentionScan
  congr 1
  funext entry store
  cases store.get entry.id with
  | none => rfl
  | some live =>
    unfold appliedAction appliedReason
    dsimp only
    split_ifs <;> rfl

theorem MemoryStore.enforce_retention_scan (env : MemoryEnv Value) (now : Time)
    (policy : RetentionPolicy) (store : MemoryStore Value) :
    store.enforceRetention env now policy = store.retentionScan env false (MemoryEntry.expireAt now)
        (enforcedAction now policy) store.getAll := by
  unfold enforceRetention retentionScan
  congr 1
  funext entry store
  cases store.get entry.id with
  | none => rfl
  | some live =>
    unfold enforcedAction entryPolicy
    dsimp only
    split_ifs
    · rfl
    · exact (Outcome.and_then_returning _).symm
    · rfl

/-! ## What a scan leaves -/

section Treatment

variable (env : MemoryEnv Value) (onDisk archiveFile : Bool)

/-- The write that an action ends with is refused, where `others` are the
entries that stay besides. -/
def refuses (others : List (MemoryEntry Value)) (entry : MemoryEntry Value) : RetentionAction → Bool
  | .keep => false
  | .archive => (onDisk || archiveFile) && (env.dump entry).isNone
  | .purge => onDisk && others.any fun other => (env.dump other).isNone

/-- Whether an entry is archived after an action, none where it is purged. -/
def archivedAfter (entry : MemoryEntry Value) : RetentionAction → Option Bool
  | .keep => some entry.archived
  | .archive => some true
  | .purge => none

/-- The entries that stay after an action on the next one. -/
def staying (kept : List (MemoryEntry Value)) (entry : MemoryEntry Value) :
    RetentionAction → List (MemoryEntry Value)
  | .purge => kept
  | _ => kept ++ [entry]

/-- What a scan makes of the entries still to come, up to the first write that
is refused. -/
def treatments (action : MemoryEntry Value → RetentionAction) :
    List (MemoryEntry Value) → List (MemoryEntry Value) → List (Option Bool)
  | _, [] => []
  | kept, entry :: rest =>
    archivedAfter entry (action entry) ::
      if refuses env onDisk archiveFile (kept ++ rest) entry (action entry) then
        rest.map fun other => some other.archived
      else treatments action (staying kept entry (action entry)) rest

end Treatment

theorem Routine.refused {env : MemoryEnv Value}
    {change : MemoryEntry Value → MemoryEntry Value} (routine : Routine change)
    (entry : MemoryEntry Value) :
    (env.dump (change entry)).isNone = (env.dump entry).isNone := by
  simp only [MemoryEnv.dump, routine.content, routine.metadata]
  cases env.roundTripDict entry.content <;> cases env.roundTripDict entry.metadata <;> rfl

theorem Routine.of_expiry (now : Time) : Routine (@MemoryEntry.expireAt Value now) :=
  ⟨fun _ => rfl, fun _ => rfl, fun _ => rfl, fun _ => rfl⟩

namespace MemoryStore

variable {env : MemoryEnv Value} {change : MemoryEntry Value → MemoryEntry Value}

theorem write_archive_state (id : String) (store : MemoryStore Value) :
    (store.writeArchiveEntry env id).state = store := by
  unfold writeArchiveEntry
  split
  · rfl
  · split <;> rfl

theorem archive_live_state (archiveFile : Bool) (id : String) (store : MemoryStore Value) :
    (store.archiveLive env archiveFile change id).state = (store.amend env id change).state := by
  apply Outcome.and_then_state (fun state => state = (store.amend env id change).state)
    rfl fun _ same => same
  rintro after rfl
  split
  · exact write_archive_state id _
  · rfl

theorem amend_get (routine : Routine change) {store : MemoryStore Value}
    (keyed : store.Keyed) (id other : String) :
    (store.amend env id change).state.get other =
      if other = id then (store.get id).map change else store.get other :=
  amend_entries env id change routine.id store keyed other

theorem amend_has_disk (id : String) (store : MemoryStore Value) :
    (store.amend env id change).state.disk.isSome = store.disk.isSome := by
  unfold amend
  cases store.entries.get? id with
  | none => rfl
  | some entry => exact save_has_disk env (change entry) (store.mutate id change)

theorem archive_live_returned (routine : Routine change) (archiveFile : Bool) {id : String}
    {entry : MemoryEntry Value} {store : MemoryStore Value} (keyed : store.Keyed)
    (stored : store.get id = some entry) :
    (store.archiveLive env archiveFile change id).returned =
      !((store.disk.isSome || archiveFile) && (env.dump entry).isNone) := by
  have found : store.entries.get? id = some entry := stored
  have amended : (store.amend env id change).returned =
      !(store.disk.isSome && (env.dump entry).isNone) := by
    rw [amend, found]
    rw [← routine.refused entry]
    exact save_returned env (change entry) (store.mutate id change)
  have live : (store.amend env id change).state.get id = some (change entry) := by
    rw [amend_get routine keyed, if_pos rfl, stored, Option.map_some]
  cases written : (store.amend env id change).returned with
  | false =>
    rw [archiveLive, Outcome.and_then_of_raised _ written, written]
    rw [amended, Bool.not_eq_false', Bool.and_eq_true] at written
    rw [written.1, written.2]
    rfl
  | true =>
    rw [archiveLive, Outcome.and_then_of_returned _ written]
    rw [amended] at written
    cases archiveFile with
    | false =>
      rw [Bool.or_false, written]
      rfl
    | true =>
      rw [Bool.or_true, Bool.true_and, ← routine.refused entry, if_pos rfl, writeArchiveEntry, live]
      cases dumped : env.dump (change entry) <;> simp [dumped]

/-- A scan under way: what stays of the entries it has passed, and those still
to come, which are as the store lists them. -/
structure Scanning (env : MemoryEnv Value) (onDisk : Bool)
    (kept rest : List (MemoryEntry Value)) (store : MemoryStore Value) : Prop where
  keyed : store.Keyed
  disk : store.disk.isSome = onDisk
  distinct : ((kept ++ rest).map fun entry => entry.id).Nodup
  listed : ∀ entry ∈ rest, store.get entry.id = some entry
  refused : ∀ id, (∃ live, store.get id = some live ∧ (env.dump live).isNone = true) ↔
    ∃ other ∈ kept ++ rest, other.id = id ∧ (env.dump other).isNone = true

theorem Scanning.start {store : MemoryStore Value} (keyed : store.Keyed) :
    Scanning env store.disk.isSome [] store.getAll store where
  keyed := keyed
  disk := rfl
  distinct := keyed.distinct_ids
  listed _ member := keyed.get_listed member
  refused id := by
    rw [List.nil_append]
    constructor
    · rintro ⟨live, stored, refused⟩
      exact ⟨live, (OrderedDict.mem_values_iff _ _).mpr ⟨id, stored⟩, keyed id live stored, refused⟩
    · rintro ⟨other, member, rfl, refused⟩
      exact ⟨other, keyed.get_listed member, refused⟩

section Passing

variable {onDisk : Bool} {kept rest : List (MemoryEntry Value)}
  {entry : MemoryEntry Value} {store : MemoryStore Value}

theorem Scanning.apart (scanning : Scanning env onDisk kept (entry :: rest) store) :
    ∀ other ∈ kept ++ rest, other.id ≠ entry.id := by
  have distinct := scanning.distinct
  rw [List.map_append, List.map_cons, List.nodup_middle, List.nodup_cons,
    ← List.map_append] at distinct
  intro other member same
  exact distinct.1 (same ▸ List.mem_map_of_mem member)

theorem Scanning.pass (scanning : Scanning env onDisk kept (entry :: rest) store)
    {after : MemoryStore Value} {left : MemoryEntry Value} (keyed : after.Keyed)
    (disk : after.disk.isSome = store.disk.isSome)
    (here : after.get entry.id = some left)
    (same : (env.dump left).isNone = (env.dump entry).isNone)
    (others : ∀ id, id ≠ entry.id → after.get id = store.get id) :
    Scanning env onDisk (kept ++ [entry]) rest after where
  keyed := keyed
  disk := disk.trans scanning.disk
  distinct := by
    rw [List.append_assoc]
    exact scanning.distinct
  listed other member := by
    rw [others other.id (scanning.apart other (List.mem_append_right _ member))]
    exact scanning.listed other (List.mem_cons_of_mem _ member)
  refused id := by
    rw [List.append_assoc, List.singleton_append, ← scanning.refused id]
    by_cases this : id = entry.id
    · rw [this, here, scanning.listed entry List.mem_cons_self]
      simp only [Option.some.injEq, exists_eq_left', same]
    · rw [others id this]

theorem Scanning.purge (scanning : Scanning env onDisk kept (entry :: rest) store)
    {after : MemoryStore Value} (keyed : after.Keyed)
    (disk : after.disk.isSome = store.disk.isSome)
    (here : after.get entry.id = none)
    (others : ∀ id, id ≠ entry.id → after.get id = store.get id) :
    Scanning env onDisk kept rest after where
  keyed := keyed
  disk := disk.trans scanning.disk
  distinct := by
    have distinct := scanning.distinct
    rw [List.map_append, List.map_cons, List.nodup_middle, List.nodup_cons,
      ← List.map_append] at distinct
    exact distinct.2
  listed other member := by
    rw [others other.id (scanning.apart other (List.mem_append_right _ member))]
    exact scanning.listed other (List.mem_cons_of_mem _ member)
  refused id := by
    by_cases this : id = entry.id
    · rw [this, here]
      apply iff_of_false
      · rintro ⟨live, absent, _⟩
        cases absent
      · rintro ⟨other, member, same, _⟩
        exact scanning.apart other member same
    · rw [others id this, scanning.refused id]
      constructor
      · rintro ⟨other, member, same, refused⟩
        rcases List.mem_append.mp member with early | late
        · exact ⟨other, List.mem_append_left _ early, same, refused⟩
        · rcases List.mem_cons.mp late with rfl | later
          · exact absurd same.symm this
          · exact ⟨other, List.mem_append_right _ later, same, refused⟩
      · rintro ⟨other, member, same, refused⟩
        rcases List.mem_append.mp member with early | late
        · exact ⟨other, List.mem_append_left _ early, same, refused⟩
        · exact ⟨other, List.mem_append_right _ (List.mem_cons_of_mem _ late), same, refused⟩

theorem Scanning.rewritten
    (purged : Scanning env onDisk kept rest (store.delete env entry.id).state) :
    ((store.entries.erase entry.id).values.any fun other => (env.dump other).isNone) =
      (kept ++ rest).any fun other => (env.dump other).isNone := by
  have left : ∀ id, (store.entries.erase entry.id).get? id =
      (store.delete env entry.id).state.get id := by
    intro id
    rw [OrderedDict.get_erase, MemoryStore.get, delete_entries]
  rw [Bool.eq_iff_iff, List.any_eq_true, List.any_eq_true]
  constructor
  · rintro ⟨live, member, refused⟩
    obtain ⟨id, stored⟩ := (OrderedDict.mem_values_iff _ _).mp member
    rw [left] at stored
    obtain ⟨other, stays, _, other_refused⟩ := (purged.refused id).mp ⟨live, stored, refused⟩
    exact ⟨other, stays, other_refused⟩
  · rintro ⟨other, stays, refused⟩
    obtain ⟨live, stored, live_refused⟩ :=
      (purged.refused other.id).mpr ⟨other, stays, rfl, refused⟩
    rw [← left] at stored
    exact ⟨live, (OrderedDict.mem_values_iff _ _).mpr ⟨other.id, stored⟩, live_refused⟩

theorem Scanning.amended (scanning : Scanning env onDisk kept (entry :: rest) store)
    (routine : Routine change) (archiveFile : Bool) :
    let outcome := store.archiveLive env archiveFile change entry.id
    outcome.returned = !((onDisk || archiveFile) && (env.dump entry).isNone) ∧
      Scanning env onDisk (kept ++ [entry]) rest outcome.state ∧
      outcome.state.get entry.id = some (change entry) ∧
      ∀ id, id ≠ entry.id → outcome.state.get id = store.get id := by
  have stored := scanning.listed entry List.mem_cons_self
  have changed : (store.amend env entry.id change).state.get entry.id = some (change entry) := by
    rw [amend_get routine scanning.keyed, if_pos rfl, stored, Option.map_some]
  have others : ∀ id, id ≠ entry.id →
      (store.amend env entry.id change).state.get id = store.get id := by
    intro id other
    rw [amend_get routine scanning.keyed, if_neg other]
  have returned : (store.archiveLive env archiveFile change entry.id).returned = _ :=
    archive_live_returned routine archiveFile scanning.keyed stored
  rw [scanning.disk] at returned
  refine ⟨returned, ?_⟩
  simp only [archive_live_state]
  refine ⟨?_, changed, others⟩
  exact scanning.pass (Keyed.amend scanning.keyed entry.id change routine.id)
    (amend_has_disk entry.id store) changed (routine.refused entry) others

theorem Scanning.perform (scanning : Scanning env onDisk kept (entry :: rest) store)
    (routine : Routine change) (archives : ∀ entry, (change entry).archived = true)
    (archiveFile : Bool) (action : RetentionAction) :
    let outcome := store.perform env archiveFile change entry.id action
    outcome.returned = !refuses env onDisk archiveFile (kept ++ rest) entry action ∧
      Scanning env onDisk (staying kept entry action) rest outcome.state ∧
      (outcome.state.get entry.id).map (fun live => live.archived) = archivedAfter entry action ∧
      ∀ id, id ≠ entry.id → outcome.state.get id = store.get id := by
  have stored := scanning.listed entry List.mem_cons_self
  cases action with
  | keep =>
    refine ⟨rfl, ?_, ?_, fun _ _ => rfl⟩
    · exact scanning.pass scanning.keyed rfl stored rfl fun _ _ => rfl
    · exact congrArg (Option.map fun live => live.archived) stored
  | archive =>
    obtain ⟨returned, passed, changed, others⟩ := scanning.amended routine archiveFile
    refine ⟨returned, passed, ?_, others⟩
    rw [MemoryStore.perform, changed, Option.map_some, archives]
    rfl
  | purge =>
    have gone : ∀ id, (store.delete env entry.id).state.get id =
        if id = entry.id then none else store.get id := delete_entries env entry.id store
    have here : (store.delete env entry.id).state.get entry.id = none := by
      rw [gone, if_pos rfl]
    have others : ∀ id, id ≠ entry.id →
        (store.delete env entry.id).state.get id = store.get id := by
      intro id other
      rw [gone, if_neg other]
    have purged := scanning.purge (Keyed.delete scanning.keyed entry.id)
      (delete_has_disk env entry.id store) here others
    refine ⟨?_, purged, congrArg (Option.map fun live => live.archived) here, others⟩
    have returned := delete_returned env stored
    rw [scanning.disk, purged.rewritten] at returned
    exact returned

end Passing

theorem treatments_turns (onDisk archiveFile : Bool)
    (action : MemoryEntry Value → RetentionAction) (kept rest : List (MemoryEntry Value)) :
    treatments env onDisk archiveFile action kept rest = Outcome.turns
        (fun kept rest entry => refuses env onDisk archiveFile (kept ++ rest) entry (action entry))
        (fun kept entry => staying kept entry (action entry)) (fun entry => some entry.archived)
        (fun entry => archivedAfter entry (action entry)) kept rest := by
  induction rest generalizing kept with
  | nil => rfl
  | cons entry rest ih => rw [treatments, Outcome.turns, ih]

theorem Scanning.scan {onDisk : Bool} {kept rest : List (MemoryEntry Value)}
    {store : MemoryStore Value} (scanning : Scanning env onDisk kept rest store)
    (routine : Routine change) (archives : ∀ entry, (change entry).archived = true)
    (archiveFile : Bool) (action : MemoryEntry Value → RetentionAction) :
    let after := (store.retentionScan env archiveFile change action rest).state
    (rest.map fun entry => (after.get entry.id).map fun live => live.archived) =
        treatments env onDisk archiveFile action kept rest ∧
      ∀ id, (∀ entry ∈ rest, entry.id ≠ id) → (after.get id).map (fun live => live.archived) =
          (store.get id).map fun live => live.archived := by
  intro after
  rw [treatments_turns]
  apply Outcome.for_each_turns MemoryEntry.id
    (fun store id => (MemoryStore.get store id).map fun live => live.archived) _
    (Scanning env onDisk)
  · intro kept rest store scanning entry member
    rw [scanning.listed entry member, Option.map_some]
  · intro kept entry rest store scanning other member
    exact scanning.apart other (List.mem_append_right _ member)
  · intro kept entry rest store scanning
    obtain ⟨returned, passed, here, others⟩ :=
      scanning.perform routine archives archiveFile (action entry)
    simp only [scanning.listed entry List.mem_cons_self]
    refine ⟨returned, passed, here, ?_⟩
    intro id other
    rw [others id other]
  · exact scanning

end MemoryStore

/-! ## Agreement -/

section Agreement

variable (env : MemoryEnv Value) (onDisk archivePath : Bool) (now : Time)
  (retention : RetentionPolicy)

/-- The scans treat each entry alike, up to a write that both refuse. Where
only the archive file refuses an entry, the scan of the store goes on alone and
has nothing more to do. -/
def SameTreatment : List (MemoryEntry Value) → List (MemoryEntry Value) → Prop
  | _, [] => True
  | kept, entry :: rest =>
    let action := enforcedAction now retention entry
    SameLimits now retention entry ∧
      if refuses env onDisk archivePath (kept ++ rest) entry action then
        refuses env onDisk false (kept ++ rest) entry action = true ∨
          ∀ other ∈ rest, enforcedAction now retention other = .keep
      else SameTreatment (staying kept entry action) rest

end Agreement

/-- Only an entry that is not archived is archived, only an archived one
purged. -/
def Lawful (action : MemoryEntry Value → RetentionAction) : Prop :=
  ∀ entry, (action entry = .archive → entry.archived = false) ∧
    (action entry = .purge → entry.archived = true)

theorem applied_lawful (now : Time) (retention : RetentionPolicy) :
    Lawful (@appliedAction Value now retention) := by
  intro entry
  unfold appliedAction
  cases entry.archived <;> cases retention.autoPurge <;> split <;> simp

theorem enforced_lawful (now : Time) (retention : RetentionPolicy) :
    Lawful (@enforcedAction Value now retention) := by
  intro entry
  unfold enforcedAction
  dsimp only
  cases entry.archived <;> split_ifs <;> simp_all

theorem archived_after_injective {entry : MemoryEntry Value} {first second : RetentionAction}
    (firstLawful : (first = .archive → entry.archived = false) ∧
      (first = .purge → entry.archived = true))
    (secondLawful : (second = .archive → entry.archived = false) ∧
      (second = .purge → entry.archived = true)) :
    archivedAfter entry first = archivedAfter entry second ↔ first = second := by
  cases first <;> cases second <;> simp_all [archivedAfter]

section Lists

variable {env : MemoryEnv Value} {onDisk : Bool}

theorem refuses_with_file {others : List (MemoryEntry Value)} {entry : MemoryEntry Value}
    {action : RetentionAction} (archiveFile : Bool)
    (refused : refuses env onDisk false others entry action = true) :
    refuses env onDisk archiveFile others entry action = true := by
  cases action with
  | keep => exact refused
  | archive =>
    simp only [refuses, Bool.or_false, Bool.and_eq_true] at refused ⊢
    exact ⟨by rw [refused.1, Bool.true_or], refused.2⟩
  | purge => exact refused

theorem treatments_untouched_iff {action : MemoryEntry Value → RetentionAction}
    (lawful : Lawful action) (archiveFile : Bool) (kept rest : List (MemoryEntry Value)) :
    (rest.map fun other => some other.archived) =
        treatments env onDisk archiveFile action kept rest ↔
      ∀ other ∈ rest, action other = .keep := by
  induction rest generalizing kept with
  | nil => simp [treatments]
  | cons entry rest ih =>
    have head : some entry.archived = archivedAfter entry (action entry) ↔
        .keep = action entry := by
      have keeps : (RetentionAction.keep = .archive → entry.archived = false) ∧
          (RetentionAction.keep = .purge → entry.archived = true) :=
        ⟨nofun, nofun⟩
      exact archived_after_injective keeps (lawful entry)
    rw [List.map_cons, treatments, List.cons.injEq, head, List.forall_mem_cons,
      eq_comm (a := RetentionAction.keep)]
    apply and_congr_right
    intro keeps
    rw [keeps, refuses, if_neg Bool.false_ne_true]
    exact ih _

theorem treatments_eq_iff {now : Time} {retention : RetentionPolicy} (archivePath : Bool)
    (kept rest : List (MemoryEntry Value)) :
    treatments env onDisk archivePath (appliedAction now retention) kept rest =
        treatments env onDisk false (enforcedAction now retention) kept rest ↔
      SameTreatment env onDisk archivePath now retention kept rest := by
  induction rest generalizing kept with
  | nil => simp [treatments, SameTreatment]
  | cons entry rest ih =>
    rw [treatments, treatments, List.cons.injEq, SameTreatment,
      archived_after_injective (applied_lawful now retention entry)
        (enforced_lawful now retention entry), same_action_iff]
    apply and_congr_right
    intro same
    rw [(same_action_iff now retention entry).mpr same]
    by_cases engineStops : refuses env onDisk archivePath (kept ++ rest) entry
        (enforcedAction now retention entry) = true
    · rw [if_pos engineStops, if_pos engineStops]
      by_cases storeStops : refuses env onDisk false (kept ++ rest) entry
          (enforcedAction now retention entry) = true
      · simp [storeStops]
      · rw [if_neg storeStops, treatments_untouched_iff (enforced_lawful now retention)]
        simp [storeStops]
    · have storeGoesOn : ¬refuses env onDisk false (kept ++ rest) entry
          (enforcedAction now retention entry) = true :=
        fun refused => engineStops (refuses_with_file archivePath refused)
      rw [if_neg engineStops, if_neg engineStops, if_neg storeGoesOn]
      exact ih _

end Lists

/-- The same entries are archived and the same are gone. -/
def SameRetention (first second : MemoryStore Value) : Prop :=
  ∀ id, ((first.get id).map fun entry => entry.archived) =
    (second.get id).map fun entry => entry.archived

/-- On every store that a run reaches, the two scans archive and purge the same
entries exactly when they treat them alike. -/
theorem retention_agrees_iff (env : MemoryEnv Value) (archivePath : Bool)
    (earlier config : MemoryConfig) (disk : Option (LogFile Value))
    (inputs : List (MemoryInput Value)) (now : Time) :
    let store := (MemoryEngine.runs env earlier (MemoryEngine.openEngine disk) inputs).store
    SameRetention (MemoryEngine.applyRetention env archivePath config now store).state
        (store.enforceRetention env now config.retention).state ↔
      SameTreatment env store.disk.isSome archivePath now config.retention []
        store.getAll := by
  intro store
  have scanning : MemoryStore.Scanning env store.disk.isSome [] store.getAll store :=
    .start (MemoryEngine.runs_keyed earlier disk inputs)
  obtain ⟨applied, appliedOthers⟩ := scanning.scan (Routine.of_archive now) (fun _ => rfl)
    archivePath (appliedAction now config.retention)
  obtain ⟨enforced, enforcedOthers⟩ := scanning.scan (Routine.of_expiry now) (fun _ => rfl)
    false (enforcedAction now config.retention)
  rw [MemoryEngine.apply_retention_scan, MemoryStore.enforce_retention_scan,
    ← treatments_eq_iff, ← applied, ← enforced, List.map_inj_left]
  constructor
  · intro same entry _
    exact same entry.id
  · intro same id
    by_cases listed : ∃ entry ∈ store.getAll, entry.id = id
    · obtain ⟨entry, member, rfl⟩ := listed
      exact same entry member
    · have absent : ∀ entry ∈ store.getAll, entry.id ≠ id :=
        fun entry member sameId => listed ⟨entry, member, sameId⟩
      rw [appliedOthers id absent, enforcedOthers id absent]

/-- An entry of 400 days, under a configuration without limits. -/
def agedInputs : List (MemoryInput PyValue) :=
  [{ op := .save { content := OrderedDict.empty }, now := 0 }]

theorem default_limits_archive :
    let store := (MemoryEngine.runs textEnv {} (MemoryEngine.openEngine none) agedInputs).store
    let config : MemoryConfig := {}
    let now := 400 * MemoryEntry.microsecondsPerDay
    ¬SameRetention (MemoryEngine.applyRetention textEnv false config now store).state
      (store.enforceRetention textEnv now config.retention).state := by
  intro store config now same
  have entry := same "mem_0_0001"
  revert entry
  decide +kernel

end AiEnterpriseOs.Memory
