import AiEnterpriseOs.Library.Runs
import AiEnterpriseOs.Memory.Store

/-!
# Memory engine

Save, retrieve, update, archive, snapshot, link and tier management over one
memory store. A step is one call; a call that raises leaves what it did before.
-/

/-!
## Memory archiver

Archiving, unarchiving and purging of stored entries, and the retention
policy. All of it works on the live objects of the store.
-/

namespace AiEnterpriseOs.Memory

open Library

variable {Value : Type}

namespace MemoryEntry

def archiveAt (now : Time) (entry : MemoryEntry Value) : MemoryEntry Value :=
  { entry with archived := true, archivedAt := some now, updatedAt := some now }

def unarchiveAt (now : Time) (entry : MemoryEntry Value) : MemoryEntry Value :=
  { entry with archived := false, archivedAt := none, updatedAt := some now }

/-- The three conditions of a retention policy; a limit of zero is off. -/
def retentionReason (maxAgeDays maxVersions : Int) (minImportance : Rat)
    (now : Time) (entry : MemoryEntry Value) : Bool :=
  (maxAgeDays != 0 && decide (maxAgeDays < entry.ageDays now)) ||
    decide (entry.importance < minImportance) ||
    (maxVersions != 0 && decide (maxVersions < entry.version))

end MemoryEntry

namespace MemoryStore

section Archiver

variable (env : MemoryEnv Value) (now : Time)

/-- Archive a memory entry. -/
def archive (id : String) (store : MemoryStore Value) : Outcome (MemoryStore Value) :=
  store.amend env id (MemoryEntry.archiveAt now)

/-- Restore an archived memory. -/
def unarchive (id : String) (store : MemoryStore Value) : Outcome (MemoryStore Value) :=
  store.amend env id (MemoryEntry.unarchiveAt now)

/-- Archive those of the listed entries that are not archived yet and meet a
condition. -/
def archiveListed (condition : MemoryEntry Value → Bool)
    (listed : List (MemoryEntry Value)) (store : MemoryStore Value) :
    Outcome (MemoryStore Value) :=
  Outcome.forEach (fun entry store =>
    match store.get entry.id with
    | none => .returning store
    | some live =>
      if !live.archived && condition live then archive env now live.id store
      else .returning store) listed store

def archiveByType (memoryType : String) (store : MemoryStore Value) : Outcome (MemoryStore Value) :=
  archiveListed env now (fun _ => true) (store.getByType memoryType) store

def archiveByNamespace (memoryNamespace : String) (store : MemoryStore Value) :
    Outcome (MemoryStore Value) :=
  archiveListed env now (fun _ => true) (store.getByNamespace memoryNamespace) store

def archiveOlderThan (days : Int) (store : MemoryStore Value) : Outcome (MemoryStore Value) :=
  archiveListed env now (fun entry => decide (days < entry.ageDays now)) store.getAll store

/-- Permanently delete all archived memories. -/
def purgeArchived (store : MemoryStore Value) : Outcome (MemoryStore Value) :=
  Outcome.forEach (fun id store => store.delete env id)
    ((store.getAll.filter fun entry => entry.archived).map fun entry => entry.id)
    store

/-- Apply retention policy: purge or archive what has a reason. -/
def applyRetentionPolicy (maxAgeDays maxVersions : Int) (minImportance : Rat)
    (autoPurge : Bool) (store : MemoryStore Value) : Outcome (MemoryStore Value) :=
  Outcome.forEach (fun entry store =>
    match store.get entry.id with
    | none => .returning store
    | some live =>
      if live.retentionReason maxAgeDays maxVersions minImportance now then
        if autoPurge && live.archived then store.delete env live.id
        else if !live.archived then archive env now live.id store
        else .returning store
      else .returning store) store.getAll store

end Archiver

end MemoryStore

end AiEnterpriseOs.Memory

namespace AiEnterpriseOs.Memory

open Library

variable {Value : Type}

structure MemoryEngine (Value : Type) where
  store : MemoryStore Value := {}
  snapshots : OrderedDict String (List (MemoryEntry Value)) := OrderedDict.empty
  counter : Nat := 0

/-- Arguments of `save`. -/
structure SaveFields (Value : Type) where
  content : OrderedDict String Value
  memoryType : MemoryType := .system
  memoryNamespace : MemoryNamespace := .global
  tags : List String := []
  source : String := ""
  importance : Option Rat := none
  parentId : Option String := none
  metadata : OrderedDict String Value := OrderedDict.empty

/-- Arguments of `update`; what is none stays as it is. -/
structure UpdateFields (Value : Type) where
  content : Option (OrderedDict String Value) := none
  tags : Option (List String) := none
  importance : Option Rat := none
  summary : Option String := none
  metadata : Option (OrderedDict String Value) := none

/-- Calls of the engine, `reload` for a new engine on the same file and
`saveEntry` for a call of the store with an entry built by the caller. -/
inductive MemoryOp (Value : Type) where
  | save (fields : SaveFields Value)
  | retrieve (id : String)
  | update (id : String) (fields : UpdateFields Value)
  | delete (id : String)
  | archive (id : String)
  | unarchive (id : String)
  | archiveOlderThan (days : Int)
  | archiveByType (memoryType : String)
  | archiveByNamespace (memoryNamespace : String)
  | purgeArchived
  | applyRetentionPolicy
  | snapshot (ids : List String)
  | restoreSnapshot (snapshotId : String)
  | deleteSnapshot (snapshotId : String)
  | linkMemories (parentId childId : String)
  | promoteToLongTerm (id : String) (minImportance : Rat)
  | demoteToArchived (id : String) (importanceThreshold : Rat)
  | cleanupExpired
  | applyTierManagement (promoteThreshold demoteThreshold : Rat)
  | clear
  | reload
  | saveEntry (entry : MemoryEntry Value)

structure MemoryInput (Value : Type) where
  op : MemoryOp Value
  now : Time

/-- `{counter:04d}`. -/
def counterText (counter : Nat) : String :=
  String.ofList ((Nat.toDigits 10 counter).leftpad 4 '0')

def memoryId (now : Time) (counter : Nat) : String :=
  "mem_" ++ toString now ++ "_" ++ counterText counter

namespace MemoryEntry

section Fields

variable (env : MemoryEnv Value)

/-- `entry.summary = summarizer.summarize(entry)`, unless that fails. -/
def summarized (entry : MemoryEntry Value) : MemoryEntry Value :=
  match env.summarize entry with
  | none => entry
  | some summary => { entry with summary := summary }

/-- The fields that `update` assigns on the live entry. -/
def assignFields (fields : UpdateFields Value) (now : Time)
    (entry : MemoryEntry Value) : MemoryEntry Value :=
  { entry with
    version := entry.version + 1
    updatedAt := some now
    content := fields.content.getD entry.content
    tags := fields.tags.getD entry.tags
    importance := fields.importance.getD entry.importance
    summary := fields.summary.getD entry.summary
    metadata := match fields.metadata with
      | none => entry.metadata
      | some metadata => entry.metadata.setAll metadata.entries }

/-- The summary is regenerated if the content changed. -/
def applyUpdate (fields : UpdateFields Value) (now : Time)
    (entry : MemoryEntry Value) : MemoryEntry Value :=
  match fields.content with
  | none => entry.assignFields fields now
  | some _ => (entry.assignFields fields now).summarized env

end Fields

def linkedTo (parentId : String) (entry : MemoryEntry Value) :
    MemoryEntry Value :=
  { entry with parentId := some parentId }

def promoted (entry : MemoryEntry Value) : MemoryEntry Value :=
  { entry with tier := "long_term" }

/-- `archived`, `archived_at` and the tier, as demotion and expiry set them. -/
def retired (now : Time) (entry : MemoryEntry Value) : MemoryEntry Value :=
  { entry with archived := true, archivedAt := some now, tier := "archived" }

end MemoryEntry

/-- The entry that `save` builds. -/
def SaveFields.entry (fields : SaveFields Value) (config : MemoryConfig)
    (now : Time) (counter : Nat) : MemoryEntry Value :=
  { id := memoryId now counter
    memoryType := fields.memoryType
    memoryNamespace := fields.memoryNamespace
    content := fields.content
    tags := fields.tags
    source := fields.source
    importance := fields.importance.getD config.defaultImportance
    baseImportance := fields.importance.getD config.defaultImportance
    parentId := fields.parentId
    tier := "working"
    createdAt := now
    metadata := fields.metadata }

namespace MemoryStore

section Operations

variable (env : MemoryEnv Value) (now : Time)

/-- Retrieve a memory by ID: the access is recorded and saved. -/
def retrieve (id : String) (store : MemoryStore Value) : Outcome (MemoryStore Value) :=
  store.amend env id (MemoryEntry.touch now)

/-- Update an existing memory entry with new version. -/
def update (id : String) (fields : UpdateFields Value)
    (store : MemoryStore Value) : Outcome (MemoryStore Value) :=
  (retrieve env now id store).andThen fun store =>
    store.amend env id (MemoryEntry.applyUpdate env fields now)

/-- Link a child memory to a parent. The parent has no `children_ids`, so the
call raises once the child's parent is assigned. -/
def linkMemories (parentId childId : String) (store : MemoryStore Value) :
    Outcome (MemoryStore Value) :=
  (retrieve env now parentId store).andThen fun store =>
    (retrieve env now childId store).andThen fun store =>
      match store.get parentId, store.get childId with
      | some _, some _ =>
        .raising (store.mutate childId (MemoryEntry.linkedTo parentId))
      | _, _ => .returning store

/-- Promote working memory to long-term storage if importance >= threshold. -/
def promoteToLongTerm (id : String) (minImportance : Rat)
    (store : MemoryStore Value) : Outcome (MemoryStore Value) :=
  (retrieve env now id store).andThen fun store =>
    match store.get id with
    | none => .returning store
    | some entry =>
      if minImportance ≤ entry.importance then
        store.amend env id MemoryEntry.promoted
      else .returning store

/-- Demote long-term memory to archive if importance < threshold. -/
def demoteToArchived (id : String) (importanceThreshold : Rat)
    (store : MemoryStore Value) : Outcome (MemoryStore Value) :=
  (retrieve env now id store).andThen fun store =>
    match store.get id with
    | none => .returning store
    | some entry =>
      if entry.importance < importanceThreshold then
        (store.mutate id (MemoryEntry.retired now)).archive env now id
      else .returning store

/-- Retire a listed entry whose deadline has passed. -/
def cleanupEntry (entry : MemoryEntry Value) (store : MemoryStore Value) :
    Outcome (MemoryStore Value) :=
  match store.get entry.id with
  | none => .returning store
  | some live =>
    if live.expired now then store.amend env live.id (MemoryEntry.retired now)
    else .returning store

/-- Clean up expired memories based on `expires_at`. -/
def cleanupExpired (store : MemoryStore Value) : Outcome (MemoryStore Value) :=
  Outcome.forEach (cleanupEntry env now) store.getAll store

/-- Promotion or demotion of one entry under tier management. -/
def moveEntry (promoteThreshold demoteThreshold : Rat)
    (entry : MemoryEntry Value) (store : MemoryStore Value) :
    Outcome (MemoryStore Value) :=
  match store.get entry.id with
  | none => .returning store
  | some live =>
    if live.tier = "working" ∧ promoteThreshold ≤ live.importance then
      store.amend env live.id MemoryEntry.promoted
    else if (live.tier = "short_term" ∨ live.tier = "long_term") ∧
        live.importance < demoteThreshold then
      (store.mutate live.id (MemoryEntry.retired now)).archive env now live.id
    else .returning store

/-- Expiry of one entry under tier management; all others that have expired
are cleaned up with it. -/
def expireEntry (entry : MemoryEntry Value) (store : MemoryStore Value) :
    Outcome (MemoryStore Value) :=
  match store.get entry.id with
  | none => .returning store
  | some live =>
    if live.expired now then
      (store.amend env live.id (MemoryEntry.retired now)).andThen (cleanupExpired env now)
    else .returning store

/-- Periodically run tier management based on importance. -/
def applyTierManagement (promoteThreshold demoteThreshold : Rat)
    (store : MemoryStore Value) : Outcome (MemoryStore Value) :=
  Outcome.forEach (fun entry store =>
    (moveEntry env now promoteThreshold demoteThreshold entry store).andThen
      (expireEntry env now entry)) store.getAll store

/-- Restored entries are validated and saved as new objects. -/
def restoreEntries (entries : List (MemoryEntry Value))
    (store : MemoryStore Value) : Outcome (MemoryStore Value) :=
  Outcome.forEach (fun entry store =>
    if entry.validates then store.save env entry else .raising store)
    entries store

end Operations

end MemoryStore

namespace MemoryEngine

section Steps

variable (env : MemoryEnv Value) (config : MemoryConfig)

/-- A new engine on a file, or on none. -/
def openEngine (disk : Option (LogFile Value)) : MemoryEngine Value :=
  { store := MemoryStore.openStore disk }

def onStore (engine : MemoryEngine Value) (outcome : Outcome (MemoryStore Value)) :
    Outcome (MemoryEngine Value) where
  state := { engine with store := outcome.state }
  returned := outcome.returned

/-- Save a new memory entry. -/
def save (fields : SaveFields Value) (now : Time) (engine : MemoryEngine Value) :
    Outcome (MemoryEngine Value) :=
  let engine := { engine with counter := engine.counter + 1 }
  let entry := fields.entry config now engine.counter
  if entry.validates then
    engine.onStore (engine.store.save env (entry.summarized env))
  else .raising engine

def snapshotId (now : Time) : String := "snap_" ++ env.secondText now

/-- Create a snapshot of the named memories, of all where none is named. A
second snapshot within the same second takes the place of the first. -/
def createSnapshot (ids : List String) (now : Time)
    (engine : MemoryEngine Value) : Outcome (MemoryEngine Value) :=
  let entries := if ids.isEmpty then engine.store.getAll
    else ids.filterMap engine.store.get
  match entries.mapM env.dump with
  | none => .raising engine
  | some dumped =>
    .returning { engine with
      snapshots := engine.snapshots.set (snapshotId env now) dumped }

def restoreSnapshot (snapshotId : String) (engine : MemoryEngine Value) :
    Outcome (MemoryEngine Value) :=
  match engine.snapshots.get? snapshotId with
  | none => .returning engine
  | some entries => engine.onStore (engine.store.restoreEntries env entries)

def orDefault (limit : Option Int) (fallback : Int) : Int :=
  match limit with
  | none => fallback
  | some limit => if limit = 0 then fallback else limit

def call (op : MemoryOp Value) (now : Time) (engine : MemoryEngine Value) :
    Outcome (MemoryEngine Value) :=
  match op with
  | .save fields => engine.save env config fields now
  | .retrieve id => engine.onStore (engine.store.retrieve env now id)
  | .update id fields => engine.onStore (engine.store.update env now id fields)
  | .delete id => engine.onStore (engine.store.delete env id)
  | .archive id => engine.onStore (engine.store.archive env now id)
  | .unarchive id => engine.onStore (engine.store.unarchive env now id)
  | .archiveOlderThan days =>
    engine.onStore (engine.store.archiveOlderThan env now days)
  | .archiveByType memoryType =>
    engine.onStore (engine.store.archiveByType env now memoryType)
  | .archiveByNamespace memoryNamespace =>
    engine.onStore (engine.store.archiveByNamespace env now memoryNamespace)
  | .purgeArchived => engine.onStore (engine.store.purgeArchived env)
  | .applyRetentionPolicy =>
    engine.onStore (engine.store.applyRetentionPolicy env now
      (orDefault config.retention.maxAgeDays 365)
      (orDefault config.retention.maxVersions 5)
      config.retention.minImportance config.retention.autoPurge)
  | .snapshot ids => engine.createSnapshot env ids now
  | .restoreSnapshot snapshotId => engine.restoreSnapshot env snapshotId
  | .deleteSnapshot snapshotId =>
    .returning { engine with snapshots := engine.snapshots.erase snapshotId }
  | .linkMemories parentId childId =>
    engine.onStore (engine.store.linkMemories env now parentId childId)
  | .promoteToLongTerm id minImportance =>
    engine.onStore (engine.store.promoteToLongTerm env now id minImportance)
  | .demoteToArchived id importanceThreshold =>
    engine.onStore (engine.store.demoteToArchived env now id importanceThreshold)
  | .cleanupExpired => engine.onStore (engine.store.cleanupExpired env now)
  | .applyTierManagement promoteThreshold demoteThreshold =>
    engine.onStore (engine.store.applyTierManagement env now promoteThreshold demoteThreshold)
  | .clear => engine.onStore (.returning engine.store.clear)
  | .reload => .returning (openEngine engine.store.disk)
  | .saveEntry entry => engine.onStore (engine.store.save env entry)

def step (engine : MemoryEngine Value) (input : MemoryInput Value) :
    MemoryEngine Value :=
  (engine.call env config input.op input.now).state

def runs (engine : MemoryEngine Value) (inputs : List (MemoryInput Value)) :
    MemoryEngine Value :=
  runInputs (step env config) engine inputs

end Steps

end MemoryEngine

end AiEnterpriseOs.Memory
