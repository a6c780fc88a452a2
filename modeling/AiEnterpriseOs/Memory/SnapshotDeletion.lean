import AiEnterpriseOs.Memory.SnapshotFidelity

/-!
# Snapshot deletion

A snapshot manager that also imports snapshots from files. A snapshot sits in a
table in memory and, where the manager has a directory, in a folder named after
its id; a lookup that misses the table reads the folder, and a new manager
reads every folder. A run is recorded with the ids deleted and not stored
again.
-/

namespace AiEnterpriseOs.Memory

open Library

variable {Value : Type}

/-- What the manager reads of the metadata: the id, if there is one. -/
structure SnapshotInfo where
  id : Option String := none

/-- A snapshot in memory. One imported from a file may lack either part. -/
structure SnapshotData (Value : Type) where
  metadata : Option SnapshotInfo := none
  entries : Option (List (DiskLine Value)) := none

inductive JsonFile (Data : Type) where
  | missing
  | unreadable
  | holds (data : Data)

structure SnapshotFolder (Value : Type) where
  metadata : JsonFile SnapshotInfo := .missing
  entries : JsonFile (List (DiskLine Value)) := .missing

namespace SnapshotFolder

/-- The metadata file, then the entries file. Each is opened for writing before
its part is looked up, so a part that is lacking leaves an empty file. -/
def write (data : SnapshotData Value) (folder : SnapshotFolder Value) :
    SnapshotFolder Value :=
  match data.metadata with
  | none => { folder with metadata := .unreadable }
  | some info =>
    { metadata := .holds info
      entries := match data.entries with
        | none => .unreadable
        | some entries => .holds entries }

/-- A lookup wants both files. -/
def load (folder : SnapshotFolder Value) : Option (SnapshotData Value) :=
  match folder.metadata, folder.entries with
  | .holds info, .holds entries => some { metadata := some info, entries := some entries }
  | _, _ => none

/-- A new manager wants the metadata, and entries that are readable if they are
there; the id of the metadata goes before the name of the folder. -/
def loadNamed (name : String) (folder : SnapshotFolder Value) :
    Option (String × SnapshotData Value) :=
  match folder.metadata with
  | .holds info =>
    match folder.entries with
    | .missing => some (info.id.getD name, { metadata := some info, entries := some [] })
    | .unreadable => none
    | .holds entries =>
      some (info.id.getD name, { metadata := some info, entries := some entries })
  | _ => none

end SnapshotFolder

structure SnapshotManager (Value : Type) where
  store : MemoryStore Value := {}
  snapshots : OrderedDict String (SnapshotData Value) := OrderedDict.empty
  snapshotPath : Option (OrderedDict String (SnapshotFolder Value)) := none

inductive SnapshotOp (Value : Type) where
  | createSnapshot (memoryIds : List String)
  /-- The parsed file, none where parsing or reading its metadata raises. -/
  | importSnapshot (file : Option (SnapshotData Value))
  | deleteSnapshot (snapshotId : String)
  | getSnapshot (snapshotId : String)
  | restoreSnapshot (snapshotId : String)
  /-- A new manager on the same directory. -/
  | reload
  /-- Whatever else is done to the store. -/
  | changeStore (store : MemoryStore Value)

structure SnapshotInput (Value : Type) where
  op : SnapshotOp Value
  now : Time

namespace SnapshotManager

/-- The index file lists the metadata of every snapshot in memory. Nothing
reads it. -/
def saveSnapshotIndex (manager : SnapshotManager Value) : Outcome (SnapshotManager Value) :=
  if manager.snapshotPath.isSome &&
      manager.snapshots.values.any fun data => data.metadata.isNone then
    .raising manager
  else .returning manager

def saveSnapshotToDisk (snapshotId : String) (data : SnapshotData Value)
    (manager : SnapshotManager Value) : Outcome (SnapshotManager Value) :=
  match manager.snapshotPath with
  | none => .returning manager
  | some directory =>
    let folder := (directory.getD snapshotId {}).write data
    let written := { manager with snapshotPath := some (directory.set snapshotId folder) }
    if data.metadata.isSome && data.entries.isSome then written.saveSnapshotIndex
    else .raising written

/-- Into the table, then into the directory. -/
def keepSnapshot (snapshotId : String) (data : SnapshotData Value)
    (manager : SnapshotManager Value) : Outcome (SnapshotManager Value) :=
  { manager with
    snapshots := manager.snapshots.set snapshotId data }.saveSnapshotToDisk snapshotId data

def getSnapshotData (snapshotId : String) (manager : SnapshotManager Value) :
    Option (SnapshotData Value) × SnapshotManager Value :=
  match manager.snapshots.get? snapshotId with
  | some data => (some data, manager)
  | none =>
    let folder := manager.snapshotPath.bind fun directory => directory.get? snapshotId
    match folder.bind SnapshotFolder.load with
    | none => (none, manager)
    | some data =>
      (some data, { manager with snapshots := manager.snapshots.set snapshotId data })

/-- List available snapshots; the id of the metadata is shown before the key. -/
def listSnapshots (manager : SnapshotManager Value) : Option (List String) :=
  manager.snapshots.entries.mapM fun item =>
    item.2.metadata.map fun info => info.id.getD item.1

def loadSnapshots (directory : OrderedDict String (SnapshotFolder Value)) :
    OrderedDict String (SnapshotData Value) :=
  OrderedDict.empty.setAll (directory.entries.filterMap fun item => item.2.loadNamed item.1)

def reload (manager : SnapshotManager Value) : SnapshotManager Value :=
  { manager with
    snapshots := match manager.snapshotPath with
      | none => OrderedDict.empty
      | some directory => loadSnapshots directory }

/-- Delete a snapshot: from the table, whatever the directory holds. -/
def deleteSnapshot (snapshotId : String) (manager : SnapshotManager Value) :
    Outcome (SnapshotManager Value) :=
  match manager.snapshots.get? snapshotId with
  | none => .returning manager
  | some _ =>
    { manager with snapshots := manager.snapshots.erase snapshotId }.saveSnapshotIndex

/-- Whether `delete_snapshot` returns true. -/
def deletes (snapshotId : String) (manager : SnapshotManager Value) : Bool :=
  (manager.snapshots.get? snapshotId).isSome && (manager.deleteSnapshot snapshotId).returned

section Operations

variable (env : MemoryEnv Value)

/-- `MemoryEntry.from_dict` of each entry, which is then saved. -/
def restoreLines (lines : List (DiskLine Value)) (store : MemoryStore Value) :
    Outcome (MemoryStore Value) :=
  Outcome.forEach (fun line store =>
    match line with
    | .malformed => .raising store
    | .record entry => if entry.validates then store.save env entry else .raising store)
    lines store

def restoreSnapshot (snapshotId : String) (manager : SnapshotManager Value) :
    Outcome (SnapshotManager Value) :=
  match manager.getSnapshotData snapshotId with
  | (none, manager) => .returning manager
  | (some data, manager) =>
    let restored := restoreLines env (data.entries.getD []) manager.store
    { state := { manager with store := restored.state }
      returned := restored.returned }

/-- The entries of a new snapshot, none where one of them does not serialize. -/
def capturedLines (memoryIds : List String) (manager : SnapshotManager Value) :
    Option (List (DiskLine Value)) :=
  let entries := if memoryIds.isEmpty then manager.store.getAll
    else memoryIds.filterMap manager.store.get
  (entries.mapM env.dump).map fun dumped => dumped.map DiskLine.record

/-- The id of an imported snapshot is that of its metadata, or a new one. -/
def importId (data : SnapshotData Value) (now : Time) : String :=
  (data.metadata.bind SnapshotInfo.id).getD ("snap_import_" ++ env.secondText now)

/-- What a call puts into the table, and under which id. -/
def storedSnapshot (input : SnapshotInput Value) (manager : SnapshotManager Value) :
    Option (String × SnapshotData Value) :=
  match input.op with
  | .createSnapshot memoryIds =>
    let snapshotId := MemoryEngine.snapshotId env input.now
    (manager.capturedLines env memoryIds).map fun lines =>
      (snapshotId, { metadata := some { id := some snapshotId }, entries := some lines })
  | .importSnapshot file => file.map fun data => (importId env data input.now, data)
  | _ => none

def call (input : SnapshotInput Value) (manager : SnapshotManager Value) :
    Outcome (SnapshotManager Value) :=
  match input.op with
  | .createSnapshot _ | .importSnapshot _ =>
    match manager.storedSnapshot env input with
    | none => .raising manager
    | some (snapshotId, data) => manager.keepSnapshot snapshotId data
  | .deleteSnapshot snapshotId => manager.deleteSnapshot snapshotId
  | .getSnapshot snapshotId => .returning (manager.getSnapshotData snapshotId).2
  | .restoreSnapshot snapshotId => manager.restoreSnapshot env snapshotId
  | .reload => .returning manager.reload
  | .changeStore store => .returning { manager with store := store }

end Operations

end SnapshotManager

/-- A manager with the ids whose deletion returned true and that nothing has
been stored under since. -/
structure DeletionBooks (Value : Type) where
  manager : SnapshotManager Value := {}
  gone : List String := []

namespace DeletionBooks

/-- A new manager, on a directory that is empty or on none. -/
def start (hasPath : Bool) : DeletionBooks Value where
  manager := { snapshotPath := if hasPath then some OrderedDict.empty else none }

section Steps

variable (env : MemoryEnv Value)

def goneAfter (input : SnapshotInput Value) (books : DeletionBooks Value) : List String :=
  match input.op with
  | .deleteSnapshot snapshotId =>
    if books.manager.deletes snapshotId then snapshotId :: books.gone else books.gone
  | _ =>
    match books.manager.storedSnapshot env input with
    | none => books.gone
    | some (snapshotId, _) => books.gone.filter fun id => id != snapshotId

def step (books : DeletionBooks Value) (input : SnapshotInput Value) : DeletionBooks Value where
  manager := (books.manager.call env input).state
  gone := books.goneAfter env input

def runs (books : DeletionBooks Value) (inputs : List (SnapshotInput Value)) :
    DeletionBooks Value :=
  runInputs (step env) books inputs

/-- No read of the manager finds the snapshot. -/
structure Unfound (manager : SnapshotManager Value) (snapshotId : String) : Prop where
  get : (manager.getSnapshotData snapshotId).1 = none
  restore : manager.restoreSnapshot env snapshotId = .returning manager
  listed : ∀ ids ∈ manager.listSnapshots, snapshotId ∉ ids

/-- A snapshot is deleted only where the directory, if there is one, has no
readable copy of it. -/
def NoCopyLeft (books : DeletionBooks Value) (input : SnapshotInput Value) : Prop :=
  match input.op with
  | .deleteSnapshot snapshotId =>
    books.manager.deletes snapshotId = true →
      ∀ directory ∈ books.manager.snapshotPath, ∀ folder ∈ directory.get? snapshotId,
        folder.load = none
  | _ => True

end Steps

end DeletionBooks

/-! ## Names -/

/-- The metadata names the snapshot after the key it is held under, if it names
it at all. -/
def SnapshotInfo.Names (info : SnapshotInfo) (name : String) : Prop :=
  ∀ id ∈ info.id, id = name

theorem SnapshotInfo.Names.getD {info : SnapshotInfo} {name : String}
    (names : info.Names name) : info.id.getD name = name := by
  cases given : info.id with
  | none => rfl
  | some id => exact names id given

namespace SnapshotFolder

/-- A folder that a manager has written under a name. -/
structure WrittenAs (name : String) (folder : SnapshotFolder Value) : Prop where
  names : ∀ info, folder.metadata = .holds info → info.Names name
  entries : ∀ info, folder.metadata = .holds info → folder.entries ≠ .missing

theorem write_written {data : SnapshotData Value} {name : String}
    (names : ∀ info ∈ data.metadata, info.Names name) (folder : SnapshotFolder Value) :
    (folder.write data).WrittenAs name := by
  unfold write
  cases metadata : data.metadata with
  | none =>
    constructor
    · intro info held
      cases held
    · intro info held
      cases held
  | some info =>
    constructor
    · intro other held
      cases held
      exact names info metadata
    · intro other _
      cases data.entries <;> simp

theorem load_metadata {folder : SnapshotFolder Value} {data : SnapshotData Value}
    (loaded : folder.load = some data) :
    ∃ info, folder.metadata = .holds info ∧ data.metadata = some info := by
  unfold load at loaded
  split at loaded
  next info entries metadata _ =>
    cases loaded
    exact ⟨info, metadata, rfl⟩
  · cases loaded

theorem WrittenAs.load_named {name : String} {folder : SnapshotFolder Value}
    (written : folder.WrittenAs name) :
    folder.loadNamed name = folder.load.map fun data => (name, data) := by
  unfold loadNamed load
  cases metadata : folder.metadata with
  | missing => rfl
  | unreadable => rfl
  | holds info =>
    have named := (written.names info metadata).getD
    have present := written.entries info metadata
    cases entries : folder.entries with
    | missing => exact absurd entries present
    | unreadable => rfl
    | holds lines => simp [named]

end SnapshotFolder

namespace SnapshotManager

/-- Whatever table and directory hold is named after its key. -/
structure Named (manager : SnapshotManager Value) : Prop where
  memory : ∀ snapshotId, ∀ data ∈ manager.snapshots.get? snapshotId,
    ∀ info ∈ data.metadata, info.Names snapshotId
  disk : ∀ directory ∈ manager.snapshotPath, ∀ name, ∀ folder ∈ directory.get? name,
    folder.WrittenAs name

/-- Neither the table nor the directory has the snapshot. -/
structure Lacks (manager : SnapshotManager Value) (snapshotId : String) : Prop where
  memory : manager.snapshots.get? snapshotId = none
  disk : ∀ directory ∈ manager.snapshotPath, ∀ folder ∈ directory.get? snapshotId,
    folder.load = none

theorem index_state (manager : SnapshotManager Value) :
    manager.saveSnapshotIndex.state = manager := by
  unfold saveSnapshotIndex
  split <;> rfl

theorem keep_state (snapshotId : String) (data : SnapshotData Value)
    (manager : SnapshotManager Value) :
    (manager.keepSnapshot snapshotId data).state =
      { manager with
        snapshots := manager.snapshots.set snapshotId data
        snapshotPath := manager.snapshotPath.map fun directory =>
          directory.set snapshotId ((directory.getD snapshotId {}).write data) } := by
  unfold keepSnapshot saveSnapshotToDisk
  cases path : manager.snapshotPath with
  | none => simp
  | some directory =>
    dsimp only
    split
    · rw [index_state]
      rfl
    · rfl

theorem delete_state (snapshotId : String) (manager : SnapshotManager Value) :
    (manager.deleteSnapshot snapshotId).state =
      { manager with snapshots := manager.snapshots.erase snapshotId } := by
  unfold deleteSnapshot
  cases held : manager.snapshots.get? snapshotId with
  | none => rw [Outcome.returning_state, OrderedDict.erase_absent held]
  | some data => exact index_state _

theorem restore_tables (env : MemoryEnv Value) (snapshotId : String)
    (manager : SnapshotManager Value) :
    let after := (manager.restoreSnapshot env snapshotId).state
    let read := (manager.getSnapshotData snapshotId).2
    after.snapshots = read.snapshots ∧ after.snapshotPath = read.snapshotPath := by
  unfold restoreSnapshot
  split
  next read => simp [read]
  next read => simp [read]

theorem get_cases (snapshotId : String) (manager : SnapshotManager Value) :
    (manager.getSnapshotData snapshotId).2 = manager ∨
      ∃ directory ∈ manager.snapshotPath, ∃ folder ∈ directory.get? snapshotId,
        ∃ data, folder.load = some data ∧ (manager.getSnapshotData snapshotId).2 =
            { manager with snapshots := manager.snapshots.set snapshotId data } := by
  unfold getSnapshotData
  cases manager.snapshots.get? snapshotId with
  | some data => exact Or.inl rfl
  | none =>
    dsimp only
    split
    · exact Or.inl rfl
    next data loaded =>
      obtain ⟨folder, present, readable⟩ := Option.bind_eq_some_iff.mp loaded
      obtain ⟨directory, path, here⟩ := Option.bind_eq_some_iff.mp present
      exact Or.inr ⟨directory, path, folder, here, data, readable, rfl⟩

theorem Lacks.unfound {env : MemoryEnv Value} {manager : SnapshotManager Value}
    {snapshotId : String} (lacks : manager.Lacks snapshotId) (named : manager.Named) :
    DeletionBooks.Unfound env manager snapshotId := by
  have read : manager.getSnapshotData snapshotId = (none, manager) := by
    unfold getSnapshotData
    rw [lacks.memory]
    have unreadable : ((manager.snapshotPath.bind fun directory =>
        directory.get? snapshotId).bind SnapshotFolder.load) = none := by
      apply Option.bind_eq_none_iff.mpr
      intro folder present
      obtain ⟨directory, path, here⟩ := Option.bind_eq_some_iff.mp present
      exact lacks.disk directory path folder here
    simp only [unreadable]
  constructor
  · rw [read]
  · rw [restoreSnapshot, read]
  · intro ids shown member
    obtain ⟨item, listed, same⟩ := mem_of_mapM shown member
    obtain ⟨info, metadata, idShown⟩ := Option.map_eq_some_iff.mp same
    have held : manager.snapshots.get? item.1 = some item.2 :=
      (OrderedDict.get_eq_some_iff _ _ _).mpr listed
    rw [(named.memory item.1 item.2 held info metadata).getD] at idShown
    rw [idShown, lacks.memory] at held
    cases held

end SnapshotManager

namespace DeletionBooks

variable {env : MemoryEnv Value}

/-- Every id that is gone is lacking, in table and directory. -/
structure Clear (books : DeletionBooks Value) : Prop where
  named : books.manager.Named
  lacks : ∀ snapshotId ∈ books.gone, books.manager.Lacks snapshotId

theorem start_clear (hasPath : Bool) : (start hasPath : DeletionBooks Value).Clear where
  named := {
    memory := by
      intro snapshotId data held
      cases held
    disk := by
      intro directory path name folder here
      cases hasPath with
      | false => cases path
      | true =>
        cases path
        cases here }
  lacks := List.forall_mem_nil _

theorem stored_named {manager : SnapshotManager Value} {input : SnapshotInput Value}
    {snapshotId : String} {data : SnapshotData Value}
    (stored : manager.storedSnapshot env input = some (snapshotId, data)) :
    ∀ info ∈ data.metadata, info.Names snapshotId := by
  obtain ⟨op, now⟩ := input
  cases op with
  | createSnapshot memoryIds =>
    obtain ⟨lines, _, same⟩ := Option.map_eq_some_iff.mp stored
    cases same
    intro info metadata id given
    cases metadata
    cases given
    rfl
  | importSnapshot file =>
    obtain ⟨parsed, _, same⟩ := Option.map_eq_some_iff.mp stored
    cases same
    intro info metadata id given
    rw [Option.mem_def] at metadata given
    rw [SnapshotManager.importId, metadata, Option.bind_some, given, Option.getD_some]
  | _ => cases stored

theorem keep_named {manager : SnapshotManager Value} (named : manager.Named)
    {snapshotId : String} {data : SnapshotData Value}
    (names : ∀ info ∈ data.metadata, info.Names snapshotId) :
    (manager.keepSnapshot snapshotId data).state.Named := by
  rw [SnapshotManager.keep_state]
  constructor
  · exact OrderedDict.forall_set names named.memory
  · intro after path
    obtain ⟨directory, before, rfl⟩ := Option.map_eq_some_iff.mp path
    exact OrderedDict.forall_set (SnapshotFolder.write_written names _)
      (named.disk directory before)

theorem keep_lacks {manager : SnapshotManager Value} {snapshotId other : String}
    (lacks : manager.Lacks other) (apart : other ≠ snapshotId) (data : SnapshotData Value) :
    (manager.keepSnapshot snapshotId data).state.Lacks other := by
  rw [SnapshotManager.keep_state]
  constructor
  · rw [OrderedDict.get_set_other _ _ apart]
    exact lacks.memory
  · intro after path folder present
    obtain ⟨directory, before, rfl⟩ := Option.map_eq_some_iff.mp path
    rw [OrderedDict.get_set_other _ _ apart] at present
    exact lacks.disk directory before folder present

theorem get_named {manager : SnapshotManager Value} (named : manager.Named)
    (snapshotId : String) : (manager.getSnapshotData snapshotId).2.Named := by
  rcases manager.get_cases snapshotId with same | ⟨directory, path, folder, here, data,
    loaded, filled⟩
  · rw [same]
    exact named
  · rw [filled]
    refine ⟨?_, named.disk⟩
    apply OrderedDict.forall_set _ named.memory
    intro info metadata
    obtain ⟨stored, onDisk, given⟩ := SnapshotFolder.load_metadata loaded
    rw [Option.mem_def, given] at metadata
    cases metadata
    exact (named.disk directory path snapshotId folder here).names info onDisk

theorem get_lacks {manager : SnapshotManager Value} {other : String}
    (lacks : manager.Lacks other) (snapshotId : String) :
    (manager.getSnapshotData snapshotId).2.Lacks other := by
  rcases manager.get_cases snapshotId with same | ⟨directory, path, folder, here, data,
    loaded, filled⟩
  · rw [same]
    exact lacks
  · rw [filled]
    refine ⟨?_, lacks.disk⟩
    have apart : other ≠ snapshotId := by
      intro same
      rw [← same] at here
      rw [lacks.disk directory path folder here] at loaded
      cases loaded
    exact (OrderedDict.get_set_other _ _ apart).trans lacks.memory

theorem delete_named {manager : SnapshotManager Value} (named : manager.Named)
    (snapshotId : String) : (manager.deleteSnapshot snapshotId).state.Named := by
  rw [SnapshotManager.delete_state]
  exact ⟨OrderedDict.forall_erase snapshotId named.memory, named.disk⟩

theorem load_snapshots_held {directory : OrderedDict String (SnapshotFolder Value)}
    (written : ∀ name, ∀ folder ∈ directory.get? name, folder.WrittenAs name)
    {snapshotId : String} {data : SnapshotData Value}
    (held : (SnapshotManager.loadSnapshots directory).get? snapshotId = some data) :
    ∃ folder ∈ directory.get? snapshotId, folder.load = some data := by
  rcases OrderedDict.get_setAll_cases held with listed | initial
  · obtain ⟨item, member, loaded⟩ := List.mem_filterMap.mp listed
    have present : directory.get? item.1 = some item.2 :=
      (OrderedDict.get_eq_some_iff _ _ _).mpr member
    rw [(written item.1 item.2 present).load_named] at loaded
    obtain ⟨found, readable, same⟩ := Option.map_eq_some_iff.mp loaded
    cases same
    exact ⟨item.2, present, readable⟩
  · cases initial

theorem reload_named {manager : SnapshotManager Value} (named : manager.Named) :
    manager.reload.Named := by
  refine ⟨?_, named.disk⟩
  intro snapshotId data held info metadata
  unfold SnapshotManager.reload at held
  cases path : manager.snapshotPath with
  | none =>
    rw [path] at held
    cases held
  | some directory =>
    simp only [path] at held
    have written := named.disk directory path
    obtain ⟨folder, here, loaded⟩ := load_snapshots_held written held
    obtain ⟨stored, onDisk, given⟩ := SnapshotFolder.load_metadata loaded
    rw [Option.mem_def, given] at metadata
    cases metadata
    exact (written snapshotId folder here).names info onDisk

theorem reload_lacks {manager : SnapshotManager Value} (named : manager.Named) {snapshotId : String}
    (lacks : ∀ directory ∈ manager.snapshotPath, ∀ folder ∈ directory.get? snapshotId,
      folder.load = none) : manager.reload.Lacks snapshotId := by
  refine ⟨?_, lacks⟩
  unfold SnapshotManager.reload
  cases path : manager.snapshotPath with
  | none => rfl
  | some directory =>
    apply Option.eq_none_iff_forall_ne_some.mpr
    intro data held
    obtain ⟨folder, here, loaded⟩ := load_snapshots_held (named.disk directory path) held
    rw [lacks directory path folder here] at loaded
    cases loaded

theorem call_named {manager : SnapshotManager Value} (named : manager.Named)
    (input : SnapshotInput Value) : (manager.call env input).state.Named := by
  obtain ⟨op, now⟩ := input
  have kept : ∀ input : SnapshotInput Value, (match manager.storedSnapshot env input with
      | none => Outcome.raising manager
      | some (snapshotId, data) => manager.keepSnapshot snapshotId data).state.Named := by
    intro input
    split
    · exact named
    next stored => exact keep_named named (stored_named stored)
  cases op with
  | createSnapshot memoryIds => exact kept _
  | importSnapshot file => exact kept _
  | deleteSnapshot snapshotId => exact delete_named named snapshotId
  | getSnapshot snapshotId => exact get_named named snapshotId
  | restoreSnapshot snapshotId =>
    have read := get_named named snapshotId
    obtain ⟨snapshots, path⟩ := manager.restore_tables env snapshotId
    constructor
    · intro other
      rw [SnapshotManager.call, snapshots]
      exact read.memory other
    · intro directory
      rw [SnapshotManager.call, path]
      exact read.disk directory
  | reload => exact reload_named named
  | changeStore store => exact ⟨named.memory, named.disk⟩

theorem call_lacks {manager : SnapshotManager Value} (named : manager.Named)
    {snapshotId : String} (lacks : manager.Lacks snapshotId) (input : SnapshotInput Value)
    (unstored : ∀ item ∈ manager.storedSnapshot env input, snapshotId ≠ item.1) :
    (manager.call env input).state.Lacks snapshotId := by
  obtain ⟨op, now⟩ := input
  have kept : ∀ input : SnapshotInput Value,
      (∀ item ∈ manager.storedSnapshot env input, snapshotId ≠ item.1) →
      (match manager.storedSnapshot env input with
        | none => Outcome.raising manager
        | some (snapshotId, data) =>
          manager.keepSnapshot snapshotId data).state.Lacks snapshotId := by
    intro input apart
    split
    · exact lacks
    next stored => exact keep_lacks lacks (apart _ stored) _
  cases op with
  | createSnapshot memoryIds => exact kept _ unstored
  | importSnapshot file => exact kept _ unstored
  | deleteSnapshot deleted =>
    rw [SnapshotManager.call, SnapshotManager.delete_state]
    refine ⟨?_, lacks.disk⟩
    rw [OrderedDict.get_erase, lacks.memory, ite_self]
  | getSnapshot read => exact get_lacks lacks read
  | restoreSnapshot read =>
    have lacking := get_lacks lacks read
    obtain ⟨snapshots, path⟩ := manager.restore_tables env read
    constructor
    · rw [SnapshotManager.call, snapshots]
      exact lacking.memory
    · intro directory
      rw [SnapshotManager.call, path]
      exact lacking.disk directory
  | reload => exact reload_lacks named lacks.disk
  | changeStore store => exact ⟨lacks.memory, lacks.disk⟩

theorem delete_lacks {manager : SnapshotManager Value} {snapshotId : String}
    (copyless : ∀ directory ∈ manager.snapshotPath, ∀ folder ∈ directory.get? snapshotId,
      folder.load = none) :
    (manager.deleteSnapshot snapshotId).state.Lacks snapshotId := by
  rw [SnapshotManager.delete_state]
  refine ⟨?_, copyless⟩
  rw [OrderedDict.get_erase, if_pos rfl]

theorem step_clear (books : DeletionBooks Value) (input : SnapshotInput Value)
    (clear : books.Clear) (copyless : books.NoCopyLeft input) :
    (books.step env input).Clear := by
  refine ⟨call_named clear.named input, ?_⟩
  intro snapshotId member
  obtain ⟨op, now⟩ := input
  have stored : ∀ input : SnapshotInput Value,
      (snapshotId ∈ match books.manager.storedSnapshot env input with
        | none => books.gone
        | some (stored, _) => books.gone.filter fun id => id != stored) →
      (books.manager.call env input).state.Lacks snapshotId := by
    intro input member
    split at member
    next nothing =>
      apply call_lacks clear.named (clear.lacks snapshotId member)
      intro item present
      rw [nothing] at present
      cases present
    next id data held =>
      obtain ⟨earlier, apart⟩ := List.mem_filter.mp member
      apply call_lacks clear.named (clear.lacks snapshotId earlier)
      intro item present
      rw [held] at present
      cases present
      exact bne_iff_ne.mp apart
  cases op with
  | deleteSnapshot deleted =>
    simp only [step, goneAfter] at member
    have unstored : ∀ item ∈ books.manager.storedSnapshot env
        { op := .deleteSnapshot deleted, now := now }, snapshotId ≠ item.1 := by
      intro item present
      cases present
    split at member
    next returned =>
      rcases List.mem_cons.mp member with same | earlier
      · rw [same]
        exact delete_lacks (copyless returned)
      · exact call_lacks clear.named (clear.lacks snapshotId earlier) _ unstored
    · exact call_lacks clear.named (clear.lacks snapshotId member) _ unstored
  | _ => exact stored _ member

theorem copyless_of_unfound {books : DeletionBooks Value} {snapshotId : String} {now : Time}
    (returned : books.manager.deletes snapshotId = true)
    (unfound : let after := books.step env { op := .deleteSnapshot snapshotId, now := now }
      ∀ id ∈ after.gone, Unfound env after.manager id) :
    ∀ directory ∈ books.manager.snapshotPath, ∀ folder ∈ directory.get? snapshotId,
      folder.load = none := by
  intro directory path folder here
  have gone : snapshotId ∈ books.goneAfter env
      { op := .deleteSnapshot snapshotId, now := now } := by
    simp only [goneAfter, if_pos returned]
    exact List.mem_cons_self
  have lookup := (unfound snapshotId gone).get
  simp only [step, SnapshotManager.call, SnapshotManager.delete_state] at lookup
  unfold SnapshotManager.getSnapshotData at lookup
  rw [Option.mem_def] at path here
  simp only [OrderedDict.get_erase, if_true, path, Option.bind_some, here] at lookup
  cases loaded : folder.load with
  | none => rfl
  | some data =>
    rw [loaded] at lookup
    cases lookup

/-- In every state of a run, nothing finds a snapshot that is gone, in this
manager or in a new one, exactly when each snapshot deleted had no readable
copy in the directory. -/
theorem deleted_unfound_iff (env : MemoryEnv Value) (hasPath : Bool)
    (inputs : List (SnapshotInput Value)) :
    (∀ early late, inputs = early ++ late →
        let books := runs env (start hasPath) early
        ∀ snapshotId ∈ books.gone, Unfound env books.manager snapshotId ∧
          Unfound env books.manager.reload snapshotId) ↔
      StepsMeet (step env) NoCopyLeft (start hasPath) inputs := by
  constructor
  · intro unfound
    apply (steps_meet_iff _ _ _ _).mpr
    intro early input late split
    obtain ⟨op, now⟩ := input
    cases op with
    | deleteSnapshot snapshotId =>
      intro returned
      have next : runs env (start hasPath)
          (early ++ [{ op := .deleteSnapshot snapshotId, now := now }]) =
            (runs env (start hasPath) early).step env
              { op := .deleteSnapshot snapshotId, now := now } :=
        run_inputs_append _ _ _ _
      apply @copyless_of_unfound Value env _ _ now returned
      intro after id member
      have both := unfound
        (early ++ [{ op := .deleteSnapshot snapshotId, now := now }]) late (by simp [split])
      rw [next] at both
      exact (both id member).1
    | _ => trivial
  · intro meets early late split
    have clear : (runs env (start hasPath) early).Clear := by
      rw [split, steps_meet_append] at meets
      exact invariant_of_steps_meet (step env) step_clear _ early (start_clear hasPath) meets.1
    intro books snapshotId member
    have lacks := clear.lacks snapshotId member
    exact ⟨lacks.unfound clear.named,
      (reload_lacks clear.named lacks.disk).unfound (reload_named clear.named)⟩

/-- A snapshot of an empty store, deleted within the same run. -/
def deletionInputs : List (SnapshotInput PyValue) :=
  [ { op := .createSnapshot [], now := 1 }, { op := .deleteSnapshot "snap_0", now := 2 } ]

theorem deleted_snapshot_found :
    let books := runs textEnv (start true) deletionInputs
    "snap_0" ∈ books.gone ∧
    (books.manager.getSnapshotData "snap_0").1.isSome = true ∧
    books.manager.reload.listSnapshots = some ["snap_0"] ∧
    ¬∀ early late, deletionInputs = early ++ late →
      let books := runs textEnv (start true) early
      ∀ snapshotId ∈ books.gone, Unfound textEnv books.manager snapshotId ∧
        Unfound textEnv books.manager.reload snapshotId := by
  have gone : "snap_0" ∈ (runs textEnv (start true) deletionInputs).gone := by
    decide +kernel
  have found : ((runs textEnv (start true) deletionInputs).manager.getSnapshotData
      "snap_0").1.isSome = true := by
    decide +kernel
  refine ⟨gone, found, by decide +kernel, ?_⟩
  intro unfound
  have lookup := (unfound deletionInputs [] (by simp) "snap_0" gone).1.get
  rw [lookup] at found
  cases found

end DeletionBooks

end AiEnterpriseOs.Memory
