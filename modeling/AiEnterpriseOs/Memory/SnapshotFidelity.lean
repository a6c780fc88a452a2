import AiEnterpriseOs.Memory.LogFile
import AiEnterpriseOs.Memory.Summary

/-!
# Snapshot fidelity

The snapshot manager names a snapshot after the second of the clock, keeps its
entries in memory and, where it has a directory, in a folder of that name. A
run is recorded with what each creation captured and is not deleted yet.
-/

namespace AiEnterpriseOs.Memory

open Library

variable {Value : Type}

/-- An engine with its snapshot manager, whose directory holds the entries of
every snapshot written to it, deleted or not. -/
structure MemorySnapshot (Value : Type) where
  engine : MemoryEngine Value := {}
  snapshotPath : Option (OrderedDict String (List (MemoryEntry Value))) := none

namespace MemorySnapshot

/-- A new engine and a new manager, which loads what the directory holds. -/
def openManager (disk : Option (LogFile Value))
    (snapshotPath : Option (OrderedDict String (List (MemoryEntry Value)))) :
    MemorySnapshot Value where
  engine := { MemoryEngine.openEngine disk with
    snapshots := snapshotPath.getD OrderedDict.empty }
  snapshotPath := snapshotPath

def onEngine (manager : MemorySnapshot Value)
    (outcome : Outcome (MemoryEngine Value)) : Outcome (MemorySnapshot Value) where
  state := { manager with engine := outcome.state }
  returned := outcome.returned

def keepInMemory (snapshotId : String) (entries : List (MemoryEntry Value))
    (manager : MemorySnapshot Value) : MemorySnapshot Value :=
  { manager with engine := { manager.engine with
      snapshots := manager.engine.snapshots.set snapshotId entries } }

def saveSnapshotToDisk (snapshotId : String) (entries : List (MemoryEntry Value))
    (manager : MemorySnapshot Value) : MemorySnapshot Value :=
  { manager with snapshotPath := manager.snapshotPath.map fun directory =>
      directory.set snapshotId entries }

/-- The memories named, or all of them where none is named. -/
def selectEntries (memoryIds : List String) (manager : MemorySnapshot Value) :
    List (MemoryEntry Value) :=
  if memoryIds.isEmpty then manager.engine.store.getAll
  else memoryIds.filterMap manager.engine.store.get

/-- Snapshot data from memory, else from the directory, from which it is kept
in memory again. -/
def getSnapshotData (snapshotId : String) (manager : MemorySnapshot Value) :
    Option (List (MemoryEntry Value)) × MemorySnapshot Value :=
  match manager.engine.snapshots.get? snapshotId with
  | some entries => (some entries, manager)
  | none =>
    match manager.snapshotPath.bind fun directory => directory.get? snapshotId with
    | none => (none, manager)
    | some entries => (some entries, manager.keepInMemory snapshotId entries)

section Operations

variable (env : MemoryEnv Value)

/-- Create a snapshot of current memory state. -/
def createSnapshot (memoryIds : List String) (now : Time)
    (manager : MemorySnapshot Value) : Outcome (MemorySnapshot Value) :=
  match (manager.selectEntries memoryIds).mapM env.dump with
  | none => .raising manager
  | some entriesData =>
    let snapshotId := MemoryEngine.snapshotId env now
    .returning ((manager.keepInMemory snapshotId entriesData).saveSnapshotToDisk
      snapshotId entriesData)

def restoreSnapshot (snapshotId : String) (manager : MemorySnapshot Value) :
    Outcome (MemorySnapshot Value) :=
  match manager.getSnapshotData snapshotId with
  | (none, manager) => .returning manager
  | (some entriesData, manager) =>
    manager.onEngine (manager.engine.onStore (manager.engine.store.restoreEntries env entriesData))

/-- A call of the engine, its snapshots kept by the manager. Deletion takes a
snapshot out of memory and leaves its folder. -/
def call (config : MemoryConfig) (op : MemoryOp Value) (now : Time)
    (manager : MemorySnapshot Value) : Outcome (MemorySnapshot Value) :=
  match op with
  | .snapshot memoryIds => manager.createSnapshot env memoryIds now
  | .restoreSnapshot snapshotId => manager.restoreSnapshot env snapshotId
  | .reload =>
    .returning (openManager manager.engine.store.disk manager.snapshotPath)
  | op => manager.onEngine (manager.engine.call env config op now)

end Operations

end MemorySnapshot

/-- What a creation captured, under the id that it returned. -/
structure Capture (Value : Type) where
  id : String
  takenAt : Time
  entries : List (MemoryEntry Value)

/-- A manager with the captures of the snapshots that it still holds. -/
structure SnapshotBooks (Value : Type) where
  manager : MemorySnapshot Value
  held : List (Capture Value) := []

namespace SnapshotBooks

/-- A new engine and manager, on a directory that is empty or on none. -/
def start (disk : Option (LogFile Value)) (hasPath : Bool) : SnapshotBooks Value where
  manager := MemorySnapshot.openManager disk (if hasPath then some OrderedDict.empty else none)

section Steps

variable (env : MemoryEnv Value) (config : MemoryConfig)

/-- The snapshots held after a call. Those of a manager without a directory
end with it. -/
def heldAfter (input : MemoryInput Value) (returned : Bool)
    (books : SnapshotBooks Value) : List (Capture Value) :=
  match input.op with
  | .snapshot memoryIds =>
    if returned then
      books.held ++ [
        { id := MemoryEngine.snapshotId env input.now
          takenAt := input.now
          entries := books.manager.selectEntries memoryIds }]
    else books.held
  | .deleteSnapshot snapshotId =>
    books.held.filter fun capture => capture.id != snapshotId
  | .reload => if books.manager.snapshotPath.isSome then books.held else []
  | _ => books.held

def step (books : SnapshotBooks Value) (input : MemoryInput Value) :
    SnapshotBooks Value :=
  let outcome := books.manager.call env config input.op input.now
  { manager := outcome.state
    held := books.heldAfter env input outcome.returned }

def runs (books : SnapshotBooks Value) (inputs : List (MemoryInput Value)) :
    SnapshotBooks Value :=
  runInputs (step env config) books inputs

/-- A creation returns an id that no held snapshot has. -/
def FreshId (books : SnapshotBooks Value) (input : MemoryInput Value) : Prop :=
  ∀ memoryIds, input.op = .snapshot memoryIds →
    (books.manager.createSnapshot env memoryIds input.now).returned = true →
      ∀ capture ∈ books.held, capture.id ≠ MemoryEngine.snapshotId env input.now

/-- Restoring the snapshot returns and leaves what was captured in the store. -/
def Restores (manager : MemorySnapshot Value) (capture : Capture Value) : Prop :=
  let outcome := manager.restoreSnapshot env capture.id
  outcome.returned = true ∧
    ∀ entry ∈ capture.entries, outcome.state.engine.store.get entry.id = some entry

def FaithfulStep (books : SnapshotBooks Value) (input : MemoryInput Value) : Prop :=
  books.FreshId env input ∧ ∀ capture ∈ (books.step env config input).held,
      Restores env (books.step env config input).manager capture

/-- A creation that gets as far as an id comes in a second in which no held
snapshot was taken, and captures entries that validation accepts and that come
back from JSON as they are. -/
def SoundCapture (books : SnapshotBooks Value) (input : MemoryInput Value) : Prop :=
  match input.op with
  | .snapshot memoryIds =>
    (∀ entry ∈ books.manager.selectEntries memoryIds, env.Serializes entry) →
      (∀ capture ∈ books.held, env.secondText capture.takenAt ≠ env.secondText input.now) ∧
      ∀ entry ∈ books.manager.selectEntries memoryIds, entry.validates = true ∧ env.Stable entry
  | _ => True

end Steps

end SnapshotBooks

/-! ## What calls do to the store and to the snapshots -/

namespace MemoryStore

variable {env : MemoryEnv Value}

theorem restore_returned_iff {entries : List (MemoryEntry Value)}
    (stable : ∀ entry ∈ entries, env.Stable entry) (store : MemoryStore Value) :
    (store.restoreEntries env entries).returned = true ↔
      ∀ entry ∈ entries, entry.validates = true := by
  induction entries generalizing store with
  | nil => simp [restoreEntries, Outcome.forEach]
  | cons entry rest ih =>
    have restStable : ∀ other ∈ rest, env.Stable other :=
      fun other member => stable other (List.mem_cons_of_mem _ member)
    have saved : (store.save env entry).returned = true := by
      rw [save_returned, (stable entry List.mem_cons_self).dump, Option.isNone_some,
        Bool.and_false, Bool.not_false]
    unfold restoreEntries Outcome.forEach
    by_cases valid : entry.validates = true
    · rw [if_pos valid, Outcome.andThen, if_pos saved]
      simp only [List.forall_mem_cons, valid, true_and]
      exact ih restStable _
    · rw [if_neg valid]
      simp [Outcome.andThen, valid]

theorem restored_entries {entries : List (MemoryEntry Value)} {store : MemoryStore Value}
    (returned : (store.restoreEntries env entries).returned = true) :
    (store.restoreEntries env entries).state.entries = store.entries.setAll (byId entries) := by
  induction entries generalizing store with
  | nil => rfl
  | cons entry rest ih =>
    unfold restoreEntries Outcome.forEach at returned ⊢
    obtain ⟨first, followed⟩ := Outcome.and_then_returned returned
    by_cases valid : entry.validates = true
    · rw [if_pos valid] at first returned followed ⊢
      rw [followed] at returned ⊢
      rw [← restoreEntries] at returned ⊢
      rw [ih returned, save_entries]
      rfl
    · rw [if_neg valid] at first
      cases first

theorem restored_get {entries : List (MemoryEntry Value)} {store : MemoryStore Value}
    (returned : (store.restoreEntries env entries).returned = true)
    (consistent : ∀ left ∈ entries, ∀ right ∈ entries,
      left.id = right.id → left = right) :
    ∀ entry ∈ entries, (store.restoreEntries env entries).state.get entry.id = some entry := by
  intro entry member
  have listed : (entry.id, entry) ∈ byId entries := mem_by_id.mpr ⟨member, rfl⟩
  obtain ⟨found, stored⟩ := OrderedDict.get_setAll_present OrderedDict.empty listed
  rw [MemoryStore.get, restored_entries returned, OrderedDict.get_setAll_rest, stored,
    Option.some_or]
  rcases OrderedDict.get_setAll_cases stored with later | initial
  · obtain ⟨source, same⟩ := mem_by_id.mp later
    rw [consistent found source entry member same]
  · rw [OrderedDict.get_empty] at initial
    cases initial

end MemoryStore

namespace MemoryEngine

variable {env : MemoryEnv Value}

theorem call_snapshots (config : MemoryConfig) (op : MemoryOp Value) (now : Time)
    (engine : MemoryEngine Value)
    (other : match op with
      | .snapshot _ | .deleteSnapshot _ | .reload => False
      | _ => True) :
    (engine.call env config op now).state.snapshots = engine.snapshots := by
  cases op with
  | save fields =>
    change (engine.save env config fields now).state.snapshots = _
    rcases save_cases env config fields now engine with ⟨_, saved⟩ | ⟨_, refused⟩
    · rw [saved]
      rfl
    · rw [refused]
      rfl
  | restoreSnapshot snapshotId =>
    change (engine.restoreSnapshot env snapshotId).state.snapshots = _
    unfold restoreSnapshot
    split <;> rfl
  | snapshot ids => exact absurd other id
  | deleteSnapshot snapshotId => exact absurd other id
  | reload => exact absurd other id
  | _ => rfl

end MemoryEngine

/-! ## Captures that stay restorable -/

/-- A capture that both memory and the directory still hold as it was. -/
structure Capture.Kept (env : MemoryEnv Value) (manager : MemorySnapshot Value)
    (capture : Capture Value) : Prop where
  named : capture.id = MemoryEngine.snapshotId env capture.takenAt
  sound : ∀ entry ∈ capture.entries, entry.validates = true ∧ env.Stable entry
  consistent : ∀ left ∈ capture.entries, ∀ right ∈ capture.entries,
    left.id = right.id → left = right
  inMemory : manager.engine.snapshots.get? capture.id = some capture.entries
  onDisk : ∀ directory ∈ manager.snapshotPath, directory.get? capture.id = some capture.entries

namespace MemorySnapshot

variable {env : MemoryEnv Value}

theorem restore_held {manager : MemorySnapshot Value} {snapshotId : String}
    {entries : List (MemoryEntry Value)}
    (held : manager.engine.snapshots.get? snapshotId = some entries) :
    manager.restoreSnapshot env snapshotId = manager.onEngine (manager.engine.onStore
        (manager.engine.store.restoreEntries env entries)) := by
  rw [restoreSnapshot, getSnapshotData, held]

theorem dump_all_iff {entries dumped : List (MemoryEntry Value)} :
    entries.mapM env.dump = some dumped ↔
      (∀ entry ∈ entries, env.Serializes entry) ∧ dumped = entries.map env.written := by
  induction entries generalizing dumped with
  | nil => simp [eq_comm]
  | cons entry rest ih =>
    rw [List.mapM_cons]
    simp only [Option.bind_eq_bind, Option.bind_eq_some_iff, ih, List.forall_mem_cons,
      List.map_cons]
    constructor
    · rintro ⟨line, headDumped, lines, ⟨restSerialize, rfl⟩, same⟩
      have serializes := MemoryEnv.Serializes.of_dump headDumped
      have written : line = env.written entry := by
        rw [← Option.some.inj (headDumped.symm.trans serializes)]
      refine ⟨⟨serializes, restSerialize⟩, ?_⟩
      rw [← Option.some.inj same, written]
    · rintro ⟨⟨serializes, restSerialize⟩, rfl⟩
      exact ⟨env.written entry, serializes, _, ⟨restSerialize, rfl⟩, rfl⟩

theorem create_returning {manager : MemorySnapshot Value} {memoryIds : List String} (now : Time)
    (serialize : ∀ entry ∈ manager.selectEntries memoryIds, env.Serializes entry) :
    let id := MemoryEngine.snapshotId env now
    let entriesData := (manager.selectEntries memoryIds).map env.written
    manager.createSnapshot env memoryIds now =
      .returning ((manager.keepInMemory id entriesData).saveSnapshotToDisk id entriesData) := by
  have dumped := dump_all_iff.mpr ⟨serialize, rfl⟩
  rw [createSnapshot, dumped]

theorem create_raising {manager : MemorySnapshot Value} {memoryIds : List String} (now : Time)
    (refused : ¬∀ entry ∈ manager.selectEntries memoryIds, env.Serializes entry) :
    manager.createSnapshot env memoryIds now = .raising manager := by
  cases dumped : (manager.selectEntries memoryIds).mapM env.dump with
  | none => rw [createSnapshot, dumped]
  | some entriesData => exact absurd (dump_all_iff.mp dumped).1 refused

theorem selected_get {manager : MemorySnapshot Value}
    (keyed : manager.engine.store.Keyed) (memoryIds : List String) :
    ∀ entry ∈ manager.selectEntries memoryIds, manager.engine.store.get entry.id = some entry := by
  intro entry member
  unfold selectEntries at member
  split at member
  · exact keyed.get_listed member
  · obtain ⟨id, _, stored⟩ := List.mem_filterMap.mp member
    rw [keyed id entry stored]
    exact stored

theorem selected_consistent {manager : MemorySnapshot Value}
    (keyed : manager.engine.store.Keyed) (memoryIds : List String) :
    ∀ left ∈ manager.selectEntries memoryIds,
      ∀ right ∈ manager.selectEntries memoryIds, left.id = right.id → left = right := by
  intro left leftMember right rightMember same
  have leftStored := selected_get keyed memoryIds left leftMember
  rw [same, selected_get keyed memoryIds right rightMember] at leftStored
  exact (Option.some.inj leftStored).symm

end MemorySnapshot

theorem Capture.Kept.restores {env : MemoryEnv Value} {manager : MemorySnapshot Value}
    {capture : Capture Value} (kept : capture.Kept env manager) :
    SnapshotBooks.Restores env manager capture := by
  have returned : (manager.engine.store.restoreEntries env capture.entries).returned = true :=
    (MemoryStore.restore_returned_iff (fun entry member => (kept.sound entry member).2)
      manager.engine.store).mpr fun entry member => (kept.sound entry member).1
  unfold SnapshotBooks.Restores
  rw [MemorySnapshot.restore_held kept.inMemory]
  exact ⟨returned, MemoryStore.restored_get returned kept.consistent⟩

theorem Capture.Kept.moved {env : MemoryEnv Value} {manager after : MemorySnapshot Value}
    {capture : Capture Value} (kept : capture.Kept env manager)
    (memory : after.engine.snapshots.get? capture.id = manager.engine.snapshots.get? capture.id)
    (directory : after.snapshotPath = manager.snapshotPath) :
    capture.Kept env after :=
  { kept with
    inMemory := memory.trans kept.inMemory
    onDisk := by
      rw [directory]
      exact kept.onDisk }

namespace SnapshotBooks

variable {env : MemoryEnv Value} (config : MemoryConfig)

/-- The store keeps its ids, and every held capture is kept. -/
structure Kept (env : MemoryEnv Value) (books : SnapshotBooks Value) : Prop where
  keyed : books.manager.engine.store.Keyed
  captures : ∀ capture ∈ books.held, capture.Kept env books.manager

theorem start_kept (disk : Option (LogFile Value)) (hasPath : Bool) :
    (start disk hasPath : SnapshotBooks Value).Kept env where
  keyed := MemoryStore.open_keyed disk
  captures := List.forall_mem_nil _

theorem restore_kept {books : SnapshotBooks Value} (kept : books.Kept env) (snapshotId : String) :
    Kept env { books with
      manager := (books.manager.restoreSnapshot env snapshotId).state } := by
  unfold MemorySnapshot.restoreSnapshot MemorySnapshot.getSnapshotData
  cases inMemory : books.manager.engine.snapshots.get? snapshotId with
  | some entries =>
    exact ⟨MemoryStore.Keyed.restoreEntries entries kept.keyed, fun capture member =>
      (kept.captures capture member).moved rfl rfl⟩
  | none =>
    cases onDisk : books.manager.snapshotPath.bind fun directory => directory.get? snapshotId with
    | none => exact kept
    | some entries =>
      refine ⟨MemoryStore.Keyed.restoreEntries entries kept.keyed, ?_⟩
      intro capture member
      have held := kept.captures capture member
      have apart : capture.id ≠ snapshotId := by
        intro same
        rw [← same, held.inMemory] at inMemory
        cases inMemory
      exact held.moved (OrderedDict.get_set_other _ _ apart) rfl

theorem snapshot_id_injective {earlier now : Time}
    (same : MemoryEngine.snapshotId env earlier = MemoryEngine.snapshotId env now) :
    env.secondText earlier = env.secondText now := by
  have letters := congrArg String.toList same
  simp only [MemoryEngine.snapshotId, String.toList_append] at letters
  exact String.toList_injective (List.append_cancel_left letters)

theorem step_create {books : SnapshotBooks Value} {memoryIds : List String} (now : Time)
    (serialize : ∀ entry ∈ books.manager.selectEntries memoryIds, env.Serializes entry) :
    let id := MemoryEngine.snapshotId env now
    let selected := books.manager.selectEntries memoryIds
    books.step env config { op := .snapshot memoryIds, now := now } =
      { manager := (books.manager.keepInMemory id
          (selected.map env.written)).saveSnapshotToDisk id (selected.map env.written)
        held := books.held ++ [{ id := id, takenAt := now, entries := selected }] } := by
  have created := MemorySnapshot.create_returning now serialize
  simp only [step, MemorySnapshot.call, heldAfter, created, Outcome.returning_state,
    Outcome.returning_returned, if_true]

theorem create_kept {books : SnapshotBooks Value} (kept : books.Kept env)
    (memoryIds : List String) (now : Time)
    (sound : books.SoundCapture env { op := .snapshot memoryIds, now := now }) :
    (books.step env config { op := .snapshot memoryIds, now := now }).Kept env := by
  by_cases serialize : ∀ entry ∈ books.manager.selectEntries memoryIds, env.Serializes entry
  · obtain ⟨seconds, accepted⟩ := sound serialize
    have unchanged : (books.manager.selectEntries memoryIds).map env.written =
        books.manager.selectEntries memoryIds := by
      rw [List.map_congr_left fun entry member => (accepted entry member).2.written]
      exact List.map_id' _
    rw [step_create config now serialize, unchanged]
    refine ⟨kept.keyed, ?_⟩
    intro capture member
    rcases List.mem_append.mp member with earlier | created
    · have held := kept.captures capture earlier
      have apart : capture.id ≠ MemoryEngine.snapshotId env now := by
        rw [held.named]
        exact fun same => seconds capture earlier (snapshot_id_injective same)
      refine { held with inMemory := ?_, onDisk := ?_ }
      · exact (OrderedDict.get_set_other _ _ apart).trans held.inMemory
      · intro directory written
        obtain ⟨before, present, rfl⟩ := Option.map_eq_some_iff.mp written
        exact (OrderedDict.get_set_other _ _ apart).trans (held.onDisk before present)
    · rw [List.mem_singleton.mp created]
      refine ⟨rfl, accepted, MemorySnapshot.selected_consistent kept.keyed memoryIds,
        OrderedDict.get_set_self _ _ _, ?_⟩
      intro directory written
      obtain ⟨before, _, rfl⟩ := Option.map_eq_some_iff.mp written
      exact OrderedDict.get_set_self _ _ _
  · have refused := MemorySnapshot.create_raising now serialize
    have unchanged : books.step env config { op := .snapshot memoryIds, now := now } =
        books := by
      simp [step, MemorySnapshot.call, heldAfter, refused]
    rw [unchanged]
    exact kept

theorem delete_kept {books : SnapshotBooks Value} (kept : books.Kept env)
    (snapshotId : String) (now : Time) :
    (books.step env config { op := .deleteSnapshot snapshotId, now := now }).Kept env := by
  refine ⟨kept.keyed, ?_⟩
  intro capture member
  obtain ⟨earlier, apart⟩ := List.mem_filter.mp member
  have held := kept.captures capture earlier
  have remaining : (books.manager.engine.snapshots.erase snapshotId).get? capture.id =
      books.manager.engine.snapshots.get? capture.id := by
    rw [OrderedDict.get_erase, if_neg (bne_iff_ne.mp apart)]
  exact held.moved remaining rfl

theorem reload_kept {books : SnapshotBooks Value} (kept : books.Kept env) (now : Time) :
    (books.step env config { op := .reload, now := now }).Kept env := by
  refine ⟨MemoryStore.open_keyed _, ?_⟩
  intro capture member
  cases path : books.manager.snapshotPath with
  | none =>
    simp only [step, heldAfter, path, Option.isSome_none, Bool.false_eq_true, if_false] at member
    cases member
  | some directory =>
    simp only [step, heldAfter, path, Option.isSome_some, if_true] at member
    have held := kept.captures capture member
    have onDisk := held.onDisk directory path
    refine { held with inMemory := ?_, onDisk := held.onDisk }
    simp only [step, MemorySnapshot.call, MemorySnapshot.openManager, path,
      Outcome.returning_state, Option.getD_some]
    exact onDisk

theorem untouched_kept {books : SnapshotBooks Value} (kept : books.Kept env)
    (op : MemoryOp Value) (now : Time)
    (other : match op with
      | .snapshot _ | .deleteSnapshot _ | .reload => False
      | _ => True) :
    Kept env { books with
      manager := (books.manager.onEngine
        (books.manager.engine.call env config op now)).state } where
  keyed := MemoryEngine.call_keyed config op now _ kept.keyed
  captures capture member := by
    have same : (books.manager.engine.call env config op now).state.snapshots = _ :=
      MemoryEngine.call_snapshots config op now books.manager.engine other
    exact (kept.captures capture member).moved (congrArg (OrderedDict.get? · capture.id) same) rfl

theorem step_kept (books : SnapshotBooks Value) (input : MemoryInput Value)
    (kept : books.Kept env) (sound : books.SoundCapture env input) :
    (books.step env config input).Kept env := by
  obtain ⟨op, now⟩ := input
  cases op with
  | snapshot memoryIds => exact create_kept config kept memoryIds now sound
  | restoreSnapshot snapshotId => exact restore_kept kept snapshotId
  | deleteSnapshot snapshotId => exact delete_kept config kept snapshotId now
  | reload => exact reload_kept config kept now
  | _ => exact untouched_kept config kept _ now trivial

theorem created_restores {after : MemorySnapshot Value}
    {selected : List (MemoryEntry Value)} {id : String} {now : Time}
    (serialize : ∀ entry ∈ selected, env.Serializes entry)
    (consistent : ∀ left ∈ selected, ∀ right ∈ selected,
      left.id = right.id → left = right)
    (held : after.engine.snapshots.get? id = some (selected.map env.written))
    (restores : Restores env after { id := id, takenAt := now, entries := selected }) :
    ∀ entry ∈ selected, entry.validates = true ∧ env.Stable entry := by
  have writtenStable : ∀ line ∈ selected.map env.written, env.Stable line := by
    intro line member
    obtain ⟨entry, source, rfl⟩ := List.mem_map.mp member
    exact env.dump_stable (serialize entry source)
  unfold Restores at restores
  rw [MemorySnapshot.restore_held held] at restores
  obtain ⟨returned, contents⟩ := restores
  have valid := (MemoryStore.restore_returned_iff writtenStable _).mp returned
  have written := MemoryStore.restored_get returned (by
    intro left leftMember right rightMember same
    obtain ⟨first, firstSource, rfl⟩ := List.mem_map.mp leftMember
    obtain ⟨second, secondSource, rfl⟩ := List.mem_map.mp rightMember
    rw [(serialize first firstSource).id, (serialize second secondSource).id] at same
    rw [consistent first firstSource second secondSource same])
  intro entry member
  have line : env.written entry ∈ selected.map env.written :=
    List.mem_map_of_mem member
  have same : env.written entry = entry := by
    have stored := written (env.written entry) line
    rw [(serialize entry member).id] at stored
    exact Option.some.inj (stored.symm.trans (contents entry member))
  rw [← same]
  exact ⟨valid _ line, writtenStable _ line⟩

theorem faithful_step_iff (books : SnapshotBooks Value) (input : MemoryInput Value)
    (kept : books.Kept env) :
    books.SoundCapture env input ↔ books.FaithfulStep env config input := by
  constructor
  · intro sound
    constructor
    · rintro memoryIds created returned capture member
      obtain ⟨op, now⟩ := input
      cases created
      have serialize : ∀ entry ∈ books.manager.selectEntries memoryIds,
          env.Serializes entry := by
        by_contra refused
        rw [MemorySnapshot.create_raising now refused] at returned
        cases returned
      rw [(kept.captures capture member).named]
      exact fun same =>
        (sound serialize).1 capture member (snapshot_id_injective same)
    · intro capture member
      exact ((step_kept config books input kept sound).captures capture member).restores
  · rintro ⟨fresh, restores⟩
    obtain ⟨op, now⟩ := input
    cases op with
    | snapshot memoryIds =>
      intro serialize
      have created := MemorySnapshot.create_returning now serialize
      rw [step_create config now serialize] at restores
      constructor
      · intro capture member same
        have apart := fresh memoryIds rfl (by rw [created]; rfl) capture member
        apply apart
        rw [(kept.captures capture member).named, MemoryEngine.snapshotId, same]
        rfl
      · have latest := restores _ (List.mem_append_right _ (List.mem_singleton_self _))
        exact created_restores serialize (MemorySnapshot.selected_consistent kept.keyed memoryIds)
          (by exact OrderedDict.get_set_self _ _ _) latest
    | _ => trivial

/-- Along a run every id is fresh and every held snapshot can be restored
exactly when each creation comes in a second of its own among the snapshots
held, and captures valid entries that JSON keeps as they are. -/
theorem snapshots_faithful_iff (disk : Option (LogFile Value)) (hasPath : Bool)
    (inputs : List (MemoryInput Value)) :
    (∀ early input late, inputs = early ++ input :: late →
      FaithfulStep env config (runs env config (start disk hasPath) early) input) ↔
      StepsMeet (step env config) (SoundCapture env) (start disk hasPath) inputs := by
  have same := steps_meet_congr_of_meets (step env config) (Kept env)
    (step_kept config) (faithful_step_iff config) (start disk hasPath) inputs
    (start_kept disk hasPath)
  rw [same, steps_meet_iff]
  rfl

/-- Two snapshots within one second, with an update between them. -/
def sameSecondInputs : List (MemoryInput PyValue) :=
  [ { op := .save { content := OrderedDict.empty }, now := 1 }, { op := .snapshot [], now := 2 },
    { op := .update "mem_1_0001" { importance := some 1 }, now := 3 },
    { op := .snapshot [], now := 4 } ]

theorem earlier_snapshot_overwritten :
    let books := runs textEnv {} (start none true) sameSecondInputs
    ¬(∀ early input late, sameSecondInputs = early ++ input :: late →
      FaithfulStep textEnv {} (runs textEnv {} (start none true) early) input) ∧
    (books.held.map fun capture =>
        (capture.id, capture.entries.map fun entry => entry.importance)) =
      [("snap_0", [1 / 2]), ("snap_0", [1])] ∧
    (((books.manager.restoreSnapshot textEnv "snap_0").state.engine.store.get
        "mem_1_0001").map fun entry => entry.importance) = some 1 := by
  constructor
  · intro faithful
    have last := (faithful (sameSecondInputs.take 3) { op := .snapshot [], now := 4 } []
      rfl).1 [] rfl
    revert last
    unfold sameSecondInputs
    decide +kernel
  · decide +kernel

end SnapshotBooks

end AiEnterpriseOs.Memory
