import AiEnterpriseOs.Memory.Upkeep

/-!
# What the memory log says

The well-formed lines of a file, the last of which for an id is what the file
says about the id, and what appending and rewriting make of them.
-/

namespace AiEnterpriseOs.Memory

open Library

variable {Value : Type} {env : MemoryEnv Value}

open MemoryStore (byId loadable)

namespace DiskLine

/-- The entry that a line holds, if it loads at all. -/
def parsedEntry : DiskLine Value → Option (MemoryEntry Value)
  | .malformed => none
  | .record entry => if entry.validates then some entry else none

theorem entry_validates {line : DiskLine Value} {entry : MemoryEntry Value}
    (holds : line.parsedEntry = some entry) : entry.validates = true := by
  cases line with
  | malformed => cases holds
  | record stored =>
    by_cases valid : stored.validates = true
    · rw [parsedEntry, if_pos valid] at holds
      cases holds
      exact valid
    · rw [parsedEntry, if_neg valid] at holds
      cases holds

end DiskLine

/-- The entries of all lines that load taken alone. -/
def wellFormed (lines : List (DiskLine Value)) : List (MemoryEntry Value) :=
  lines.filterMap DiskLine.parsedEntry

theorem well_formed_append (first second : List (DiskLine Value)) :
    wellFormed (first ++ second) = wellFormed first ++ wellFormed second :=
  List.filterMap_append

theorem well_formed_records (entries : List (MemoryEntry Value))
    (valid : ∀ entry ∈ entries, entry.validates = true) :
    wellFormed (entries.map DiskLine.record) = entries := by
  induction entries with
  | nil => rfl
  | cons entry rest ih =>
    have head : DiskLine.parsedEntry (.record entry) = some entry :=
      if_pos (valid entry List.mem_cons_self)
    rw [List.map_cons, wellFormed, List.filterMap_cons, head]
    exact congrArg (entry :: ·) (ih fun other member =>
      valid other (List.mem_cons_of_mem _ member))

/-- The entries among the well-formed lines, later lines of an id replacing
earlier ones. -/
def recordedEntries (lines : List (DiskLine Value)) : OrderedDict String (MemoryEntry Value) :=
  OrderedDict.empty.setAll (byId (wellFormed lines))

namespace LogFile

/-- What the well-formed lines of a file say last about an id. -/
def latest (file : LogFile Value) (id : String) : Option (MemoryEntry Value) :=
  (recordedEntries file.allLines).get? id

theorem latest_listed {file : LogFile Value} {id : String}
    {entry : MemoryEntry Value} (said : file.latest id = some entry) :
    entry ∈ wellFormed file.allLines ∧ entry.id = id := by
  rcases OrderedDict.get_setAll_cases said with listed | initial
  · exact MemoryStore.mem_by_id.mp listed
  · rw [OrderedDict.get_empty] at initial
    cases initial

theorem latest_append {file : LogFile Value} (terminated : file.unterminated = none)
    {entry : MemoryEntry Value} (valid : entry.validates = true) (id : String) :
    (file.append entry).latest id =
      if id = entry.id then some entry else file.latest id := by
  have written : wellFormed (file.append entry).allLines = wellFormed file.allLines ++ [entry] := by
    simp only [append, allLines, terminated, Option.toList_none, List.append_nil,
      well_formed_append]
    congr 1
    exact well_formed_records [entry] fun other member => by
      rw [List.mem_singleton.mp member]
      exact valid
  rw [latest, recordedEntries, written, byId, List.map_append, OrderedDict.setAll_append]
  exact OrderedDict.get_set _ _ _ _

theorem latest_append_torn {file : LogFile Value} {torn : DiskLine Value}
    (unterminated : file.unterminated = some torn) (damaged : torn.parsedEntry = none)
    (entry : MemoryEntry Value) (id : String) :
    (file.append entry).latest id = file.latest id := by
  have same : wellFormed (file.append entry).allLines = wellFormed file.allLines := by
    simp only [append, allLines, unterminated, Option.toList_none, List.append_nil,
      Option.toList_some, well_formed_append]
    have lost : wellFormed [torn] = [] := by
      rw [wellFormed, List.filterMap_cons, damaged]
      rfl
    rw [lost]
    rfl
  rw [latest, latest, recordedEntries, recordedEntries, same]

end LogFile

/-! ## Loading -/

theorem loadable_all {lines : List (DiskLine Value)}
    (loads : ∀ line ∈ lines, line.parsedEntry.isSome = true) :
    loadable lines = wellFormed lines := by
  induction lines with
  | nil => rfl
  | cons line rest ih =>
    have head := loads line List.mem_cons_self
    have tail := ih fun other member => loads other (List.mem_cons_of_mem _ member)
    cases line with
    | malformed => cases head
    | record entry =>
      by_cases valid : entry.validates = true
      · simp only [loadable, wellFormed, List.filterMap_cons, DiskLine.parsedEntry,
          if_pos valid, tail]
      · simp [DiskLine.parsedEntry, valid] at head

/-- The lines that follow the first one that does not load, that one
included. -/
def unread : List (DiskLine Value) → List (DiskLine Value)
  | [] => []
  | line :: rest => if line.parsedEntry.isSome then unread rest else line :: rest

theorem loadable_unread (lines : List (DiskLine Value)) :
    wellFormed lines = loadable lines ++ wellFormed (unread lines) := by
  induction lines with
  | nil => rfl
  | cons line rest ih =>
    cases line with
    | malformed => rfl
    | record entry =>
      by_cases valid : entry.validates = true
      · simp only [wellFormed, List.filterMap_cons, DiskLine.parsedEntry, if_pos valid,
          loadable, unread, Option.isSome_some, if_true, List.cons_append]
        exact congrArg (entry :: ·) ih
      · simp [loadable, unread, DiskLine.parsedEntry, valid]

/-! ## Writing -/

/-- The record of an entry that serializes. -/
def MemoryEnv.written (env : MemoryEnv Value) (entry : MemoryEntry Value) :
    MemoryEntry Value :=
  (env.dump entry).getD entry

def MemoryEnv.Serializes (env : MemoryEnv Value) (entry : MemoryEntry Value) : Prop :=
  env.dump entry = some (env.written entry)

theorem MemoryEnv.Serializes.of_dump {entry written : MemoryEntry Value}
    (dumped : env.dump entry = some written) : env.Serializes entry := by
  rw [MemoryEnv.Serializes, MemoryEnv.written, dumped, Option.getD_some]

theorem MemoryEnv.Stable.written {entry : MemoryEntry Value}
    (stable : env.Stable entry) : env.written entry = entry := by
  rw [MemoryEnv.written, stable.dump, Option.getD_some]

theorem MemoryEnv.Stable.serializes {entry : MemoryEntry Value}
    (stable : env.Stable entry) : env.Serializes entry :=
  .of_dump stable.dump

theorem MemoryEnv.Serializes.id {entry : MemoryEntry Value}
    (serializes : env.Serializes entry) : (env.written entry).id = entry.id :=
  env.dump_id serializes

theorem MemoryEnv.Serializes.validates {entry : MemoryEntry Value}
    (serializes : env.Serializes entry) :
    (env.written entry).validates = entry.validates :=
  env.dump_validates serializes

theorem Routine.dump {change : MemoryEntry Value → MemoryEntry Value}
    (routine : Routine change) {entry : MemoryEntry Value}
    (serializes : env.Serializes entry) : env.Serializes (change entry) := by
  obtain ⟨content, metadata, contentDumped, metadataDumped, _⟩ :=
    env.dump_cases serializes
  have dumped : env.dump (change entry) =
      some { change entry with content := content, metadata := metadata } := by
    simp only [MemoryEnv.dump, routine.content, routine.metadata, contentDumped, metadataDumped]
  exact .of_dump dumped

theorem Routine.stable {change : MemoryEntry Value → MemoryEntry Value}
    (routine : Routine change) {entry : MemoryEntry Value}
    (stable : env.Stable entry) : env.Stable (change entry) := by
  constructor
  · rw [routine.content]
    exact stable.1
  · rw [routine.metadata]
    exact stable.2

namespace MemoryStore

theorem write_lines (entries : List (MemoryEntry Value))
    (serialize : ∀ entry ∈ entries, env.Serializes entry) :
    writeLines env entries = .returning ((entries.map env.written).map DiskLine.record) := by
  induction entries with
  | nil => rfl
  | cons entry rest ih =>
    have head : env.dump entry = some (env.written entry) :=
      serialize entry List.mem_cons_self
    have tail := ih fun other member => serialize other (List.mem_cons_of_mem _ member)
    simp only [writeLines, head, tail, List.map_cons]
    rfl

section Disk

variable {store : MemoryStore Value} {file : LogFile Value}

theorem save_disk (recorded : store.disk = some file) {entry line : MemoryEntry Value}
    (dumped : env.dump entry = some line) :
    (store.save env entry).state.disk = some (file.append line) := by
  have appended : ∀ placed : MemoryStore Value, placed.disk = some file →
      (placed.appendToDisk env entry).state.disk = some (file.append line) := by
    intro placed onDisk
    simp only [appendToDisk, onDisk, dumped]
    rfl
  apply appended
  cases stored : store.entries.get? entry.id with
  | none => exact recorded
  | some old => exact recorded

theorem amend_disk (recorded : store.disk = some file) {id : String}
    {change : MemoryEntry Value → MemoryEntry Value} {entry line : MemoryEntry Value}
    (stored : store.get id = some entry) (dumped : env.dump (change entry) = some line) :
    (store.amend env id change).state.disk = some (file.append line) := by
  have found : store.entries.get? id = some entry := stored
  have onDisk : (store.mutate id change).disk = some file := recorded
  simp only [amend, found]
  exact save_disk onDisk dumped

theorem amend_absent {id : String}
    {change : MemoryEntry Value → MemoryEntry Value} (absent : store.get id = none) :
    store.amend env id change = .returning store := by
  have missing : store.entries.get? id = none := absent
  simp only [amend, missing]

theorem delete_absent {id : String} (absent : store.get id = none) :
    store.delete env id = .returning store := by
  have missing : store.entries.get? id = none := absent
  simp only [delete, missing]

theorem delete_disk (recorded : store.disk = some file) {id : String}
    {entry : MemoryEntry Value} (stored : store.get id = some entry)
    (serialize : ∀ other ∈ (store.delete env id).state.getAll, env.Serializes other) :
    (store.delete env id).state.disk = some
      { lines := ((store.delete env id).state.getAll.map env.written).map
          DiskLine.record } := by
  have found : store.entries.get? id = some entry := stored
  have rewritten : ∀ rest : MemoryStore Value, rest.disk = some file →
      (∀ other ∈ rest.getAll, env.Serializes other) →
      (rest.rebuildDisk env).state.disk = some
        { lines := (rest.getAll.map env.written).map DiskLine.record } := by
    intro rest onDisk restSerialize
    simp only [rebuildDisk, onDisk]
    rw [write_lines rest.entries.values restSerialize]
    rfl
  have left : (store.delete env id).state.entries = store.entries.erase id := by
    simp only [delete, found, rebuild_entries]
    rfl
  simp only [getAll, left] at serialize ⊢
  simp only [delete, found]
  exact rewritten _ recorded serialize

end Disk

theorem latest_rewritten {store : MemoryStore Value} (keyed : store.Keyed)
    (sound : ∀ entry ∈ store.getAll, env.Serializes entry ∧ entry.validates = true) (id : String) :
    LogFile.latest { lines := (store.getAll.map env.written).map DiskLine.record } id =
        (store.get id).map env.written := by
  have valid : ∀ entry ∈ store.getAll.map env.written, entry.validates = true := by
    intro entry member
    obtain ⟨live, present, rfl⟩ := List.mem_map.mp member
    rw [(sound live present).1.validates]
    exact (sound live present).2
  have keyedItems : byId (store.getAll.map env.written) =
      store.entries.entries.map fun item => (item.1, env.written item.2) := by
    rw [byId, getAll, OrderedDict.values, List.map_map, List.map_map]
    apply List.map_congr_left
    intro item member
    have stored := (OrderedDict.get_eq_some_iff _ item.1 item.2).mpr member
    have present : item.2 ∈ store.getAll :=
      (OrderedDict.mem_values_iff _ _).mpr ⟨item.1, stored⟩
    have sameId : (env.written item.2).id = item.1 := by
      rw [(sound item.2 present).1.id, keyed item.1 item.2 stored]
    exact congrArg (·, env.written item.2) sameId
  have lines : LogFile.allLines { lines := (store.getAll.map env.written).map DiskLine.record } =
        (store.getAll.map env.written).map DiskLine.record :=
    List.append_nil _
  rw [LogFile.latest, recordedEntries, lines, well_formed_records _ valid, keyedItems]
  exact OrderedDict.get_setAll_map store.entries env.written id

end MemoryStore

end AiEnterpriseOs.Memory
