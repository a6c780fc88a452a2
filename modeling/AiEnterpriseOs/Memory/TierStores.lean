import AiEnterpriseOs.Library.KeyedBackend
import AiEnterpriseOs.Library.OptionFold
import AiEnterpriseOs.Memory.Store
import AiEnterpriseOs.Memory.Summary

/-!
# Short-term and long-term stores

The JSONL store appends every save to its file and reads the file for every
answer. The file store answers from a cache that a new store starts without;
it writes an index, and reads a file that no save writes.
-/

namespace AiEnterpriseOs.Memory

open Library

variable {Value : Type}

namespace MemoryEntry

/-- `entry.tier = tier`. -/
def withTier (tier : String) (entry : MemoryEntry Value) : MemoryEntry Value :=
  { entry with tier := tier }

end MemoryEntry

/-! ## The JSONL store -/

/-- Session-scoped short-term storage, by the records of its file. -/
structure JsonlStore (Value : Type) where
  file : Option (List (MemoryEntry Value)) := none

namespace JsonlStore

def lines (store : JsonlStore Value) : List (MemoryEntry Value) :=
  store.file.getD []

/-- Append entry to JSONL file. The file is opened before the record is
serialized. -/
def save (env : MemoryEnv Value) (entry : MemoryEntry Value) (store : JsonlStore Value) :
    Outcome (JsonlStore Value) :=
  match env.dump (entry.withTier "short_term") with
  | none => .raising { file := some store.lines }
  | some line => .returning { file := some (store.lines ++ [line]) }

/-- The first record of the id, which must validate. -/
def readEntry (id : String) (store : JsonlStore Value) : Option (Option (MemoryEntry Value)) :=
  match store.lines.find? fun line => decide (line.id = id) with
  | none => some none
  | some line => if line.validates then some (some line) else none

/-- All records, which must all validate. -/
def readAll (store : JsonlStore Value) : Option (List (MemoryEntry Value)) :=
  store.lines.mapM fun line => if line.validates then some line else none

/-- The file is rewritten by a method that the class does not have, so the call
raises where there is something to delete. -/
def delete (id : String) (store : JsonlStore Value) : Option Bool :=
  match store.readAll with
  | none => none
  | some entries =>
    let left := entries.filter fun entry => decide (entry.id ≠ id)
    if left.length < entries.length then none else some false

def count (store : JsonlStore Value) : Option Nat :=
  store.readAll.map List.length

/-- A new store on the same path. -/
def reopen (store : JsonlStore Value) : JsonlStore Value where
  file := store.file

def backend (env : MemoryEnv Value) :
    KeyedBackend (JsonlStore Value) String (MemoryEntry Value) where
  keyOf := MemoryEntry.id
  saved := MemoryEntry.withTier "short_term"
  save := save env
  get := readEntry
  getAll store := (store, store.readAll)
  delete id store := (store, store.delete id)
  count := count
  reopen := reopen

end JsonlStore

/-! ## The file store -/

structure IndexRecord where
  memoryType : String
  memoryNamespace : String
  createdAt : Time
  importance : Rat
  tier : String

/-- Indexed long-term storage. `indexFile` is the index as it was last written,
`storage` the file that `get_all` reads. -/
structure FileStore (Value : Type) where
  storage : Option (List (DiskLine Value)) := none
  indexFile : Option (OrderedDict String IndexRecord) := none
  index : OrderedDict String IndexRecord := OrderedDict.empty
  cache : OrderedDict String (MemoryEntry Value) := OrderedDict.empty

namespace FileStore

def saveIndex (store : FileStore Value) : FileStore Value :=
  { store with indexFile := some store.index }

def save (entry : MemoryEntry Value) (store : FileStore Value) : Outcome (FileStore Value) :=
  let entry := entry.withTier "long_term"
  .returning (saveIndex
    { store with
      cache := store.cache.set entry.id entry
      index := store.index.set entry.id
        { memoryType := entry.memoryType.value
          memoryNamespace := entry.memoryNamespace.value
          createdAt := entry.createdAt
          importance := entry.importance
          tier := entry.tier } })

def get (id : String) (store : FileStore Value) : Option (MemoryEntry Value) :=
  store.cache.get? id

/-- Entries are loaded up to the first line that fails. -/
def loadLines : List (DiskLine Value) → FileStore Value → FileStore Value
  | [], store => store
  | .malformed :: _, store => store
  | .record entry :: rest, store =>
    if entry.validates then
      loadLines rest { store with cache := store.cache.set entry.id entry }
    else store

def loadAll (store : FileStore Value) : FileStore Value :=
  match store.storage with
  | none => store
  | some lines => loadLines lines store

def getAll (store : FileStore Value) : FileStore Value × List (MemoryEntry Value) :=
  let loaded := if store.cache.keys = [] then store.loadAll else store
  (loaded, loaded.cache.values)

def delete (id : String) (store : FileStore Value) : FileStore Value × Bool :=
  match store.cache.get? id with
  | none => (store, false)
  | some _ =>
    (saveIndex
      { store with
        cache := store.cache.erase id
        index := store.index.erase id }, true)

def count (store : FileStore Value) : Nat := store.cache.keys.length

/-- A new store on the same path has the index and an empty cache. -/
def reopen (store : FileStore Value) : FileStore Value where
  storage := store.storage
  indexFile := store.indexFile
  index := store.indexFile.getD OrderedDict.empty

def backend : KeyedBackend (FileStore Value) String (MemoryEntry Value) where
  keyOf := MemoryEntry.id
  saved := MemoryEntry.withTier "long_term"
  save := save
  get id store := some (store.get id)
  getAll store := (store.getAll.1, some store.getAll.2)
  delete id store := ((store.delete id).1, some (store.delete id).2)
  count store := some store.count
  reopen := reopen

/-! ### What it represents -/

/-- The cache is the map, and there is no file to load from. -/
def Holds (store : FileStore Value) (map : OrderedDict String (MemoryEntry Value)) : Prop :=
  store.cache = map ∧ store.storage = none

/-- The store is reopened only while it holds nothing. -/
def ReopensEmpty (run : BackendRun (FileStore Value) String (MemoryEntry Value)) :
    BackendCall String (MemoryEntry Value) → Prop
  | .reopen => run.map.keys = []
  | _ => True

variable {store : FileStore Value} {map : OrderedDict String (MemoryEntry Value)}

theorem Holds.get_all (holds : store.Holds map) : store.getAll = (store, map.values) := by
  obtain ⟨cache, storage⟩ := holds
  unfold getAll loadAll
  rw [storage, ← cache]
  split <;> rfl

theorem Holds.answers (holds : store.Holds map) : backend.Answers store map where
  get id := by
    rw [← holds.1]
    rfl
  getAll := by
    refine ⟨map.values, ?_, List.Perm.refl _⟩
    change some store.getAll.2 = _
    rw [holds.get_all]
  count := by
    rw [← holds.1]
    rfl

theorem Holds.delete (holds : store.Holds map) (id : String) :
    (store.delete id).1.Holds (map.erase id) ∧ (store.delete id).2 = decide (id ∈ map.keys) := by
  obtain ⟨rfl, storage⟩ := holds
  unfold delete
  cases cached : store.cache.get? id with
  | none =>
    have absent : id ∉ store.cache.keys := (OrderedDict.get_eq_none_iff _ _).mp cached
    refine ⟨⟨?_, storage⟩, (decide_eq_false absent).symm⟩
    exact (OrderedDict.erase_absent cached).symm
  | some entry =>
    have present : id ∈ store.cache.keys := (OrderedDict.mem_keys_iff _ _).mpr ⟨entry, cached⟩
    exact ⟨⟨rfl, storage⟩, (decide_eq_true present).symm⟩

theorem represents : (backend : KeyedBackend (FileStore Value) _ _).Represents Holds
    ReopensEmpty where
  answers _ _ holds := holds.answers
  keeps := by
    intro run call holds meets
    cases call with
    | save entry =>
      refine ⟨?_, holds.2⟩
      change run.store.cache.set entry.id _ = run.map.set entry.id _
      rw [holds.1]
      rfl
    | getAll =>
      change run.store.getAll.1.Holds run.map
      rw [holds.get_all]
      exact holds
    | delete id => exact (holds.delete id).1
    | reopen => exact ⟨(OrderedDict.eq_empty_of_keys meets).symm, holds.2⟩
    | get id => exact holds
    | count => exact holds
  saves _ _ _ _ := rfl
  deletes run id holds _ := congrArg some (holds.delete id).2
  wrong := by
    intro run call holds fails right
    cases call with
    | reopen =>
      have counted : some 0 = some run.map.keys.length := right.after.count
      apply fails
      exact List.eq_nil_of_length_eq_zero (Option.some.inj counted).symm
    | _ => exact fails trivial

end FileStore

/-! ### What the JSONL store represents -/

namespace JsonlStore

/-- The file has the entries of the map as its records, and they validate. -/
structure Holds (store : JsonlStore Value) (map : OrderedDict String (MemoryEntry Value)) :
    Prop where
  lines : store.lines = map.values
  keyed : ∀ id entry, map.get? id = some entry → entry.id = id
  valid : ∀ entry ∈ map.values, entry.validates = true

/-- Each id is saved once, an entry that is written as itself and validates; what
is deleted is not there. -/
def WritesOnce (env : MemoryEnv Value)
    (run : BackendRun (JsonlStore Value) String (MemoryEntry Value)) :
    BackendCall String (MemoryEntry Value) → Prop
  | .save entry => entry.id ∉ run.map.keys ∧
      env.dump (entry.withTier "short_term") = some (entry.withTier "short_term") ∧
      entry.validates = true
  | .delete id => id ∉ run.map.keys
  | _ => True

variable {env : MemoryEnv Value} {store : JsonlStore Value}
  {map : OrderedDict String (MemoryEntry Value)}

theorem Holds.read_all (holds : store.Holds map) : store.readAll = some map.values := by
  rw [readAll, holds.lines]
  have read := @mapM_eq_map _ _ (fun line : MemoryEntry Value =>
    if line.validates then some line else none) id map.values fun line member =>
      if_pos (holds.valid line member)
  rw [List.map_id] at read
  exact read

theorem Holds.read_entry (holds : store.Holds map) (id : String) :
    store.readEntry id = some (map.get? id) := by
  have found := OrderedDict.find_values holds.keyed id
  rw [readEntry, holds.lines, found]
  cases stored : map.get? id with
  | none => rfl
  | some entry =>
    have valid := holds.valid entry ((OrderedDict.mem_values_iff _ _).mpr ⟨id, stored⟩)
    exact if_pos valid

theorem Holds.answers (holds : store.Holds map) : (backend env).Answers store map where
  get := holds.read_entry
  getAll := ⟨map.values, holds.read_all, List.Perm.refl _⟩
  count := by
    change store.readAll.map List.length = _
    rw [holds.read_all, Option.map_some, OrderedDict.values, OrderedDict.keys,
      List.length_map, List.length_map]

theorem Holds.save (holds : store.Holds map) {entry : MemoryEntry Value}
    (fresh : entry.id ∉ map.keys)
    (written : env.dump (entry.withTier "short_term") = some (entry.withTier "short_term"))
    (valid : entry.validates = true) :
    (store.save env entry).state.Holds (map.set entry.id (entry.withTier "short_term")) := by
  have values := map.values_set_fresh (entry.withTier "short_term") fresh
  unfold JsonlStore.save
  rw [written]
  refine { lines := ?_, keyed := ?_, valid := ?_ }
  · rw [values, ← holds.lines]
    rfl
  · exact OrderedDict.forall_set rfl holds.keyed
  · intro other member
    rw [values, List.mem_append, List.mem_singleton] at member
    rcases member with early | rfl
    · exact holds.valid other early
    · exact valid

theorem Holds.delete_absent (holds : store.Holds map) {id : String} (absent : id ∉ map.keys) :
    store.delete id = some false := by
  have others : ∀ entry ∈ map.values, decide (entry.id ≠ id) = true := by
    intro entry member
    obtain ⟨key, stored⟩ := (OrderedDict.mem_values_iff _ _).mp member
    apply decide_eq_true
    intro same
    apply absent
    rw [← same, holds.keyed key entry stored]
    exact (OrderedDict.mem_keys_iff _ _).mpr ⟨entry, stored⟩
  rw [delete, holds.read_all]
  dsimp only
  rw [List.filter_eq_self.mpr others, if_neg (Nat.lt_irrefl _)]

theorem Holds.delete_present (holds : store.Holds map) {id : String} (present : id ∈ map.keys) :
    store.delete id = none := by
  obtain ⟨entry, stored⟩ := (OrderedDict.mem_keys_iff _ _).mp present
  have listed : entry ∈ map.values := (OrderedDict.mem_values_iff _ _).mpr ⟨id, stored⟩
  have fewer : (map.values.filter fun other => decide (other.id ≠ id)).length <
      map.values.length := by
    apply List.length_filter_lt_length_iff_exists.mpr
    refine ⟨entry, listed, ?_⟩
    simp [holds.keyed id entry stored]
  rw [delete, holds.read_all]
  exact if_pos fewer

theorem read_all_some {entries : List (MemoryEntry Value)} (all : store.readAll = some entries) :
    entries = store.lines ∧ ∀ line ∈ store.lines, line.validates = true := by
  have valid : ∀ line ∈ store.lines, line.validates = true := by
    intro line member
    have defined := mapM_is_some_iff.mp (Option.isSome_of_eq_some all) line member
    by_contra invalid
    rw [if_neg invalid] at defined
    cases defined
  have read : store.readAll = some (store.lines.map id) :=
    mapM_eq_map fun line member => if_pos (valid line member)
  rw [List.map_id, all] at read
  exact ⟨Option.some.inj read, valid⟩

theorem Holds.fresh_of_count {id : String} {entry line : MemoryEntry Value}
    (length : (map.values ++ [line]).length = (map.set id entry).keys.length) :
    id ∉ map.keys := by
  intro present
  have keys : map.values.length = map.keys.length := by
    rw [OrderedDict.values, OrderedDict.keys, List.length_map, List.length_map]
  rw [OrderedDict.keys_set, if_pos present, List.length_append, keys] at length
  exact Nat.succ_ne_self _ length

theorem Holds.read_fresh (holds : store.Holds map) {line : MemoryEntry Value}
    (fresh : line.id ∉ map.keys) (valid : line.validates = true) :
    readEntry line.id { file := some (store.lines ++ [line]) } = some (some line) := by
  have absent : store.lines.find? (fun other => decide (other.id = line.id)) = none := by
    rw [holds.lines, OrderedDict.find_values holds.keyed]
    exact (OrderedDict.get_eq_none_iff _ _).mpr fresh
  have found : (store.lines ++ [line]).find? (fun other => decide (other.id = line.id)) =
      some line := by
    rw [List.find?_append, absent]
    simp
  unfold readEntry
  have file : JsonlStore.lines { file := some (store.lines ++ [line]) } =
      store.lines ++ [line] := rfl
  rw [file, found]
  exact if_pos valid

theorem Holds.save_wrong (holds : store.Holds map) {entry : MemoryEntry Value}
    (fails : ¬(entry.id ∉ map.keys ∧
      env.dump (entry.withTier "short_term") = some (entry.withTier "short_term") ∧
      entry.validates = true))
    (returned : (store.save env entry).returned = true)
    (answers : (backend env).Answers (store.save env entry).state
      (map.set entry.id (entry.withTier "short_term"))) : False := by
  unfold JsonlStore.save at returned answers
  cases dumped : env.dump (entry.withTier "short_term") with
  | none =>
    rw [dumped] at returned
    cases returned
  | some line =>
    rw [dumped] at answers
    have sameId : line.id = (entry.withTier "short_term").id := env.dump_id dumped
    change line.id = entry.id at sameId
    have counted := answers.count
    change (readAll { file := some (store.lines ++ [line]) }).map List.length = _ at counted
    obtain ⟨entries, all, length⟩ := Option.map_eq_some_iff.mp counted
    obtain ⟨rfl, valid⟩ := read_all_some all
    have lineValid : line.validates = true :=
      valid line (List.mem_append_right _ (List.mem_singleton_self line))
    have fresh : entry.id ∉ map.keys := by
      apply Holds.fresh_of_count
      rw [← length, ← holds.lines]
      rfl
    have read := answers.get entry.id
    change readEntry entry.id { file := some (store.lines ++ [line]) } = _ at read
    rw [← sameId, holds.read_fresh (sameId ▸ fresh) lineValid, sameId,
      OrderedDict.get_set_self] at read
    have unchanged : line = entry.withTier "short_term" :=
      Option.some.inj (Option.some.inj read)
    apply fails
    refine ⟨fresh, ?_, ?_⟩
    · rw [dumped, unchanged]
    · rw [unchanged] at lineValid
      exact lineValid

theorem represents : (backend env).Represents Holds (WritesOnce env) where
  answers _ _ holds := holds.answers
  keeps := by
    intro run call holds meets
    cases call with
    | save entry => exact holds.save meets.1 meets.2.1 meets.2.2
    | delete id =>
      have gone : run.map.erase id = run.map :=
        OrderedDict.erase_absent ((OrderedDict.get_eq_none_iff _ _).mpr meets)
      change run.store.Holds (run.map.erase id)
      rw [gone]
      exact holds
    | _ => exact holds
  saves run entry holds meets := by
    change (run.store.save env entry).returned = true
    rw [save, meets.2.1]
    rfl
  deletes run id holds meets := by
    change run.store.delete id = _
    rw [holds.delete_absent meets, decide_eq_false meets]
  wrong := by
    intro run call holds fails right
    cases call with
    | save entry => exact holds.save_wrong fails (right.saves entry rfl) right.after
    | delete id =>
      have present : id ∈ run.map.keys := not_not.mp fails
      have deleted : run.store.delete id = _ := right.deletes id rfl
      rw [holds.delete_present present] at deleted
      cases deleted
    | _ => exact fails trivial

end JsonlStore

/-- A new JSONL store, and a map of nothing. -/
def newJsonl : BackendRun (JsonlStore Value) String (MemoryEntry Value) where
  store := {}
  map := OrderedDict.empty

/-- A new file store, and a map of nothing. -/
def newFile : BackendRun (FileStore Value) String (MemoryEntry Value) where
  store := {}
  map := OrderedDict.empty

/-- The JSONL store is a map from id to entry along the runs that save each id
once and delete nothing that is there; the file store along those that reopen it
only while it is empty. -/
theorem tier_stores_refine_iff (env : MemoryEnv Value)
    (calls : List (BackendCall String (MemoryEntry Value))) :
    (StepsMeet (JsonlStore.backend env).step (JsonlStore.backend env).RightStep newJsonl calls ↔
      StepsMeet (JsonlStore.backend env).step (JsonlStore.WritesOnce env) newJsonl calls) ∧
    (StepsMeet FileStore.backend.step FileStore.backend.RightStep newFile calls ↔
      StepsMeet FileStore.backend.step FileStore.ReopensEmpty newFile calls) := by
  constructor
  · apply JsonlStore.represents.right_throughout_iff
    exact ⟨rfl, by simp [newJsonl], by simp [newJsonl, OrderedDict.values, OrderedDict.empty]⟩
  · apply FileStore.represents.right_throughout_iff
    exact ⟨rfl, rfl⟩

def sessionNote : MemoryEntry PyValue where
  id := "note"
  createdAt := 0

/-- A saved note cannot be deleted from the JSONL store, and is gone from a file
store that is reopened. -/
theorem tier_stores_lose :
    ¬StepsMeet (JsonlStore.backend textEnv).step (JsonlStore.backend textEnv).RightStep
        newJsonl [.save sessionNote, .delete "note"] ∧
      ¬StepsMeet FileStore.backend.step FileStore.backend.RightStep newFile
        [.save sessionNote, .reopen] := by
  constructor
  · rintro ⟨_, right, _⟩
    have deleted := right.deletes "note" rfl
    have raised : ((JsonlStore.backend textEnv).delete "note"
        ((JsonlStore.backend textEnv).step newJsonl (.save sessionNote)).store).2 = none := by
      decide +kernel
    rw [raised] at deleted
    cases deleted
  · rintro ⟨_, right, _⟩
    have counted := right.after.count
    cases counted

end AiEnterpriseOs.Memory
