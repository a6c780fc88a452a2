import AiEnterpriseOs.Library.Outcome
import AiEnterpriseOs.Library.SecondaryIndex
import AiEnterpriseOs.Memory.Models
import Mathlib.Data.List.Sort

/-!
# Memory store

The entries by id, five secondary indices, and the JSONL file they are
appended to. The stored entry is the live object: a field assigned to it
changes the entry of the table before `save` is called.
-/

namespace AiEnterpriseOs.Memory

open Library

inductive IndexKind where
  | namespaceIndex
  | typeIndex
  | tagIndex
  | parentIndex
  | tierIndex
  deriving DecidableEq, Repr

section Keys

variable {Value : Type}

/-- Index keys of a parent id; the empty id counts as none. -/
def parentKeys : Option String → List String
  | none => []
  | some parentId => if parentId = "" then [] else [parentId]

namespace MemoryEntry

/-- The keys under which an entry is entered in an index. -/
def indexKeys (kind : IndexKind) (entry : MemoryEntry Value) : List String :=
  match kind with
  | .namespaceIndex => [entry.memoryNamespace.value]
  | .typeIndex => [entry.memoryType.value]
  | .tagIndex => entry.tags
  | .parentIndex => parentKeys entry.parentId
  | .tierIndex => [entry.tier]

/-- The keys under which an entry is looked for when it is taken out; an
empty tier is taken for "working" here, and only here. -/
def removalKeys (kind : IndexKind) (entry : MemoryEntry Value) : List String :=
  match kind with
  | .tierIndex => [if entry.tier = "" then "working" else entry.tier]
  | kind => entry.indexKeys kind

end MemoryEntry

end Keys

/-- A line of the JSONL file: a record of an entry, valid or not, or anything
else that fails to load. -/
inductive DiskLine (Value : Type) where
  | record (entry : MemoryEntry Value)
  | malformed

/-- The JSONL file by its nonblank lines; `unterminated` is a last line that
lacks its line break. -/
structure LogFile (Value : Type) where
  lines : List (DiskLine Value) := []
  unterminated : Option (DiskLine Value) := none

namespace LogFile

variable {Value : Type}

def allLines (file : LogFile Value) : List (DiskLine Value) :=
  file.lines ++ file.unterminated.toList

/-- Append a record and a line break. On an unterminated line the record goes
on that line, and the two together are no JSON text. -/
def append (file : LogFile Value) (entry : MemoryEntry Value) : LogFile Value where
  lines := file.lines ++ match file.unterminated with
    | none => [.record entry]
    | some _ => [.malformed]

end LogFile

structure MemoryStore (Value : Type) where
  entries : OrderedDict String (MemoryEntry Value) := OrderedDict.empty
  index : IndexKind → SecondaryIndex String String := fun _ => SecondaryIndex.empty
  disk : Option (LogFile Value) := none

/-- Filters of a search; an empty query, namespace, type, parent or tag list
filters nothing. -/
structure SearchFilters (Value : Type) where
  query : String := ""
  memoryNamespace : String := ""
  memoryType : String := ""
  tags : List String := []
  minImportance : Rat := 0
  includeArchived : Bool := false
  parentId : String := ""
  metadataFilter : List (String × Value) := []
  limit : Int := 100

namespace MemoryStore

variable {Value : Type}

/-! ## Index maintenance -/

def addToIndices (entry : MemoryEntry Value) (store : MemoryStore Value) :
    MemoryStore Value :=
  { store with
    index := fun kind => (store.index kind).addAll entry.id (entry.indexKeys kind) }

def removeFromIndices (entry : MemoryEntry Value) (store : MemoryStore Value) :
    MemoryStore Value :=
  { store with
    index := fun kind =>
      (store.index kind).discardAll entry.id (entry.removalKeys kind) }

/-! ## Disk -/

section Disk

variable (env : MemoryEnv Value)

def appendToDisk (entry : MemoryEntry Value) (store : MemoryStore Value) :
    Outcome (MemoryStore Value) :=
  match store.disk with
  | none => .returning store
  | some file =>
    match env.dump entry with
    | none => .raising store
    | some line => .returning { store with disk := some (file.append line) }

/-- The lines written before an entry that does not serialize. -/
def writeLines : List (MemoryEntry Value) → Outcome (List (DiskLine Value))
  | [] => .returning []
  | entry :: rest =>
    match env.dump entry with
    | none => .raising []
    | some line =>
      match writeLines rest with
      | written => { written with state := .record line :: written.state }

def rebuildDisk (store : MemoryStore Value) : Outcome (MemoryStore Value) :=
  match store.disk with
  | none => .returning store
  | some _ =>
    match writeLines env store.entries.values with
    | written =>
      { state := { store with disk := some { lines := written.state } }
        returned := written.returned }

end Disk

/-- A record of the file enters the table and the indices; what an earlier
line entered under the same id stays in the indices. -/
def loadEntry (entry : MemoryEntry Value) (store : MemoryStore Value) :
    MemoryStore Value :=
  { store with entries := store.entries.set entry.id entry }.addToIndices entry

/-- Loading ends silently at the first line that raises. -/
def loadLines : List (DiskLine Value) → MemoryStore Value → MemoryStore Value
  | [], store => store
  | .malformed :: _, store => store
  | .record entry :: rest, store =>
    if entry.validates then loadLines rest (store.loadEntry entry) else store

/-- A new store on a file, or on none. -/
def openStore (disk : Option (LogFile Value)) : MemoryStore Value :=
  match disk with
  | none => {}
  | some file => loadLines file.allLines { disk := some file }

/-! ## Operations -/

section Operations

variable (env : MemoryEnv Value)

/-- Save a memory entry with indexing. -/
def save (entry : MemoryEntry Value) (store : MemoryStore Value) : Outcome (MemoryStore Value) :=
  let cleared := match store.entries.get? entry.id with
    | none => store
    | some old => store.removeFromIndices old
  let placed : MemoryStore Value :=
    { cleared with entries := cleared.entries.set entry.id entry }
  (placed.addToIndices entry).appendToDisk env entry

/-- Field assignments on the live object. -/
def mutate (id : String) (change : MemoryEntry Value → MemoryEntry Value)
    (store : MemoryStore Value) : MemoryStore Value :=
  { store with entries := store.entries.modify id change }

/-- Field assignments on the live object, which is then handed to `save`. -/
def amend (id : String) (change : MemoryEntry Value → MemoryEntry Value)
    (store : MemoryStore Value) : Outcome (MemoryStore Value) :=
  match store.entries.get? id with
  | none => .returning store
  | some entry => (store.mutate id change).save env (change entry)

/-- Delete a memory entry and its indices. -/
def delete (id : String) (store : MemoryStore Value) : Outcome (MemoryStore Value) :=
  match store.entries.get? id with
  | none => .returning store
  | some entry =>
    let cleared := store.removeFromIndices entry
    { cleared with entries := cleared.entries.erase id }.rebuildDisk env

/-- Clear all entries. The tier index is left as it is. -/
def clear (store : MemoryStore Value) : MemoryStore Value where
  entries := OrderedDict.empty
  index kind := match kind with
    | .tierIndex => store.index .tierIndex
    | _ => SecondaryIndex.empty
  disk := store.disk.map fun _ => {}

end Operations

/-! ## Reading -/

def get (store : MemoryStore Value) (id : String) : Option (MemoryEntry Value) :=
  store.entries.get? id

def getAll (store : MemoryStore Value) : List (MemoryEntry Value) :=
  store.entries.values

def getBy (kind : IndexKind) (key : String) (store : MemoryStore Value) :
    List (MemoryEntry Value) :=
  (store.index kind).select store.entries key

def getByTier (tier : String) (store : MemoryStore Value) : List (MemoryEntry Value) :=
  store.getBy .tierIndex tier

def getByType (memoryType : String) (store : MemoryStore Value) : List (MemoryEntry Value) :=
  store.getBy .typeIndex memoryType

def getByNamespace (memoryNamespace : String) (store : MemoryStore Value) :
    List (MemoryEntry Value) :=
  store.getBy .namespaceIndex memoryNamespace

def getByTag (tag : String) (store : MemoryStore Value) : List (MemoryEntry Value) :=
  store.getBy .tagIndex tag

/-- Get child entries of a parent. -/
def getChildren (parentId : String) (store : MemoryStore Value) : List (MemoryEntry Value) :=
  store.getBy .parentIndex parentId

end MemoryStore

/-! ## Search -/

section Search

variable {Value : Type} (env : MemoryEnv Value)

/-- Whether an entry comes no later than another in the order of importance
and creation, both descending. -/
def RanksBefore (left right : MemoryEntry Value) : Prop :=
  right.importance < left.importance ∨
    right.importance = left.importance ∧ right.createdAt ≤ left.createdAt

instance (left right : MemoryEntry Value) : Decidable (RanksBefore left right) := by
  unfold RanksBefore
  infer_instance

/-- `results[:limit]`; a negative limit counts from the end. -/
def sliceLimit {Item : Type} (limit : Int) (results : List Item) : List Item :=
  if 0 ≤ limit then results.take limit.toNat
  else results.take (results.length - limit.natAbs)

/-- `e.metadata.get(key) == value or e.content.get(key) == value`. -/
def metadataMatches (filter : String × Value) (entry : MemoryEntry Value) : Bool :=
  env.equal (entry.metadata.getD filter.1 env.noneValue) filter.2 ||
    env.equal (entry.content.getD filter.1 env.noneValue) filter.2

/-- The filters of a search, `has` telling whether an entry is listed under a
key of an index. -/
def filterEntries (has : IndexKind → String → MemoryEntry Value → Bool)
    (filters : SearchFilters Value) (entries : List (MemoryEntry Value)) :
    List (MemoryEntry Value) :=
  let results := entries.filter fun entry =>
    filters.includeArchived || !entry.archived
  let results := results.filter fun entry =>
    decide (filters.memoryNamespace = "") ||
      has .namespaceIndex filters.memoryNamespace entry
  let results := results.filter fun entry =>
    decide (filters.memoryType = "") || has .typeIndex filters.memoryType entry
  let results := results.filter fun entry =>
    filters.tags.all fun tag => has .tagIndex tag entry
  let results := results.filter fun entry =>
    !decide (0 < filters.minImportance) ||
      decide (filters.minImportance ≤ entry.importance)
  let results := results.filter fun entry =>
    decide (filters.parentId = "") || has .parentIndex filters.parentId entry
  results.filter fun entry =>
    filters.metadataFilter.all fun filter => metadataMatches env filter entry

/-- A text query keeps the entries of positive score, best first; without one
the order is importance, then creation. Both sorts are stable. -/
def rankEntries (filters : SearchFilters Value)
    (results : List (MemoryEntry Value)) : List (MemoryEntry Value) :=
  if filters.query = "" then
    sliceLimit filters.limit (results.insertionSort RanksBefore)
  else
    let scored := results.filter fun entry => 0 < env.relevance entry filters.query
    sliceLimit filters.limit (scored.insertionSort fun left right =>
      env.relevance right filters.query ≤ env.relevance left filters.query)

/-- Search entries with filters. -/
def MemoryStore.search (filters : SearchFilters Value)
    (store : MemoryStore Value) : List (MemoryEntry Value) :=
  rankEntries env filters (filterEntries env
      (fun kind key entry => decide (entry.id ∈ ((store.index kind).bucket key).ids))
      filters store.getAll)

/-- The same search with every attribute read off the entry itself. -/
def MemoryStore.scan (filters : SearchFilters Value)
    (store : MemoryStore Value) : List (MemoryEntry Value) :=
  rankEntries env filters
    (filterEntries env (fun kind key entry => decide (key ∈ entry.indexKeys kind))
      filters store.getAll)

end Search

end AiEnterpriseOs.Memory
