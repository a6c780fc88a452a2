import AiEnterpriseOs.Library.Outcome
import AiEnterpriseOs.Library.SecondaryIndex
import AiEnterpriseOs.Memory.Models

/-!
# Knowledge base

Entries by id, an index by domain and one by tag, and the file that every
change rewrites and a new knowledge base is loaded from.
-/

namespace AiEnterpriseOs.Memory

open Library

variable {Value : Type}

structure KnowledgeEntry (Value : Type) where
  id : String
  title : String
  content : OrderedDict String Value := OrderedDict.empty
  summary : String := ""
  domain : String := "general"
  tags : List String := []
  relationships : List String := []
  sourceMemoryIds : List String := []
  confidence : Rat := 1
  version : Int := 1
  createdAt : Time
  updatedAt : Option Time := none
  metadata : OrderedDict String Value := OrderedDict.empty

/-- The arguments of `add_knowledge`. -/
structure KnowledgeDetails (Value : Type) where
  title : String
  content : OrderedDict String Value
  summary : String := ""
  domain : String := "general"
  tags : Option (List String) := none
  sourceMemoryIds : Option (List String) := none
  confidence : Rat := 1

/-- The arguments of `update`. -/
structure KnowledgeChanges (Value : Type) where
  title : Option String := none
  content : Option (OrderedDict String Value) := none
  summary : Option String := none
  tags : Option (List String) := none
  confidence : Option Rat := none

def KnowledgeDetails.entry (id : String) (now : Time) (details : KnowledgeDetails Value) :
    KnowledgeEntry Value where
  id := id
  title := details.title
  content := details.content
  summary := details.summary
  domain := details.domain
  tags := details.tags.getD []
  sourceMemoryIds := details.sourceMemoryIds.getD []
  confidence := details.confidence
  createdAt := now

namespace KnowledgeEntry

/-- The bounds that constructing an entry checks, and assigning to it does not. -/
def validates (entry : KnowledgeEntry Value) : Bool :=
  decide (0 ≤ entry.confidence) && decide (entry.confidence ≤ 1)

/-- The entry as JSON gives it back, before it is validated. -/
def dump (env : MemoryEnv Value) (entry : KnowledgeEntry Value) : Option (KnowledgeEntry Value) :=
  match env.roundTripDict entry.content, env.roundTripDict entry.metadata with
  | some content, some metadata =>
    some { entry with content := content, metadata := metadata }
  | _, _ => none

/-- The assignments of `update`. -/
def assigned (changes : KnowledgeChanges Value) (now : Time) (entry : KnowledgeEntry Value) :
    KnowledgeEntry Value :=
  { entry with
    title := changes.title.getD entry.title
    content := changes.content.getD entry.content
    summary := changes.summary.getD entry.summary
    tags := changes.tags.getD entry.tags
    confidence := changes.confidence.getD entry.confidence
    version := entry.version + 1
    updatedAt := some now }

/-- `if id not in entry.relationships: entry.relationships.append(id)`. -/
def relate (id : String) (entry : KnowledgeEntry Value) : KnowledgeEntry Value :=
  if id ∈ entry.relationships then entry
  else { entry with relationships := entry.relationships ++ [id] }

end KnowledgeEntry

/-- What is on the storage path: the entries that were saved there, or something
whose reading raises at once. -/
inductive KnowledgeFile (Value : Type) where
  | malformed
  | saved (entries : OrderedDict String (KnowledgeEntry Value))

/-- `storage` is the file on the storage path, where there is a path. -/
structure KnowledgeBase (Value : Type) where
  storage : Option (Option (KnowledgeFile Value)) := none
  entries : OrderedDict String (KnowledgeEntry Value) := OrderedDict.empty
  domainIndex : SecondaryIndex String String := SecondaryIndex.empty
  tagIndex : SecondaryIndex String String := SecondaryIndex.empty

namespace KnowledgeBase

/-! ## Files -/

def indexEntry (entry : KnowledgeEntry Value) (base : KnowledgeBase Value) :
    KnowledgeBase Value :=
  { base with
    domainIndex := base.domainIndex.add entry.id entry.domain
    tagIndex := base.tagIndex.addAll entry.id entry.tags }

def dumpItem (env : MemoryEnv Value) (item : String × KnowledgeEntry Value) :
    Option (String × KnowledgeEntry Value) :=
  (item.2.dump env).map fun record => (item.1, record)

/-- Everything is dumped before the file is opened. -/
def dumpEntries (env : MemoryEnv Value) (entries : OrderedDict String (KnowledgeEntry Value)) :
    Option (OrderedDict String (KnowledgeEntry Value)) :=
  (entries.entries.mapM (dumpItem env)).map fun items => OrderedDict.empty.setAll items

/-- Persist knowledge base to disk. -/
def save (env : MemoryEnv Value) (base : KnowledgeBase Value) : Outcome (KnowledgeBase Value) :=
  match base.storage with
  | none => .returning base
  | some _ =>
    match dumpEntries env base.entries with
    | none => .raising base
    | some records => .returning { base with storage := some (some (.saved records)) }

/-- Loading ends with a warning at the first entry that does not validate. -/
def loadEntries : List (String × KnowledgeEntry Value) → KnowledgeBase Value → KnowledgeBase Value
  | [], base => base
  | (id, entry) :: rest, base =>
    if entry.validates then
      loadEntries rest (indexEntry entry { base with entries := base.entries.set id entry })
    else base

def load (base : KnowledgeBase Value) : KnowledgeBase Value :=
  match base.storage with
  | some (some (.saved records)) => loadEntries records.entries base
  | _ => base

/-- A new knowledge base on a storage path, or on none. -/
def openBase (storage : Option (Option (KnowledgeFile Value))) : KnowledgeBase Value :=
  load { storage := storage }

/-! ## Operations

Each gives the knowledge base it leaves and what it returns, which is nothing
where it raises. -/

section Operations

variable {Result : Type} (env : MemoryEnv Value)

/-- The knowledge base is saved before a result is returned. -/
def saveAndReturn (result : Result) (base : KnowledgeBase Value) :
    KnowledgeBase Value × Option Result :=
  match base.save env with
  | outcome => (outcome.state, if outcome.returned then some result else none)

def addKnowledge (id : String) (now : Time) (details : KnowledgeDetails Value)
    (base : KnowledgeBase Value) : KnowledgeBase Value × Option (KnowledgeEntry Value) :=
  let entry := details.entry id now
  if entry.validates then
    (indexEntry entry { base with entries := base.entries.set entry.id entry }).saveAndReturn
      env entry
  else (base, none)

def update (id : String) (now : Time) (changes : KnowledgeChanges Value)
    (base : KnowledgeBase Value) :
    KnowledgeBase Value × Option (Option (KnowledgeEntry Value)) :=
  match base.entries.get? id with
  | none => (base, some none)
  | some entry =>
    let tagIndex := match changes.tags with
      | none => base.tagIndex
      | some tags => (base.tagIndex.discardAll id entry.tags).addAll id tags
    let updated := entry.assigned changes now
    { base with
      entries := base.entries.set id updated
      tagIndex := tagIndex }.saveAndReturn env (some updated)

/-- Delete a knowledge entry. Others keep it among their relationships. -/
def delete (id : String) (base : KnowledgeBase Value) : KnowledgeBase Value × Option Bool :=
  match base.entries.get? id with
  | none => (base, some false)
  | some entry =>
    { base with
      entries := base.entries.erase id
      domainIndex := base.domainIndex.discard id entry.domain
      tagIndex := base.tagIndex.discardAll id entry.tags }.saveAndReturn env true

def addRelationship (sourceId targetId : String) (base : KnowledgeBase Value) :
    KnowledgeBase Value × Option Bool :=
  match base.entries.get? sourceId, base.entries.get? targetId with
  | some _, some _ =>
    let sourced := base.entries.modify sourceId (KnowledgeEntry.relate targetId)
    { base with
      entries := sourced.modify targetId (KnowledgeEntry.relate sourceId) }.saveAndReturn env true
  | _, _ => (base, some false)

def clear (base : KnowledgeBase Value) : KnowledgeBase Value where
  storage := base.storage.map fun _ => none

end Operations

end KnowledgeBase

/-- What is asked of a knowledge base; `reload` puts a new one on the same path
in its place. -/
inductive KnowledgeInput (Value : Type) where
  | add (id : String) (now : Time) (details : KnowledgeDetails Value)
  | update (id : String) (now : Time) (changes : KnowledgeChanges Value)
  | delete (id : String)
  | addRelationship (sourceId targetId : String)
  | clear
  | reload

def KnowledgeBase.step (env : MemoryEnv Value) (base : KnowledgeBase Value) :
    KnowledgeInput Value → KnowledgeBase Value
  | .add id now details => (base.addKnowledge env id now details).1
  | .update id now changes => (base.update env id now changes).1
  | .delete id => (base.delete env id).1
  | .addRelationship sourceId targetId => (base.addRelationship env sourceId targetId).1
  | .clear => base.clear
  | .reload => openBase base.storage

end AiEnterpriseOs.Memory
