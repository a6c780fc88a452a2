import AiEnterpriseOs.Library.OrderedDict
import Mathlib.Algebra.Order.Ring.Rat
import Mathlib.Tactic.NormNum

/-!
# Memory models

Memory entries, retention policies and the configuration. Contents and
metadata carry values of an arbitrary type; clock readings are microseconds.
-/

namespace AiEnterpriseOs.Memory

open Library

abbrev Time := Int

inductive MemoryType where
  | company
  | executive
  | department
  | agent
  | workflow
  | decision
  | project
  | task
  | meeting
  | conversation
  | knowledge
  | system
  deriving DecidableEq, Repr

def MemoryType.value : MemoryType → String
  | company => "company"
  | executive => "executive"
  | department => "department"
  | agent => "agent"
  | workflow => "workflow"
  | decision => "decision"
  | project => "project"
  | task => "task"
  | meeting => "meeting"
  | conversation => "conversation"
  | knowledge => "knowledge"
  | system => "system"

inductive MemoryNamespace where
  | global
  | company
  | executive
  | department
  | project
  | agent
  | workflow
  | user
  | orchestration
  deriving DecidableEq, Repr

def MemoryNamespace.value : MemoryNamespace → String
  | global => "global"
  | company => "company"
  | executive => "executive"
  | department => "department"
  | project => "project"
  | agent => "agent"
  | workflow => "workflow"
  | user => "user"
  | orchestration => "orchestration"

structure RetentionPolicy where
  maxAgeDays : Option Int := none
  maxVersions : Option Int := none
  minImportance : Rat := 0
  autoArchive : Bool := false
  autoPurge : Bool := false

structure MemoryEntry (Value : Type) where
  id : String
  memoryType : MemoryType := .system
  memoryNamespace : MemoryNamespace := .global
  content : OrderedDict String Value := OrderedDict.empty
  summary : String := ""
  tags : List String := []
  source : String := ""
  importance : Rat := 1 / 2
  baseImportance : Rat := 1 / 2
  version : Int := 1
  tier : String := "working"
  parentId : Option String := none
  createdAt : Time
  updatedAt : Option Time := none
  accessedAt : Option Time := none
  expiresAt : Option Time := none
  archived : Bool := false
  archivedAt : Option Time := none
  retentionPolicy : Option RetentionPolicy := none
  metadata : OrderedDict String Value := OrderedDict.empty

namespace MemoryEntry

variable {Value : Type}

/-- The bounds that constructing an entry checks. Assigning to a field of an
existing entry does not check them. -/
def validates (entry : MemoryEntry Value) : Bool :=
  decide (0 ≤ entry.importance) && decide (entry.importance ≤ 1) &&
    decide (0 ≤ entry.baseImportance) && decide (entry.baseImportance ≤ 1) &&
    decide (1 ≤ entry.version)

/-- Update access timestamp. -/
def touch (now : Time) (entry : MemoryEntry Value) : MemoryEntry Value :=
  { entry with accessedAt := some now }

/-- `entry.expires_at and entry.expires_at < now`. -/
def expired (now : Time) (entry : MemoryEntry Value) : Bool :=
  match entry.expiresAt with
  | none => false
  | some deadline => decide (deadline < now)

def microsecondsPerDay : Int := 86400000000

/-- `(now - entry.created_at).days`. -/
def ageDays (now : Time) (entry : MemoryEntry Value) : Int :=
  (now - entry.createdAt) / microsecondsPerDay

end MemoryEntry

structure MemoryConfig where
  defaultImportance : Rat := 1 / 2
  retention : RetentionPolicy := {}
  defaultValid : 0 ≤ defaultImportance ∧ defaultImportance ≤ 1 := by norm_num

/-- What the code takes from its surroundings: the JSON round trip of a value
(none where it does not serialize), equality of values, the generated summary
(none where generation fails), the score of a text query, and the text that
names the second a snapshot is taken in. A value that JSON has decoded is
encoded as itself. -/
structure MemoryEnv (Value : Type) where
  jsonRoundTrip : Value → Option Value
  decodedStable : ∀ value decoded, jsonRoundTrip value = some decoded →
    jsonRoundTrip decoded = some decoded
  equal : Value → Value → Bool
  noneValue : Value
  summarize : MemoryEntry Value → Option String
  relevance : MemoryEntry Value → String → Rat
  secondText : Time → String

namespace MemoryEnv

variable {Value : Type} (env : MemoryEnv Value)

def roundTripItems : List (String × Value) → Option (List (String × Value))
  | [] => some []
  | (key, value) :: rest =>
    match env.jsonRoundTrip value, roundTripItems rest with
    | some written, some restWritten => some ((key, written) :: restWritten)
    | _, _ => none

def roundTripDict (dict : OrderedDict String Value) : Option (OrderedDict String Value) :=
  (env.roundTripItems dict.entries).map fun items => OrderedDict.empty.setAll items

/-- `json.loads(json.dumps(entry.to_dict()))`, before it is validated. -/
def dump (entry : MemoryEntry Value) : Option (MemoryEntry Value) :=
  match env.roundTripDict entry.content, env.roundTripDict entry.metadata with
  | some content, some metadata =>
    some { entry with content := content, metadata := metadata }
  | _, _ => none

/-- Every value comes back from JSON as it went in. -/
def StableDict (dict : OrderedDict String Value) : Prop :=
  ∀ value ∈ dict.values, env.jsonRoundTrip value = some value

def Stable (entry : MemoryEntry Value) : Prop :=
  env.StableDict entry.content ∧ env.StableDict entry.metadata

theorem round_trip_stable (items : List (String × Value))
    (stable : ∀ item ∈ items, env.jsonRoundTrip item.2 = some item.2) :
    env.roundTripItems items = some items := by
  induction items with
  | nil => rfl
  | cons item rest ih =>
    obtain ⟨key, value⟩ := item
    have head : env.jsonRoundTrip value = some value :=
      stable (key, value) List.mem_cons_self
    have tail := ih fun other member => stable other (List.mem_cons_of_mem _ member)
    simp only [roundTripItems, head, tail]

theorem StableDict.round_trip {env : MemoryEnv Value}
    {dict : OrderedDict String Value} (stable : env.StableDict dict) :
    env.roundTripDict dict = some dict := by
  have items := env.round_trip_stable dict.entries (by
    intro item member
    exact stable item.2 (List.mem_map.mpr ⟨item, member, rfl⟩))
  rw [roundTripDict, items, Option.map_some, OrderedDict.setAll_entries]

theorem Stable.dump {env : MemoryEnv Value} {entry : MemoryEntry Value}
    (stable : env.Stable entry) : env.dump entry = some entry := by
  simp only [MemoryEnv.dump, stable.1.round_trip, stable.2.round_trip]

theorem stable_dict_empty : env.StableDict OrderedDict.empty := by
  intro value member
  cases member

theorem StableDict.setAll {env : MemoryEnv Value}
    {dict : OrderedDict String Value} (stable : env.StableDict dict)
    (items : List (String × Value))
    (itemsStable : ∀ item ∈ items, env.jsonRoundTrip item.2 = some item.2) :
    env.StableDict (dict.setAll items) := by
  intro value member
  obtain ⟨key, found⟩ := (OrderedDict.mem_values_iff _ _).mp member
  rcases OrderedDict.get_setAll_cases found with listed | present
  · exact itemsStable (key, value) listed
  · exact stable value ((OrderedDict.mem_values_iff _ _).mpr ⟨key, present⟩)

theorem round_trip_items_stable {items written : List (String × Value)}
    (dumped : env.roundTripItems items = some written) :
    ∀ item ∈ written, env.jsonRoundTrip item.2 = some item.2 := by
  induction items generalizing written with
  | nil =>
    cases dumped
    intro item member
    cases member
  | cons item rest ih =>
    obtain ⟨key, value⟩ := item
    unfold roundTripItems at dumped
    split at dumped
    next decoded restWritten valueDumped restDumped =>
      cases dumped
      intro item member
      rcases List.mem_cons.mp member with rfl | later
      · exact env.decodedStable value decoded valueDumped
      · exact ih restDumped item later
    · cases dumped

theorem round_trip_dict_stable {dict written : OrderedDict String Value}
    (dumped : env.roundTripDict dict = some written) : env.StableDict written := by
  obtain ⟨items, itemsDumped, collected⟩ := Option.map_eq_some_iff.mp dumped
  rw [← collected]
  exact (env.stable_dict_empty).setAll items (env.round_trip_items_stable itemsDumped)

theorem dump_cases {entry written : MemoryEntry Value} (dumped : env.dump entry = some written) :
    ∃ content metadata, env.roundTripDict entry.content = some content ∧
      env.roundTripDict entry.metadata = some metadata ∧
        written = { entry with content := content, metadata := metadata } := by
  unfold dump at dumped
  split at dumped
  next content metadata contentDumped metadataDumped =>
    exact ⟨content, metadata, contentDumped, metadataDumped, (Option.some.inj dumped).symm⟩
  · cases dumped

theorem dump_stable {entry written : MemoryEntry Value}
    (dumped : env.dump entry = some written) : env.Stable written := by
  obtain ⟨content, metadata, contentDumped, metadataDumped, rfl⟩ :=
    env.dump_cases dumped
  exact ⟨env.round_trip_dict_stable contentDumped, env.round_trip_dict_stable metadataDumped⟩

theorem dump_id {entry written : MemoryEntry Value}
    (dumped : env.dump entry = some written) : written.id = entry.id := by
  obtain ⟨content, metadata, _, _, rfl⟩ := env.dump_cases dumped
  rfl

theorem dump_validates {entry written : MemoryEntry Value}
    (dumped : env.dump entry = some written) :
    written.validates = entry.validates := by
  obtain ⟨content, metadata, _, _, rfl⟩ := env.dump_cases dumped
  rfl

end MemoryEnv

end AiEnterpriseOs.Memory
