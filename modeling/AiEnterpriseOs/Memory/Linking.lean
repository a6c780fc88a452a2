import AiEnterpriseOs.Memory.Hierarchy
import AiEnterpriseOs.Memory.SaveAtomicity

/-!
# Linking memories

What a call of `link_memories` is asked to do, and on which stores it does it.
-/

namespace AiEnterpriseOs.Memory

open Library

variable {Value : Type} {env : MemoryEnv Value}

namespace MemoryStore

section Contract

variable (env : MemoryEnv Value) (now : Time) (parentId childId : String)

/-- What the call hands back, none where it raises. Its `return True` comes
after `parent.children_ids`, an attribute that no entry has. -/
def linkValue (store : MemoryStore Value) : Option Bool :=
  if (store.linkMemories env now parentId childId).returned then some false else none

def BothStored (store : MemoryStore Value) : Prop :=
  (store.get parentId).isSome = true ∧ (store.get childId).isSome = true

/-- The child is listed under the parent and under no other entry, and its
lineage is the parent and then the lineage of the parent. -/
structure LinkedUnder (store : MemoryStore Value) : Prop where
  children : ∀ id, childId ∈ (store.getChildren id).map (fun entry => entry.id) ↔ id = parentId
  lineage : ∀ rounds, ∀ parent ∈ store.get parentId, ∀ above ∈ store.getLineage rounds parentId,
    store.getLineage (rounds + 1) childId = some (parent :: above)

/-- The call says true exactly where it finds both entries, and then has linked
them; whenever it does not say true, it leaves the store as it was. -/
structure LinkContract (store : MemoryStore Value) : Prop where
  value : store.linkValue env now parentId childId = some true ↔ store.BothStored parentId childId
  linked : store.linkValue env now parentId childId = some true →
    LinkedUnder parentId childId (store.linkMemories env now parentId childId).state
  unchanged : store.linkValue env now parentId childId ≠ some true →
    (store.linkMemories env now parentId childId).state.Same store

/-- Recording an access to the entry changes nothing: it was last accessed at
this instant, is listed under its keys, and is not written to a file. -/
def AccessRecorded (id : String) (store : MemoryStore Value) : Prop :=
  ∀ entry ∈ store.get id, entry.accessedAt = some now ∧ store.Listed entry ∧
    (store.disk.isSome = true → env.dump entry = none)

end Contract

theorem touch_fixed_iff (now : Time) (entry : MemoryEntry Value) :
    entry.touch now = entry ↔ entry.accessedAt = some now := by
  constructor
  · intro same
    rw [← same]
    rfl
  · intro accessed
    rw [MemoryEntry.touch, ← accessed]

theorem retrieve_same_iff {now : Time} {id : String} {store : MemoryStore Value}
    (keyed : store.Keyed) :
    (store.retrieve env now id).state.Same store ↔ store.AccessRecorded env now id := by
  have keepsId : ∀ entry : MemoryEntry Value, (entry.touch now).id = entry.id := fun _ => rfl
  rw [retrieve, amend_same_iff keyed keepsId]
  unfold AccessRecorded
  simp only [touch_fixed_iff]

theorem retrieve_none {now : Time} {id other : String} {store : MemoryStore Value}
    (keyed : store.Keyed) (absent : store.get other = none) :
    (store.retrieve env now id).state.get other = none := by
  have after := amend_entries env id (MemoryEntry.touch now) (fun _ => rfl) store keyed other
  rw [MemoryStore.get] at absent ⊢
  rw [retrieve, after, absent]
  split
  next here => rw [← here, absent, Option.map_none]
  · rfl

theorem link_missing_state {now : Time} {parentId childId : String}
    {store : MemoryStore Value} (keyed : store.Keyed)
    (missing : ¬store.BothStored parentId childId) :
    (store.linkMemories env now parentId childId).state = (store.retrieve env now
        (if (store.get parentId).isSome then parentId else childId)).state := by
  unfold linkMemories
  cases parent : store.get parentId with
  | none =>
    rw [retrieve, amend_absent parent, Outcome.returning_and_then, if_neg (by simp)]
    apply Outcome.and_then_state
      (fun state => state = (store.retrieve env now childId).state) rfl fun _ same => same
    rintro after rfl
    have absent := @retrieve_none Value env now childId _ _ keyed parent
    split
    next stored _ =>
      rw [absent] at stored
      cases stored
    · rfl
  | some entry =>
    have child : store.get childId = none := by
      apply Option.not_isSome_iff_eq_none.mp
      intro stored
      exact missing ⟨by rw [parent]; rfl, stored⟩
    rw [if_pos (by simp)]
    apply Outcome.and_then_state
      (fun state => state = (store.retrieve env now parentId).state) rfl fun _ same => same
    rintro after rfl
    have absent := @retrieve_none Value env now parentId _ _ keyed child
    rw [retrieve, amend_absent absent, Outcome.returning_and_then]
    split
    next stored =>
      rw [absent] at stored
      cases stored
    · rfl

theorem link_value_not_true (env : MemoryEnv Value) (now : Time)
    (parentId childId : String) (store : MemoryStore Value) :
    store.linkValue env now parentId childId ≠ some true := by
  unfold linkValue
  split <;> simp

theorem link_contract_of_keyed {now : Time} {parentId childId : String}
    {store : MemoryStore Value} (keyed : store.Keyed) :
    store.LinkContract env now parentId childId ↔
      ¬store.BothStored parentId childId ∧ store.AccessRecorded env now parentId ∧
        store.AccessRecorded env now childId := by
  have silent := store.link_value_not_true env now parentId childId
  constructor
  · intro contract
    have missing : ¬store.BothStored parentId childId :=
      fun both => silent (contract.value.mpr both)
    have unchanged := contract.unchanged silent
    rw [link_missing_state keyed missing, retrieve_same_iff keyed] at unchanged
    refine ⟨missing, ?_⟩
    cases parent : store.get parentId with
    | none =>
      rw [parent] at unchanged
      refine ⟨?_, unchanged⟩
      intro entry present
      rw [parent] at present
      cases present
    | some entry =>
      rw [parent] at unchanged
      refine ⟨unchanged, ?_⟩
      intro other present
      exact absurd ⟨by rw [parent]; rfl, by rw [present]; rfl⟩ missing
  · rintro ⟨missing, parentRecorded, childRecorded⟩
    constructor
    · exact iff_of_false silent missing
    · intro said
      exact absurd said silent
    · intro _
      rw [link_missing_state keyed missing, retrieve_same_iff keyed]
      split
      · exact parentRecorded
      · exact childRecorded

end MemoryStore

/-- On every store that a run reaches, a call keeps to its contract exactly
where it lacks an entry, and recording the access to the other one, if that is
stored, changes nothing. -/
theorem link_contract_iff (env : MemoryEnv Value) (config : MemoryConfig)
    (disk : Option (LogFile Value)) (inputs : List (MemoryInput Value)) (now : Time)
    (parentId childId : String) :
    let store := (MemoryEngine.runs env config (MemoryEngine.openEngine disk) inputs).store
    store.LinkContract env now parentId childId ↔
      ¬store.BothStored parentId childId ∧ store.AccessRecorded env now parentId ∧
        store.AccessRecorded env now childId := by
  intro store
  exact MemoryStore.link_contract_of_keyed (MemoryEngine.runs_keyed config disk inputs)

def twoMemories : List (MemoryInput PyValue) :=
  [ { op := .save { content := OrderedDict.empty }, now := 0 },
    { op := .save { content := OrderedDict.empty }, now := 1 } ]

theorem link_raises_after_assigning :
    let store := (MemoryEngine.runs textEnv {} (MemoryEngine.openEngine none) twoMemories).store
    let outcome := store.linkMemories textEnv 2 "mem_0_0001" "mem_1_0002"
    outcome.returned = false ∧
    ((outcome.state.get "mem_1_0002").bind fun entry => entry.parentId) = some "mem_0_0001" ∧
    outcome.state.getChildren "mem_0_0001" = [] ∧
    ¬store.LinkContract textEnv 2 "mem_0_0001" "mem_1_0002" := by
  intro store outcome
  refine ⟨by decide +kernel, by decide +kernel, ?_, ?_⟩
  · have unlisted : (outcome.state.getChildren "mem_0_0001").length = 0 := by decide +kernel
    exact List.eq_nil_of_length_eq_zero unlisted
  · intro contract
    have both : store.BothStored "mem_0_0001" "mem_1_0002" :=
      ⟨by decide +kernel, by decide +kernel⟩
    exact store.link_value_not_true textEnv 2 _ _ (contract.value.mpr both)

end AiEnterpriseOs.Memory
