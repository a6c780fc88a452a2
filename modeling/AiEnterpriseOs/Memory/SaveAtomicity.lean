import AiEnterpriseOs.Memory.LogFile

/-!
# Atomicity of a save

A save puts the entry into the table and the indices before it writes the
record, so a record that is refused leaves what came before it.
-/

namespace AiEnterpriseOs.Memory

open Library

variable {Value : Type}

namespace MemoryStore

/-- The same table, the same indices as dictionaries of sets, the same file. -/
structure Same (left right : MemoryStore Value) : Prop where
  entries : left.entries = right.entries
  index : ∀ kind, (left.index kind).Same (right.index kind)
  disk : left.disk = right.disk

theorem Same.refl (store : MemoryStore Value) : Same store store where
  entries := rfl
  index _ := SecondaryIndex.Same.refl _
  disk := rfl

/-- Every index lists the entry under its keys, and under none of the keys that
saving it takes it from and does not enter it under. -/
def Listed (store : MemoryStore Value) (entry : MemoryEntry Value) : Prop :=
  ∀ kind, (∀ key ∈ entry.indexKeys kind, entry.id ∈ ((store.index kind).bucket key).ids) ∧
    ∀ key ∈ entry.removalKeys kind, entry.id ∈ ((store.index kind).bucket key).ids →
      key ∈ entry.indexKeys kind

variable {env : MemoryEnv Value}

theorem save_stored_index {entry : MemoryEntry Value} {store : MemoryStore Value}
    (stored : store.get entry.id = some entry) (kind : IndexKind) :
    (store.save env entry).state.index kind =
      ((store.index kind).discardAll entry.id (entry.removalKeys kind)).addAll entry.id
        (entry.indexKeys kind) := by
  rw [MemoryStore.get] at stored
  simp [save, stored, addToIndices, removeFromIndices]

theorem save_tables_iff (entry : MemoryEntry Value) (store : MemoryStore Value) :
    ((store.save env entry).state.entries = store.entries ∧
        ∀ kind, ((store.save env entry).state.index kind).Same (store.index kind)) ↔
      store.get entry.id = some entry ∧ store.Listed entry := by
  rw [save_entries, OrderedDict.set_eq_self_iff]
  apply and_congr_right
  intro stored
  apply forall_congr'
  intro kind
  rw [save_stored_index stored, SecondaryIndex.reentered_same_iff]

theorem append_disk_iff (entry : MemoryEntry Value) (store : MemoryStore Value) :
    (store.appendToDisk env entry).state.disk = store.disk ↔
      (store.disk.isSome = true → env.dump entry = none) := by
  unfold appendToDisk
  cases recorded : store.disk with
  | none => simp [recorded]
  | some file =>
    cases dumped : env.dump entry with
    | none => simp [recorded]
    | some line =>
      refine iff_of_false ?_ ?_
      · intro same
        have lines : (file.append line).lines = file.lines :=
          congrArg LogFile.lines (Option.some.inj same)
        rw [LogFile.append, List.append_right_eq_self] at lines
        cases last : file.unterminated <;> rw [last] at lines <;> cases lines
      · intro unwritten
        cases unwritten rfl

theorem save_disk_iff (entry : MemoryEntry Value) (store : MemoryStore Value) :
    (store.save env entry).state.disk = store.disk ↔
      (store.disk.isSome = true → env.dump entry = none) := by
  unfold save
  cases store.entries.get? entry.id <;> exact append_disk_iff entry _

theorem save_same_iff (entry : MemoryEntry Value) (store : MemoryStore Value) :
    (store.save env entry).state.Same store ↔ store.get entry.id = some entry ∧ store.Listed entry ∧
        (store.disk.isSome = true → env.dump entry = none) := by
  rw [← and_assoc, ← @save_tables_iff Value env, ← save_disk_iff]
  constructor
  · intro same
    exact ⟨⟨same.entries, same.index⟩, same.disk⟩
  · rintro ⟨⟨entries, index⟩, disk⟩
    exact { entries := entries, index := index, disk := disk }

/-- A save that raises leaves the store as it was, if ever it is refused, just
where the store has the very entry already and lists it under its keys. -/
theorem save_atomic_iff (env : MemoryEnv Value) (entry : MemoryEntry Value)
    (store : MemoryStore Value) :
    ((store.save env entry).returned = false → (store.save env entry).state.Same store) ↔
      (store.disk.isSome = true → env.dump entry = none →
        store.get entry.id = some entry ∧ store.Listed entry) := by
  have refused : (store.save env entry).returned = false ↔
      store.disk.isSome = true ∧ env.dump entry = none := by
    rw [save_returned]
    simp
  rw [refused, and_imp, save_same_iff]
  apply forall_congr'
  intro onDisk
  apply forall_congr'
  intro undumped
  constructor
  · rintro ⟨stored, listed, _⟩
    exact ⟨stored, listed⟩
  · rintro ⟨stored, listed⟩
    exact ⟨stored, listed, fun _ => undumped⟩

theorem mutate_of_fixed {id : String} {change : MemoryEntry Value → MemoryEntry Value}
    {entry : MemoryEntry Value} {store : MemoryStore Value}
    (stored : store.get id = some entry) (fixed : change entry = entry) :
    store.mutate id change = store := by
  rw [MemoryStore.get] at stored
  have same : store.entries.set id entry = store.entries :=
    (OrderedDict.set_eq_self_iff _ _ _).mpr stored
  unfold mutate OrderedDict.modify
  rw [stored]
  dsimp only
  rw [fixed, same]

theorem amend_same_iff {id : String} {change : MemoryEntry Value → MemoryEntry Value}
    {store : MemoryStore Value} (keyed : store.Keyed)
    (keepsId : ∀ entry, (change entry).id = entry.id) :
    (store.amend env id change).state.Same store ↔
      ∀ entry ∈ store.get id, change entry = entry ∧ store.Listed entry ∧
        (store.disk.isSome = true → env.dump entry = none) := by
  cases stored : store.get id with
  | none =>
    rw [amend_absent stored]
    exact iff_of_true (Same.refl store) fun entry present => by cases present
  | some entry =>
    have sameId : entry.id = id := keyed id entry stored
    have found : store.entries.get? id = some entry := stored
    have amended : store.amend env id change =
        (store.mutate id change).save env (change entry) := by
      simp only [amend, found]
    simp only [Option.mem_def, Option.some.injEq, forall_eq']
    by_cases fixed : change entry = entry
    · have here : store.get entry.id = some entry := by rw [sameId, stored]
      rw [amended, mutate_of_fixed stored fixed, fixed, save_same_iff]
      simp [here]
    · refine iff_of_false ?_ fun same => fixed same.1
      intro same
      have after := amend_entries env id change keepsId store keyed id
      rw [same.entries, found, if_pos rfl, Option.map_some] at after
      exact fixed (Option.some.inj after).symm

end MemoryStore

/-- Values of which some are no JSON. -/
inductive RawValue where
  | text (letters : String)
  | object
  deriving DecidableEq, Repr

def RawValue.json : RawValue → Option RawValue
  | .text letters => some (.text letters)
  | .object => none

/-- Surroundings in which an object does not serialize. -/
def rawEnv : MemoryEnv RawValue where
  jsonRoundTrip := RawValue.json
  decodedStable value decoded read := by
    cases value with
    | text letters =>
      cases read
      rfl
    | object => cases read
  equal left right := left == right
  noneValue := .object
  summarize _ := none
  relevance _ _ := 0
  secondText now := toString (now / 1000000)

/-- A content that does not serialize. -/
def objectEntry : MemoryEntry RawValue :=
  { id := "mem_a", createdAt := 0, content := OrderedDict.empty.set "handle" .object }

theorem refused_save_stays_stored :
    let store : MemoryStore RawValue := MemoryStore.openStore (some {})
    (store.save rawEnv objectEntry).returned = false ∧
    ((store.save rawEnv objectEntry).state.get "mem_a").isSome = true ∧
    ¬((store.save rawEnv objectEntry).returned = false →
      (store.save rawEnv objectEntry).state.Same store) := by
  intro store
  have refused : (store.save rawEnv objectEntry).returned = false := by decide +kernel
  refine ⟨refused, by decide +kernel, ?_⟩
  intro atomic
  have entries := congrArg (fun table => (table.get? "mem_a").isSome) (atomic refused).entries
  revert entries
  decide +kernel

end AiEnterpriseOs.Memory
