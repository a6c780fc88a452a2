import AiEnterpriseOs.Memory.SaveRuns
import AiEnterpriseOs.Memory.Summary
import AiEnterpriseOs.Orchestration.StateDump

/-!
# Restart of the execution state store

Every state that is saved becomes a memory entry of its own. A restart searches
the entries, newest first and at most five hundred of them, and assigns their
states in that order, so the entry read last is the one that counts.
-/

namespace AiEnterpriseOs.Orchestration

open Library
open Memory

/-- `model_dump(mode="json")` and `model_validate` of a state. -/
structure StateCodec where
  dump : ExecutionState → PyValue
  validate : PyValue → Option ExecutionState
  roundTrip : ∀ state, validate (dump state) = some state

/-- The store with the Memory Engine behind it. -/
structure PersistedStates where
  live : ExecutionStateStore := {}
  memory : MemoryEngine PyValue

namespace ExecutionStateStore

def memoryKindState : String := "orchestration_state"

/-- What `_persist_state` hands to the Memory Engine. -/
def stateFields (codec : StateCodec) (state : ExecutionState) : SaveFields PyValue where
  content := OrderedDict.empty.setAll [ ("kind", .str memoryKindState),
      ("plan_id", .str state.planId),
      ("state", codec.dump state) ]
  memoryType := .system
  memoryNamespace := .orchestration
  tags := ["orchestration", "state"]
  source := "orchestrator"
  metadata := OrderedDict.empty.setAll
    [ ("kind", .str memoryKindState), ("plan_id", .str state.planId) ]

/-- The search of `load_states_from_memory`. -/
def stateFilters : SearchFilters PyValue where
  memoryNamespace := "orchestration"
  metadataFilter := [("kind", .str memoryKindState)]
  limit := 500

section Persistence

variable (env : MemoryEnv PyValue) (config : MemoryConfig) (codec : StateCodec)

/-- Save a state snapshot, in memory and persisted. -/
def saveAndPersist (state : ExecutionState) (now : Time) (states : PersistedStates) :
    PersistedStates where
  live := states.live.saveState state
  memory := (states.memory.save env config (stateFields codec state) now).state

/-- Rebuild live states from Memory Engine entries; an entry that does not
parse is skipped. -/
def loadStatesFromMemory (memory : MemoryEngine PyValue)
    (store : ExecutionStateStore) : ExecutionStateStore :=
  let entries := memory.store.search env stateFilters
  let states := entries.filterMap fun entry =>
    (entry.content.get? "state").bind codec.validate
  { store with
    states := store.states.setAll (states.map fun state => (state.planId, state)) }

end Persistence

end ExecutionStateStore

/-! ## Runs of saves -/

structure StateSave where
  state : ExecutionState
  now : Time

namespace PersistedStates

section Runs

variable (env : MemoryEnv PyValue) (config : MemoryConfig) (codec : StateCodec)

def step (states : PersistedStates) (save : StateSave) : PersistedStates :=
  ExecutionStateStore.saveAndPersist env config codec save.state save.now states

/-- A run of saves over an empty memory, with or without a file behind it. -/
def runs (onDisk : Bool) (saves : List StateSave) : PersistedStates :=
  runInputs (step env config codec)
    { memory := MemoryEngine.openEngine (if onDisk then some {} else none) } saves

/-- The entry of the save at a position of the run. -/
def savedEntry (save : StateSave × Nat) : MemoryEntry PyValue :=
  ((ExecutionStateStore.stateFields codec save.1.state).entry config save.1.now
    (save.2 + 1)).summarized env

theorem saved_fields (save : StateSave × Nat) :
    let entry := savedEntry env config codec save
    entry.id = memoryId save.1.now (save.2 + 1) ∧ entry.importance = config.defaultImportance ∧
      entry.createdAt = save.1.now ∧ entry.archived = false ∧
      entry.memoryNamespace = .orchestration ∧
      entry.metadata = (ExecutionStateStore.stateFields codec save.1.state).metadata ∧
      entry.content = (ExecutionStateStore.stateFields codec save.1.state).content := by
  unfold savedEntry
  obtain ⟨summary, summarized⟩ := MemoryEntry.summarized_fields env
    ((ExecutionStateStore.stateFields codec save.1.state).entry config save.1.now (save.2 + 1))
  rw [summarized]
  exact ⟨rfl, rfl, rfl, rfl, rfl, rfl, rfl⟩

/-- The memory after a run: the entries of the saves in their order. -/
structure Holds (saves : List StateSave) (states : PersistedStates) : Prop where
  counter : states.memory.counter = saves.length
  entries : states.memory.store.entries.entries = saves.zipIdx.map fun save =>
      ((savedEntry env config codec save).id, savedEntry env config codec save)
  indexed : states.memory.store.WellIndexed
  live : states.live.states =
    OrderedDict.empty.setAll (saves.map fun save => (save.state.planId, save.state))

theorem runs_append (onDisk : Bool) (saves : List StateSave) (save : StateSave) :
    runs env config codec onDisk (saves ++ [save]) =
      step env config codec (runs env config codec onDisk saves) save := by
  rw [runs, run_inputs_append]
  rfl

/-- The save as the Memory Engine receives it. -/
def timed (save : StateSave) : TimedSave PyValue where
  fields := ExecutionStateStore.stateFields codec save.state
  now := save.now

theorem runs_memory (onDisk : Bool) (saves : List StateSave) :
    (runs env config codec onDisk saves).memory =
      saveRuns env config onDisk (saves.map (timed codec)) := by
  induction saves using List.reverseRecOn with
  | nil => rfl
  | append_singleton saves save ih =>
    rw [runs_append, List.map_append, saveRuns, run_inputs_append, ← saveRuns, ← ih]
    rfl

theorem runs_live (onDisk : Bool) (saves : List StateSave) :
    (runs env config codec onDisk saves).live.states =
      OrderedDict.empty.setAll (saves.map fun save => (save.state.planId, save.state)) := by
  induction saves using List.reverseRecOn with
  | nil => rfl
  | append_singleton saves save ih =>
    rw [runs_append, List.map_append, OrderedDict.setAll_append, ← ih]
    rfl

theorem valid_timed_saves (saves : List StateSave) : validSaves config (saves.map (timed codec)) =
      saves.zipIdx.map fun save => (timed codec save.1, save.2) := by
  rw [validSaves, List.zipIdx_map]
  apply List.filter_eq_self.mpr
  intro save member
  obtain ⟨source, _, rfl⟩ := List.mem_map.mp member
  rw [MemoryEntry.validates_iff]
  exact ⟨config.defaultValid, config.defaultValid, Int.le_refl 1⟩

theorem run_holds (onDisk : Bool) (saves : List StateSave) :
    Holds env config codec saves (runs env config codec onDisk saves) := by
  have held := save_runs_held env config onDisk (saves.map (timed codec))
  rw [← runs_memory] at held
  constructor
  · rw [held.counter, List.length_map]
  · rw [held.entries, valid_timed_saves, List.map_map]
    rfl
  · exact held.indexed
  · exact runs_live env config codec onDisk saves

end Runs

/-! ## The order of a reload -/

/-- Whether a reload reads one save before another: later times first, within
one time the order of the saves. -/
def ReadBefore (left right : StateSave × Nat) : Prop :=
  right.1.now < left.1.now ∨ left.1.now = right.1.now ∧ left.2 < right.2

instance : DecidableRel ReadBefore := by
  intro left right
  unfold ReadBefore
  infer_instance

theorem read_before_asymmetric (left right : StateSave × Nat)
    (before : ReadBefore left right) : ¬ReadBefore right left := by
  rintro (newer | ⟨same, later⟩)
  · rcases before with older | ⟨equal, _⟩
    · exact absurd newer (lt_asymm older)
    · exact absurd equal (ne_of_lt newer)
  · rcases before with older | ⟨_, earlier⟩
    · exact absurd same (ne_of_lt older)
    · omega

/-- How many saves a reload reads before the given one. -/
def readRank (saves : List StateSave) (save : StateSave × Nat) : Nat :=
  saves.zipIdx.countP fun other => ReadBefore other save

/-- No later time, as the search compares entries. -/
def NewerFirst (left right : StateSave × Nat) : Prop :=
  right.1.now ≤ left.1.now

instance : DecidableRel NewerFirst := by
  intro left right
  unfold NewerFirst
  infer_instance

/-- The saves in the order in which a reload reads them. -/
def readOrder (saves : List StateSave) : List (StateSave × Nat) :=
  saves.zipIdx.insertionSort NewerFirst

theorem read_order_sorted (saves : List StateSave) : (readOrder saves).Pairwise ReadBefore := by
  have stable := pairwise_stable_sort NewerFirst (fun left right => left.2 < right.2)
    (fun left right => le_total right.1.now left.1.now)
    (fun _ _ _ first second => le_trans second first)
    saves.zipIdx (zip_idx_increasing saves)
  apply stable.imp
  rintro left right ⟨newer, listed⟩
  rcases lt_or_eq_of_le newer with older | same
  · exact Or.inl older
  · exact Or.inr ⟨same.symm, listed (le_of_eq same.symm)⟩

theorem mem_read_order {saves : List StateSave} {save : StateSave × Nat} :
    save ∈ readOrder saves ↔ save ∈ saves.zipIdx :=
  List.mem_insertionSort NewerFirst

theorem mem_first_read (saves : List StateSave) (count : Nat) (save : StateSave × Nat) :
    save ∈ (readOrder saves).take count ↔ save ∈ saves.zipIdx ∧ readRank saves save < count := by
  have sameRank : (readOrder saves).countP (fun other => ReadBefore other save) =
      readRank saves save :=
    (List.perm_insertionSort NewerFirst saves.zipIdx).countP_eq _
  constructor
  · intro member
    have listed := List.mem_of_mem_take member
    refine ⟨mem_read_order.mp listed, ?_⟩
    rw [← sameRank]
    exact (mem_take_iff read_before_asymmetric (read_order_sorted saves) listed count).mp member
  · rintro ⟨listed, below⟩
    rw [← sameRank] at below
    exact (mem_take_iff read_before_asymmetric (read_order_sorted saves)
      (mem_read_order.mpr listed) count).mpr below

/-! ## Reloading -/

/-- The surroundings, with values compared as Python compares them. -/
def withPythonValues (env : MemoryEnv PyValue) : MemoryEnv PyValue :=
  { env with equal := PyValue.equal, noneValue := .none }

section Reload

variable (env : MemoryEnv PyValue) (config : MemoryConfig) (codec : StateCodec)

theorem saved_entry_found (saves : List StateSave) : filterEntries (withPythonValues env)
      (fun kind key entry => decide (key ∈ entry.indexKeys kind))
      ExecutionStateStore.stateFilters
      (saves.zipIdx.map (savedEntry (withPythonValues env) config codec)) =
        saves.zipIdx.map (savedEntry (withPythonValues env) config codec) := by
  have passes : ∀ entry ∈ saves.zipIdx.map (savedEntry (withPythonValues env) config codec),
      entry.archived = false ∧ entry.memoryNamespace = .orchestration ∧
        metadataMatches (withPythonValues env)
          ("kind", .str ExecutionStateStore.memoryKindState) entry = true := by
    intro entry member
    obtain ⟨save, _, rfl⟩ := List.mem_map.mp member
    obtain ⟨_, _, _, archived, inNamespace, metadata, _⟩ :=
      saved_fields (withPythonValues env) config codec save
    refine ⟨archived, inNamespace, ?_⟩
    have kind : (savedEntry (withPythonValues env) config codec save).metadata.getD
        "kind" (withPythonValues env).noneValue = .str ExecutionStateStore.memoryKindState := by
      rw [metadata]
      rfl
    rw [metadataMatches, kind]
    simp [withPythonValues]
  unfold filterEntries
  simp only [List.filter_filter]
  apply List.filter_eq_self.mpr
  intro entry member
  obtain ⟨archived, inNamespace, kind⟩ := passes entry member
  simp [ExecutionStateStore.stateFilters, archived, inNamespace, kind,
    MemoryEntry.indexKeys, MemoryNamespace.value]

theorem search_saved (onDisk : Bool) (saves : List StateSave) :
    (runs (withPythonValues env) config codec onDisk saves).memory.store.search
        (withPythonValues env) ExecutionStateStore.stateFilters =
      ((readOrder saves).take 500).map (savedEntry (withPythonValues env) config codec) := by
  have held := run_holds (withPythonValues env) config codec onDisk saves
  have stored : (runs (withPythonValues env) config codec onDisk saves).memory.store.getAll =
        saves.zipIdx.map (savedEntry (withPythonValues env) config codec) := by
    rw [MemoryStore.getAll, OrderedDict.values, held.entries, List.map_map]
    rfl
  have ranks : ∀ left ∈ saves.zipIdx, ∀ right ∈ saves.zipIdx, (NewerFirst left right ↔
        RanksBefore (savedEntry (withPythonValues env) config codec left)
          (savedEntry (withPythonValues env) config codec right)) := by
    intro left _ right _
    obtain ⟨_, leftImportance, leftCreated, _⟩ :=
      saved_fields (withPythonValues env) config codec left
    obtain ⟨_, rightImportance, rightCreated, _⟩ :=
      saved_fields (withPythonValues env) config codec right
    simp [NewerFirst, RanksBefore, leftImportance, rightImportance, leftCreated, rightCreated]
  rw [held.indexed.search, MemoryStore.scan, stored, saved_entry_found]
  change ((saves.zipIdx.map _).insertionSort RanksBefore).take 500 = _
  rw [← List.map_insertionSort NewerFirst RanksBefore _ saves.zipIdx ranks, List.map_take]
  rfl

theorem loaded_states (onDisk : Bool) (saves : List StateSave) :
    (ExecutionStateStore.loadStatesFromMemory (withPythonValues env) codec
      (runs (withPythonValues env) config codec onDisk saves).memory {}).states =
        OrderedDict.empty.setAll (((readOrder saves).take 500).map
          fun save => (save.1.state.planId, save.1.state)) := by
  have parsed : ∀ save ∈ (readOrder saves).take 500,
      ((savedEntry (withPythonValues env) config codec save).content.get?
        "state").bind codec.validate = some save.1.state := by
    intro save _
    obtain ⟨_, _, _, _, _, _, content⟩ :=
      saved_fields (withPythonValues env) config codec save
    rw [content]
    exact codec.roundTrip save.1.state
  simp only [ExecutionStateStore.loadStatesFromMemory, search_saved,
    List.filterMap_map, Function.comp_def]
  rw [List.filterMap_congr parsed, List.filterMap_eq_map', List.map_map]
  rfl

/-- For every plan that is saved, the save that a reload reads last among
those of the plan it reads at all carries the state of the plan's last save. -/
def LatestReadLast (saves : List StateSave) : Prop :=
  ∀ last ∈ saves.zipIdx, (∀ other ∈ saves.zipIdx, other.1.state.planId = last.1.state.planId →
      other.2 ≤ last.2) →
    ∃ save ∈ saves.zipIdx, save.1.state.planId = last.1.state.planId ∧
      save.1.state = last.1.state ∧ readRank saves save < 500 ∧
      ∀ other ∈ saves.zipIdx, other.1.state.planId = last.1.state.planId →
        readRank saves other < 500 → other = save ∨ ReadBefore other save

theorem same_position {saves : List StateSave} {left right : StateSave × Nat}
    (leftMember : left ∈ saves.zipIdx) (rightMember : right ∈ saves.zipIdx)
    (same : left.2 = right.2) : left = right := by
  have leftAt := List.mem_zipIdx_iff_getElem?.mp leftMember
  have rightAt := List.mem_zipIdx_iff_getElem?.mp rightMember
  rw [same, rightAt] at leftAt
  exact Prod.ext (Option.some.inj leftAt).symm same

theorem live_state_iff (onDisk : Bool) (saves : List StateSave) (planId : String)
    (state : ExecutionState) :
    (runs env config codec onDisk saves).live.getState planId = some state ↔
      ∃ last ∈ saves.zipIdx, (last.1.state.planId, last.1.state) = (planId, state) ∧
        ∀ other ∈ saves.zipIdx, other.1.state.planId = planId → other.2 ≤ last.2 := by
  have positions : saves.map (fun save => (save.state.planId, save.state)) =
      saves.zipIdx.map fun save => (save.1.state.planId, save.1.state) := by
    rw [← List.zipIdx_map_fst 0 saves, List.map_map, List.zipIdx_map_fst]
    rfl
  rw [ExecutionStateStore.getState, (run_holds env config codec onDisk saves).live,
    positions, OrderedDict.get_setAll_last _ (fun _ _ => Nat.lt_asymm) (zip_idx_increasing saves)]
  constructor
  · rintro ⟨last, member, same, final⟩
    refine ⟨last, member, same, ?_⟩
    intro other listed plan
    rcases final other listed plan with equal | earlier
    · rw [equal]
    · exact Nat.le_of_lt earlier
  · rintro ⟨last, member, same, final⟩
    refine ⟨last, member, same, ?_⟩
    intro other listed plan
    rcases Nat.eq_or_lt_of_le (final other listed plan) with equal | earlier
    · exact Or.inl (same_position listed member equal)
    · exact Or.inr earlier

theorem loaded_state_iff (onDisk : Bool) (saves : List StateSave) (planId : String)
    (state : ExecutionState) :
    (ExecutionStateStore.loadStatesFromMemory (withPythonValues env) codec
      (runs (withPythonValues env) config codec onDisk saves).memory {}).getState
        planId = some state ↔
      ∃ save ∈ saves.zipIdx, readRank saves save < 500 ∧
        (save.1.state.planId, save.1.state) = (planId, state) ∧
          ∀ other ∈ saves.zipIdx, other.1.state.planId = planId →
            readRank saves other < 500 → other = save ∨ ReadBefore other save := by
  rw [ExecutionStateStore.getState, loaded_states, OrderedDict.get_setAll_last _
    read_before_asymmetric ((read_order_sorted saves).sublist (List.take_sublist 500 _))]
  constructor
  · rintro ⟨save, member, same, final⟩
    obtain ⟨listed, below⟩ := (mem_first_read saves 500 save).mp member
    refine ⟨save, listed, below, same, ?_⟩
    intro other otherListed plan otherBelow
    exact final other ((mem_first_read saves 500 other).mpr ⟨otherListed, otherBelow⟩) plan
  · rintro ⟨save, listed, below, same, final⟩
    refine ⟨save, (mem_first_read saves 500 save).mpr ⟨listed, below⟩, same, ?_⟩
    intro other member plan
    obtain ⟨otherListed, otherBelow⟩ := (mem_first_read saves 500 other).mp member
    exact final other otherListed plan otherBelow

/-- A restarted store finds the last saved state of every plan exactly if the
save read last of each plan carries it. -/
theorem restart_equivalent_iff (onDisk : Bool) (saves : List StateSave) : (∀ planId,
      (ExecutionStateStore.loadStatesFromMemory (withPythonValues env) codec
        (runs (withPythonValues env) config codec onDisk saves).memory {}).getState planId =
        (runs (withPythonValues env) config codec onDisk saves).live.getState planId) ↔
      LatestReadLast saves := by
  constructor
  · intro equivalent last member final
    have live := (live_state_iff (withPythonValues env) config codec onDisk saves
      last.1.state.planId last.1.state).mpr ⟨last, member, rfl, final⟩
    rw [← equivalent, loaded_state_iff] at live
    obtain ⟨save, listed, below, same, readLast⟩ := live
    obtain ⟨samePlan, sameState⟩ := Prod.mk.inj same
    exact ⟨save, listed, samePlan, sameState, below, readLast⟩
  · intro latest planId
    cases live : (runs (withPythonValues env) config codec onDisk saves).live.getState planId with
    | some state =>
      obtain ⟨last, member, same, final⟩ :=
        (live_state_iff (withPythonValues env) config codec onDisk saves planId state).mp live
      obtain ⟨rfl, rfl⟩ := Prod.mk.inj same
      obtain ⟨save, listed, samePlan, sameState, below, readLast⟩ :=
        latest last member final
      exact (loaded_state_iff env config codec onDisk saves _ _).mpr
        ⟨save, listed, below, Prod.ext samePlan sameState, readLast⟩
    | none =>
      cases loaded : (ExecutionStateStore.loadStatesFromMemory (withPythonValues env)
          codec (runs (withPythonValues env) config codec onDisk saves).memory
            {}).getState planId with
      | none => rfl
      | some state =>
        obtain ⟨save, listed, _, same, _⟩ :=
          (loaded_state_iff env config codec onDisk saves planId state).mp loaded
        have saved : ∃ state, (runs (withPythonValues env) config codec onDisk
            saves).live.getState save.1.state.planId = some state := by
          rw [ExecutionStateStore.getState,
            (run_holds (withPythonValues env) config codec onDisk saves).live]
          exact OrderedDict.get_setAll_present OrderedDict.empty
            (List.mem_map.mpr ⟨save.1, List.fst_mem_of_mem_zipIdx listed, rfl⟩)
        rw [(Prod.mk.inj same).1, live] at saved
        obtain ⟨_, impossible⟩ := saved
        cases impossible

end Reload

/-- The dump and the validation of the state's own fields. -/
def stateCodec : StateCodec where
  dump := ExecutionState.dump
  validate := ExecutionState.validate
  roundTrip := ExecutionState.validate_dump

/-- A plan saved twice, at increasing times, is reloaded in its first state. -/
theorem reload_finds_first_state :
    let state (status : PipelineStatus) : ExecutionState :=
      { pipelineId := "pipeline", planId := "plan", status := status }
    let saves : List StateSave :=
      [ { state := state .running, now := 1 }, { state := state .completed, now := 2 } ]
    let states := runs textEnv {} stateCodec false saves
    ((states.live.getState "plan").map fun state => state.status) = some .completed ∧
      (((ExecutionStateStore.loadStatesFromMemory textEnv stateCodec states.memory
        {}).getState "plan").map fun state => state.status) = some .running := by
  decide +kernel

end PersistedStates

end AiEnterpriseOs.Orchestration
