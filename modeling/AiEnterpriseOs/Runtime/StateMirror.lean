import AiEnterpriseOs.Memory.Summary
import AiEnterpriseOs.Runtime.StateStore

/-!
# The mirrored runtime state

A store whose file is lost asks the memory for at most five system entries of
its namespace and takes the first that carries a runtime state, whichever
component saved it and whenever that was.
-/

namespace AiEnterpriseOs.Runtime

open Library
open Memory

/-- Calls of the store, with the times of its save and of the mirror's entry, and saves
that others make to the memory engine. -/
inductive MirrorEvent where
  | mutate (mutation : StateMutation) (now mirrored : Time)
  | clear
  | load
  | otherSave (save : TimedSave PyValue)

/-- The store and the memory engine attached to it; `lastSaved` is the state of the most
recent save, and `saves` are all the saves that were made to the engine. -/
structure MirroredState where
  store : RuntimeStateStore
  memory : MemoryEngine PyValue
  lastSaved : Option RuntimeState := none
  saves : List (TimedSave PyValue) := []

namespace MirroredState

section Runs

variable (text : StateText) (env : MemoryEnv PyValue) (config : MemoryConfig)

/-- Save a memory entry in the engine. -/
def remember (save : TimedSave PyValue) (world : MirroredState) : MirroredState :=
  { world with
    memory := saveStep env config world.memory save, saves := world.saves ++ [save] }

/-- `save`, the mirror included. -/
def saveState (now mirrored : Time) (world : MirroredState) : MirroredState :=
  let store := world.store.save text now
  let mirror : TimedSave PyValue :=
    { fields := store.mirrorFields text store.state, now := mirrored }
  { world with store := store, lastSaved := some store.state }.remember env config mirror

def step (world : MirroredState) : MirrorEvent → MirroredState
  | .mutate mutation now mirrored =>
    match world.store.change mutation now with
    | none => world
    | some (state, saved) =>
      let world := { world with store := { world.store with state := state } }
      if saved then world.saveState text env config now mirrored else world
  | .clear => { world with store := world.store.clear }
  | .load => { world with store := world.store.load text env world.memory }
  | .otherSave save => world.remember env config save

/-- A new store with a memory engine that is empty, with or without a file behind it. -/
def attached (onDisk : Bool) (store : RuntimeStateStore) : MirroredState where
  store := store
  memory := emptyEngine onDisk

def runs (onDisk : Bool) (store : RuntimeStateStore) (events : List MirrorEvent) :
    MirroredState :=
  runInputs (step text env config) (attached onDisk store) events

end Runs

/-- The text that an entry carries as a runtime state, if it carries one. -/
def carried (text : StateText) (metadata : OrderedDict String PyValue) : Option String :=
  let serialized := metadata.getD "runtime_state" .none
  if serialized.truthy then some (text.str serialized) else none

/-- Among the saves of system entries in the namespace, a save that carries the state comes
before every other save that carries one, and less than five others come before it. -/
def StateFoundFirst (text : StateText) (config : MemoryConfig) (space : MemoryNamespace)
    (saves : List (TimedSave PyValue)) (state : RuntimeState) : Prop :=
  ∃ save ∈ listedSaves config space .system saves,
    (carried text save.1.fields.metadata).bind text.validateJson = some state ∧
      (listedSaves config space .system saves).countP
          (fun other => FoundBefore config other save) < 5 ∧
        ∀ other ∈ listedSaves config space .system saves, FoundBefore config other save →
          carried text other.1.fields.metadata = none

section Recovery

variable {text : StateText} {env : MemoryEnv PyValue} {config : MemoryConfig}

/-- The memory is that of the saves made to it, and a saved state knows when it was saved. -/
structure Recorded (env : MemoryEnv PyValue) (config : MemoryConfig) (onDisk : Bool)
    (world : MirroredState) : Prop where
  memory : world.memory = saveRuns env config onDisk world.saves
  saved : ∀ state ∈ world.lastSaved, state.lastSavedAt.isSome = true

theorem Recorded.remember {onDisk : Bool} {world : MirroredState}
    (recorded : Recorded env config onDisk world) (save : TimedSave PyValue) :
    Recorded env config onDisk (world.remember env config save) where
  memory := by
    rw [MirroredState.remember, saveRuns, run_inputs_append, recorded.memory]
    rfl
  saved := recorded.saved

theorem Recorded.step {onDisk : Bool} {world : MirroredState}
    (recorded : Recorded env config onDisk world) (event : MirrorEvent) :
    Recorded env config onDisk (world.step text env config event) := by
  cases event with
  | mutate mutation now mirrored =>
    unfold MirroredState.step
    dsimp only
    split
    · exact recorded
    next state saved _ =>
      split_ifs
      · apply Recorded.remember
        refine ⟨recorded.memory, ?_⟩
        intro last same
        rw [← Option.some.inj same]
        rfl
      · exact ⟨recorded.memory, recorded.saved⟩
  | clear => exact ⟨recorded.memory, recorded.saved⟩
  | load => exact ⟨recorded.memory, recorded.saved⟩
  | otherSave save => exact recorded.remember save

theorem runs_recorded (onDisk : Bool) (store : RuntimeStateStore) (events : List MirrorEvent) :
    Recorded env config onDisk (runs text env config onDisk store events) := by
  apply invariant_of_steps (MirroredState.step text env config)
  · intro world event recorded
    exact recorded.step event
  · exact ⟨rfl, nofun⟩

theorem carried_is_some (text : StateText) (metadata : OrderedDict String PyValue) :
    (carried text metadata).isSome = (metadata.getD "runtime_state" .none).truthy := by
  unfold carried
  dsimp only
  split_ifs with present
  · exact present.symm
  · exact (Bool.eq_false_iff.mpr present).symm

theorem load_from_memory (onDisk : Bool) (store : RuntimeStateStore)
    (saves : List (TimedSave PyValue)) :
    store.loadFromMemory text env (saveRuns env config onDisk saves) =
      (((foundOrder config store.memoryNamespace .system saves).take 5).find? fun save =>
        (carried text save.1.fields.metadata).isSome).bind fun save =>
          (carried text save.1.fields.metadata).bind text.validateJson := by
  have metadata : ∀ save, (savedEntry env config save).metadata = save.1.fields.metadata := by
    intro save
    obtain ⟨summary, built⟩ := saved_entry_fields env config save
    rw [built]
    rfl
  have searched : store.loadFromMemory text env (saveRuns env config onDisk saves) =
      (((saveRuns env config onDisk saves).store.search env
        (listingFilters store.memoryNamespace .system 5)).find? fun entry =>
          (entry.metadata.getD "runtime_state" .none).truthy).bind fun entry =>
            text.validateJson (text.str (entry.metadata.getD "runtime_state" .none)) := rfl
  rw [searched, search_listing, List.find?_map, Option.bind_map]
  simp only [Function.comp_def, metadata, ← carried_is_some text]
  apply Option.bind_congr
  intro save found
  have present := List.find?_some found
  rw [carried_is_some] at present
  rw [carried, if_pos present]
  rfl

theorem load_from_memory_iff (onDisk : Bool) (store : RuntimeStateStore)
    (saves : List (TimedSave PyValue)) (state : RuntimeState) :
    store.loadFromMemory text env (saveRuns env config onDisk saves) = some state ↔
      StateFoundFirst text config store.memoryNamespace saves state := by
  have listed : ∀ save, save ∈ foundOrder config store.memoryNamespace .system saves ↔
      save ∈ listedSaves config store.memoryNamespace .system saves :=
    fun _ => List.mem_insertionSort (NotAfter config)
  have ranked : ∀ save, (foundOrder config store.memoryNamespace .system saves).countP
        (fun other => FoundBefore config other save) =
      (listedSaves config store.memoryNamespace .system saves).countP
        (fun other => FoundBefore config other save) :=
    fun _ => (List.perm_insertionSort (NotAfter config) _).countP_eq _
  have first := find_take_iff (found_before_asymmetric config)
    (found_order_sorted config store.memoryNamespace .system saves) 5
    (fun save => (carried text save.1.fields.metadata).isSome)
  rw [load_from_memory, Option.bind_eq_some_iff, StateFoundFirst]
  apply exists_congr
  intro save
  rw [first, listed, ranked]
  simp only [listed, Option.isSome_eq_false_iff, Option.isNone_iff_eq_none]
  constructor
  · rintro ⟨⟨member, few, _, earlier⟩, restored⟩
    exact ⟨member, restored, few, earlier⟩
  · rintro ⟨member, restored, few, earlier⟩
    obtain ⟨serialized, carries, _⟩ := Option.bind_eq_some_iff.mp restored
    refine ⟨⟨member, few, ?_, earlier⟩, restored⟩
    rw [carries]
    rfl

end Recovery

/-- After the loss of the file a new store loads the state of the most recent save exactly
if the memory engine finds a save that carries it first. -/
theorem lost_file_recovered_iff (text : StateText) (env : MemoryEnv PyValue)
    (config : MemoryConfig) (onDisk : Bool) (store : RuntimeStateStore)
    (events : List MirrorEvent) (state : RuntimeState)
    (last : (runs text env config onDisk store events).lastSaved = some state)
    (fresh : RuntimeStateStore) (attachedTo : fresh.memoryNamespace = store.memoryNamespace)
    (lost : fresh.loadFromDisk text = none) :
    (fresh.load text env (runs text env config onDisk store events).memory).state = state ↔
      StateFoundFirst text config store.memoryNamespace
        (runs text env config onDisk store events).saves state := by
  have recorded : Recorded env config onDisk (runs text env config onDisk store events) :=
    runs_recorded onDisk store events
  have stamped := recorded.saved state last
  rw [RuntimeStateStore.load, lost, recorded.memory, ← attachedTo,
    ← @load_from_memory_iff text env config onDisk]
  dsimp only
  constructor
  · intro loaded
    cases found : fresh.loadFromMemory text env (saveRuns env config onDisk
        (runs text env config onDisk store events).saves) with
    | some recovered =>
      rw [found] at loaded
      exact congrArg some loaded
    | none =>
      rw [found] at loaded
      rw [← loaded] at stamped
      cases stamped
  · intro found
    rw [found]
    rfl

/-- A running state without processes or active entities, saved in the first second. -/
def runningState (now : Time) : RuntimeState :=
  { phase := .running, lastSavedAt := some now }

/-- The JSON text of a running state that was saved in the first ten microseconds. -/
def runningJson (state : RuntimeState) : String :=
  "\x7b\"version\":\"1.0\",\"phase\":\"running\",\"started_at\":null,\"stopped_at\":null," ++
    "\"active_pipelines\":[],\"active_workflows\":[],\"active_decisions\":[]," ++
    "\"active_meetings\":[],\"active_projects\":[],\"active_agents\":[]," ++
    "\"processes\":\x7b\x7d,\"last_saved_at\":\"1970-01-01T00:00:00.00000" ++
    toString (state.lastSavedAt.getD 0) ++ "Z\",\"metadata\":\x7b\x7d\x7d"

/-- The dump and the validation of such states; the file is not read. -/
def runningText : StateText where
  dumpJson := runningJson
  validateJson payload :=
    ([1, 2].map runningState).find? fun state => runningJson state = payload
  dumpFile := runningJson
  validateFile _ := none
  str value := match value with
    | .str text => text
    | _ => ""
  instant := .int

theorem mirrored_state_recovered : (({} : RuntimeStateStore).load runningText textEnv
      (runs runningText textEnv {} true {} [.mutate (.setPhase .running) 1 1]).memory).state =
        runningState 1 := by
  apply (lost_file_recovered_iff runningText textEnv {} true {}
    [.mutate (.setPhase .running) 1 1] (runningState 1) rfl {} rfl rfl).mpr
  let mirror : TimedSave PyValue :=
    { fields := RuntimeStateStore.mirrorFields runningText {} (runningState 1), now := 1 }
  have carries : carried runningText mirror.fields.metadata =
      some (runningJson (runningState 1)) := rfl
  have alone : listedSaves {} .global .system [mirror] = [(mirror, 0)] := by
    have valid : (builtEntry {} (mirror, 0)).validates = true := by decide +kernel
    have kept : validSaves {} [mirror] = [(mirror, 0)] := List.filter_cons_of_pos valid
    rw [listedSaves, kept]
    rfl
  change StateFoundFirst runningText {} .global [mirror] (runningState 1)
  rw [StateFoundFirst, alone]
  refine ⟨(mirror, 0), List.mem_cons_self, ?_, by decide +kernel, ?_⟩
  · rw [carries]
    simp [runningText]
  intro other member ahead
  rw [List.mem_singleton.mp member] at ahead
  exact absurd ahead (found_before_asymmetric {} _ _ ahead)

/-- Five later saves of another component hide the mirrored state, and of two saves that are
mirrored at one time the older one is loaded. -/
theorem mirrored_state_hidden :
    let other (now : Time) : MirrorEvent :=
      .otherSave { fields := { content := OrderedDict.empty }, now := now }
    let crowded := runs runningText textEnv {} false {}
      [.mutate (.setPhase .running) 1 1, other 2, other 3, other 4, other 5, other 6]
    let tied := runs runningText textEnv {} false {}
      [.mutate (.setPhase .running) 1 3, .mutate (.setPhase .running) 2 3]
    let loadedAt (world : MirroredState) : Option Time :=
      (({} : RuntimeStateStore).load runningText textEnv world.memory).state.lastSavedAt
    (crowded.lastSaved.bind (·.lastSavedAt) = some 1 ∧ loadedAt crowded = none) ∧
      (tied.lastSaved.bind (·.lastSavedAt) = some 2 ∧ loadedAt tied = some 1) := by
  decide +kernel

end MirroredState

end AiEnterpriseOs.Runtime
