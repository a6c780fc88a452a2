import AiEnterpriseOs.Memory.SaveRuns
import AiEnterpriseOs.Runtime.Lifecycle
import AiEnterpriseOs.Runtime.ProcessManager

/-!
# Runtime state store

The runtime state, the file it is written to and the memory engine it is
mirrored to. Every mutation that changes a field saves the whole state.
-/

namespace AiEnterpriseOs.Runtime

open Library
open Memory

def RuntimePhase.value : RuntimePhase → String
  | stopped => "stopped"
  | starting => "starting"
  | running => "running"
  | degraded => "degraded"
  | recovering => "recovering"
  | stopping => "stopping"
  | failed => "failed"

/-- The kinds of the `active_*` lists. -/
inductive ActiveKind where
  | pipelines
  | workflows
  | decisions
  | meetings
  | projects
  | agents
  deriving DecidableEq

def ActiveKind.named : String → Option ActiveKind
  | "pipelines" => some pipelines
  | "workflows" => some workflows
  | "decisions" => some decisions
  | "meetings" => some meetings
  | "projects" => some projects
  | "agents" => some agents
  | _ => none

structure RuntimeState where
  version : String := "1.0"
  phase : RuntimePhase := .stopped
  startedAt : Option Time := none
  stoppedAt : Option Time := none
  active : ActiveKind → List String := fun _ => []
  processes : OrderedDict String RuntimeProcess := OrderedDict.empty
  lastSavedAt : Option Time := none
  metadata : OrderedDict String PyValue := OrderedDict.empty

/-- A field that `update` assigns; names the state does not have are passed over. -/
inductive FieldUpdate where
  | version (value : String)
  | phase (value : RuntimePhase)
  | startedAt (value : Option Time)
  | stoppedAt (value : Option Time)
  | active (kind : ActiveKind) (values : List String)
  | processes (value : OrderedDict String RuntimeProcess)
  | lastSavedAt (value : Option Time)
  | metadata (value : OrderedDict String PyValue)
  | unknown

/-- The mutations that save; the engine of `setEngine` is given by its name and its dump. -/
inductive StateMutation where
  | update (fields : List FieldUpdate)
  | addActive (kind itemId : String)
  | removeActive (kind itemId : String)
  | setPhase (phase : RuntimePhase)
  | setStarted (startedAt : Option Time)
  | setStopped (stoppedAt : Option Time)
  | setProcess (process : RuntimeProcess)
  | removeProcess (name : String)
  | setEngine (name : String) (record : PyValue)
  | save

namespace RuntimeState

def assign (state : RuntimeState) : FieldUpdate → RuntimeState
  | .version value => { state with version := value }
  | .phase value => { state with phase := value }
  | .startedAt value => { state with startedAt := value }
  | .stoppedAt value => { state with stoppedAt := value }
  | .active kind values => { state with active := Function.update state.active kind values }
  | .processes value => { state with processes := value }
  | .lastSavedAt value => { state with lastSavedAt := value }
  | .metadata value => { state with metadata := value }
  | .unknown => state

/-- `self._state.metadata.setdefault("engines", {})[engine.name] = engine.to_dict()`;
it raises where "engines" holds no dictionary. -/
def recordEngine (state : RuntimeState) (name : String) (record : PyValue) :
    Option RuntimeState :=
  match state.metadata.getD "engines" (.dict []) with
  | .dict items =>
    let engines := .dict (OrderedDict.assign name record items)
    some { state with metadata := state.metadata.set "engines" engines }
  | _ => none

/-- Return a compact summary dict. -/
def snapshot (instant : Time → PyValue) (state : RuntimeState) : PyValue :=
  let count (kind : ActiveKind) : PyValue := .int (state.active kind).length
  .dict [ ("phase", .str state.phase.value),
      ("started_at", (state.startedAt.map instant).getD .none),
      ("active_pipelines", count .pipelines),
      ("active_workflows", count .workflows),
      ("active_decisions", count .decisions),
      ("active_meetings", count .meetings),
      ("active_projects", count .projects),
      ("active_agents", count .agents),
      ("processes", .int state.processes.entries.length) ]

end RuntimeState

/-- The dumps of a state and what validating a text makes of it, `none` where that raises:
`model_dump_json` and `model_validate_json` for the mirror, the JSON module with
`model_dump` and `model_validate` for the file. `str` is the text of a value, `instant` a
time as a value. -/
structure StateText where
  dumpJson : RuntimeState → String
  validateJson : String → Option RuntimeState
  dumpFile : RuntimeState → String
  validateFile : String → Option RuntimeState
  str : PyValue → String
  instant : Time → PyValue

inductive StateFile where
  | missing
  | unreadable
  | text (payload : String)

structure RuntimeStateStore where
  persistState : Bool := true
  memoryNamespace : MemoryNamespace := .global
  state : RuntimeState := {}
  loaded : Bool := false
  file : StateFile := .missing

namespace RuntimeStateStore

section Text

variable (text : StateText) (store : RuntimeStateStore)

/-! ## Loading -/

def loadFromDisk : Option RuntimeState :=
  match store.file with
  | .missing => none
  | .unreadable => none
  | .text payload => text.validateFile payload

/-- The first entry with a runtime state is the one that counts, whether its text
validates or not. -/
def loadFromMemory (env : MemoryEnv PyValue) (memory : MemoryEngine PyValue) :
    Option RuntimeState :=
  let entries := memory.store.search env
    { memoryNamespace := store.memoryNamespace.value, memoryType := "system", limit := 5 }
  let found := entries.find? fun entry =>
    (entry.metadata.getD "runtime_state" .none).truthy
  found.bind fun entry =>
    text.validateJson (text.str (entry.metadata.getD "runtime_state" .none))

/-- Load persisted state from disk (falling back to memory). -/
def load (env : MemoryEnv PyValue) (memory : MemoryEngine PyValue) : RuntimeStateStore :=
  let state := match store.loadFromDisk text with
    | some state => some state
    | none => store.loadFromMemory text env memory
  { store with state := state.getD {}, loaded := true }

/-! ## Persisting -/

/-- What `_mirror_to_memory` hands to the memory engine. -/
def mirrorFields (state : RuntimeState) : SaveFields PyValue where
  content := OrderedDict.empty.setAll [ ("phase", .str state.phase.value),
      ("started_at", (state.startedAt.map text.instant).getD .none),
      ("active", state.snapshot text.instant) ]
  memoryType := .system
  memoryNamespace := store.memoryNamespace
  tags := ["runtime", "state"]
  source := "runtime"
  metadata := OrderedDict.empty.setAll
    [ ("runtime_state", .str (text.dumpJson state)), ("phase", .str state.phase.value) ]

/-- Persist the current state to disk. -/
def save (now : Time) : RuntimeStateStore :=
  let state := { store.state with lastSavedAt := some now }
  { store with state := state, file := .text (text.dumpFile state) }

end Text

/-! ## Mutations -/

/-- The state that a mutation leaves and whether a save follows; `none` where the
mutation raises. -/
def change (mutation : StateMutation) (now : Time) (store : RuntimeStateStore) :
    Option (RuntimeState × Bool) :=
  let update (fields : List FieldUpdate) : Option (RuntimeState × Bool) :=
    some (fields.foldl RuntimeState.assign store.state, store.persistState)
  match mutation with
  | .update fields => update fields
  | .addActive kind itemId =>
    (ActiveKind.named kind).bind fun kind =>
      let values := store.state.active kind
      update [.active kind (if itemId ∈ values then values else values ++ [itemId])]
  | .removeActive kind itemId =>
    (ActiveKind.named kind).bind fun kind =>
      update [.active kind ((store.state.active kind).erase itemId)]
  | .setPhase phase => update [.phase phase]
  | .setStarted startedAt =>
    update [.phase .running, .startedAt (some (startedAt.getD now)), .stoppedAt none]
  | .setStopped stoppedAt =>
    update [.phase .stopped, .stoppedAt (some (stoppedAt.getD now))]
  | .setProcess process =>
    some ({ store.state with processes := store.state.processes.set process.name process },
      store.persistState)
  | .removeProcess name =>
    some ({ store.state with processes := store.state.processes.erase name },
      (store.state.processes.get? name).isSome && store.persistState)
  | .setEngine name record =>
    (store.state.recordEngine name record).map fun state => (state, store.persistState)
  | .save => some (store.state, true)

/-- Reset state to defaults and remove persisted artifacts. -/
def clear (store : RuntimeStateStore) : RuntimeStateStore :=
  { store with state := {}, file := .missing }

end RuntimeStateStore

end AiEnterpriseOs.Runtime
