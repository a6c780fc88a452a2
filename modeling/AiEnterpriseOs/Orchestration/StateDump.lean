import AiEnterpriseOs.Orchestration.Models

/-!
# Dump and validation of an execution state

The JSON form of the fields that the model of a state carries, and its reading
back; a checkpoint id is its number. A field that is absent takes its default,
the two ids are required.
-/

/-!
## Execution state management

The live states by plan id and the capped execution history.
-/

namespace AiEnterpriseOs.Orchestration

open Library

structure ExecutionRecord where
  planId : String
  planName : String
  pipelineId : String
  state : ExecutionState
  metrics : ExecutionMetrics
  rollbackPlan : Option RollbackPlan
  recovery : Option RecoveryResult

structure ExecutionStateStore where
  states : OrderedDict String ExecutionState := OrderedDict.empty
  records : List ExecutionRecord := []
  maxRecords : Int := 1000

namespace ExecutionStateStore

def saveState (store : ExecutionStateStore) (state : ExecutionState) :
    ExecutionStateStore :=
  { store with states := store.states.set state.planId state }

/-- Get the live state for a plan, or `none`. -/
def getState (store : ExecutionStateStore) (planId : String) :
    Option ExecutionState :=
  store.states.get? planId

/-- Append an execution record to history; the oldest go beyond the cap. -/
def record (store : ExecutionStateStore) (entry : ExecutionRecord) :
    ExecutionStateStore :=
  let extended := store.records ++ [entry]
  { store with
    records :=
      if 0 < store.maxRecords ∧ store.maxRecords < extended.length then
        extended.drop (extended.length - store.maxRecords.toNat)
      else extended }

end ExecutionStateStore

end AiEnterpriseOs.Orchestration

namespace AiEnterpriseOs.Orchestration

open Library

def TaskStatus.value : TaskStatus → String
  | pending => "pending"
  | ready => "ready"
  | running => "running"
  | completed => "completed"
  | failed => "failed"
  | skipped => "skipped"
  | cancelled => "cancelled"

def TaskStatus.all : List TaskStatus :=
  [.pending, .ready, .running, .completed, .failed, .skipped, .cancelled]

def PipelineStatus.value : PipelineStatus → String
  | pending => "pending"
  | scheduled => "scheduled"
  | running => "running"
  | completed => "completed"
  | failed => "failed"
  | cancelled => "cancelled"
  | paused => "paused"
  | recovering => "recovering"

def PipelineStatus.all : List PipelineStatus :=
  [.pending, .scheduled, .running, .completed, .failed, .cancelled, .paused, .recovering]

section Reading

def readStr : PyValue → Option String
  | .str text => some text
  | _ => none

def readNat : PyValue → Option Nat
  | .int value => if 0 ≤ value then some value.toNat else none
  | _ => none

def readOption {Value : Type} (read : PyValue → Option Value) : PyValue → Option (Option Value)
  | .none => some none
  | value => (read value).map some

def readEnum {Value : Type} (value : Value → String) (all : List Value)
    (written : PyValue) : Option Value :=
  (readStr written).bind fun text => all.find? fun item => value item = text

def readItems {Value : Type} (read : PyValue → Option Value) :
    List (String × PyValue) → Option (List (String × Value))
  | [] => some []
  | (key, value) :: rest =>
    match read value, readItems read rest with
    | some value, some rest => some ((key, value) :: rest)
    | _, _ => none

def readDict {Value : Type} (read : PyValue → Option Value) :
    PyValue → Option (OrderedDict String Value)
  | .dict items =>
    (readItems read items).map fun items => OrderedDict.empty.setAll items
  | _ => none

def dumpDict {Value : Type} (dump : Value → PyValue) (dict : OrderedDict String Value) : PyValue :=
  .dict (dict.entries.map fun item => (item.1, dump item.2))

def readField {Value : Type} (items : List (String × PyValue)) (key : String)
    (read : PyValue → Option Value) (fallback : Option Value) : Option Value :=
  match PyValue.field items key with
  | none => fallback
  | some value => read value

theorem read_items_dump {Value : Type} (read : PyValue → Option Value)
    (dump : Value → PyValue) (inverse : ∀ value, read (dump value) = some value)
    (items : List (String × Value)) :
    readItems read (items.map fun item => (item.1, dump item.2)) = some items := by
  induction items with
  | nil => rfl
  | cons item rest ih => simp only [List.map_cons, readItems, inverse, ih]

theorem read_dict_dump {Value : Type} (read : PyValue → Option Value)
    (dump : Value → PyValue) (inverse : ∀ value, read (dump value) = some value)
    (dict : OrderedDict String Value) :
    readDict read (dumpDict dump dict) = some dict := by
  rw [dumpDict, readDict, read_items_dump read dump inverse, Option.map_some,
    OrderedDict.setAll_entries]

end Reading

namespace ExecutionState

/-- `state.model_dump(mode="json")`. -/
def dump (state : ExecutionState) : PyValue :=
  .dict [ ("pipeline_id", .str state.pipelineId), ("plan_id", .str state.planId),
      ("status", .str state.status.value),
      ("task_statuses", dumpDict (fun status => .str status.value) state.taskStatuses),
      ("task_results", dumpDict id state.taskResults),
      ("task_errors", dumpDict PyValue.str state.taskErrors),
      ("attempts", dumpDict (fun count : Nat => .int count) state.attempts),
      ("error", state.error.elim .none .str),
      ("recovered_from", state.recoveredFrom.elim .none fun checkpoint =>
        .int checkpoint),
      ("metadata", dumpDict id state.metadata) ]

/-- `ExecutionState.model_validate(value)`. -/
def validate : PyValue → Option ExecutionState
  | .dict items => do
      let pipelineId ← readField items "pipeline_id" readStr none
      let planId ← readField items "plan_id" readStr none
      let status ← readField items "status"
        (readEnum PipelineStatus.value PipelineStatus.all) (some .pending)
      let taskStatuses ← readField items "task_statuses"
        (readDict (readEnum TaskStatus.value TaskStatus.all)) (some OrderedDict.empty)
      let taskResults ← readField items "task_results" (readDict some) (some OrderedDict.empty)
      let taskErrors ← readField items "task_errors" (readDict readStr) (some OrderedDict.empty)
      let attempts ← readField items "attempts" (readDict readNat) (some OrderedDict.empty)
      let error ← readField items "error" (readOption readStr) (some none)
      let recoveredFrom ← readField items "recovered_from" (readOption readNat) (some none)
      let metadata ← readField items "metadata" (readDict some) (some OrderedDict.empty)
      some { pipelineId, planId, status, taskStatuses, taskResults, taskErrors,
             attempts, error, recoveredFrom, metadata }
  | _ => none

theorem read_task_status (status : TaskStatus) :
    readEnum TaskStatus.value TaskStatus.all (.str status.value) = some status := by
  cases status <;> rfl

theorem read_pipeline_status (status : PipelineStatus) :
    readEnum PipelineStatus.value PipelineStatus.all (.str status.value) =
      some status := by
  cases status <;> rfl

theorem read_error (error : Option String) :
    readOption readStr (error.elim .none .str) = some error := by
  cases error <;> rfl

theorem read_recovered_from (checkpoint : Option CheckpointId) :
    readOption readNat (checkpoint.elim .none fun id => .int id) = some checkpoint := by
  cases checkpoint <;> rfl

theorem validate_dump (state : ExecutionState) : validate state.dump = some state := by
  have status := read_pipeline_status state.status
  have taskStatuses := read_dict_dump _ _ read_task_status state.taskStatuses
  have taskResults := read_dict_dump some id (fun _ => rfl) state.taskResults
  have taskErrors := read_dict_dump readStr PyValue.str (fun _ => rfl) state.taskErrors
  have attempts := read_dict_dump readNat (fun count : Nat => PyValue.int count)
    (fun _ => rfl) state.attempts
  have error := read_error state.error
  have recoveredFrom := read_recovered_from state.recoveredFrom
  have metadata := read_dict_dump some id (fun _ => rfl) state.metadata
  simp only [dump, validate, readField, PyValue.field, List.find?, String.reduceBEq,
    Option.map_some, readStr, status, taskStatuses, taskResults, taskErrors, attempts,
    error, recoveredFrom, metadata, Option.bind_eq_bind, Option.bind_some]

end ExecutionState

end AiEnterpriseOs.Orchestration
