import AiEnterpriseOs.Library.DepthFirst
import AiEnterpriseOs.Library.NewestPerKey
import AiEnterpriseOs.Library.OrderedDict
import AiEnterpriseOs.PyValue

/-!
# The orchestration engine

`execute` runs a named workflow: every task of its plan is routed to an engine
and answered by it, by a refusal or by a skip. The engines are stateful, so an
answer depends on the calls before it.
-/

/-!
## Workflow definitions and their plans

A plan has one task for each step name. Of the steps that share a name, and of
those that have none, the last one is planned.
-/

namespace AiEnterpriseOs.Orchestrator

open Library

abbrev Params := OrderedDict String PyValue

/-- One entry of a workflow's steps; an absent key is `none`. -/
structure WorkflowStep where
  type : Option String
  name : Option String
  params : Option Params
  dependencies : Option (List String)
  retryCount : Option Int
  timeout : Option Int

structure WorkflowDefinition where
  name : String
  steps : List WorkflowStep

structure Task where
  type : String
  name : String
  params : Params
  dependencies : List String
  retryCount : Int
  timeout : Int

namespace TaskScheduler

def task (step : WorkflowStep) : Task :=
  { type := step.type.getD "task"
    name := step.name.getD "unnamed"
    params := step.params.getD OrderedDict.empty
    dependencies := step.dependencies.getD []
    retryCount := step.retryCount.getD 0
    timeout := step.timeout.getD 3600 }

def taskMap (tasks : List Task) : OrderedDict String Task :=
  OrderedDict.empty.setAll (tasks.map fun task => (task.name, task))

/-- `depth` nested visits exhaust the interpreter's stack. -/
def topologicalSort (depth : Nat) (tasks : List Task) : Except String (List Task) :=
  match DepthFirst.order (taskMap tasks).get? Task.dependencies depth (tasks.map Task.name) with
  | some sorted => .ok sorted
  | none => .error "maximum recursion depth exceeded"

def createPlan (depth : Nat) (workflow : WorkflowDefinition) : Except String (List Task) :=
  topologicalSort depth (workflow.steps.map task)

end TaskScheduler

end AiEnterpriseOs.Orchestrator

namespace AiEnterpriseOs.Orchestrator

open Library

inductive Engine where
  | registry
  | generator
  | decision
  | memory
  | audit
  deriving DecidableEq

def Engine.name : Engine → String
  | registry => "registry"
  | generator => "generator"
  | decision => "decision"
  | memory => "memory"
  | audit => "audit"

/-- The arguments of `audit.record`; those not passed are `none`. -/
structure AuditEvent where
  eventType : PyValue
  engine : String := "orchestrator"
  moduleName : String := "OrchestrationEngine"
  action : PyValue
  user : Option PyValue := none
  result : Option PyValue := none
  metadata : Option PyValue := none

inductive EngineCall where
  | loadRegistry
  | generate (planOverrides : Params)
  | createDecision (title description category priority requester owner : PyValue)
  | saveMemory (content memoryType tags source : PyValue)
  | record (event : AuditEvent)

def EngineCall.engine : EngineCall → Engine
  | loadRegistry => .registry
  | generate _ => .generator
  | createDecision .. => .decision
  | saveMemory .. => .memory
  | record _ => .audit

/-- Each of these operations changes its engine; the audit trail is the only one that a
rehearsal may write to. -/
def EngineCall.changesState (call : EngineCall) : Bool := call.engine ≠ .audit

structure Surroundings where
  /-- What the report keeps of the answer (the printed load result, the generation's
  result, the identifier), or the message of the exception. -/
  respond : List EngineCall → EngineCall → Except String PyValue
  text : PyValue → String
  stackDepth : Nat

structure TaskRouter where
  routes : OrderedDict String String

namespace TaskRouter

def created : TaskRouter :=
  { routes := OrderedDict.empty.setAll
      [("load_registry", "registry"), ("validate", "registry"), ("generate", "generator"),
        ("create_decision", "decision"), ("evaluate_decision", "decision"),
        ("save_memory", "memory"), ("search_memory", "memory"), ("audit_record", "audit"),
        ("audit_query", "audit")] }

def route (router : TaskRouter) (taskType : String) (params : Params) : PyValue :=
  let target := router.routes.getD taskType ""
  if target ≠ "" then .str target
  else params.getD "target" (.str "unknown")

end TaskRouter

structure WorkflowManager where
  workflows : OrderedDict String WorkflowDefinition

namespace WorkflowManager

def step (type name : String) (params : List (String × PyValue)) : WorkflowStep :=
  { type := some type
    name := some name
    params := some (OrderedDict.empty.setAll params)
    dependencies := none
    retryCount := none
    timeout := none }

def defaultWorkflows : List WorkflowDefinition :=
  [{ name := "generate_company"
     steps :=
      [step "load_registry" "load_registry" [("action", .str "load")],
        step "generate" "generate_prompts" [("target", .str "prompts")],
        step "generate" "generate_docs" [("target", .str "docs")],
        step "generate" "generate_config" [("target", .str "config")]] },
    { name := "validate_all"
      steps :=
      [step "validate" "validate_yaml" [("target", .str "yaml")],
        step "validate" "validate_templates" [("target", .str "templates")],
        step "validate" "validate_manifest" [("target", .str "manifest")]] },
    { name := "bootstrap"
      steps :=
      [step "load_registry" "load_registry" [("action", .str "load")],
        step "generate" "generate_all" [("target", .str "all")],
        step "save_memory" "record_bootstrap"
          [("action", .str "save"), ("memory_type", .str "company")],
        step "audit_record" "audit_bootstrap"
          [("action", .str "record"), ("event_type", .str "bootstrap")]] }]

def registerWorkflow (manager : WorkflowManager) (workflow : WorkflowDefinition) :
    WorkflowManager :=
  { workflows := manager.workflows.set workflow.name workflow }

def created : WorkflowManager :=
  defaultWorkflows.foldl registerWorkflow { workflows := OrderedDict.empty }

def getWorkflow (manager : WorkflowManager) (name : String) : Option WorkflowDefinition :=
  manager.workflows.get? name

end WorkflowManager

inductive ExecutionStatus where
  | idle
  | running
  | completed
  | failed
  deriving DecidableEq

def ExecutionStatus.text : ExecutionStatus → String
  | idle => "idle"
  | running => "running"
  | completed => "completed"
  | failed => "failed"

/-- One entry of the report's steps. -/
structure StepRecord where
  type : String
  result : PyValue

structure Report where
  workflow : String
  status : ExecutionStatus
  dryRun : Bool
  steps : List StepRecord
  error : Option String
  params : Params

structure ExecutionState where
  workflowName : String
  status : ExecutionStatus
  params : Params
  dryRun : Bool
  steps : List StepRecord
  error : Option String
  plan : List Task

namespace ExecutionState

def start (workflowName : String) (params : Params) (dryRun : Bool) : ExecutionState :=
  { workflowName := workflowName
    status := .running
    params := params
    dryRun := dryRun
    steps := []
    error := none
    plan := [] }

def setPlan (state : ExecutionState) (plan : List Task) : ExecutionState :=
  { state with plan := plan }

def recordStep (state : ExecutionState) (stepType : String) (result : PyValue) :
    ExecutionState :=
  { state with steps := state.steps ++ [{ type := stepType, result := result }] }

def complete (state : ExecutionState) : ExecutionState := { state with status := .completed }

def fail (state : ExecutionState) (error : String) : ExecutionState :=
  { state with status := .failed, error := some error }

def getReport (state : ExecutionState) (status : ExecutionStatus) (error : Option String) :
    Report :=
  { workflow := state.workflowName
    status := status
    dryRun := state.dryRun
    steps := state.steps
    error := if error.getD "" ≠ "" then error else state.error
    params := state.params }

end ExecutionState

/-- How the answer to a task came about: the calls up to it, and the result or the message
of the exception. -/
structure Attempt where
  calls : List EngineCall
  result : Except String PyValue

structure Progress where
  state : ExecutionState
  calls : List EngineCall
  raised : Option String

/-- The report that `execute` returns, or the message of the exception it raises. -/
structure Execution where
  report : Except String Report
  state : ExecutionState
  calls : List EngineCall

structure OrchestrationEngine where
  attached : Engine → Bool
  router : TaskRouter
  workflow : WorkflowManager

namespace OrchestrationEngine

variable (orchestrator : OrchestrationEngine) (surroundings : Surroundings)

def unavailable (title : String) : PyValue :=
  .dict [("status", .str "error"), ("message", .str (title ++ " engine not available"))]

def completed (action : String) (outcome : List (String × PyValue)) : PyValue :=
  .dict ([("status", .str "completed"), ("action", .str action)] ++ outcome)

/-- What the handlers of the engines with one supported action have in common. -/
def handled (engine : Engine) (title supported : String) (call : EngineCall)
    (answer : PyValue → PyValue) (params : Params) (calls : List EngineCall) : Attempt :=
  if !orchestrator.attached engine then { calls := calls, result := .ok (unavailable title) }
  else
    let action := params.getD "action" (.str supported)
    if action.equal (.str supported) then
      { calls := calls ++ [call], result := (surroundings.respond calls call).map answer }
    else
      { calls := calls
        result := .ok (.dict [("status", .str "skipped"),
          ("action", .str (engine.name ++ ":" ++ surroundings.text action))]) }

def executeRegistry (params : Params) (_dryRun : Bool) (calls : List EngineCall) : Attempt :=
  orchestrator.handled surroundings .registry "Registry" "load" .loadRegistry
    (fun result => completed "load_registry" [("result", result)]) params calls

def executeGenerator (params : Params) (_dryRun : Bool) (calls : List EngineCall) : Attempt :=
  if !orchestrator.attached .generator then
    { calls := calls, result := .ok (unavailable "Generator") }
  else
    { calls := calls ++ [.generate params]
      result := .ok <|
        match surroundings.respond calls (.generate params) with
        | .ok result => completed "generate" [("result", result)]
        | .error message =>
          .dict [("status", .str "error"), ("action", .str "generate"), ("error", .str message)] }

def executeDecision (params : Params) (_dryRun : Bool) (calls : List EngineCall) : Attempt :=
  orchestrator.handled surroundings .decision "Decision" "create"
    (.createDecision (params.getD "title" (.str "Untitled"))
      (params.getD "description" (.str "")) (params.getD "category" (.str "operational"))
      (params.getD "priority" (.str "medium")) (params.getD "requester" (.str ""))
      (params.getD "owner" (.str "")))
    (fun id => completed "create_decision" [("decision_id", id)]) params calls

def executeMemory (params : Params) (_dryRun : Bool) (calls : List EngineCall) : Attempt :=
  orchestrator.handled surroundings .memory "Memory" "save"
    (.saveMemory (params.getD "content" (.dict [])) (params.getD "memory_type" (.str "system"))
      (params.getD "tags" (.list [])) (params.getD "source" (.str "orchestrator")))
    (fun id => completed "save_memory" [("memory_id", id)]) params calls

def stepEvent (params : Params) : AuditEvent :=
  { eventType := params.getD "event_type" (.str "orchestrated")
    action := params.getD "action_name" (.str "execute")
    user := some (params.getD "user" (.str "system")) }

def executeAudit (params : Params) (_dryRun : Bool) (calls : List EngineCall) : Attempt :=
  orchestrator.handled surroundings .audit "Audit" "record" (.record (stepEvent params))
    (fun _ => completed "record_audit" []) params calls

/-- The body of the loop over the plan, up to the recording of the step. -/
def executeStep (task : Task) (dryRun : Bool) (calls : List EngineCall) : Attempt :=
  let target := orchestrator.router.route task.type task.params
  if target.equal (.str "registry") && orchestrator.attached .registry then
    orchestrator.executeRegistry surroundings task.params dryRun calls
  else if target.equal (.str "generator") && orchestrator.attached .generator then
    orchestrator.executeGenerator surroundings task.params dryRun calls
  else if target.equal (.str "decision") && orchestrator.attached .decision then
    orchestrator.executeDecision surroundings task.params dryRun calls
  else if target.equal (.str "memory") && orchestrator.attached .memory then
    orchestrator.executeMemory surroundings task.params dryRun calls
  else if target.equal (.str "audit") && orchestrator.attached .audit then
    orchestrator.executeAudit surroundings task.params dryRun calls
  else
    { calls := calls
      result := .ok (.dict [("status", .str "skipped"),
        ("reason", .str ("No engine for target: " ++ surroundings.text target))]) }

/-- The loop over the plan; the first exception ends it. -/
def runPlan (dryRun : Bool) : List Task → ExecutionState → List EngineCall → Progress
  | [], state, calls => { state := state, calls := calls, raised := none }
  | task :: rest, state, calls =>
    let attempt := orchestrator.executeStep surroundings task dryRun calls
    match attempt.result with
    | .error message => { state := state, calls := attempt.calls, raised := some message }
    | .ok result => runPlan dryRun rest (state.recordStep task.type result) attempt.calls

/-- `if self.audit: self.audit.record(...)`. -/
def audited (state : ExecutionState) (calls : List EngineCall) (event : AuditEvent) :
    Progress :=
  if orchestrator.attached .audit then
    { state := state
      calls := calls ++ [.record event]
      raised :=
        match surroundings.respond calls (.record event) with
        | .ok _ => none
        | .error message => some message }
  else { state := state, calls := calls, raised := none }

def startEvent (workflowName : String) (params : Option Params) : AuditEvent :=
  { eventType := .str "workflow_start"
    action := .str ("execute:" ++ workflowName)
    metadata := some (.dict [("workflow", .str workflowName),
      ("params", (params.map fun given => PyValue.dict given.entries).getD .none)]) }

def completeEvent (workflowName : String) (status : ExecutionStatus) : AuditEvent :=
  { eventType := .str "workflow_complete"
    action := .str ("execute:" ++ workflowName)
    result := some (.str status.text)
    metadata := some (.dict [("workflow", .str workflowName),
      ("report_status", .str status.text)]) }

/-- What follows the `try` statement. -/
def conclude (workflowName : String) (state : ExecutionState) (status : ExecutionStatus)
    (error : Option String) (calls : List EngineCall) : Execution :=
  let recorded := orchestrator.audited surroundings state calls (completeEvent workflowName status)
  { report :=
      match recorded.raised with
      | none => .ok (state.getReport status error)
      | some message => .error message
    state := state
    calls := recorded.calls }

/-- The `except` branch. -/
def failed (workflowName : String) (state : ExecutionState) (message : String)
    (calls : List EngineCall) : Execution :=
  orchestrator.conclude surroundings workflowName (state.fail message) .failed (some message) calls

def started (workflowName : String) (params : Option Params) (dryRun : Bool) : Progress :=
  orchestrator.audited surroundings
    (ExecutionState.start workflowName (params.getD OrderedDict.empty) dryRun) []
    (startEvent workflowName params)

/-- From the plan to the end of `execute`, for a workflow that was found. -/
def executeWorkflow (workflowName : String) (workflow : WorkflowDefinition) (dryRun : Bool)
    (state : ExecutionState) (calls : List EngineCall) : Execution :=
  match TaskScheduler.createPlan surroundings.stackDepth workflow with
  | .error message => orchestrator.failed surroundings workflowName state message calls
  | .ok plan =>
    let progress := orchestrator.runPlan surroundings dryRun plan (state.setPlan plan) calls
    match progress.raised with
    | some message =>
      orchestrator.failed surroundings workflowName progress.state message progress.calls
    | none =>
      orchestrator.conclude surroundings workflowName progress.state.complete .completed none
        progress.calls

def execute (workflowName : String) (params : Option Params) (dryRun : Bool) : Execution :=
  let start := orchestrator.started surroundings workflowName params dryRun
  match start.raised with
  | some message => orchestrator.failed surroundings workflowName start.state message start.calls
  | none =>
    match orchestrator.workflow.getWorkflow workflowName with
    | some workflow =>
      orchestrator.executeWorkflow surroundings workflowName workflow dryRun start.state start.calls
    | none =>
      let message := "Workflow not found: " ++ workflowName
      { report := .ok ((start.state.fail message).getReport .failed (some message))
        state := start.state.fail message
        calls := start.calls }

end OrchestrationEngine

end AiEnterpriseOs.Orchestrator
