import AiEnterpriseOs.Orchestrator.Engine

/-!
# Dry runs

The flag reaches every handler and none reads it: a dry run is the real run with its
report marked. It leaves the engines alone exactly where no task of the plan that is
routed to an attached engine is reached, records of the audit trail apart.
-/

namespace AiEnterpriseOs.Orchestrator

open Library

def ExecutionState.marked (state : ExecutionState) : ExecutionState :=
  { state with dryRun := true }

def Report.marked (report : Report) : Report := { report with dryRun := true }

def Report.stepTypes (report : Report) : List String := report.steps.map StepRecord.type

def Progress.marked (progress : Progress) : Progress :=
  { progress with state := progress.state.marked }

def Execution.marked (execution : Execution) : Execution :=
  { execution with
    report := execution.report.map Report.marked
    state := execution.state.marked }

/-- The task asks for the operation that the engine offers; the generator asks for nothing. -/
def Engine.performs (engine : Engine) (params : Params) : Bool :=
  match engine with
  | registry => (params.getD "action" (.str "load")).equal (.str "load")
  | generator => true
  | decision => (params.getD "action" (.str "create")).equal (.str "create")
  | memory => (params.getD "action" (.str "save")).equal (.str "save")
  | audit => (params.getD "action" (.str "record")).equal (.str "record")

namespace OrchestrationEngine

variable (orchestrator : OrchestrationEngine) (surroundings : Surroundings)

section Flag

theorem execute_step_dry (task : Task) (calls : List EngineCall) :
    orchestrator.executeStep surroundings task true calls =
      orchestrator.executeStep surroundings task false calls := rfl

theorem run_plan_dry (plan : List Task) (state : ExecutionState) (calls : List EngineCall) :
    orchestrator.runPlan surroundings true plan state.marked calls =
      (orchestrator.runPlan surroundings false plan state calls).marked := by
  induction plan generalizing state calls with
  | nil => rfl
  | cons task rest ih =>
    simp only [runPlan, execute_step_dry]
    cases (orchestrator.executeStep surroundings task false calls).result with
    | error message => rfl
    | ok result => exact ih (state.recordStep task.type result) _

theorem audited_marked (state : ExecutionState) (calls : List EngineCall) (event : AuditEvent) :
    orchestrator.audited surroundings state.marked calls event =
      (orchestrator.audited surroundings state calls event).marked := by
  unfold audited
  split <;> rfl

theorem conclude_marked (workflowName : String) (state : ExecutionState)
    (status : ExecutionStatus) (error : Option String) (calls : List EngineCall) :
    orchestrator.conclude surroundings workflowName state.marked status error calls =
      (orchestrator.conclude surroundings workflowName state status error calls).marked := by
  rw [conclude, conclude, audited_marked]
  generalize orchestrator.audited surroundings state calls (completeEvent workflowName status) =
    recorded
  cases recorded with
  | mk _ _ raised => cases raised <;> rfl

theorem failed_marked (workflowName : String) (state : ExecutionState) (message : String)
    (calls : List EngineCall) :
    orchestrator.failed surroundings workflowName state.marked message calls =
      (orchestrator.failed surroundings workflowName state message calls).marked :=
  conclude_marked orchestrator surroundings workflowName (state.fail message) .failed
    (some message) calls

theorem started_dry (workflowName : String) (params : Option Params) :
    orchestrator.started surroundings workflowName params true =
      (orchestrator.started surroundings workflowName params false).marked := by
  rw [started, started, ← audited_marked]
  rfl

theorem execute_workflow_dry (workflowName : String) (workflow : WorkflowDefinition)
    (state : ExecutionState) (calls : List EngineCall) :
    orchestrator.executeWorkflow surroundings workflowName workflow true state.marked calls =
      (orchestrator.executeWorkflow surroundings workflowName workflow false state
        calls).marked := by
  rw [executeWorkflow, executeWorkflow]
  cases TaskScheduler.createPlan surroundings.stackDepth workflow with
  | error message =>
    exact failed_marked orchestrator surroundings workflowName state message calls
  | ok plan =>
    have same : orchestrator.runPlan surroundings true plan (state.marked.setPlan plan) calls =
        (orchestrator.runPlan surroundings false plan (state.setPlan plan) calls).marked :=
      run_plan_dry orchestrator surroundings plan (state.setPlan plan) calls
    simp only [same]
    generalize orchestrator.runPlan surroundings false plan (state.setPlan plan) calls = progress
    rcases progress with ⟨reached, made, raised⟩
    cases raised with
    | some message =>
      exact failed_marked orchestrator surroundings workflowName reached message made
    | none =>
      exact conclude_marked orchestrator surroundings workflowName reached.complete
        .completed none made

theorem execute_dry_run (workflowName : String) (params : Option Params) :
    orchestrator.execute surroundings workflowName params true =
      (orchestrator.execute surroundings workflowName params false).marked := by
  rw [execute, execute, started_dry]
  generalize orchestrator.started surroundings workflowName params false = start
  rcases start with ⟨state, calls, raised⟩
  cases raised with
  | some message => exact failed_marked orchestrator surroundings workflowName state message calls
  | none =>
    cases orchestrator.workflow.getWorkflow workflowName with
    | none => rfl
    | some workflow =>
      exact execute_workflow_dry orchestrator surroundings workflowName workflow state calls

end Flag

section Calls

/-- The attached engine that answers the task. -/
def routed (task : Task) : Option Engine :=
  [Engine.registry, .generator, .decision, .memory, .audit].find? fun engine =>
    (orchestrator.router.route task.type task.params).equal (.str engine.name) &&
      orchestrator.attached engine

/-- The engine whose operation the task performs. -/
def addressed (task : Task) : Option Engine :=
  (orchestrator.routed task).filter fun engine => engine.performs task.params

/-- The task performs an operation of the registry, the generator, the decision engine or
the memory engine. -/
def Writes (task : Task) : Prop :=
  ∃ engine, orchestrator.addressed task = some engine ∧ engine ≠ .audit

def perform (engine : Engine) (params : Params) (dryRun : Bool) (calls : List EngineCall) :
    Attempt :=
  match engine with
  | .registry => orchestrator.executeRegistry surroundings params dryRun calls
  | .generator => orchestrator.executeGenerator surroundings params dryRun calls
  | .decision => orchestrator.executeDecision surroundings params dryRun calls
  | .memory => orchestrator.executeMemory surroundings params dryRun calls
  | .audit => orchestrator.executeAudit surroundings params dryRun calls

theorem routed_attached {task : Task} {engine : Engine}
    (here : orchestrator.routed task = some engine) : orchestrator.attached engine = true := by
  have accepted := List.find?_some here
  exact (Bool.and_eq_true_iff.mp accepted).2

theorem execute_step_routed (task : Task) (dryRun : Bool) (calls : List EngineCall) :
    orchestrator.executeStep surroundings task dryRun calls =
      match orchestrator.routed task with
      | some engine => orchestrator.perform surroundings engine task.params dryRun calls
      | none =>
        { calls := calls
          result := .ok (.dict [("status", .str "skipped"),
            ("reason", .str ("No engine for target: " ++ surroundings.text
              (orchestrator.router.route task.type task.params)))]) } := by
  simp only [executeStep, routed, List.find?_cons, List.find?_nil, Engine.name]
  generalize orchestrator.router.route task.type task.params = target
  generalize (target.equal (.str "registry") && orchestrator.attached .registry) = toRegistry
  generalize (target.equal (.str "generator") && orchestrator.attached .generator) = toGenerator
  generalize (target.equal (.str "decision") && orchestrator.attached .decision) = toDecision
  generalize (target.equal (.str "memory") && orchestrator.attached .memory) = toMemory
  generalize (target.equal (.str "audit") && orchestrator.attached .audit) = toAudit
  -- the engines are tried in the order in which both sides list them
  cases toRegistry
  · cases toGenerator
    · cases toDecision
      · cases toMemory
        · cases toAudit <;> rfl
        · rfl
      · rfl
    · rfl
  · rfl

theorem handled_performed {engine : Engine} (here : orchestrator.attached engine = true)
    (title supported : String) (call : EngineCall) (answer : PyValue → PyValue)
    {params : Params}
    (asked : (params.getD "action" (.str supported)).equal (.str supported) = true)
    (calls : List EngineCall) :
    orchestrator.handled surroundings engine title supported call answer params calls =
      { calls := calls ++ [call], result := (surroundings.respond calls call).map answer } := by
  simp [handled, here, asked]

theorem handled_skipped {engine : Engine} (here : orchestrator.attached engine = true)
    (title supported : String) (call : EngineCall) (answer : PyValue → PyValue)
    {params : Params}
    (other : (params.getD "action" (.str supported)).equal (.str supported) = false)
    (calls : List EngineCall) :
    ∃ result, orchestrator.handled surroundings engine title supported call answer params calls =
      { calls := calls, result := .ok result } := by
  simp [handled, here, other]

theorem perform_untouched {engine : Engine} (here : orchestrator.attached engine = true)
    {params : Params} (idle : engine.performs params = false) (dryRun : Bool)
    (calls : List EngineCall) :
    ∃ result, orchestrator.perform surroundings engine params dryRun calls =
      { calls := calls, result := .ok result } := by
  cases engine with
  | generator => cases idle
  | registry => exact handled_skipped orchestrator surroundings here _ _ _ _ idle calls
  | decision => exact handled_skipped orchestrator surroundings here _ _ _ _ idle calls
  | memory => exact handled_skipped orchestrator surroundings here _ _ _ _ idle calls
  | audit => exact handled_skipped orchestrator surroundings here _ _ _ _ idle calls

theorem perform_calls {engine : Engine} (here : orchestrator.attached engine = true)
    {params : Params} (active : engine.performs params = true) (dryRun : Bool)
    (calls : List EngineCall) :
    ∃ call, call.engine = engine ∧
      (orchestrator.perform surroundings engine params dryRun calls).calls = calls ++ [call] := by
  cases engine with
  | generator => exact ⟨.generate params, rfl, by simp [perform, executeGenerator, here]⟩
  | registry =>
    exact ⟨.loadRegistry, rfl, congrArg Attempt.calls
      (handled_performed orchestrator surroundings here _ _ _ _ active calls)⟩
  | decision =>
    refine ⟨_, ?_, congrArg Attempt.calls
      (handled_performed orchestrator surroundings here _ _ _ _ active calls)⟩
    rfl
  | memory =>
    refine ⟨_, ?_, congrArg Attempt.calls
      (handled_performed orchestrator surroundings here _ _ _ _ active calls)⟩
    rfl
  | audit =>
    exact ⟨.record (stepEvent params), rfl, congrArg Attempt.calls
      (handled_performed orchestrator surroundings here _ _ _ _ active calls)⟩

variable {task : Task}

theorem addressed_some {engine : Engine} (here : orchestrator.addressed task = some engine) :
    orchestrator.routed task = some engine ∧ orchestrator.attached engine = true ∧
      engine.performs task.params = true := by
  have parts := Option.filter_eq_some_iff.mp here
  exact ⟨parts.1, routed_attached orchestrator parts.1, parts.2⟩

theorem execute_step_untouched (nowhere : orchestrator.addressed task = none) (dryRun : Bool)
    (calls : List EngineCall) :
    ∃ result, orchestrator.executeStep surroundings task dryRun calls =
      { calls := calls, result := .ok result } := by
  rw [execute_step_routed]
  cases here : orchestrator.routed task with
  | none => exact ⟨_, rfl⟩
  | some engine =>
    have idle : engine.performs task.params = false := by
      simpa [addressed, here, Option.filter_some] using nowhere
    exact perform_untouched orchestrator surroundings (routed_attached orchestrator here) idle
      dryRun calls

theorem execute_step_calls {engine : Engine} (here : orchestrator.addressed task = some engine)
    (dryRun : Bool) (calls : List EngineCall) :
    ∃ call, call.engine = engine ∧
      (orchestrator.executeStep surroundings task dryRun calls).calls = calls ++ [call] := by
  obtain ⟨target, attached, active⟩ := addressed_some orchestrator here
  rw [execute_step_routed, target]
  exact perform_calls orchestrator surroundings attached active dryRun calls

theorem execute_step_records (here : orchestrator.addressed task = some .audit) (dryRun : Bool)
    (calls : List EngineCall) :
    orchestrator.executeStep surroundings task dryRun calls =
      { calls := calls ++ [.record (stepEvent task.params)]
        result := (surroundings.respond calls (.record (stepEvent task.params))).map
          fun _ => completed "record_audit" [] } := by
  obtain ⟨target, attached, active⟩ := addressed_some orchestrator here
  rw [execute_step_routed, target]
  exact handled_performed orchestrator surroundings attached _ _ _ _ active calls

end Calls

section Rehearsal

/-- The call that the task makes to the audit trail. -/
def records (task : Task) : Option EngineCall :=
  if orchestrator.addressed task = some .audit then some (.record (stepEvent task.params))
  else none

/-- The audit trail refuses the record of the task. -/
def Raises (calls : List EngineCall) (task : Task) : Prop :=
  orchestrator.addressed task = some .audit ∧
    ∃ message, surroundings.respond calls (.record (stepEvent task.params)) = .error message

/-- One of the tasks has its record refused, given the records of those before it. -/
def StoppedIn (calls : List EngineCall) (tasks : List Task) : Prop :=
  ∃ before stop after, tasks = before ++ stop :: after ∧
    orchestrator.Raises surroundings (calls ++ before.filterMap orchestrator.records) stop

/-- Every writing task of the plan comes after a refused record. -/
def Harmless (calls : List EngineCall) (plan : List Task) : Prop :=
  ∀ early task late, plan = early ++ task :: late → orchestrator.Writes task →
    orchestrator.StoppedIn surroundings calls early

theorem stopped_nil (calls : List EngineCall) : ¬orchestrator.StoppedIn surroundings calls [] := by
  rintro ⟨before, stop, after, parts, _⟩
  simp at parts

theorem stopped_cons (calls : List EngineCall) (task : Task) (rest : List Task) :
    orchestrator.StoppedIn surroundings calls (task :: rest) ↔
      orchestrator.Raises surroundings calls task ∨
        orchestrator.StoppedIn surroundings (calls ++ (orchestrator.records task).toList) rest := by
  constructor
  · rintro ⟨before, stop, after, parts, raises⟩
    cases before with
    | nil =>
      obtain ⟨rfl, rfl⟩ := List.cons.inj parts
      left
      simpa using raises
    | cons first before =>
      obtain ⟨rfl, rfl⟩ := List.cons.inj parts
      right
      refine ⟨before, stop, after, rfl, ?_⟩
      cases recorded : orchestrator.records task <;>
        simpa [List.filterMap_cons, recorded] using raises
  · rintro (raises | ⟨before, stop, after, rfl, raises⟩)
    · exact ⟨[], task, rest, rfl, by simpa using raises⟩
    · refine ⟨task :: before, stop, after, rfl, ?_⟩
      cases recorded : orchestrator.records task <;>
        simpa [List.filterMap_cons, recorded] using raises

theorem harmless_nil (calls : List EngineCall) : orchestrator.Harmless surroundings calls [] := by
  intro early task late parts
  simp at parts

theorem harmless_cons (calls : List EngineCall) (task : Task) (rest : List Task) :
    orchestrator.Harmless surroundings calls (task :: rest) ↔ ¬orchestrator.Writes task ∧
        (orchestrator.Raises surroundings calls task ∨
          orchestrator.Harmless surroundings (calls ++ (orchestrator.records task).toList)
            rest) := by
  constructor
  · intro harmless
    constructor
    · intro writes
      exact stopped_nil orchestrator surroundings calls (harmless [] task rest rfl writes)
    · by_cases raises : orchestrator.Raises surroundings calls task
      · exact Or.inl raises
      · right
        intro early writer late parts writes
        have stopped := harmless (task :: early) writer late (by rw [parts]; rfl) writes
        exact ((stopped_cons orchestrator surroundings calls task early).mp stopped).resolve_left
          raises
  · rintro ⟨quiet, later⟩ early writer late parts writes
    cases early with
    | nil =>
      obtain ⟨rfl, rfl⟩ := List.cons.inj parts
      exact absurd writes quiet
    | cons first early =>
      obtain ⟨rfl, rfl⟩ := List.cons.inj parts
      rw [stopped_cons]
      rcases later with raises | harmless
      · exact Or.inl raises
      · exact Or.inr (harmless early writer late rfl writes)

theorem step_calls_kept (task : Task) (dryRun : Bool) (calls : List EngineCall) :
    calls ⊆ (orchestrator.executeStep surroundings task dryRun calls).calls := by
  cases here : orchestrator.addressed task with
  | none =>
    obtain ⟨result, same⟩ := execute_step_untouched orchestrator surroundings here dryRun calls
    rw [same]
    exact List.Subset.refl calls
  | some engine =>
    obtain ⟨call, _, made⟩ := execute_step_calls orchestrator surroundings here dryRun calls
    rw [made]
    exact List.subset_append_left calls [call]

theorem run_plan_calls_kept (dryRun : Bool) (plan : List Task) (state : ExecutionState)
    (calls : List EngineCall) :
    calls ⊆ (orchestrator.runPlan surroundings dryRun plan state calls).calls := by
  induction plan generalizing state calls with
  | nil => exact List.Subset.refl calls
  | cons task rest ih =>
    have kept := step_calls_kept orchestrator surroundings task dryRun calls
    rw [runPlan]
    cases (orchestrator.executeStep surroundings task dryRun calls).result with
    | error message => exact kept
    | ok result => exact List.Subset.trans kept (ih _ _)

theorem run_plan_writes {task : Task} (writes : orchestrator.Writes task) (dryRun : Bool)
    (rest : List Task) (state : ExecutionState) (calls : List EngineCall) :
    ∃ call ∈ (orchestrator.runPlan surroundings dryRun (task :: rest) state calls).calls,
      call.changesState = true := by
  obtain ⟨engine, here, other⟩ := writes
  obtain ⟨call, targets, made⟩ := execute_step_calls orchestrator surroundings here dryRun calls
  have reached : call ∈ (orchestrator.executeStep surroundings task dryRun calls).calls := by
    rw [made]
    exact List.mem_append_right calls (List.mem_singleton_self call)
  refine ⟨call, ?_, by simp [EngineCall.changesState, targets, other]⟩
  rw [runPlan]
  cases (orchestrator.executeStep surroundings task dryRun calls).result with
  | error message => exact reached
  | ok result => exact run_plan_calls_kept orchestrator surroundings dryRun _ _ _ reached

theorem run_plan_harmless (dryRun : Bool) (plan : List Task) (state : ExecutionState)
    (calls : List EngineCall) (clean : ∀ call ∈ calls, call.changesState = false) :
    (∀ call ∈ (orchestrator.runPlan surroundings dryRun plan state calls).calls,
      call.changesState = false) ↔ orchestrator.Harmless surroundings calls plan := by
  induction plan generalizing state calls with
  | nil => exact iff_of_true clean (harmless_nil orchestrator surroundings calls)
  | cons task rest ih =>
    rw [harmless_cons]
    cases here : orchestrator.addressed task with
    | none =>
      have quiet : ¬orchestrator.Writes task := by simp [Writes, here]
      have mute : ¬orchestrator.Raises surroundings calls task := by simp [Raises, here]
      have silent : orchestrator.records task = none := by simp [records, here]
      obtain ⟨result, same⟩ :=
        execute_step_untouched orchestrator surroundings here dryRun calls
      rw [runPlan, same, silent]
      simpa [quiet, mute] using ih (state.recordStep task.type result) calls clean
    | some engine =>
      by_cases audit : engine = .audit
      · rw [audit] at here
        have quiet : ¬orchestrator.Writes task := by simp [Writes, here]
        have record : orchestrator.records task = some (.record (stepEvent task.params)) := by
          simp [records, here]
        have stillClean : ∀ call ∈ calls ++ [.record (stepEvent task.params)],
            call.changesState = false := by
          intro call member
          rcases List.mem_append.mp member with old | new
          · exact clean call old
          · rw [List.mem_singleton.mp new]
            rfl
        rw [runPlan, execute_step_records orchestrator surroundings here, record]
        cases answer : surroundings.respond calls (.record (stepEvent task.params)) with
        | error message =>
          exact iff_of_true stillClean ⟨quiet, Or.inl ⟨here, message, answer⟩⟩
        | ok value =>
          have accepted : ¬orchestrator.Raises surroundings calls task := by
            simp [Raises, answer]
          simpa [quiet, accepted, Except.map] using ih _ _ stillClean
      · have writes : orchestrator.Writes task := ⟨engine, here, audit⟩
        obtain ⟨call, made, changes⟩ :=
          run_plan_writes orchestrator surroundings writes dryRun rest state calls
        refine iff_of_false ?_ fun harmless => harmless.1 writes
        intro untouched
        rw [untouched call made] at changes
        cases changes

theorem audited_clean (state : ExecutionState) (calls : List EngineCall) (event : AuditEvent) :
    (∀ call ∈ (orchestrator.audited surroundings state calls event).calls,
      call.changesState = false) ↔ ∀ call ∈ calls, call.changesState = false := by
  unfold audited
  split
  · rw [List.forall_mem_append]
    exact and_iff_left (by simp [EngineCall.changesState, EngineCall.engine])
  · exact Iff.rfl

theorem conclude_clean (workflowName : String) (state : ExecutionState)
    (status : ExecutionStatus) (error : Option String) (calls : List EngineCall) :
    (∀ call ∈ (orchestrator.conclude surroundings workflowName state status error calls).calls,
      call.changesState = false) ↔ ∀ call ∈ calls, call.changesState = false :=
  audited_clean orchestrator surroundings state calls (completeEvent workflowName status)

theorem execute_workflow_clean (workflowName : String) (workflow : WorkflowDefinition)
    (dryRun : Bool) (state : ExecutionState) (calls : List EngineCall)
    (clean : ∀ call ∈ calls, call.changesState = false) :
    (∀ call ∈ (orchestrator.executeWorkflow surroundings workflowName workflow dryRun state
        calls).calls, call.changesState = false) ↔
      ∀ plan, TaskScheduler.createPlan surroundings.stackDepth workflow = .ok plan →
        orchestrator.Harmless surroundings calls plan := by
  rw [executeWorkflow]
  cases TaskScheduler.createPlan surroundings.stackDepth workflow with
  | error message =>
    have ended := conclude_clean orchestrator surroundings workflowName (state.fail message)
      .failed (some message) calls
    exact iff_of_true (ended.mpr clean) fun plan impossible => nomatch impossible
  | ok plan =>
    have loop := run_plan_harmless orchestrator surroundings dryRun plan (state.setPlan plan)
      calls clean
    simp only [Except.ok.injEq, forall_eq', ← loop]
    generalize orchestrator.runPlan surroundings dryRun plan (state.setPlan plan) calls = progress
    rcases progress with ⟨reached, made, raised⟩
    cases raised with
    | some message => exact conclude_clean orchestrator surroundings workflowName _ _ _ made
    | none => exact conclude_clean orchestrator surroundings workflowName _ _ _ made

/-- The record that opens the execution. -/
def opening (workflowName : String) (params : Option Params) : List EngineCall :=
  if orchestrator.attached .audit then [.record (startEvent workflowName params)] else []

def OpeningRefused (workflowName : String) (params : Option Params) : Prop :=
  orchestrator.attached .audit = true ∧
    ∃ message, surroundings.respond [] (.record (startEvent workflowName params)) = .error message

/-- Where the opening record is accepted, every writing task of the workflow's plan comes
after a task whose record is refused. -/
def Rehearses (workflowName : String) (params : Option Params) : Prop :=
  ¬orchestrator.OpeningRefused surroundings workflowName params →
    ∀ workflow plan, orchestrator.workflow.getWorkflow workflowName = some workflow →
      TaskScheduler.createPlan surroundings.stackDepth workflow = .ok plan →
      orchestrator.Harmless surroundings (orchestrator.opening workflowName params) plan

theorem started_calls (workflowName : String) (params : Option Params) (dryRun : Bool) :
    (orchestrator.started surroundings workflowName params dryRun).calls =
      orchestrator.opening workflowName params := by
  unfold started audited opening
  split <;> rfl

theorem started_refused (workflowName : String) (params : Option Params) (dryRun : Bool) :
    (∃ message, (orchestrator.started surroundings workflowName params dryRun).raised =
      some message) ↔ orchestrator.OpeningRefused surroundings workflowName params := by
  unfold started audited OpeningRefused
  split
  next attached =>
    cases surroundings.respond [] (.record (startEvent workflowName params)) <;> simp [attached]
  next detached => simp [detached]

theorem opening_clean (workflowName : String) (params : Option Params) :
    ∀ call ∈ orchestrator.opening workflowName params, call.changesState = false := by
  unfold opening
  split <;> simp [EngineCall.changesState, EngineCall.engine]

theorem execute_clean_iff (workflowName : String) (params : Option Params) (dryRun : Bool) :
    (∀ call ∈ (orchestrator.execute surroundings workflowName params dryRun).calls,
      call.changesState = false) ↔
      orchestrator.Rehearses surroundings workflowName params := by
  have clean := opening_clean orchestrator workflowName params
  have refused := started_refused orchestrator surroundings workflowName params dryRun
  rw [execute, Rehearses, ← refused, ← started_calls orchestrator surroundings _ _ dryRun]
  rw [← started_calls orchestrator surroundings _ _ dryRun] at clean
  generalize orchestrator.started surroundings workflowName params dryRun = start at *
  rcases start with ⟨state, calls, raised⟩
  cases raised with
  | some message =>
    have ended := conclude_clean orchestrator surroundings workflowName (state.fail message)
      .failed (some message) calls
    exact iff_of_true (ended.mpr clean) fun accepted => absurd ⟨message, rfl⟩ accepted
  | none =>
    cases orchestrator.workflow.getWorkflow workflowName with
    | none => exact iff_of_true clean fun _ workflow plan impossible => nomatch impossible
    | some workflow =>
      have body := execute_workflow_clean orchestrator surroundings workflowName workflow
        dryRun state calls clean
      refine body.trans ⟨?_, ?_⟩
      · intro harmless _ other plan same made
        cases same
        exact harmless plan made
      · intro harmless plan made
        have accepted : ¬∃ message, (none : Option String) = some message := by simp
        exact harmless accepted workflow plan rfl made

end Rehearsal

section Accepting

variable {orchestrator surroundings}
  (accepting : ∀ calls event, ∃ value, surroundings.respond calls (.record event) = .ok value)

include accepting

end Accepting

section DryRun

/-- A dry run touches no engine but the audit trail, and reports the step types of the real
run, exactly if every writing task of the plan comes after a refused record. -/
theorem dry_run_harmless_iff (workflowName : String) (params : Option Params) :
    ((∀ call ∈ (orchestrator.execute surroundings workflowName params true).calls,
        call.changesState = false) ∧
      (orchestrator.execute surroundings workflowName params true).report.map Report.stepTypes =
        (orchestrator.execute surroundings workflowName params false).report.map Report.stepTypes) ↔
      orchestrator.Rehearses surroundings workflowName params := by
  have sameTypes :
      (orchestrator.execute surroundings workflowName params true).report.map Report.stepTypes =
        (orchestrator.execute surroundings workflowName params false).report.map
          Report.stepTypes := by
    rw [execute_dry_run]
    cases report : (orchestrator.execute surroundings workflowName params false).report <;>
      simp [Execution.marked, report, Except.map, Report.marked, Report.stepTypes]
  rw [execute_clean_iff orchestrator surroundings workflowName params true]
  exact and_iff_left sameTypes

def generatorOnly : OrchestrationEngine :=
  { attached := fun engine => engine = .generator
    router := TaskRouter.created
    workflow := WorkflowManager.created }

def obliging : Surroundings :=
  { respond := fun _ _ => .ok (.dict [("status", .str "completed")])
    text := fun _ => ""
    stackDepth := 1000 }

/-- The built-in workflow generates in its dry run. -/
theorem generate_company_not_rehearsed :
    ¬((∀ call ∈ (generatorOnly.execute obliging "generate_company" none true).calls,
        call.changesState = false) ∧
      (generatorOnly.execute obliging "generate_company" none true).report.map Report.stepTypes =
        (generatorOnly.execute obliging "generate_company" none false).report.map
          Report.stepTypes) := by
  have made : ((generatorOnly.execute obliging "generate_company" none true).calls.any
      EngineCall.changesState) = true := by
    decide +kernel
  obtain ⟨call, member, changes⟩ := List.any_eq_true.mp made
  rintro ⟨untouched, _⟩
  rw [untouched call member] at changes
  cases changes

end DryRun

end OrchestrationEngine

end AiEnterpriseOs.Orchestrator
