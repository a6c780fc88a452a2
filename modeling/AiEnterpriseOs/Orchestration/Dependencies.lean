import AiEnterpriseOs.Orchestration.Models
import Mathlib.Data.List.Flatten

/-!
# Dependency resolution for orchestration pipelines

Validation of a pipeline's dependency lists, the depth-first cycle search and
the ready-task query of the pipeline runner.
-/

namespace AiEnterpriseOs.Orchestration

open Library

inductive MissingDependencyPolicy where
  | raise
  | warn
  | skip
  deriving DecidableEq, Repr

inductive SelfDependencyPolicy where
  | raise
  | warn
  | ignore
  deriving DecidableEq, Repr

structure DependencyConfig where
  maxParallelTasks : Int := 4
  detectCycles : Bool := true
  missingDependencyPolicy : MissingDependencyPolicy := .raise
  selfDependencyPolicy : SelfDependencyPolicy := .raise
  deriving DecidableEq

inductive PlanError where
  | dependencyError (message : String) (cycle : List String)
  | invalidPlanError (message : String)
  deriving DecidableEq, Repr

namespace PlanError

def text : PlanError → String
  | dependencyError message _ => "DependencyError: " ++ message
  | invalidPlanError message => "InvalidPlanError: " ++ message

end PlanError

/-- `repr` of an identifier, which has no quotes or escapes of its own. -/
def quoted (text : String) : String := "'" ++ text ++ "'"

abbrev DependencyMap := OrderedDict String (List TaskDependency)

def dependenciesIn (deps : DependencyMap) (taskId : String) :
    List TaskDependency :=
  deps.getD taskId []

/-- The inner loop of `_validate` over the dependencies of one task. -/
def validateTask (config : DependencyConfig)
    (tasks : OrderedDict String PipelineTask) (task : PipelineTask) :
    List String → DependencyMap → Except PlanError DependencyMap
  | [], deps => .ok deps
  | dep :: rest, deps =>
    if dep = task.id then
      if config.selfDependencyPolicy = .ignore then
        validateTask config tasks task rest deps
      else
        .error (.dependencyError ("Task " ++ quoted task.id ++ " depends on itself") [task.id])
    else if tasks.get? dep |>.isNone then
      if config.missingDependencyPolicy = .skip then
        validateTask config tasks task rest deps
      else
        .error (.invalidPlanError ("Task " ++ quoted task.id ++ " references unknown dependency " ++
            quoted dep))
    else
      validateTask config tasks task rest
        (deps.set task.id (dependenciesIn deps task.id ++ [{ taskId := dep }]))

def validateTasks (config : DependencyConfig) (tasks : OrderedDict String PipelineTask) :
    List PipelineTask → DependencyMap → Except PlanError DependencyMap
  | [], deps => .ok deps
  | task :: rest, deps =>
    match validateTask config tasks task task.dependencies deps with
    | .error error => .error error
    | .ok extended => validateTasks config tasks rest extended

/-- `visit` of `find_cycle`: `path` is the current chain and `visited` the
tasks already entered. The error is the cycle found; the depth bound is at
least the number of tasks that can still be entered. -/
def visit (deps : DependencyMap) :
    Nat → List String → List String → String → Except (List String) (List String)
  | depth, path, visited, taskId =>
    if taskId ∈ path then
      .error (path.drop (path.idxOf taskId) ++ [taskId])
    else if taskId ∈ visited then
      .ok visited
    else
      match depth with
      | 0 => .ok visited
      | depth + 1 =>
        (dependenciesIn deps taskId).foldlM
          (fun seen dep => visit deps depth (path ++ [taskId]) seen dep.taskId)
          (taskId :: visited)

/-- The first dependency cycle found, or an empty list. -/
def findCycle (pipeline : Pipeline) (deps : DependencyMap) : List String :=
  match pipeline.allTasks.foldlM
      (fun seen task => visit deps pipeline.allTasks.length [] seen task.id)
      ([] : List String) with
  | .error cycle => cycle
  | .ok _ => []

def validate (pipeline : Pipeline) (config : DependencyConfig) :
    Except PlanError DependencyMap :=
  match validateTasks config pipeline.taskMap pipeline.allTasks OrderedDict.empty with
  | .error error => .error error
  | .ok deps =>
    if config.detectCycles then
      match findCycle pipeline deps with
      | [] => .ok deps
      | cycle =>
        .error (.dependencyError ("Cyclic task dependency detected: " ++
            String.intercalate " -> " cycle) cycle)
    else .ok deps

def RequiredOnly (deps : DependencyMap) : Prop :=
  ∀ taskId, ∀ dep ∈ dependenciesIn deps taskId, dep.type = "required"

theorem dependencies_in_set (deps : DependencyMap) (taskId other : String)
    (entries : List TaskDependency) :
    dependenciesIn (deps.set taskId entries) other =
      if other = taskId then entries else dependenciesIn deps other := by
  unfold dependenciesIn OrderedDict.getD
  rw [OrderedDict.get_set]
  split <;> rfl

/-! ## What validation records -/

section Validation

/-- A dependency on another task that exists. -/
def Proper (tasks : OrderedDict String PipelineTask) (task : PipelineTask) (name : String) :
    Prop :=
  name ≠ task.id ∧ (tasks.get? name).isSome

instance (tasks : OrderedDict String PipelineTask) (task : PipelineTask) (name : String) :
    Decidable (Proper tasks task name) :=
  inferInstanceAs (Decidable (_ ∧ _))

/-- An improper dependency is passed over where the configuration says so. -/
def Admitted (config : DependencyConfig) (tasks : OrderedDict String PipelineTask)
    (task : PipelineTask) (name : String) : Prop :=
  (name = task.id → config.selfDependencyPolicy = .ignore) ∧
    (name ≠ task.id → tasks.get? name = none → config.missingDependencyPolicy = .skip)

def recordsOf (tasks : OrderedDict String PipelineTask) (task : PipelineTask)
    (names : List String) : List TaskDependency :=
  (names.filter fun name => Proper tasks task name).map fun name => { taskId := name }

variable {config : DependencyConfig} {tasks : OrderedDict String PipelineTask}
  {task : PipelineTask} {name : String} {names : List String} {deps extended : DependencyMap}
  {listed : List PipelineTask}

theorem records_of_proper (proper : Proper tasks task name) : recordsOf tasks task (name :: names) =
      { taskId := name } :: recordsOf tasks task names := by
  simp [recordsOf, proper]

theorem records_of_improper (improper : ¬Proper tasks task name) :
    recordsOf tasks task (name :: names) = recordsOf tasks task names := by
  simp [recordsOf, improper]

theorem validate_task_cases (config : DependencyConfig)
    (tasks : OrderedDict String PipelineTask) (task : PipelineTask) (name : String)
    (names : List String) (deps : DependencyMap) :
    (¬Admitted config tasks task name ∧
      ∃ error, validateTask config tasks task (name :: names) deps = .error error) ∨
    (Admitted config tasks task name ∧ ¬Proper tasks task name ∧
      validateTask config tasks task (name :: names) deps =
        validateTask config tasks task names deps) ∨
    (Admitted config tasks task name ∧ Proper tasks task name ∧
      validateTask config tasks task (name :: names) deps = validateTask config tasks task names
          (deps.set task.id (dependenciesIn deps task.id ++ [{ taskId := name }]))) := by
  rw [validateTask]
  by_cases self : name = task.id
  · have improper : ¬Proper tasks task name := fun proper => proper.1 self
    rw [if_pos self]
    by_cases ignored : config.selfDependencyPolicy = .ignore
    · rw [if_pos ignored]
      exact Or.inr (Or.inl ⟨⟨fun _ => ignored, fun other => absurd self other⟩, improper, rfl⟩)
    · rw [if_neg ignored]
      exact Or.inl ⟨fun admitted => ignored (admitted.1 self), _, rfl⟩
  · rw [if_neg self]
    cases known : tasks.get? name with
    | none =>
      have improper : ¬Proper tasks task name := by
        intro proper
        have present := proper.2
        rw [known] at present
        cases present
      rw [if_pos Option.isNone_none]
      by_cases skipped : config.missingDependencyPolicy = .skip
      · rw [if_pos skipped]
        exact Or.inr (Or.inl ⟨⟨fun same => absurd same self, fun _ _ => skipped⟩, improper, rfl⟩)
      · rw [if_neg skipped]
        exact Or.inl ⟨fun admitted => skipped (admitted.2 self known), _, rfl⟩
    | some other =>
      have proper : Proper tasks task name := ⟨self, by rw [known, Option.isSome_some]⟩
      have admitted : Admitted config tasks task name :=
        ⟨fun same => absurd same self, fun _ unknown => by rw [known] at unknown; cases unknown⟩
      exact Or.inr (Or.inr ⟨admitted, proper, rfl⟩)

theorem validate_task_accepts_iff (names : List String) (deps : DependencyMap) :
    (∃ extended, validateTask config tasks task names deps = .ok extended) ↔
      ∀ name ∈ names, Admitted config tasks task name := by
  induction names generalizing deps with
  | nil => simp [validateTask]
  | cons name rest ih =>
    rw [List.forall_mem_cons]
    rcases validate_task_cases config tasks task name rest deps with
      ⟨refused, error, fails⟩ | ⟨admitted, _, passes⟩ | ⟨admitted, _, records⟩
    · simp [fails, refused]
    · rw [passes, ih]
      exact (and_iff_right admitted).symm
    · rw [records, ih]
      exact (and_iff_right admitted).symm

theorem validate_task_entries
    (accepted : validateTask config tasks task names deps = .ok extended) (taskId : String) :
    dependenciesIn extended taskId = dependenciesIn deps taskId ++
      if taskId = task.id then recordsOf tasks task names else [] := by
  induction names generalizing deps with
  | nil =>
    cases accepted
    simp [recordsOf]
  | cons name rest ih =>
    rcases validate_task_cases config tasks task name rest deps with
      ⟨_, error, fails⟩ | ⟨_, improper, passes⟩ | ⟨_, proper, records⟩
    · rw [fails] at accepted
      cases accepted
    · rw [passes] at accepted
      rw [ih accepted, records_of_improper improper]
    · rw [records] at accepted
      rw [ih accepted, dependencies_in_set, records_of_proper proper]
      by_cases same : taskId = task.id
      · rw [if_pos same, if_pos same, if_pos same, same, List.append_assoc, List.singleton_append]
      · rw [if_neg same, if_neg same, if_neg same]

theorem validate_tasks_accepts_iff (listed : List PipelineTask) (deps : DependencyMap) :
    (∃ extended, validateTasks config tasks listed deps = .ok extended) ↔
      ∀ task ∈ listed, ∀ name ∈ task.dependencies, Admitted config tasks task name := by
  induction listed generalizing deps with
  | nil => simp [validateTasks]
  | cons task rest ih =>
    rw [List.forall_mem_cons, ← validate_task_accepts_iff task.dependencies deps, validateTasks]
    cases validateTask config tasks task task.dependencies deps with
    | error error => simp
    | ok reached => simp [ih reached]

theorem validate_tasks_entries
    (accepted : validateTasks config tasks listed deps = .ok extended) (taskId : String) :
    dependenciesIn extended taskId = dependenciesIn deps taskId ++
      (listed.filter fun task => taskId = task.id).flatMap fun task =>
        recordsOf tasks task task.dependencies := by
  induction listed generalizing deps with
  | nil =>
    cases accepted
    simp
  | cons task rest ih =>
    rw [validateTasks] at accepted
    cases found : validateTask config tasks task task.dependencies deps with
    | error error =>
      rw [found] at accepted
      cases accepted
    | ok reached =>
      rw [found] at accepted
      rw [ih accepted, validate_task_entries found, List.append_assoc]
      by_cases same : taskId = task.id
      · simp [same]
      · simp [same]

theorem mem_recorded_iff
    (accepted : validateTasks config tasks listed OrderedDict.empty = .ok extended)
    (taskId : String) (dep : TaskDependency) :
    dep ∈ dependenciesIn extended taskId ↔ ∃ task ∈ listed, taskId = task.id ∧
        ∃ name ∈ task.dependencies, Proper tasks task name ∧ dep = { taskId := name } := by
  rw [validate_tasks_entries accepted]
  simp only [recordsOf, List.mem_append, List.mem_flatMap, List.mem_filter, List.mem_map,
    decide_eq_true_iff, and_assoc]
  have nothing : dep ∉ dependenciesIn OrderedDict.empty taskId := by
    intro member
    cases member
  rw [or_iff_right nothing]
  simp only [eq_comm (a := dep)]

theorem validate_recorded {pipeline : Pipeline} (accepted : validate pipeline config = .ok deps) :
    validateTasks config pipeline.taskMap pipeline.allTasks OrderedDict.empty = .ok deps := by
  unfold validate at accepted
  split at accepted
  · cases accepted
  next reached found =>
    split at accepted
    · split at accepted
      · cases accepted
        exact found
      · cases accepted
    · cases accepted
      exact found

theorem validate_required {pipeline : Pipeline} (accepted : validate pipeline config = .ok deps) :
    RequiredOnly deps := by
  intro taskId dep member
  obtain ⟨task, _, _, name, _, _, same⟩ :=
    (mem_recorded_iff (validate_recorded accepted) taskId dep).mp member
  rw [same]

end Validation

/-- A validated graph: its dependency map is the one validation built for
this pipeline, so every dependency in it is a required one. -/
structure DependencyGraph where
  pipeline : Pipeline
  config : DependencyConfig
  deps : DependencyMap
  valid : validate pipeline config = .ok deps

def DependencyGraph.build (pipeline : Pipeline) (config : DependencyConfig) :
    Except PlanError DependencyGraph :=
  match found : validate pipeline config with
  | .error error => .error error
  | .ok deps => .ok ⟨pipeline, config, deps, found⟩

namespace DependencyGraph

def dependenciesOf (graph : DependencyGraph) (taskId : String) :
    List TaskDependency :=
  dependenciesIn graph.deps taskId

def depSatisfied (completed : List String) (dep : TaskDependency) : Bool :=
  if dep.taskId ∈ completed then true
  else if dep.type = "optional" then true
  else false

/-- Ids of tasks whose dependencies are all satisfied. -/
def readyTasks (graph : DependencyGraph) (completed failed : List String) :
    List String :=
  (graph.pipeline.allTasks.filter fun task =>
    !(decide (task.id ∈ completed) || decide (task.id ∈ failed)) &&
      (graph.dependenciesOf task.id).all (depSatisfied completed)).map
    fun task => task.id

theorem build_ok {pipeline : Pipeline} {config : DependencyConfig}
    {graph : DependencyGraph} (built : build pipeline config = .ok graph) :
    graph.pipeline = pipeline ∧ graph.config = config := by
  unfold build at built
  split at built
  · cases built
  · cases built
    exact ⟨rfl, rfl⟩

theorem mem_ready_tasks (graph : DependencyGraph)
    (completed failed : List String) (taskId : String) :
    taskId ∈ graph.readyTasks completed failed ↔
      (∃ task ∈ graph.pipeline.allTasks, task.id = taskId) ∧ taskId ∉ completed ∧ taskId ∉ failed ∧
        ∀ dep ∈ graph.dependenciesOf taskId, dep.taskId ∈ completed := by
  have satisfied : ∀ dep ∈ graph.dependenciesOf taskId,
      (depSatisfied completed dep = true ↔ dep.taskId ∈ completed) := by
    intro dep member
    have required := validate_required graph.valid taskId dep member
    simp [depSatisfied, required]
  simp only [readyTasks, List.mem_map, List.mem_filter, Bool.and_eq_true,
    Bool.not_eq_true', Bool.or_eq_false_iff, decide_eq_false_iff_not,
    List.all_eq_true]
  constructor
  · rintro ⟨task, ⟨listed, ⟨undone, clear⟩, deps⟩, rfl⟩
    exact ⟨⟨task, listed, rfl⟩, undone, clear,
      fun dep member => (satisfied dep member).mp (deps dep member)⟩
  · rintro ⟨⟨task, listed, rfl⟩, undone, clear, deps⟩
    exact ⟨task, ⟨listed, ⟨undone, clear⟩,
      fun dep member => (satisfied dep member).mpr (deps dep member)⟩, rfl⟩

end DependencyGraph

theorem DependencyGraph.declared_dependency (graph : DependencyGraph)
    (raiseMissing : graph.config.missingDependencyPolicy ≠ .skip)
    (raiseSelf : graph.config.selfDependencyPolicy ≠ .ignore)
    {task : PipelineTask} (present : task ∈ graph.pipeline.allTasks)
    {name : String} (named : name ∈ task.dependencies) :
    { taskId := name } ∈ graph.dependenciesOf task.id := by
  have accepted := validate_recorded graph.valid
  have admitted : Admitted graph.config graph.pipeline.taskMap task name :=
    (validate_tasks_accepts_iff _ _).mp ⟨graph.deps, accepted⟩ task present name named
  have proper : Proper graph.pipeline.taskMap task name := by
    constructor
    · intro self
      exact raiseSelf (admitted.1 self)
    · by_contra unknown
      have absent := Option.not_isSome_iff_eq_none.mp unknown
      by_cases self : name = task.id
      · exact raiseSelf (admitted.1 self)
      · exact raiseMissing (admitted.2 self absent)
  exact (mem_recorded_iff accepted task.id _).mpr ⟨task, present, rfl, name, named, proper, rfl⟩

end AiEnterpriseOs.Orchestration
