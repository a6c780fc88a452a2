import AiEnterpriseOs.Library.Attempts
import AiEnterpriseOs.Orchestration.Models
import Mathlib.Data.Fintype.EquivFin

/-!
# Retries as configured

The engine takes the settings out of its retries section, hands them to a helper
that takes them out of a retries section, and builds the executor's default
policy from what that finds. Pauses between attempts are left out.
-/

namespace AiEnterpriseOs.Orchestration

open Library

/-- Sections by name. -/
abbrev OrchestrationConfig := OrderedDict String PyValue

/-- The built-in section of `retries.yaml`. -/
def defaultRetriesConfig : List (String × PyValue) :=
  [ ("retries", .dict [ ("default_max_retries", .int 3), ("backoff_base_seconds", .float 1),
        ("backoff_multiplier", .float 2),
        ("max_backoff_seconds", .float 60),
        ("jitter", .float (mkRat 1 10)),
        ("timeout_seconds", .int 3600),
        ("retryable_errors", .list
          [.str "TimeoutError", .str "ConnectionError", .str "TaskExecutionError"]) ]) ]

/-- `value.get(key, fallback)`, which only a dictionary has. -/
def getItem (value : PyValue) (key : String) (fallback : PyValue) : Option PyValue :=
  match value with
  | .dict items => some ((PyValue.field items key).getD fallback)
  | _ => none

/-- `list(value)`. -/
def listItems : PyValue → Option (List PyValue)
  | .list items => some items
  | .dict items => some (items.map fun item => .str item.1)
  | .str text => some (text.toList.map fun char => .str char.toString)
  | _ => none

/-- The arguments of the policy model. -/
structure RetryPolicyData where
  maxRetries : PyValue
  backoffBaseSeconds : PyValue
  backoffMultiplier : PyValue
  maxBackoffSeconds : PyValue
  timeoutSeconds : PyValue
  retryableErrors : List PyValue

/-- `default_retry_policy`, `none` where it raises. -/
def defaultRetryPolicy (retriesCfg : PyValue) : Option RetryPolicyData := do
  let retries ← getItem retriesCfg "retries" (.dict [])
  let maxRetries ← getItem retries "default_max_retries" (.int 3)
  let backoffBaseSeconds ← getItem retries "backoff_base_seconds" (.float 1)
  let backoffMultiplier ← getItem retries "backoff_multiplier" (.float 2)
  let maxBackoffSeconds ← getItem retries "max_backoff_seconds" (.float 60)
  let timeoutSeconds ← getItem retries "timeout_seconds" (.int 3600)
  let errors ← getItem retries "retryable_errors" (.list [])
  let retryableErrors ← listItems errors
  return { maxRetries, backoffBaseSeconds, backoffMultiplier, maxBackoffSeconds,
           timeoutSeconds, retryableErrors }

structure RetryPolicy where
  maxRetries : Int
  retryableErrors : List String
  nonnegative : 0 ≤ maxRetries

/-- What one dispatch of a task comes to; an exception by its type and text. -/
inductive DispatchOutcome where
  | completed (output : PyValue)
  | raised (errorType message : String)

/-- The task fields that the executor reads. -/
structure DispatchedTask where
  id : String
  taskType : String
  engine : String := "unknown"
  retry : Option RetryPolicy := none

/-- `_retryable`, for the type of an exception. -/
def retryable (retryableErrors : List String) (errorType : String) : Bool :=
  if retryableErrors = [] then true else retryableErrors.contains errorType

/-- The part of the executor that dispatches; `coordinator` gives the outcomes
of its calls for the task in their order. -/
structure Dispatcher where
  coordinator : Option (Nat → DispatchOutcome)
  dryRun : Bool

structure TaskExecutor extends Dispatcher where
  defaultRetry : RetryPolicy

def Dispatcher.dispatch (dispatcher : Dispatcher) (task : DispatchedTask) (attempt : Nat) :
    DispatchOutcome :=
  if dispatcher.dryRun then
    .completed (.dict [ ("status", .str "dry_run"), ("task_id", .str task.id),
        ("task_type", .str task.taskType),
        ("engine", .str task.engine) ])
  else
    match dispatcher.coordinator with
    | none => .raised "EngineNotReadyError" "Engine 'coordinator' not configured"
    | some execute => execute attempt

namespace TaskExecutor

variable (executor : TaskExecutor) (task : DispatchedTask)

/-- The attempts that remain of the range, with the outcomes of all dispatches. -/
def attemptsFrom (retry : RetryPolicy) (maxRetries : Nat) (lastError : Option String)
    (attempt : Nat) : Nat → TaskResult × List DispatchOutcome
  | 0 =>
    ({ status := .failed
       error := lastError
       attempts := attempt
       retried := decide (1 < attempt) }, [])
  | remaining + 1 =>
    let attempts := attempt + 1
    match executor.dispatch task attempt with
    | .completed output =>
      ({ status := .completed
         output := output
         attempts := attempts
         retried := decide (1 < attempts) }, [.completed output])
    | .raised errorType message =>
      let lastError := errorType ++ ": " ++ message
      if maxRetries ≤ attempt ∨ retryable retry.retryableErrors errorType = false then
        ({ status := .failed
           error := some lastError
           attempts := attempts
           retried := decide (1 < attempts) }, [.raised errorType message])
      else
        let (result, dispatched) :=
          attemptsFrom retry maxRetries (some lastError) attempts remaining
        (result, .raised errorType message :: dispatched)

def executeTask : TaskResult × List DispatchOutcome :=
  let retry := task.retry.getD executor.defaultRetry
  let maxRetries := (max 0 retry.maxRetries).toNat
  executor.attemptsFrom task retry maxRetries none 0 (maxRetries + 1)

end TaskExecutor

namespace OrchestrationConfig

variable (config : OrchestrationConfig)

/-- `config.get(name, {}).get(name, {})`. -/
def inner (name : String) : Option PyValue :=
  getItem (config.getD name (.dict [])) name (.dict [])

/-- The executor of an engine built from the configuration, `none` where this
raises; `validate` is the policy model that the settings are given to. -/
def executor (validate : RetryPolicyData → Option RetryPolicy)
    (coordinator : Nat → DispatchOutcome) : Option TaskExecutor := do
  let engineCfg ← config.inner "engine"
  let dryRun ← getItem engineCfg "dry_run" (.bool false)
  let retriesCfg ← config.inner "retries"
  let data ← defaultRetryPolicy retriesCfg
  let defaultRetry ← validate data
  return { coordinator := some coordinator, dryRun := dryRun.truthy, defaultRetry }

end OrchestrationConfig

/-! ## The policy model -/

/-- A number that is not a boolean. -/
def realNumber : PyValue → Option Rat
  | .int value => some value
  | .float value => some value
  | _ => none

/-- Settings of the declared types and ranges. -/
structure TypedPolicy (data : RetryPolicyData) (maxRetries : Int) (errors : List String) :
    Prop where
  maxRetries : data.maxRetries = .int maxRetries
  base : ∃ number, realNumber data.backoffBaseSeconds = some number ∧ 0 ≤ number
  multiplier : ∃ number, realNumber data.backoffMultiplier = some number ∧ 1 ≤ number
  longest : ∃ number, realNumber data.maxBackoffSeconds = some number ∧ 0 ≤ number
  timeout : ∃ number, realNumber data.timeoutSeconds = some number ∧ 0 < number
  errors : data.retryableErrors = errors.map .str

/-- The policy model takes such settings as they are. -/
def TakesTyped (validate : RetryPolicyData → Option RetryPolicy) : Prop :=
  ∀ data maxRetries errors (nonnegative : 0 ≤ maxRetries),
    TypedPolicy data maxRetries errors → validate data = some ⟨maxRetries, errors, nonnegative⟩

def stringItem : PyValue → Option String
  | .str text => some text
  | _ => none

def numbersInRange (data : RetryPolicyData) : Bool :=
  (realNumber data.backoffBaseSeconds).any (fun number => 0 ≤ number) &&
    (realNumber data.backoffMultiplier).any (fun number => 1 ≤ number) &&
    (realNumber data.maxBackoffSeconds).any (fun number => 0 ≤ number) &&
    (realNumber data.timeoutSeconds).any (fun number => 0 < number)

/-- The policy model without its conversions: settings of other types are refused. -/
def strictRetryPolicy (data : RetryPolicyData) : Option RetryPolicy :=
  match data.maxRetries with
  | .int maxRetries =>
    if nonnegative : 0 ≤ maxRetries then
      if numbersInRange data then
        (data.retryableErrors.mapM stringItem).map fun errors =>
          { maxRetries := maxRetries, retryableErrors := errors, nonnegative := nonnegative }
      else none
    else none
  | _ => none

theorem string_items (errors : List String) :
    (errors.map PyValue.str).mapM stringItem = some errors := by
  induction errors with
  | nil => rfl
  | cons error rest ih =>
    rw [List.map_cons, List.mapM_cons, ih]
    rfl

theorem strict_takes_typed : TakesTyped strictRetryPolicy := by
  intro data maxRetries errors nonnegative typed
  obtain ⟨base, baseRead, baseRange⟩ := typed.base
  obtain ⟨multiplier, multiplierRead, multiplierRange⟩ := typed.multiplier
  obtain ⟨longest, longestRead, longestRange⟩ := typed.longest
  obtain ⟨timeout, timeoutRead, timeoutRange⟩ := typed.timeout
  have inRange : numbersInRange data = true := by
    rw [numbersInRange, baseRead, multiplierRead, longestRead, timeoutRead]
    simp [baseRange, multiplierRange, longestRange, timeoutRange]
  rw [strictRetryPolicy, typed.maxRetries]
  dsimp only
  rw [dif_pos nonnegative, if_pos inRange, typed.errors, string_items]
  rfl

/-! ## What the configuration says -/

/-- The engine and retries settings of a loaded configuration. -/
structure LoadedConfig (config : OrchestrationConfig) (engine retries : List (String × PyValue))
    (maxRetries : Int) (errors : List String) : Prop where
  engineSection : config.inner "engine" = some (.dict engine)
  retriesSection : config.inner "retries" = some (.dict retries)
  maxRetries : PyValue.field retries "default_max_retries" = some (.int maxRetries)
  errors : PyValue.field retries "retryable_errors" = some (.list (errors.map .str))

/-- An outcome with no further attempt: success, or an error that is not among
the retryable ones. -/
def DispatchOutcome.Final (retryableErrors : List String) : DispatchOutcome → Prop
  | .completed _ => True
  | .raised errorType _ => retryable retryableErrors errorType = false

/-- An engine built from the configuration dispatches the task until the first
final outcome, and at most once more than the configured retries. -/
def RunsConfigured (validate : RetryPolicyData → Option RetryPolicy)
    (config : OrchestrationConfig) (maxRetries : Int) (errors : List String)
    (coordinator : Nat → DispatchOutcome) (task : DispatchedTask) : Prop :=
  ∀ executor, config.executor validate coordinator = some executor →
    ∃ count, (executor.executeTask task).2 = (List.range count).map (executor.dispatch task) ∧
      EndsAfter (DispatchOutcome.Final errors) (maxRetries + 1) (executor.dispatch task) count

/-- The settings that the helper finds, three retries of any error unless there
is a retries section in the retries section, end on the outcomes where the
configured ones do. -/
def SettingsAgree (validate : RetryPolicyData → Option RetryPolicy)
    (retries : List (String × PyValue)) (maxRetries : Int) (errors : List String)
    (outcomes : Nat → DispatchOutcome) : Prop :=
  match PyValue.field retries "retries" with
  | none =>
    EndTogether (DispatchOutcome.Final []) 3 (DispatchOutcome.Final errors) maxRetries outcomes
  | some _ =>
    ∀ data policy, defaultRetryPolicy (.dict retries) = some data → validate data = some policy →
        EndTogether (DispatchOutcome.Final policy.retryableErrors) policy.maxRetries
          (DispatchOutcome.Final errors) maxRetries outcomes

theorem attempts_from_end (executor : TaskExecutor) (task : DispatchedTask)
    (retry : RetryPolicy) {maxRetries : Nat} (remaining : Nat) (lastError : Option String)
    {attempt : Nat} (total : attempt + remaining = maxRetries) :
    ∃ last, last ≤ remaining ∧
      (executor.attemptsFrom task retry maxRetries lastError attempt (remaining + 1)).2 =
        (List.range' attempt (last + 1)).map (executor.dispatch task) ∧
      (∀ earlier < last,
        ¬(executor.dispatch task (attempt + earlier)).Final retry.retryableErrors) ∧
      (attempt + last = maxRetries ∨
        (executor.dispatch task (attempt + last)).Final retry.retryableErrors) := by
  induction remaining generalizing attempt lastError with
  | zero =>
    refine ⟨0, le_rfl, ?_, fun earlier less => absurd less (Nat.not_lt_zero _), Or.inl total⟩
    rw [TaskExecutor.attemptsFrom]
    cases outcome : executor.dispatch task attempt with
    | completed output => simp [outcome]
    | raised errorType message =>
      dsimp only
      rw [if_pos (Or.inl (by omega))]
      simp [outcome]
  | succ remaining ih =>
    rw [TaskExecutor.attemptsFrom]
    cases outcome : executor.dispatch task attempt with
    | completed output =>
      refine ⟨0, Nat.zero_le _, by simp [outcome],
        fun earlier less => absurd less (Nat.not_lt_zero _), Or.inr ?_⟩
      rw [Nat.add_zero, outcome]
      trivial
    | raised errorType message =>
      dsimp only
      by_cases again : retryable retry.retryableErrors errorType = true
      · rw [if_neg (by simp [again]; omega)]
        obtain ⟨last, within, dispatched, before, stopped⟩ :=
          ih (some (errorType ++ ": " ++ message)) (by omega : attempt + 1 + remaining = _)
        refine ⟨last + 1, by omega, ?_, ?_, ?_⟩
        · rw [List.range'_succ, List.map_cons, ← dispatched, outcome]
        · intro earlier less
          cases earlier with
          | zero =>
            rw [Nat.add_zero, outcome, DispatchOutcome.Final, again]
            exact Bool.false_ne_true.symm
          | succ earlier =>
            have later := before earlier (by omega)
            rwa [Nat.add_assoc, Nat.add_comm 1 earlier] at later
        · rwa [Nat.add_assoc, Nat.add_comm 1 last] at stopped
      · have refused := Bool.eq_false_iff.mpr again
        rw [if_pos (Or.inr refused)]
        refine ⟨0, Nat.zero_le _, by simp [outcome],
          fun earlier less => absurd less (Nat.not_lt_zero _), Or.inr ?_⟩
        rw [Nat.add_zero, outcome]
        exact refused

theorem execute_task_ends (executor : TaskExecutor) {task : DispatchedTask}
    (plain : task.retry = none) :
    ∃ count, (executor.executeTask task).2 = (List.range count).map (executor.dispatch task) ∧
      EndsAfter (DispatchOutcome.Final executor.defaultRetry.retryableErrors)
        (executor.defaultRetry.maxRetries + 1) (executor.dispatch task) count := by
  have nonnegative := executor.defaultRetry.nonnegative
  obtain ⟨last, within, dispatched, before, stopped⟩ := attempts_from_end executor task
    executor.defaultRetry (max 0 executor.defaultRetry.maxRetries).toNat none (Nat.zero_add _)
  refine ⟨last + 1, ?_, ?_⟩
  · rw [TaskExecutor.executeTask, plain, Option.getD_none, dispatched, List.range_eq_range']
  · apply (ends_after_iff nonnegative).mpr
    refine ⟨last, rfl, by omega, ?_, ?_⟩
    · intro earlier less
      have goesOn := before earlier less
      rwa [Nat.zero_add] at goesOn
    · rw [Nat.zero_add] at stopped
      exact stopped.imp_left (by omega)

/-! ## The settings that arrive -/

/-- What the helper gives without a retries section in the retries section. -/
def fallbackPolicyData : RetryPolicyData where
  maxRetries := .int 3
  backoffBaseSeconds := .float 1
  backoffMultiplier := .float 2
  maxBackoffSeconds := .float 60
  timeoutSeconds := .int 3600
  retryableErrors := []

theorem fallback_typed : TypedPolicy fallbackPolicyData 3 [] where
  maxRetries := rfl
  base := ⟨1, rfl, by decide⟩
  multiplier := ⟨2, rfl, by decide⟩
  longest := ⟨60, rfl, by decide⟩
  timeout := ⟨3600, rfl, by decide⟩
  errors := rfl

theorem default_policy_fallback {retries : List (String × PyValue)}
    (shallow : PyValue.field retries "retries" = none) :
    defaultRetryPolicy (.dict retries) = some fallbackPolicyData := by
  unfold defaultRetryPolicy getItem
  dsimp only
  rw [shallow]
  rfl

/-- The dispatches of an engine with these settings. -/
def configuredDispatcher (engine : List (String × PyValue))
    (coordinator : Nat → DispatchOutcome) : Dispatcher where
  coordinator := some coordinator
  dryRun := ((PyValue.field engine "dry_run").getD (.bool false)).truthy

section

variable {config : OrchestrationConfig} {engine retries : List (String × PyValue)}
  {maxRetries : Int} {errors : List String} {validate : RetryPolicyData → Option RetryPolicy}

theorem executor_built_iff (loaded : LoadedConfig config engine retries maxRetries errors)
    (coordinator : Nat → DispatchOutcome) (executor : TaskExecutor) :
    config.executor validate coordinator = some executor ↔
      executor.toDispatcher = configuredDispatcher engine coordinator ∧
        ∃ data, defaultRetryPolicy (.dict retries) = some data ∧
          validate data = some executor.defaultRetry := by
  have flag : getItem (.dict engine) "dry_run" (.bool false) =
      some ((PyValue.field engine "dry_run").getD (.bool false)) := rfl
  rw [OrchestrationConfig.executor, loaded.engineSection, loaded.retriesSection]
  simp only [Option.bind_eq_bind, Option.bind_some, flag, Option.pure_def,
    Option.bind_eq_some_iff, Option.some.injEq]
  constructor
  · intro built
    obtain ⟨data, extracted, policy, accepted, rfl⟩ := built
    exact ⟨rfl, data, extracted, accepted⟩
  · intro built
    obtain ⟨dispatcher, data, extracted, accepted⟩ := built
    refine ⟨data, extracted, executor.defaultRetry, accepted, ?_⟩
    cases executor
    cases dispatcher
    rfl

theorem settings_agree_iff (takes : TakesTyped validate) (outcomes : Nat → DispatchOutcome) :
    SettingsAgree validate retries maxRetries errors outcomes ↔
      ∀ data policy, defaultRetryPolicy (.dict retries) = some data → validate data = some policy →
          EndTogether (DispatchOutcome.Final policy.retryableErrors) policy.maxRetries
            (DispatchOutcome.Final errors) maxRetries outcomes := by
  unfold SettingsAgree
  cases shallow : PyValue.field retries "retries" with
  | some deeper => exact Iff.rfl
  | none =>
    dsimp only
    have accepted := takes fallbackPolicyData 3 [] (by decide) fallback_typed
    rw [default_policy_fallback shallow]
    constructor
    · intro together data policy extracted built
      cases extracted
      rw [accepted] at built
      cases built
      exact together
    · intro always
      exact always fallbackPolicyData _ rfl accepted

theorem runs_configured_iff (loaded : LoadedConfig config engine retries maxRetries errors)
    (coordinator : Nat → DispatchOutcome) {task : DispatchedTask} (plain : task.retry = none) :
    RunsConfigured validate config maxRetries errors coordinator task ↔
      ∀ data policy, defaultRetryPolicy (.dict retries) = some data → validate data = some policy →
          EndTogether (DispatchOutcome.Final policy.retryableErrors) policy.maxRetries
            (DispatchOutcome.Final errors) maxRetries
            ((configuredDispatcher engine coordinator).dispatch task) := by
  constructor
  · intro runs data policy extracted accepted
    have built := (executor_built_iff loaded coordinator
      { configuredDispatcher engine coordinator with defaultRetry := policy }).mpr
        ⟨rfl, data, extracted, accepted⟩
    obtain ⟨count, dispatched, asConfigured⟩ := runs _ built
    obtain ⟨actual, alsoDispatched, asBuilt⟩ := execute_task_ends
      { configuredDispatcher engine coordinator with defaultRetry := policy } plain
    have sameCount : count = actual := by
      have lengths := congrArg List.length (dispatched.symm.trans alsoDispatched)
      simpa using lengths
    subst sameCount
    exact (ends_after_other_iff policy.nonnegative asBuilt).mp asConfigured
  · intro agree executor built
    obtain ⟨dispatcher, data, extracted, accepted⟩ :=
      (executor_built_iff loaded coordinator executor).mp built
    obtain ⟨count, dispatched, asBuilt⟩ := execute_task_ends executor plain
    refine ⟨count, dispatched, ?_⟩
    apply (ends_after_other_iff executor.defaultRetry.nonnegative asBuilt).mpr
    rw [dispatcher]
    exact agree data executor.defaultRetry extracted accepted

/-- The configured retries are those that run exactly if the settings that
arrive agree with them on the outcomes. -/
theorem configured_retries_run_iff (validate : RetryPolicyData → Option RetryPolicy)
    (takes : TakesTyped validate) (config : OrchestrationConfig)
    (engine retries : List (String × PyValue)) (maxRetries : Int) (errors : List String)
    (loaded : LoadedConfig config engine retries maxRetries errors)
    (coordinator : Nat → DispatchOutcome) (task : DispatchedTask) (plain : task.retry = none) :
    RunsConfigured validate config maxRetries errors coordinator task ↔
      SettingsAgree validate retries maxRetries errors
        ((configuredDispatcher engine coordinator).dispatch task) := by
  rw [settings_agree_iff takes]
  exact runs_configured_iff loaded coordinator plain

end

/-- The built-in settings run as configured where a retryable error is followed
by a success. -/
theorem configured_retries_run_recovering :
    let engine : List (String × PyValue) := [("dry_run", .bool false)]
    let config : OrchestrationConfig := OrderedDict.empty.setAll
      [("engine", .dict [("engine", .dict engine)]), ("retries", .dict defaultRetriesConfig)]
    let coordinator (attempt : Nat) : DispatchOutcome :=
      if attempt = 0 then .raised "TimeoutError" "no answer" else .completed .none
    RunsConfigured strictRetryPolicy config 3
      ["TimeoutError", "ConnectionError", "TaskExecutionError"] coordinator
      { id := "task", taskType := "noop" } := by
  intro engine config coordinator
  apply (configured_retries_run_iff strictRetryPolicy strict_takes_typed config engine _ 3 _
    ⟨rfl, rfl, rfl, rfl⟩ coordinator _ rfl).mpr
  refine ⟨1, by decide, by decide, ?_, Or.inr trivial, Or.inr trivial⟩
  intro earlier less
  rw [Nat.lt_one_iff.mp less]
  have listed : retryable ["TimeoutError", "ConnectionError", "TaskExecutionError"]
      "TimeoutError" ≠ false := by decide
  exact ⟨Bool.false_ne_true.symm, listed⟩

/-- With the built-in settings an error that is not listed as retryable is
dispatched four times. -/
theorem unlisted_error_retried :
    let engine : List (String × PyValue) := [("dry_run", .bool false)]
    let config : OrchestrationConfig := OrderedDict.empty.setAll
      [("engine", .dict [("engine", .dict engine)]), ("retries", .dict defaultRetriesConfig)]
    let coordinator (_ : Nat) : DispatchOutcome := .raised "ValueError" "unknown agent"
    let task : DispatchedTask := { id := "task", taskType := "noop" }
    (config.executor strictRetryPolicy coordinator).map
        (fun executor => (executor.executeTask task).2.length) = some 4 ∧
      ¬RunsConfigured strictRetryPolicy config 3
        ["TimeoutError", "ConnectionError", "TaskExecutionError"] coordinator task := by
  intro engine config coordinator task
  have dispatched : (config.executor strictRetryPolicy coordinator).map
      (fun executor => (executor.executeTask task).2.length) = some 4 := by decide +kernel
  refine ⟨dispatched, ?_⟩
  intro runs
  have together := (runs_configured_iff ⟨rfl, rfl, rfl, rfl⟩ coordinator rfl).mp runs
    fallbackPolicyData _ (default_policy_fallback rfl)
    (strict_takes_typed fallbackPolicyData 3 [] (by decide) fallback_typed)
  obtain ⟨attempt, _, _, neither, stopped, _⟩ := together
  have last : (attempt : Int) = 3 := stopped.resolve_right Bool.false_ne_true.symm
  have unlisted : retryable ["TimeoutError", "ConnectionError", "TaskExecutionError"]
      "ValueError" = false := by decide
  exact (neither 0 (by omega)).2 unlisted

end AiEnterpriseOs.Orchestration
