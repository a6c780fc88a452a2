import AiEnterpriseOs.Library.OrderedDict
import AiEnterpriseOs.Library.Outcome
import AiEnterpriseOs.Runtime.HotReload

/-!
# Reloading in parts

A reload reads all sections, replaces those that it holds, validates the core
settings and hands the rest to the workers, setting by setting. Each of these
parts may raise when the ones before it have taken effect.
-/

namespace AiEnterpriseOs.Runtime

open Library

/-- A file of the configuration directory: not there or without a dictionary,
one that reading raises on, or the items of its dictionary. -/
inductive ConfigFile where
  | absent
  | unreadable
  | data (items : Section)

/-- The sections with their defaults; each is read from the file of its name. -/
def configSections : List (String × Section) :=
  [ ("runtime", [ ("runtime", .dict [ ("name", .str "AI Enterprise Runtime"),
            ("version", .str "1.0"),
            ("environment", .str "development"),
            ("state_dir", .str "runtime"),
            ("persist_state", .bool true),
            ("max_workers", .int 4),
            ("loop_interval_seconds", .float 1),
            ("default_engine_timeout_seconds", .float 30),
            ("audit_events", .bool true) ]) ]),
    ("startup", [ ("startup", .dict [ ("required", .bool true), ("timeout_seconds", .int 60),
            ("continue_on_error", .bool false),
            ("recover_persisted_state", .bool true),
            ("steps", .list []) ]) ]),
    ("heartbeat", SectionName.default .heartbeat),
    ("scheduler", SectionName.default .scheduler),
    ("monitoring", SectionName.default .monitoring),
    ("health", [ ("health", .dict [ ("enabled", .bool true), ("check_interval_seconds", .float 5),
            ("engine_timeout_seconds", .float 5),
            ("cpu_percent_high", .float 80),
            ("memory_percent_high", .float 80),
            ("queue_size_warn", .int 100),
            ("error_rate_high", .float (mkRat 1 5)) ]) ]),
    ("recovery", [ ("recovery", .dict [ ("enabled", .bool true), ("default_max_attempts", .int 3),
            ("backoff_base_seconds", .float 1),
            ("backoff_multiplier", .float 2),
            ("max_backoff_seconds", .float 60),
            ("restart_engines", .bool true),
            ("restart_processes", .bool true),
            ("reload_state", .bool true),
            ("policies", .dict [ ("engine", .dict [ ("max_attempts", .int 3),
                    ("actions", .list [.str "restart", .str "reload_state", .str "isolate"]) ]),
                ("process", .dict [ ("max_attempts", .int 2),
                    ("actions", .list [.str "restart", .str "isolate"]) ]) ]) ]) ]),
    ("diagnostics", [ ("diagnostics", .dict [ ("enabled", .bool true),
            ("collect_metrics", .bool true),
            ("collect_health", .bool true),
            ("collect_config", .bool true),
            ("max_report_items", .int 100) ]) ]),
    ("telemetry", [ ("telemetry", .dict [ ("retention", .dict
              [ ("metrics_history", .dict [("days", .int 7), ("rollup", .bool true)]),
                ("provider_usage", .dict [("days", .int 90), ("rollup", .bool true)]),
                ("cli_telemetry", .dict [("days", .int 180), ("rollup", .bool true)]) ]),
            ("rollup", .dict [ ("enabled", .bool true),
                ("granularities", .list [.str "hourly", .str "daily"]) ]) ]) ]) ]

abbrev ConfigSections := OrderedDict String PyValue

/-- `_load_section`, `none` where it raises. -/
def loadConfigSection (required : Bool) (default : Section) : ConfigFile → Option PyValue
  | .unreadable => none
  | .absent => if required then none else some (.dict default)
  | .data items => some (.dict (deepMerge default items))

/-- `load_all_runtime_configs`, for the file of each section. -/
def loadAllRuntimeConfigs (required : Bool) (files : String → ConfigFile) :
    Option ConfigSections :=
  (configSections.mapM fun entry =>
    (loadConfigSection required entry.2 (files entry.1)).map fun data => (entry.1, data)).map
      OrderedDict.empty.setAll

namespace ConfigSections

variable (sections : ConfigSections)

/-- `section`: the value under the section's own name. -/
def innerValue (name : String) : PyValue :=
  match (sections.get? name).getD (.dict []) with
  | .dict items => (PyValue.field items name).getD (.dict [])
  | _ => .dict []

/-- The sections of which `fresh` has another content. -/
def changed (fresh : ConfigSections) : List String :=
  (fresh.entries.filter fun entry =>
    !(entry.2.equal ((sections.get? entry.1).getD .none))).map Prod.fst

end ConfigSections

section

variable {Config : Type} (validate : Section → Option Config)

/-- `build_runtime_config`, `none` where it raises; `validate` is the model that
the settings are given to. -/
def buildRuntimeConfig (sections : ConfigSections) : Option Config :=
  match sections.innerValue "runtime" with
  | .dict [] => none
  | .dict items => validate items
  | _ => none

structure RuntimeConfiguration (Config : Type) where
  required : Bool
  sections : ConfigSections
  config : Config
  reloadCount : Nat

/-- `RuntimeConfiguration.reload`, with the changed sections where it returns. -/
def RuntimeConfiguration.reload (configuration : RuntimeConfiguration Config)
    (files : String → ConfigFile) : RuntimeConfiguration Config × Option (List String) :=
  match loadAllRuntimeConfigs configuration.required files with
  | none => (configuration, none)
  | some fresh =>
    let changed := configuration.sections.changed fresh
    let replaced := { configuration with sections := fresh }
    match buildRuntimeConfig validate fresh with
    | none => (replaced, none)
    | some config =>
      ({ replaced with config := config, reloadCount := replaced.reloadCount + 1 }, some changed)

end

/-- What the workers hold of the configuration and a reload sets. -/
structure ComponentSettings where
  heartbeatSettings : PyValue
  heartbeatIntervalSeconds : Rat
  heartbeatTimeoutSeconds : Rat
  senderIntervalSeconds : Rat
  watchdogSettings : PyValue
  supervisorConfig : PyValue
  schedulerSettings : PyValue
  schedulerIntervalSeconds : Rat

structure ConfiguredEngine (Config : Type) where
  runtimeConfig : RuntimeConfiguration Config
  config : Config
  components : ComponentSettings
  /-- The lists of changed sections that were published. -/
  reloaded : List (List String)

section

variable (text : NumberText)

/-- `float(settings.get(key, fallback))`; only a dictionary has a `get`. -/
def floatItem (settings : PyValue) (key : String) (fallback : Rat) : Option Rat :=
  match settings with
  | .dict items => text.toFloat (setting items key (.float fallback))
  | _ => none

/-- `_apply_reloaded_config`, assignment by assignment. -/
def applySections (sections : ConfigSections) (components : ComponentSettings) :
    Outcome ComponentSettings :=
  let heartbeat := (sections.innerValue "heartbeat").orEmptyDict
  let monitoring := (sections.innerValue "monitoring").orEmptyDict
  let scheduler := (sections.innerValue "scheduler").orEmptyDict
  let components := { components with heartbeatSettings := heartbeat }
  match floatItem text heartbeat "interval_seconds" 5 with
  | none => .raising components
  | some interval =>
    let components := { components with heartbeatIntervalSeconds := interval }
    match floatItem text heartbeat "timeout_seconds" 15 with
    | none => .raising components
    | some timeout =>
      let components :=
        { components with
          heartbeatTimeoutSeconds := timeout
          senderIntervalSeconds := interval
          watchdogSettings := monitoring
          supervisorConfig := monitoring
          schedulerSettings := scheduler }
      match floatItem text scheduler "worker_interval_seconds" 1 with
      | none => .raising components
      | some worker => .returning { components with schedulerIntervalSeconds := worker }

variable {Config : Type} (validate : Section → Option Config)

/-- `RuntimeEngine.reload`. -/
def ConfiguredEngine.reload (engine : ConfiguredEngine Config) (files : String → ConfigFile) :
    Outcome (ConfiguredEngine Config) :=
  let (runtimeConfig, outcome) := engine.runtimeConfig.reload validate files
  let engine := { engine with runtimeConfig := runtimeConfig }
  match outcome with
  | none => .raising engine
  | some changed =>
    let engine := { engine with config := engine.runtimeConfig.config }
    let applied := applySections text engine.runtimeConfig.sections engine.components
    let engine := { engine with components := applied.state }
    if applied.returned then .returning { engine with reloaded := engine.reloaded ++ [changed] }
    else .raising engine

end

section

variable {Config : Type} (validate : Section → Option Config) (text : NumberText)

/-- The sections and the validated settings are those of the files. -/
structure Reflects (configuration : RuntimeConfiguration Config) (files : String → ConfigFile) :
    Prop where
  sections : loadAllRuntimeConfigs configuration.required files = some configuration.sections
  config : buildRuntimeConfig validate configuration.sections = some configuration.config

def RuntimeConfiguration.AllOrNothing (configuration : RuntimeConfiguration Config)
    (files : String → ConfigFile) : Prop :=
  match configuration.reload validate files with
  | (after, some _) => Reflects validate after files
  | (after, none) => after = configuration

def ConfiguredEngine.AllOrNothing (engine : ConfiguredEngine Config)
    (files : String → ConfigFile) : Prop :=
  let outcome := engine.reload text validate files
  if outcome.returned then
    Reflects validate outcome.state.runtimeConfig files ∧
      outcome.state.config = outcome.state.runtimeConfig.config
  else outcome.state = engine

/-- The numbers that the workers read from the sections are numbers. -/
structure Applicable (sections : ConfigSections) : Prop where
  interval : (floatItem text (sections.innerValue "heartbeat").orEmptyDict
    "interval_seconds" 5).isSome = true
  timeout : (floatItem text (sections.innerValue "heartbeat").orEmptyDict
    "timeout_seconds" 15).isSome = true
  worker : (floatItem text (sections.innerValue "scheduler").orEmptyDict
    "worker_interval_seconds" 1).isSome = true

/-- The files cannot be read, or hold valid core settings with numbers for the
workers, or hold invalid core settings that are those already loaded. -/
def Reloadable (configuration : RuntimeConfiguration Config) (files : String → ConfigFile) :
    Prop :=
  ∀ fresh, loadAllRuntimeConfigs configuration.required files = some fresh →
    ((buildRuntimeConfig validate fresh).isSome = true → Applicable text fresh) ∧
      (buildRuntimeConfig validate fresh = none → fresh = configuration.sections)

variable {validate text} {configuration : RuntimeConfiguration Config} {files : String → ConfigFile}

theorem reload_unread (unread : loadAllRuntimeConfigs configuration.required files = none) :
    configuration.reload validate files = (configuration, none) := by
  rw [RuntimeConfiguration.reload, unread]

theorem reload_invalid {fresh : ConfigSections}
    (loaded : loadAllRuntimeConfigs configuration.required files = some fresh)
    (invalid : buildRuntimeConfig validate fresh = none) :
    configuration.reload validate files = ({ configuration with sections := fresh }, none) := by
  rw [RuntimeConfiguration.reload, loaded]
  dsimp only
  rw [invalid]

theorem reload_valid {fresh : ConfigSections} {config : Config}
    (loaded : loadAllRuntimeConfigs configuration.required files = some fresh)
    (valid : buildRuntimeConfig validate fresh = some config) :
    configuration.reload validate files =
      ({ configuration with
          sections := fresh
          config := config
          reloadCount := configuration.reloadCount + 1 },
        some (configuration.sections.changed fresh)) := by
  rw [RuntimeConfiguration.reload, loaded]
  dsimp only
  rw [valid]

theorem apply_returned_iff (sections : ConfigSections) (components : ComponentSettings) :
    (applySections text sections components).returned = true ↔ Applicable text sections := by
  unfold applySections
  dsimp only
  cases interval : floatItem text (sections.innerValue "heartbeat").orEmptyDict
      "interval_seconds" 5 with
  | none =>
    refine iff_of_false Bool.false_ne_true ?_
    intro applicable
    have found := applicable.interval
    rw [interval] at found
    cases found
  | some intervalValue =>
    dsimp only
    cases timeout : floatItem text (sections.innerValue "heartbeat").orEmptyDict
        "timeout_seconds" 15 with
    | none =>
      refine iff_of_false Bool.false_ne_true ?_
      intro applicable
      have found := applicable.timeout
      rw [timeout] at found
      cases found
    | some timeoutValue =>
      dsimp only
      cases worker : floatItem text (sections.innerValue "scheduler").orEmptyDict
          "worker_interval_seconds" 1 with
      | none =>
        refine iff_of_false Bool.false_ne_true ?_
        intro applicable
        have found := applicable.worker
        rw [worker] at found
        cases found
      | some workerValue =>
        refine iff_of_true rfl ?_
        constructor
        · rw [interval]
          rfl
        · rw [timeout]
          rfl
        · rw [worker]
          rfl

theorem replaced_eq_iff (fresh : ConfigSections) :
    { configuration with sections := fresh } = configuration ↔ fresh = configuration.sections := by
  constructor
  · intro same
    exact congrArg RuntimeConfiguration.sections same
  · rintro rfl
    rfl

theorem raised_unchanged (whole : configuration.AllOrNothing validate files)
    (raised : (configuration.reload validate files).2.isNone = true) :
    (configuration.reload validate files).1 = configuration := by
  unfold RuntimeConfiguration.AllOrNothing at whole
  cases outcome : configuration.reload validate files with
  | mk state changed =>
    rw [outcome] at whole raised
    cases changed with
    | none => exact whole
    | some changed => cases raised

theorem configuration_all_or_nothing (reloadable : Reloadable validate text configuration files) :
    configuration.AllOrNothing validate files := by
  unfold RuntimeConfiguration.AllOrNothing
  cases loaded : loadAllRuntimeConfigs configuration.required files with
  | none =>
    rw [reload_unread loaded]
  | some fresh =>
    cases built : buildRuntimeConfig validate fresh with
    | none =>
      rw [reload_invalid loaded built]
      exact (replaced_eq_iff fresh).mpr ((reloadable fresh loaded).2 built)
    | some config =>
      rw [reload_valid loaded built]
      exact ⟨loaded, built⟩

theorem engine_all_or_nothing_iff (engine : ConfiguredEngine Config) (files : String → ConfigFile) :
    engine.AllOrNothing validate text files ↔
      Reloadable validate text engine.runtimeConfig files := by
  unfold ConfiguredEngine.AllOrNothing ConfiguredEngine.reload Reloadable
  cases loaded : loadAllRuntimeConfigs engine.runtimeConfig.required files with
  | none =>
    rw [reload_unread loaded]
    exact iff_of_true rfl (by simp)
  | some fresh =>
    simp only [Option.some.injEq, forall_eq']
    cases built : buildRuntimeConfig validate fresh with
    | none =>
      rw [reload_invalid loaded built]
      simp only [Option.isSome_none, Bool.false_eq_true, false_implies, true_and,
        true_implies, Outcome.raising_returned, Outcome.raising_state, if_false]
      rw [← replaced_eq_iff]
      constructor
      · intro same
        exact congrArg ConfiguredEngine.runtimeConfig same
      · intro same
        rw [same]
    | some config =>
      rw [reload_valid loaded built]
      simp only [Option.isSome_some, true_implies, reduceCtorEq, false_implies, and_true]
      rw [← apply_returned_iff fresh engine.components]
      cases applied : (applySections text fresh engine.components).returned with
      | true =>
        refine iff_of_true ?_ rfl
        exact ⟨⟨loaded, built⟩, rfl⟩
      | false =>
        refine iff_of_false ?_ Bool.false_ne_true
        -- the reload has been counted
        intro same
        have count := congrArg (fun state => state.runtimeConfig.reloadCount) same
        exact absurd count (Nat.succ_ne_self _)

/-- Both reloads are all or nothing exactly if the files are reloadable. -/
theorem reload_all_or_nothing_iff (validate : Section → Option Config) (text : NumberText)
    (engine : ConfiguredEngine Config) (files : String → ConfigFile) :
    (engine.runtimeConfig.AllOrNothing validate files ∧ engine.AllOrNothing validate text files) ↔
      Reloadable validate text engine.runtimeConfig files := by
  rw [engine_all_or_nothing_iff]
  exact and_iff_right_of_imp configuration_all_or_nothing

end

/-- Core settings without a worker are refused, and yet they are the sections
from then on. -/
theorem refused_sections_stay :
    let maxWorkers (items : Section) : Rat :=
      ((PyValue.field items "max_workers").bind PyValue.number?).getD 0
    let validate (items : Section) : Option Rat :=
      if 1 ≤ maxWorkers items then some (maxWorkers items) else none
    let shown (sections : ConfigSections) : Rat :=
      match sections.innerValue "runtime" with
      | .dict items => maxWorkers items
      | _ => 0
    let configuration : RuntimeConfiguration Rat :=
      { required := false
        sections := OrderedDict.empty.setAll
          (configSections.map fun entry => (entry.1, .dict entry.2))
        config := 4
        reloadCount := 0 }
    let files (name : String) : ConfigFile :=
      if name = "runtime" then .data [("runtime", .dict [("max_workers", .int 0)])] else .absent
    let reloaded := configuration.reload validate files
    reloaded.2.isNone = true ∧ reloaded.1.config = 4 ∧ shown configuration.sections = 4 ∧
      shown reloaded.1.sections = 0 ∧ ¬ configuration.AllOrNothing validate files := by
  intro maxWorkers validate shown configuration files reloaded
  have raised : reloaded.2.isNone = true := by decide +kernel
  have before : shown configuration.sections = 4 := by decide +kernel
  have after : shown reloaded.1.sections = 0 := by decide +kernel
  refine ⟨raised, by decide +kernel, before, after, ?_⟩
  intro whole
  have same : reloaded.1 = configuration := raised_unchanged whole raised
  rw [same, before] at after
  exact absurd after (by decide)

end AiEnterpriseOs.Runtime
