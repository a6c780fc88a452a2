import AiEnterpriseOs.PyValue
import Mathlib.Algebra.Order.Ring.Rat
import Mathlib.Tactic.NormNum

/-!
# Hot reload

The settings that the workers derive from the configuration when the runtime is
built, and those that a reload derives again.
-/

namespace AiEnterpriseOs.Runtime

/-- The items of a dictionary. -/
abbrev Section := List (String × PyValue)

/-- The sections that the workers read. -/
inductive SectionName where
  | heartbeat
  | scheduler
  | monitoring

def SectionName.text : SectionName → String
  | heartbeat => "heartbeat"
  | scheduler => "scheduler"
  | monitoring => "monitoring"

def SectionName.default : SectionName → Section
  | heartbeat =>
    [ ("heartbeat", .dict [ ("enabled", .bool true), ("interval_seconds", .float 5),
          ("timeout_seconds", .float 15),
          ("missed_beats_before_failure", .int 3),
          ("check_interval_seconds", .float 1),
          ("components", .list []) ]) ]
  | scheduler =>
    [ ("scheduler", .dict [ ("enabled", .bool true), ("worker_interval_seconds", .float 1),
          ("timezone", .str "UTC"),
          ("max_jobs", .int 1000),
          ("jobs", .dict []) ]) ]
  | monitoring =>
    [ ("monitoring", .dict [ ("enabled", .bool true), ("metrics_interval_seconds", .float 5),
          ("publish_events", .bool true),
          ("audit_events", .bool true),
          ("memory_records", .bool true),
          ("namespace", .str "runtime"),
          ("history_max_records", .int 1000) ]) ]

def setItem (items : Section) (key : String) (value : PyValue) : Section :=
  if items.any fun item => item.1 == key then
    items.map fun item => if item.1 == key then (key, value) else item
  else items ++ [(key, value)]

mutual

/-- A value of the override over the value the base has under the same key. -/
def mergeValue (base : PyValue) : PyValue → PyValue
  | .dict items =>
    match base with
    | .dict baseItems => .dict (deepMerge baseItems items)
    | _ => .dict items
  | value => value

/-- Recursively merge an override onto a base (override wins). -/
def deepMerge (base : Section) : Section → Section
  | [] => base
  | (key, value) :: rest =>
    let merged := match PyValue.field base key with
      | some present => mergeValue present value
      | none => value
    deepMerge (setItem base key merged) rest

end

/-- `float(text)` and `int(text)`, `none` where they raise. -/
structure NumberText where
  float : String → Option Rat
  int : String → Option Int

namespace NumberText

variable (text : NumberText)

/-- `float(value)`. -/
def toFloat : PyValue → Option Rat
  | .str value => text.float value
  | value => value.number?

/-- `int(value)`, which cuts a number off towards zero. -/
def toInt : PyValue → Option Int
  | .bool value => some (if value then 1 else 0)
  | .int value => some value
  | .float value => some (value.num.tdiv value.den)
  | .str value => text.int value
  | _ => none

end NumberText

/-- The files of the configuration directory that hold a dictionary. -/
abbrev ConfigFiles := SectionName → Option Section

namespace ConfigFiles

variable (files : ConfigFiles)

def loadSection (name : SectionName) : Section :=
  match files name with
  | none => name.default
  | some data => deepMerge name.default data

/-- `_section`; `none` is a section that has no `get`. -/
def sectionOf (name : SectionName) : Option Section :=
  match (PyValue.field (files.loadSection name) name.text).getD (.dict []) with
  | .dict items => some items
  | value => if value.truthy then none else some []

end ConfigFiles

def setting (settings : Section) (key : String) (fallback : PyValue) : PyValue :=
  (PyValue.field settings key).getD fallback

structure HeartbeatSettings where
  settings : Section
  enabled : Bool
  intervalSeconds : Rat
  timeoutSeconds : Rat
  missedThreshold : Int

structure SchedulerSettings where
  settings : Section
  intervalSeconds : Rat

structure SupervisorSettings where
  config : Section
  checkIntervalSeconds : Rat

structure WatchdogSettings where
  settings : Section
  enabled : Bool
  intervalSeconds : Rat
  deadlineSeconds : Rat

structure WorkerSettings where
  heartbeats : HeartbeatSettings
  senderIntervalSeconds : Rat
  supervisor : SupervisorSettings
  watchdog : WatchdogSettings
  scheduler : SchedulerSettings

section Construction

variable (text : NumberText)

/-- `HeartbeatManager.__init__`. -/
def heartbeatManager (settings : Section) : Option HeartbeatSettings := do
  let intervalSeconds ← text.toFloat (setting settings "interval_seconds" (.float 5))
  let timeoutSeconds ← text.toFloat (setting settings "timeout_seconds" (.float 15))
  let missedThreshold ← text.toInt (setting settings "missed_beats_before_failure" (.int 3))
  some
    { settings := settings
      enabled := (setting settings "enabled" (.bool true)).truthy
      intervalSeconds := intervalSeconds
      timeoutSeconds := timeoutSeconds
      missedThreshold := missedThreshold }

/-- The interval of `HeartbeatSender.__init__`: `float(interval or 5.0)`. -/
def heartbeatSender (intervalSeconds : Rat) : Rat :=
  if intervalSeconds ≠ 0 then intervalSeconds else 5

/-- `Supervisor.__init__`. -/
def supervisor (config : Section) : Option SupervisorSettings := do
  let checkIntervalSeconds ← text.toFloat (setting config "check_interval_seconds" (.float 5))
  some { config := config, checkIntervalSeconds := checkIntervalSeconds }

/-- `Watchdog.__init__`. -/
def watchdog (settings : Section) : Option WatchdogSettings := do
  let intervalSeconds ← text.toFloat (setting settings "watchdog_interval_seconds" (.float 5))
  let deadlineSeconds ← text.toFloat (setting settings "task_deadline_seconds" (.float 300))
  some
    { settings := settings
      enabled := (setting settings "watchdog_enabled" (.bool true)).truthy
      intervalSeconds := intervalSeconds
      deadlineSeconds := deadlineSeconds }

/-- `JobScheduler.__init__`. -/
def jobScheduler (settings : Section) : Option SchedulerSettings := do
  let intervalSeconds ← text.toFloat (setting settings "tick_interval_seconds" (.float 1))
  some { settings := settings, intervalSeconds := intervalSeconds }

/-- The workers of a new runtime; `none` where building it raises. -/
def buildRuntime (files : ConfigFiles) : Option WorkerSettings := do
  let heartbeats ← (files.sectionOf .heartbeat).bind (heartbeatManager text)
  let supervisor ← (files.sectionOf .monitoring).bind (supervisor text)
  let watchdog ← (files.sectionOf .monitoring).bind (watchdog text)
  let scheduler ← (files.sectionOf .scheduler).bind (jobScheduler text)
  some
    { heartbeats := heartbeats
      senderIntervalSeconds := heartbeatSender heartbeats.intervalSeconds
      supervisor := supervisor
      watchdog := watchdog
      scheduler := scheduler }

/-- `_apply_reloaded_config`; `none` where it raises. The monitoring section is only stored,
so one without a `get` would not raise here, but no runtime is built with it. -/
def applyReloadedConfig (files : ConfigFiles) (workers : WorkerSettings) :
    Option WorkerSettings := do
  let heartbeat ← files.sectionOf .heartbeat
  let intervalSeconds ← text.toFloat (setting heartbeat "interval_seconds" (.float 5))
  let timeoutSeconds ← text.toFloat (setting heartbeat "timeout_seconds" (.float 15))
  let monitoring ← files.sectionOf .monitoring
  let scheduler ← files.sectionOf .scheduler
  let workerInterval ← text.toFloat (setting scheduler "worker_interval_seconds" (.float 1))
  some
    { heartbeats := { workers.heartbeats with
        settings := heartbeat
        intervalSeconds := intervalSeconds
        timeoutSeconds := timeoutSeconds }
      senderIntervalSeconds := intervalSeconds
      supervisor := { workers.supervisor with config := monitoring }
      watchdog := { workers.watchdog with settings := monitoring }
      scheduler := { settings := scheduler, intervalSeconds := workerInterval } }

/-! ## What the settings are read from -/

section Readings

variable (files : ConfigFiles)

def floatSetting (name : SectionName) (key : String) (fallback : Rat) : Option Rat :=
  (files.sectionOf name).bind fun settings => text.toFloat (setting settings key (.float fallback))

/-- The flag that `HeartbeatManager.__init__` reads and a reload does not. -/
def heartbeatsEnabled : Option Bool :=
  (files.sectionOf .heartbeat).map fun settings =>
    (setting settings "enabled" (.bool true)).truthy

/-- The threshold that `HeartbeatManager.__init__` reads and a reload does not. -/
def missedThreshold : Option Int :=
  (files.sectionOf .heartbeat).bind fun settings =>
    text.toInt (setting settings "missed_beats_before_failure" (.int 3))

end Readings

/-- The same heartbeat, heartbeat sender, scheduler and supervisor settings. -/
structure WorkerSettings.Same (first second : WorkerSettings) : Prop where
  heartbeats : first.heartbeats = second.heartbeats
  sender : first.senderIntervalSeconds = second.senderIntervalSeconds
  scheduler : first.scheduler = second.scheduler
  supervisor : first.supervisor = second.supervisor

/-- The settings that a reload passes over are the same in both configurations, the beat
interval is not zero, and both intervals of the scheduler are the same. -/
structure ReloadReads (old new : ConfigFiles) : Prop where
  enabled : heartbeatsEnabled old = heartbeatsEnabled new
  missed : missedThreshold text old = missedThreshold text new
  check : floatSetting text old .monitoring "check_interval_seconds" 5 =
    floatSetting text new .monitoring "check_interval_seconds" 5
  beats : floatSetting text new .heartbeat "interval_seconds" 5 ≠ some 0
  ticks : floatSetting text new .scheduler "worker_interval_seconds" 1 =
    floatSetting text new .scheduler "tick_interval_seconds" 1

/-- The configuration behind the settings of a new runtime. -/
structure Reads (files : ConfigFiles) (workers : WorkerSettings) : Prop where
  heartbeat : files.sectionOf .heartbeat = some workers.heartbeats.settings
  enabled : heartbeatsEnabled files = some workers.heartbeats.enabled
  interval : floatSetting text files .heartbeat "interval_seconds" 5 =
    some workers.heartbeats.intervalSeconds
  timeout : floatSetting text files .heartbeat "timeout_seconds" 15 =
    some workers.heartbeats.timeoutSeconds
  missed : missedThreshold text files = some workers.heartbeats.missedThreshold
  sender : workers.senderIntervalSeconds = heartbeatSender workers.heartbeats.intervalSeconds
  monitoring : files.sectionOf .monitoring = some workers.supervisor.config
  check : floatSetting text files .monitoring "check_interval_seconds" 5 =
    some workers.supervisor.checkIntervalSeconds
  scheduler : files.sectionOf .scheduler = some workers.scheduler.settings
  tick : floatSetting text files .scheduler "tick_interval_seconds" 1 =
    some workers.scheduler.intervalSeconds

end Construction

section Reload

variable {text : NumberText} {files : ConfigFiles} {workers : WorkerSettings}

theorem float_setting_of {name : SectionName} {settings : Section} {key : String}
    {fallback value : Rat} (found : files.sectionOf name = some settings)
    (read : text.toFloat (setting settings key (.float fallback)) = some value) :
    floatSetting text files name key fallback = some value := by
  rw [floatSetting, found]
  exact read

theorem build_reads (built : buildRuntime text files = some workers) :
    Reads text files workers := by
  unfold buildRuntime at built
  simp only [Option.bind_eq_bind, Option.bind_eq_some_iff, Option.some.injEq] at built
  obtain ⟨heartbeats, ⟨heartbeat, heartbeatFound, heartbeatBuilt⟩, supervisor,
    ⟨monitoring, monitoringFound, supervisorBuilt⟩, watchdog, _, scheduler,
    ⟨settings, schedulerFound, schedulerBuilt⟩, rfl⟩ := built
  simp only [heartbeatManager, Option.bind_eq_bind, Option.bind_eq_some_iff,
    Option.some.injEq] at heartbeatBuilt
  obtain ⟨interval, intervalRead, timeout, timeoutRead, missed, missedRead, rfl⟩ :=
    heartbeatBuilt
  simp only [Runtime.supervisor, Option.bind_eq_bind, Option.bind_eq_some_iff,
    Option.some.injEq] at supervisorBuilt
  obtain ⟨check, checkRead, rfl⟩ := supervisorBuilt
  simp only [jobScheduler, Option.bind_eq_bind, Option.bind_eq_some_iff,
    Option.some.injEq] at schedulerBuilt
  obtain ⟨tick, tickRead, rfl⟩ := schedulerBuilt
  constructor
  · exact heartbeatFound
  · rw [heartbeatsEnabled, heartbeatFound]
    rfl
  · exact float_setting_of heartbeatFound intervalRead
  · exact float_setting_of heartbeatFound timeoutRead
  · rw [missedThreshold, heartbeatFound]
    exact missedRead
  · rfl
  · exact monitoringFound
  · exact float_setting_of monitoringFound checkRead
  · exact schedulerFound
  · exact float_setting_of schedulerFound tickRead

theorem reload_spec {fresh : WorkerSettings} (reads : Reads text files fresh)
    (running : WorkerSettings) :
    applyReloadedConfig text files running =
      (floatSetting text files .scheduler "worker_interval_seconds" 1).map fun worker =>
        { heartbeats := { running.heartbeats with
            settings := fresh.heartbeats.settings
            intervalSeconds := fresh.heartbeats.intervalSeconds
            timeoutSeconds := fresh.heartbeats.timeoutSeconds }
          senderIntervalSeconds := fresh.heartbeats.intervalSeconds
          supervisor := { running.supervisor with config := fresh.supervisor.config }
          watchdog := { running.watchdog with settings := fresh.supervisor.config }
          scheduler := { settings := fresh.scheduler.settings, intervalSeconds := worker } } := by
  have interval := reads.interval
  have timeout := reads.timeout
  rw [floatSetting, reads.heartbeat, Option.bind_some] at interval timeout
  unfold applyReloadedConfig floatSetting
  simp only [Option.bind_eq_bind, reads.heartbeat, reads.monitoring, reads.scheduler,
    Option.bind_some, interval, timeout]
  cases text.toFloat (setting fresh.scheduler.settings "worker_interval_seconds" (.float 1)) with
  | none => rfl
  | some worker => rfl

theorem sender_keeps_iff (interval : Rat) : interval = heartbeatSender interval ↔ interval ≠ 0 := by
  unfold heartbeatSender
  by_cases zero : interval = 0
  · rw [if_neg (not_not.mpr zero), zero]
    norm_num
  · rw [if_pos zero]
    exact iff_of_true rfl zero

/-- A reload leaves the settings of a new runtime exactly if the two configurations agree on
what it passes over, the beat interval is not zero, and both scheduler intervals are one. -/
theorem reload_equals_fresh_start_iff (text : NumberText) (old new : ConfigFiles)
    (running fresh : WorkerSettings) (started : buildRuntime text old = some running)
    (built : buildRuntime text new = some fresh) :
    (∃ reloaded, applyReloadedConfig text new running = some reloaded ∧ reloaded.Same fresh) ↔
      ReloadReads text old new := by
  have before := build_reads started
  have after := build_reads built
  simp only [reload_spec after, Option.map_eq_some_iff]
  constructor
  · rintro ⟨_, ⟨worker, workerRead, rfl⟩, same⟩
    have heartbeats := same.heartbeats
    have sender := same.sender
    constructor
    · rw [before.enabled, after.enabled]
      exact congrArg (fun settings => some settings.enabled) heartbeats
    · rw [before.missed, after.missed]
      exact congrArg (fun settings => some settings.missedThreshold) heartbeats
    · rw [before.check, after.check]
      exact congrArg (fun settings => some settings.checkIntervalSeconds) same.supervisor
    · rw [after.interval]
      intro zero
      rw [after.sender] at sender
      exact (sender_keeps_iff _).mp sender (Option.some.inj zero)
    · rw [workerRead, after.tick]
      exact congrArg (fun settings => some settings.intervalSeconds) same.scheduler
  · intro reads
    have enabled := reads.enabled
    have missed := reads.missed
    have check := reads.check
    rw [before.enabled, after.enabled] at enabled
    rw [before.missed, after.missed] at missed
    rw [before.check, after.check] at check
    refine ⟨_, ⟨fresh.scheduler.intervalSeconds, reads.ticks.trans after.tick, rfl⟩, ?_⟩
    constructor
    · dsimp only
      rw [Option.some.inj enabled, Option.some.inj missed]
    · rw [after.sender]
      apply (sender_keeps_iff _).mpr
      intro zero
      exact reads.beats (after.interval.trans (congrArg some zero))
    · rfl
    · dsimp only
      rw [Option.some.inj check]

end Reload

/-! ## Two reloads -/

def noNumberText : NumberText where
  float _ := none
  int _ := none

/-- The configuration directory without files. -/
def defaultFiles : ConfigFiles := fun _ => none

/-- Beats are due sooner. -/
def fasterFiles : ConfigFiles
  | .heartbeat =>
    some [("heartbeat", .dict [("interval_seconds", .float 2), ("timeout_seconds", .int 6)])]
  | _ => none

/-- Heartbeats are turned off, and the worker and check intervals doubled. -/
def quietFiles : ConfigFiles
  | .heartbeat => some [("heartbeat", .dict [("enabled", .bool false)])]
  | .scheduler => some [("scheduler", .dict [("worker_interval_seconds", .float 2)])]
  | .monitoring => some [("monitoring", .dict [("check_interval_seconds", .float 10)])]

theorem faster_beats_reloaded :
    ∃ running fresh, buildRuntime noNumberText defaultFiles = some running ∧
      buildRuntime noNumberText fasterFiles = some fresh ∧
        ∃ reloaded, applyReloadedConfig noNumberText fasterFiles running = some reloaded ∧
          reloaded.Same fresh := by
  obtain ⟨running, started⟩ := Option.isSome_iff_exists.mp
    (show (buildRuntime noNumberText defaultFiles).isSome = true by decide +kernel)
  obtain ⟨fresh, built⟩ := Option.isSome_iff_exists.mp
    (show (buildRuntime noNumberText fasterFiles).isSome = true by decide +kernel)
  refine ⟨running, fresh, started, built, ?_⟩
  apply (reload_equals_fresh_start_iff noNumberText defaultFiles fasterFiles running fresh
    started built).mpr
  constructor <;> decide +kernel

/-- Neither the flag nor the check interval of the new configuration takes effect, and the
scheduler ticks at an interval that a new runtime does not use. -/
theorem reload_forgets_settings :
    let shown (workers : WorkerSettings) : Bool × Rat × Rat :=
      (workers.heartbeats.enabled, workers.supervisor.checkIntervalSeconds,
        workers.scheduler.intervalSeconds)
    ((buildRuntime noNumberText defaultFiles).bind
        (applyReloadedConfig noNumberText quietFiles)).map shown = some (true, 5, 2) ∧
      (buildRuntime noNumberText quietFiles).map shown = some (false, 10, 1) := by
  decide +kernel

end AiEnterpriseOs.Runtime
