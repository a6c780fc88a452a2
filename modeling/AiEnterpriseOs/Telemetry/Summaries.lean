import AiEnterpriseOs.Library.StableSort
import AiEnterpriseOs.Library.Grouping
import AiEnterpriseOs.Telemetry.Readers

/-!
# Summaries of the usage log and of the metrics log

The aggregation of usage by model is written once: the log's summary and the read model's
differ in where their entries come from.
-/

namespace AiEnterpriseOs.Telemetry

open Library

/-- What the summaries use of the library; `none` stands for an exception. -/
structure SummaryEnv where
  loads : List Char → JsonText
  int : PyValue → Option Int
  float : PyValue → Option Rat
  /-- `round(value, digits)`. -/
  round : Rat → Nat → Rat

/-! ## Usage by model -/

/-- What the loop over the usage takes from one record. -/
structure UsageEntry where
  key : HashKey
  model : PyValue
  ok : Bool
  promptTokens : Int
  completionTokens : Int
  totalTokens : Int
  latency : Option Rat

structure ModelTally where
  model : PyValue
  requests : Nat := 0
  successes : Nat := 0
  errors : Nat := 0
  promptTokens : Int := 0
  completionTokens : Int := 0
  totalTokens : Int := 0
  latencySum : Rat := 0
  latencyCount : Nat := 0

structure ModelUsage where
  model : PyValue
  requests : Nat
  successes : Nat
  errors : Nat
  promptTokens : Int
  completionTokens : Int
  totalTokens : Int
  avgLatencySeconds : Option Rat

structure UsageTotals where
  requests : Nat := 0
  successes : Nat := 0
  errors : Nat := 0
  promptTokens : Int := 0
  completionTokens : Int := 0
  totalTokens : Int := 0

structure UsageSummary where
  records : Nat
  models : List ModelUsage
  totals : UsageTotals

namespace UsageEntry

variable (env : SummaryEnv)

def ofRecord (record : PyValue) : Option UsageEntry := do
  let model := (← record.get? "model").orElse (.str "(unknown)")
  let usage := (← record.get? "usage").orEmptyDict
  let prompt ← env.int (← usage.get? "prompt_tokens" (.int 0))
  let completion ← env.int (← usage.get? "completion_tokens" (.int 0))
  let total ← env.int ((← usage.get? "total_tokens" (.int 0)).orElse (.int (prompt + completion)))
  let latency ←
    match ← record.get? "latency_seconds" with
    | .none => some none
    | value => (env.float value).map some
  return {
    key := ← hashKey model
    model := model
    ok := (← record.get? "ok" (.bool true)).truthy
    promptTokens := prompt
    completionTokens := completion
    totalTokens := total
    latency := latency }

end UsageEntry

def ModelTally.start (entry : UsageEntry) : ModelTally := { model := entry.model }

def ModelTally.add (row : ModelTally) (entry : UsageEntry) : ModelTally where
  model := row.model
  requests := row.requests + 1
  successes := row.successes + if entry.ok then 1 else 0
  errors := row.errors + if entry.ok then 0 else 1
  promptTokens := row.promptTokens + entry.promptTokens
  completionTokens := row.completionTokens + entry.completionTokens
  totalTokens := row.totalTokens + entry.totalTokens
  latencySum := row.latencySum + entry.latency.getD 0
  latencyCount := row.latencyCount + if entry.latency.isSome then 1 else 0

def UsageTotals.add (totals : UsageTotals) (entry : UsageEntry) : UsageTotals where
  requests := totals.requests + 1
  successes := totals.successes + if entry.ok then 1 else 0
  errors := totals.errors + if entry.ok then 0 else 1
  promptTokens := totals.promptTokens + entry.promptTokens
  completionTokens := totals.completionTokens + entry.completionTokens
  totalTokens := totals.totalTokens + entry.totalTokens

section Usage

variable (env : SummaryEnv)

/-- The row with the average latency in place of its sum and count. -/
def ModelTally.finish (row : ModelTally) : ModelUsage where
  model := row.model
  requests := row.requests
  successes := row.successes
  errors := row.errors
  promptTokens := row.promptTokens
  completionTokens := row.completionTokens
  totalTokens := row.totalTokens
  avgLatencySeconds :=
    if row.latencyCount = 0 then none
    else some (env.round (row.latencySum / row.latencyCount) 4)

def byModel (entries : List UsageEntry) : OrderedDict HashKey ModelTally :=
  tally UsageEntry.key ModelTally.start ModelTally.add entries

/-- The answer on no entries is the one returned early. -/
def summarizeUsage (entries : List UsageEntry) : UsageSummary where
  records := entries.length
  models :=
    (sortedDown ModelTally.totalTokens (byModel entries).values).map (ModelTally.finish env)
  totals := entries.foldl UsageTotals.add {}

/-- `provider_usage_summary(limit)`. -/
def providerUsageSummary (limit : Nat) (file : Option Bytes) : Option UsageSummary := do
  let records ← AiEnterpriseOs.readJsonl env.loads file
  let entries ← (lastRecords limit records).mapM (UsageEntry.ofRecord env)
  return summarizeUsage env entries

end Usage

/-! ## The latest metrics -/

structure MetricsTrend where
  cpuPercent : PyValue
  memoryPercent : PyValue
  engineHealthy : Int
  engineDegraded : Int
  engineFailed : Int
  jobsExecuted : Int
  jobsFailed : Int
  failedEvents : Int
  restarts : Int
  recoveryAttempts : Int
  recoverySuccesses : Int
  recoveryFailures : Int
  recoverySuccessRate : Rat
  uptimeSeconds : PyValue

structure MetricsSummary where
  samples : Nat
  latest : PyValue
  firstTimestamp : PyValue
  lastTimestamp : PyValue
  /-- Nothing without samples. -/
  trend : Option MetricsTrend

section Metrics

variable (env : SummaryEnv)

/-- `value if isinstance(value, dict) else {}`. -/
def dictOrEmpty : PyValue → PyValue
  | .dict items => .dict items
  | _ => .dict []

/-- `first.get(name, second.get(name, default))`. -/
def getFrom (first second : PyValue) (name : String) (fallback : PyValue) : Option PyValue :=
  (second.get? name fallback).bind fun other => first.get? name other

def metricsTrend (snapshot : PyValue) : Option MetricsTrend := do
  let gauges := dictOrEmpty (← snapshot.get? "gauges")
  let counters := dictOrEmpty (← snapshot.get? "counters")
  let gauge (name : String) := getFrom gauges snapshot name (.float 0)
  let counter (name : String) := (getFrom counters snapshot name (.int 0)).bind env.int
  return {
    cpuPercent := ← getFrom gauges snapshot "cpu_percent" .none
    memoryPercent := ← getFrom gauges snapshot "memory_percent" .none
    engineHealthy := ← (gauge "engine_healthy").bind env.int
    engineDegraded := ← (gauge "engine_degraded").bind env.int
    engineFailed := ← (gauge "engine_failed").bind env.int
    jobsExecuted := ← counter "jobs_executed"
    jobsFailed := ← counter "jobs_failed"
    failedEvents := ← counter "failed_events"
    restarts := ← counter "restarts"
    recoveryAttempts := ← counter "recovery_attempts"
    recoverySuccesses := ← counter "recovery_successes"
    recoveryFailures := ← counter "recovery_failures"
    recoverySuccessRate := env.round (← (gauge "recovery_success_rate").bind env.float) 1
    uptimeSeconds := ← snapshot.get? "uptime_seconds" }

/-- `metrics_summary` once the records are read. -/
def summarizeMetrics (records : List PyValue) : Option MetricsSummary :=
  match records.head?, records.getLast? with
  | some first, some latest => do
      let snapshot ← latest.get? "snapshot" (.dict [])
      return {
        samples := records.length
        latest := latest
        firstTimestamp := ← first.get? "timestamp"
        lastTimestamp := ← latest.get? "timestamp"
        trend := some (← metricsTrend env snapshot) }
  | _, _ =>
    some {
      samples := 0
      latest := .none
      firstTimestamp := .none
      lastTimestamp := .none
      trend := none }

/-- `metrics_summary(limit)`. -/
def metricsSummary (limit : Nat) (file : Option Bytes) : Option MetricsSummary :=
  (AiEnterpriseOs.readJsonl env.loads file).bind fun records =>
    summarizeMetrics env (lastRecords limit records)

end Metrics

end AiEnterpriseOs.Telemetry
