import AiEnterpriseOs.Jsonl
import AiEnterpriseOs.Library.Grouping
import AiEnterpriseOs.Library.Outcome
import Mathlib.Data.List.ReduceOption

/-!
# Telemetry retention

Expired records are folded into hourly and daily rollup rows, then dropped
from the raw log. A log is its lines that are not blank; a missing log reads
as an empty one. `none` stands for an exception.
-/

namespace AiEnterpriseOs.Telemetry

open Library

/-- Microseconds from 1970-01-01 in UTC. -/
abbrev Instant := Int

def hourLength : Int := 3600000000

def dayLength : Int := 24 * hourLength

/-- `datetime.min`. -/
def firstInstant : Instant := -719162 * dayLength

inductive ParsedTime where
  | instant (instant : Instant)
  | invalid
  | overflow

/-- The library functions that retention calls. -/
structure RetentionEnv where
  str : PyValue → String
  /-- `datetime.fromisoformat` brought to UTC; without an offset it is UTC. -/
  fromisoformat : String → ParsedTime
  hourIsoformat : Int → String
  dateIsoformat : Int → String
  int : PyValue → Option Int
  float : PyValue → Option Rat
  plus : PyValue → PyValue → Option PyValue
  floatPlus : Rat → Rat → Rat
  /-- `round(total / count, 4)`. -/
  mean : Rat → Int → Rat

inductive Source where
  | metricsHistory
  | providerUsage
  | cliTelemetry
  | sessionTelemetry
  | actionTelemetry
  deriving DecidableEq

def sources : List Source :=
  [.metricsHistory, .providerUsage, .cliTelemetry, .sessionTelemetry, .actionTelemetry]

theorem mem_sources (source : Source) : source ∈ sources := by
  cases source <;> decide

theorem sources_nodup : sources.Nodup := by
  decide

def Source.text : Source → String
  | metricsHistory => "metrics_history"
  | providerUsage => "provider_usage"
  | cliTelemetry => "cli_telemetry"
  | sessionTelemetry => "session_telemetry"
  | actionTelemetry => "action_telemetry"

structure Policy where
  days : Nat
  rollup : Bool

abbrev Policies := Source → Option Policy

def defaultPolicies : Policies
  | .metricsHistory => some { days := 7, rollup := true }
  | .providerUsage => some { days := 90, rollup := true }
  | .cliTelemetry => some { days := 180, rollup := true }
  | .sessionTelemetry => some { days := 180, rollup := false }
  | .actionTelemetry => some { days := 180, rollup := false }

inductive Granularity where
  | hourly
  | daily
  deriving DecidableEq

def granularities : List Granularity := [.hourly, .daily]

def Granularity.text : Granularity → String
  | hourly => "hourly"
  | daily => "daily"

section Records

variable (env : RetentionEnv)

def text : PyValue → String
  | .str value => value
  | value => env.str value

/-- The inner `none` is a missing or invalid timestamp. -/
def parseTs (record : PyValue) : Option (Option Instant) := do
  let raw ← record.get? "timestamp"
  if !raw.truthy then return none
  match env.fromisoformat (text env raw) with
  | .instant instant => some (some instant)
  | .invalid => some none
  | .overflow => none

def bucketKey (timestamp : Instant) : Granularity → String
  | .daily => env.dateIsoformat (timestamp / dayLength)
  | .hourly => env.hourIsoformat (timestamp / hourLength)

/-- `now - timedelta(days=days)`. -/
def cutoffAt (now : Instant) (days : Nat) : Option Instant :=
  let cutoff := now - days * dayLength
  if cutoff < firstInstant then none else some cutoff

abbrev Row := OrderedDict String PyValue

def rowMetrics : Source → Row
  | .providerUsage =>
    OrderedDict.empty.setAll [ ("samples", .int 0), ("requests", .int 0), ("successes", .int 0),
        ("errors", .int 0), ("prompt_tokens", .int 0), ("completion_tokens", .int 0),
        ("total_tokens", .int 0), ("latency_sum", .float 0), ("latency_count", .int 0) ]
  | .cliTelemetry =>
    OrderedDict.empty.setAll
      [ ("samples", .int 0), ("invocations", .int 0), ("duration_sum", .float 0),
        ("duration_count", .int 0) ]
  | _ => OrderedDict.empty.set "samples" (.int 0)

def aggKey (source : Source) (record : PyValue) : Option String :=
  match source with
  | .providerUsage => do
      return text env ((← record.get? "model").orElse (.str "(unknown)"))
  | .cliTelemetry => do
      return text env ((← record.get? "command").orElse (.str "(unknown)"))
  | _ => some "system"

/-- `left + right` of two numbers. -/
def addNumbers : PyValue → PyValue → PyValue
  | .int left, .int right => .int (left + right)
  | .int left, .float right => .float (env.floatPlus left right)
  | .float left, .int right => .float (env.floatPlus left right)
  | .float left, .float right => .float (env.floatPlus left right)
  | left, _ => left

/-- `row[name] += amount`. -/
def increase (row : Row) (name : String) (amount : PyValue) : Row :=
  row.modify name fun value => addNumbers env value amount

/-- `isinstance(value, (int, float)) and not isinstance(value, bool)`. -/
def isGauge : PyValue → Bool
  | .int _ => true
  | .float _ => true
  | _ => false

def foldSnapshot (row : Row) (items : List (String × PyValue)) : Row :=
  items.foldl (fun row item => if isGauge item.2 then row.set item.1 item.2 else row) row

/-- `usage.get("total_tokens", 0) or int(prompt + completion)`. -/
def totalTokens (usage prompt completion : PyValue) : Option PyValue := do
  let total ← usage.get? "total_tokens" (.int 0)
  if total.truthy then some total
  else (env.plus prompt completion).bind fun sum => (env.int sum).map .int

def foldUsage (row : Row) (record : PyValue) : Option Row := do
  let row := increase env row "requests" (.int 1)
  let row :=
    if (← record.get? "ok" (.bool true)).truthy then increase env row "successes" (.int 1)
    else increase env row "errors" (.int 1)
  let usage := (← record.get? "usage").orEmptyDict
  let prompt ← usage.get? "prompt_tokens" (.int 0)
  let row := increase env row "prompt_tokens" (.int (← env.int prompt))
  let completion ← usage.get? "completion_tokens" (.int 0)
  let row := increase env row "completion_tokens" (.int (← env.int completion))
  let total ← totalTokens env usage prompt completion
  let row := increase env row "total_tokens" (.int (← env.int total))
  match ← record.get? "latency_seconds" with
  | .none => some row
  | latency =>
    let row := increase env row "latency_sum" (.float (← env.float latency))
    some (increase env row "latency_count" (.int 1))

def foldInvocation (row : Row) (record : PyValue) : Option Row := do
  let row := increase env row "invocations" (.int 1)
  match ← record.get? "duration_seconds" with
  | .none => some row
  | duration =>
    let row := increase env row "duration_sum" (.float (← env.float duration))
    some (increase env row "duration_count" (.int 1))

/-- Fold one record into a bucket row. -/
def foldRecord (source : Source) (row : Row) (record : PyValue) : Option Row :=
  let row := increase env row "samples" (.int 1)
  match source with
  | .metricsHistory => do
      match (← record.get? "snapshot").orEmptyDict with
      | .dict items => some (foldSnapshot row items)
      | _ => none
  | .providerUsage => foldUsage env row record
  | .cliTelemetry => foldInvocation env row record
  | _ => some row

def withMean (row : Row) (mean total count : String) : Row :=
  let value : PyValue :=
    match row.get? total, row.get? count with
    | some (.float sum), some (.int number) =>
      if number = 0 then .none else .float (env.mean sum number)
    | _, _ => .none
  ((row.set mean value).erase total).erase count

def finalizeMetrics (source : Source) (row : Row) : Row :=
  match source with
  | .providerUsage => withMean env row "avg_latency_seconds" "latency_sum" "latency_count"
  | .cliTelemetry => withMean env row "avg_duration_seconds" "duration_sum" "duration_count"
  | _ => row

structure RollupRow where
  timestamp : String
  source : Source
  granularity : Granularity
  key : String
  metrics : Row
  records : PyValue

/-- A rollup row as its JSON line reads back. -/
def RollupRow.value (row : RollupRow) : PyValue :=
  .dict [ ("timestamp", .str row.timestamp), ("source", .str row.source.text),
      ("granularity", .str row.granularity.text), ("key", .str row.key),
      ("metrics", .dict row.metrics.entries), ("records", row.records) ]

/-- The bucket and the key a record is aggregated under; the inner `none` is a
record without timestamp. -/
def aggregateKey (source : Source) (granularity : Granularity) (record : PyValue) :
    Option (Option (String × String)) := do
  match ← parseTs env record with
  | none => return none
  | some timestamp =>
    return some (bucketKey env timestamp granularity, ← aggKey env source record)

/-- Group records into rollup rows for one granularity. -/
def aggregate (source : Source) (granularity : Granularity) (records : List PyValue) :
    Option (List RollupRow) := do
  let rows ← groupInto (aggregateKey env source granularity) (rowMetrics source)
    (foldRecord env source) .empty records
  return rows.entries.map fun entry =>
    { timestamp := entry.1.1
      source := source
      granularity := granularity
      key := entry.1.2
      metrics := finalizeMetrics env source entry.2
      records := entry.2.getD "samples" .none }

end Records

section Files

variable (env : RetentionEnv)

/-- A line of a log: JSON, no JSON, or JSON whose reading raises another
exception. -/
inductive LogLine where
  | record (value : PyValue)
  | corrupt (text : String)
  | failing (text : String)

def readJsonl : List LogLine → Option (List PyValue)
  | [] => some []
  | .record value :: rest => (readJsonl rest).map fun values => value :: values
  | .corrupt _ :: rest => readJsonl rest
  | .failing _ :: _ => none

theorem read_records (records : List PyValue) : readJsonl (records.map .record) = some records := by
  induction records with
  | nil => rfl
  | cons record rest ih => rw [List.map_cons, readJsonl, ih, Option.map_some]

abbrev RowKey := String × String × String

/-- The key of a rollup record; the inner `none` is a record that lacks a part
of it. -/
def rollupKey (record : PyValue) : Option (Option RowKey) := do
  match ← record.get? "timestamp", ← record.get? "granularity", ← record.get? "key" with
  | .none, _, _ => return none
  | _, .none, _ => return none
  | _, _, .none => return none
  | timestamp, granularity, key =>
    return some (text env timestamp, text env granularity, text env key)

def existingRollupKeys (rollup : List LogLine) : Option (List RowKey) := do
  let keys ← (← readJsonl rollup).mapM (rollupKey env)
  return keys.reduceOption

structure SourceLogs where
  raw : List LogLine
  rollup : List LogLine

structure SourceReport where
  key : Source
  days : Nat
  rollup : Bool
  rawRecords : Nat
  expiredRecords : Nat
  keepRecords : Nat
  oldest : Option String
  newest : Option String
  rollupRecords : Nat
  wouldRollup : Nat

structure Range where
  expired : Nat
  oldest : Option String
  newest : Option String

/-- One record of the loop in `_source_report`; only text timestamps count. -/
def Range.add (cutoff : Instant) (range : Range) (record : PyValue) : Option Range := do
  match ← parseTs env record with
  | none => return range
  | some instant =>
    match ← record.get? "timestamp" with
    | .str iso =>
      return {
        expired := if instant < cutoff then range.expired + 1 else range.expired
        oldest :=
          if range.oldest.all fun oldest => iso < oldest then some iso else range.oldest
        newest :=
          if range.newest.all fun newest => newest < iso then some iso else range.newest }
    | _ => return range

def sourceReport (key : Source) (policy : Policy) (now : Instant) (logs : SourceLogs) :
    Option SourceReport := do
  let records ← readJsonl logs.raw
  let cutoff ← cutoffAt now policy.days
  let range ← records.foldlM (Range.add env cutoff) { expired := 0, oldest := none, newest := none }
  let rollupRecords ← readJsonl logs.rollup
  return {
    key := key
    days := policy.days
    rollup := policy.rollup
    rawRecords := records.length
    expiredRecords := range.expired
    keepRecords := records.length - range.expired
    oldest := range.oldest
    newest := range.newest
    rollupRecords := rollupRecords.length
    wouldRollup := if policy.rollup then range.expired else 0 }

structure Partition where
  kept : List PyValue
  expired : List PyValue

def Partition.add (cutoff : Instant) (partition : Partition) (record : PyValue) :
    Option Partition := do
  match ← parseTs env record with
  | some instant =>
    if instant < cutoff then
      return { partition with expired := partition.expired ++ [record] }
    else return { partition with kept := partition.kept ++ [record] }
  | none => return { partition with kept := partition.kept ++ [record] }

def partitionExpired (policy : Policy) (now : Instant) (raw : List LogLine) :
    Option Partition := do
  let records ← readJsonl raw
  let cutoff ← cutoffAt now policy.days
  records.foldlM (Partition.add env cutoff) { kept := [], expired := [] }

/-- A rollup file while rows are appended, with the keys known to be in it. -/
structure Rollup where
  lines : List LogLine
  existing : List RowKey
  rolled : Nat

def Rollup.add (rollup : Rollup) (row : RollupRow) : Rollup :=
  let rowKey := (row.timestamp, row.granularity.text, row.key)
  if rowKey ∈ rollup.existing then rollup
  else
    { lines := rollup.lines ++ [.record row.value]
      existing := rowKey :: rollup.existing
      rolled := rollup.rolled + 1 }

def rollUp (source : Source) (expired : List PyValue) (granularity : Granularity)
    (rollup : Rollup) : Outcome Rollup :=
  match aggregate env source granularity expired with
  | none => .raising rollup
  | some rows => .returning (rows.foldl Rollup.add rollup)

structure SourceResult where
  key : Source
  rawRecords : Nat
  expiredRecords : Nat
  keepRecords : Nat
  rolledUp : Nat
  /-- The records dropped; the source returns their number. -/
  truncated : List PyValue
  failed : Bool

def SourceResult.failure (key : Source) : SourceResult :=
  { key := key, rawRecords := 0, expiredRecords := 0, keepRecords := 0, rolledUp := 0,
    truncated := [], failed := true }

def rolledRows (source : Source) (policy : Policy) (expired : List PyValue)
    (lines : List LogLine) : Outcome Rollup :=
  if policy.rollup then
    match existingRollupKeys env lines with
    | none => .raising { lines := lines, existing := [], rolled := 0 }
    | some existing =>
      Outcome.forEach (rollUp env source expired) granularities
        { lines := lines, existing := existing, rolled := 0 }
  else .returning { lines := lines, existing := [], rolled := 0 }

/-- One source of `apply_retention`, whose exceptions are caught. -/
def applySource (source : Source) (policy : Policy) (now : Instant) (logs : SourceLogs) :
    SourceLogs × SourceResult :=
  match partitionExpired env policy now logs.raw with
  | none => (logs, .failure source)
  | some { kept, expired } =>
    let result : SourceResult :=
      { key := source
        rawRecords := kept.length + expired.length
        expiredRecords := expired.length
        keepRecords := kept.length
        rolledUp := 0
        truncated := []
        failed := false }
    if expired = [] then (logs, result)
    else
      let rolled := rolledRows env source policy expired logs.rollup
      if rolled.returned then
        ( { raw := kept.map .record, rollup := rolled.state.lines },
          { result with rolledUp := rolled.state.rolled, truncated := expired } )
      else ({ logs with rollup := rolled.state.lines }, .failure source)

abbrev Logs := Source → SourceLogs

def retentionSummary (policies : Policies) (now : Instant) (logs : Logs) :
    Option (List SourceReport) :=
  (sources.filterMap fun source => (policies source).map fun policy => (source, policy)).mapM
    fun entry => sourceReport env entry.1 entry.2 now (logs entry.1)

structure Applied where
  logs : Logs
  /-- The reports of the summary, unless it raised. -/
  reports : Option (List SourceReport)
  results : List SourceResult

/-- `apply_retention`; the reports of all sources come before the first change. -/
def applyRetention (policies : Policies) (dryRun : Bool) (now : Instant) (logs : Logs) :
    Applied :=
  match retentionSummary env policies now logs with
  | none => { logs := logs, reports := none, results := [] }
  | some reports =>
    if dryRun then { logs := logs, reports := some reports, results := [] }
    else
      { logs := fun source =>
          match policies source with
          | none => logs source
          | some policy => (applySource env source policy now (logs source)).1
        reports := some reports
        results := sources.filterMap fun source =>
          (policies source).map fun policy =>
            (applySource env source policy now (logs source)).2 }

end Files

end AiEnterpriseOs.Telemetry
