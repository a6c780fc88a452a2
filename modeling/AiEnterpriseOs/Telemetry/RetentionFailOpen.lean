import AiEnterpriseOs.Telemetry.FailOpen

/-!
# Which logs retention survives

The summary reads both files of every source outside of any `try`; an applied
pass catches what is raised after it.
-/

namespace AiEnterpriseOs.Telemetry

open Library

/-- The logs without the lines that are no records. -/
def SourceLogs.records (logs : SourceLogs) : SourceLogs where
  raw := logs.raw.filter isRecord
  rollup := logs.rollup.filter isRecord

section Summary

variable (env : RetentionEnv)

/-- Both files of a source are read, the cutoff is a date, and the time of
every record is read. -/
def SourceReads (now : Instant) (policy : Policy) (logs : SourceLogs) : Prop :=
  Readable logs.raw ∧ Readable logs.rollup ∧ (cutoffAt now policy.days).isSome = true ∧
    ∀ record ∈ values logs.raw, (parseTs env record).isSome = true

theorem object_of_instant {record : PyValue} (reads : (parseTs env record).isSome = true) :
    isObject record = true := by
  obtain ⟨parsed, found⟩ := Option.isSome_iff_exists.mp reads
  obtain ⟨raw, read, _⟩ := Option.bind_eq_some_iff.mp found
  exact object_of_get read

theorem range_is_some_iff (cutoff : Instant) (range : Range) (record : PyValue) :
    (range.add env cutoff record).isSome = true ↔ (parseTs env record).isSome = true := by
  unfold Range.add
  cases parsed : parseTs env record with
  | none => simp
  | some found =>
    apply iff_of_true _ rfl
    have object : isObject record = true :=
      object_of_instant env (by rw [parsed]; rfl)
    obtain ⟨timestamp, read⟩ := get_object object "timestamp" .none
    cases found with
    | none => rfl
    | some instant =>
      simp only [Option.bind_eq_bind, Option.bind_some, read]
      cases timestamp <;> rfl

theorem report_of_readable (key : Source) (policy : Policy) (now : Instant)
    {logs : SourceLogs} (raw : Readable logs.raw) (rollup : Readable logs.rollup) :
    sourceReport env key policy now logs = (cutoffAt now policy.days).bind fun cutoff =>
        ((values logs.raw).foldlM (Range.add env cutoff)
          { expired := 0, oldest := none, newest := none }).bind fun range =>
          some {
            key := key
            days := policy.days
            rollup := policy.rollup
            rawRecords := (values logs.raw).length
            expiredRecords := range.expired
            keepRecords := (values logs.raw).length - range.expired
            oldest := range.oldest
            newest := range.newest
            rollupRecords := (values logs.rollup).length
            wouldRollup := if policy.rollup then range.expired else 0 } := by
  rw [sourceReport, read_readable raw, read_readable rollup]
  rfl

theorem source_report_iff (key : Source) (policy : Policy) (now : Instant) (logs : SourceLogs) :
    (sourceReport env key policy now logs).isSome = true ↔
      SourceReads env now policy logs := by
  constructor
  · intro reported
    obtain ⟨report, found⟩ := Option.isSome_iff_exists.mp reported
    obtain ⟨records, rawRead, rest⟩ := Option.bind_eq_some_iff.mp found
    obtain ⟨cutoff, cut, rest⟩ := Option.bind_eq_some_iff.mp rest
    obtain ⟨range, ranged, rest⟩ := Option.bind_eq_some_iff.mp rest
    obtain ⟨rollupRecords, rollupRead, _⟩ := Option.bind_eq_some_iff.mp rest
    have raw := (read_is_some_iff logs.raw).mp (by rw [rawRead]; rfl)
    have rollup := (read_is_some_iff logs.rollup).mp (by rw [rollupRead]; rfl)
    rw [read_readable raw] at rawRead
    cases rawRead
    refine ⟨raw, rollup, by rw [cut]; rfl, ?_⟩
    exact ((FailsOnlyOn.of_is_some (range_is_some_iff env cutoff)).is_some_iff trivial).mp
      (by rw [ranged]; rfl)
  · rintro ⟨raw, rollup, cut, times⟩
    obtain ⟨cutoff, found⟩ := Option.isSome_iff_exists.mp cut
    rw [report_of_readable env key policy now raw rollup, found, Option.bind_some,
      bind_some_is_some_iff]
    exact ((FailsOnlyOn.of_is_some (range_is_some_iff env cutoff)).is_some_iff trivial).mpr times

/-- The source is read, and its rollup file holds objects only. -/
def SourceCounts (now : Instant) (policy : Policy) (logs : SourceLogs) : Prop :=
  SourceReads env now policy logs ∧ ∀ record ∈ values logs.rollup, isObject record = true

theorem report_counts_rollup {key : Source} {policy : Policy} {now : Instant}
    {logs : SourceLogs} {report : SourceReport}
    (found : sourceReport env key policy now logs = some report) :
    (readJsonl logs.rollup).map List.length = some report.rollupRecords := by
  obtain ⟨_, _, rest⟩ := Option.bind_eq_some_iff.mp found
  obtain ⟨_, _, rest⟩ := Option.bind_eq_some_iff.mp rest
  obtain ⟨_, _, rest⟩ := Option.bind_eq_some_iff.mp rest
  obtain ⟨rollupRecords, rollupRead, same⟩ := Option.bind_eq_some_iff.mp rest
  rw [rollupRead, ← Option.some.inj same, Option.map_some]

theorem values_raw_records {now : Instant} {policy : Policy} {logs : SourceLogs}
    (reads : SourceReads env now policy logs) :
    values logs.records.raw = values logs.raw :=
  values_objects fun record member => object_of_instant env (reads.2.2.2 record member)

theorem source_fail_open_iff (key : Source) (policy : Policy) (now : Instant) (logs : SourceLogs) :
    (∃ report, sourceReport env key policy now logs = some report ∧
        sourceReport env key policy now logs.records = some report) ↔
      SourceCounts env now policy logs := by
  constructor
  · rintro ⟨report, found, cleaned⟩
    have reads := (source_report_iff env key policy now logs).mp (by rw [found]; rfl)
    have counted := report_counts_rollup env found
    have cleanedCounted := report_counts_rollup env cleaned
    rw [read_readable reads.2.1, ← cleanedCounted, SourceLogs.records,
      read_readable (records_readable _), values_records] at counted
    have lengths := (Option.some.inj counted).symm
    exact ⟨reads, List.length_filter_eq_length_iff.mp lengths⟩
  · rintro ⟨reads, objects⟩
    obtain ⟨report, found⟩ :=
      Option.isSome_iff_exists.mp ((source_report_iff env key policy now logs).mpr reads)
    refine ⟨report, found, ?_⟩
    have rollupSame : values logs.records.rollup = values logs.rollup := values_objects objects
    rw [← found, report_of_readable env key policy now reads.1 reads.2.1,
      report_of_readable env key policy now (records_readable _) (records_readable _),
      values_raw_records env reads, rollupSame]

/-- The sources, their files without the lines that are no records. -/
def recordsOnly (logs : Logs) : Logs :=
  fun source => (logs source).records

def RetentionFailOpen (policies : Policies) (now : Instant) (logs : Logs) : Prop :=
  ∃ reports, retentionSummary env policies now logs = some reports ∧
    retentionSummary env policies now (recordsOnly logs) = some reports

def RetentionReads (policies : Policies) (now : Instant) (logs : Logs) : Prop :=
  ∀ source policy, policies source = some policy → SourceCounts env now policy (logs source)

theorem retention_fail_open_iff (policies : Policies) (now : Instant) (logs : Logs) :
    RetentionFailOpen env policies now logs ↔ RetentionReads env policies now logs := by
  have agreed : RetentionFailOpen env policies now logs ↔ _ := mapM_agree_iff
  rw [agreed]
  constructor
  · intro reported source policy own
    apply (source_fail_open_iff env source policy now (logs source)).mp
    apply reported (source, policy)
    exact List.mem_filterMap.mpr ⟨source, mem_sources source, by rw [own]; rfl⟩
  · intro counts entry member
    obtain ⟨source, _, paired⟩ := List.mem_filterMap.mp member
    obtain ⟨policy, own, same⟩ := Option.map_eq_some_iff.mp paired
    rw [← same]
    exact (source_fail_open_iff env source policy now (logs source)).mpr (counts source policy own)

end Summary

/-! ## An applied pass -/

section Applying

variable (env : RetentionEnv)

/-- The rows that are added depend on the keys in the file, not on its lines. -/
def SameRows (left right : Rollup) : Prop :=
  left.existing = right.existing ∧ left.rolled = right.rolled

theorem same_rows_add {left right : Rollup} (same : SameRows left right) (row : RollupRow) :
    SameRows (left.add row) (right.add row) := by
  unfold Rollup.add
  rw [same.1]
  dsimp only
  split
  · exact same
  · exact ⟨rfl, congrArg (· + 1) same.2⟩

theorem same_rows_all (rows : List RollupRow) {left right : Rollup} (same : SameRows left right) :
    SameRows (rows.foldl Rollup.add left) (rows.foldl Rollup.add right) := by
  induction rows generalizing left right with
  | nil => exact same
  | cons row rest ih => exact ih (same_rows_add same row)

theorem roll_up_alike (source : Source) (expired : List PyValue) (granularity : Granularity)
    {left right : Rollup} (same : SameRows left right) :
    Outcome.Alike SameRows (rollUp env source expired granularity left)
      (rollUp env source expired granularity right) := by
  unfold rollUp
  cases aggregate env source granularity expired with
  | none => exact { returned := rfl, state := same }
  | some rows => exact { returned := rfl, state := same_rows_all rows same }

theorem rolled_rows_alike (source : Source) (policy : Policy) (expired : List PyValue)
    {left right : List LogLine} (same : readJsonl left = readJsonl right) :
    Outcome.Alike SameRows (rolledRows env source policy expired left)
      (rolledRows env source policy expired right) := by
  unfold rolledRows
  have keys : existingRollupKeys env left = existingRollupKeys env right := by
    rw [existingRollupKeys, existingRollupKeys, same]
  split
  · rw [keys]
    cases existingRollupKeys env right with
    | none => exact { returned := rfl, state := ⟨rfl, rfl⟩ }
    | some existing =>
      apply Outcome.for_each_alike
      · intro granularity one other related
        exact roll_up_alike env source expired granularity related
      · exact ⟨rfl, rfl⟩
  · exact { returned := rfl, state := ⟨rfl, rfl⟩ }

theorem apply_source_result (source : Source) (policy : Policy) (now : Instant)
    {left right : SourceLogs} (raw : readJsonl left.raw = readJsonl right.raw)
    (rollup : readJsonl left.rollup = readJsonl right.rollup) :
    (applySource env source policy now left).2 = (applySource env source policy now right).2 := by
  have divided : partitionExpired env policy now left.raw =
      partitionExpired env policy now right.raw := by
    rw [partitionExpired, partitionExpired, raw]
  unfold applySource
  rw [divided]
  cases partitionExpired env policy now right.raw with
  | none => rfl
  | some partition =>
    obtain ⟨kept, expired⟩ := partition
    have alike := rolled_rows_alike env source policy expired rollup
    by_cases nothing : expired = []
    · simp only [if_pos nothing]
    · simp only [if_neg nothing, alike.returned, alike.state.2]
      split <;> rfl

/-- The pass does not raise, and lines that are no records add nothing to its
reports and results. -/
def ApplyFailOpen (policies : Policies) (dryRun : Bool) (now : Instant) (logs : Logs) : Prop :=
  let applied := applyRetention env policies dryRun now logs
  let cleaned := applyRetention env policies dryRun now (recordsOnly logs)
  (∃ reports, applied.reports = some reports ∧ cleaned.reports = some reports) ∧
    applied.results = cleaned.results

theorem apply_reports (policies : Policies) (dryRun : Bool) (now : Instant) (logs : Logs) :
    (applyRetention env policies dryRun now logs).reports =
      retentionSummary env policies now logs := by
  unfold applyRetention
  cases retentionSummary env policies now logs with
  | none => rfl
  | some reports =>
    dsimp only
    split <;> rfl

theorem counted_result {source : Source} {policy : Policy} {now : Instant} {logs : SourceLogs}
    (counts : SourceCounts env now policy logs) :
    (applySource env source policy now logs).2 =
      (applySource env source policy now logs.records).2 := by
  obtain ⟨reads, objects⟩ := counts
  have rollupSame : values logs.records.rollup = values logs.rollup := values_objects objects
  apply apply_source_result
  · rw [read_readable reads.1, ← values_raw_records env reads, SourceLogs.records,
      read_readable (records_readable _)]
  · rw [read_readable reads.2.1, ← rollupSame, SourceLogs.records,
      read_readable (records_readable _)]

theorem apply_fail_open_iff (policies : Policies) (dryRun : Bool) (now : Instant) (logs : Logs) :
    ApplyFailOpen env policies dryRun now logs ↔ RetentionReads env policies now logs := by
  rw [← retention_fail_open_iff]
  unfold ApplyFailOpen
  dsimp only
  rw [apply_reports, apply_reports]
  constructor
  · exact And.left
  · intro failOpen
    refine ⟨failOpen, ?_⟩
    have counts := (retention_fail_open_iff env policies now logs).mp failOpen
    obtain ⟨reports, found, cleaned⟩ := failOpen
    unfold applyRetention
    rw [found, cleaned]
    cases dryRun with
    | true => rfl
    | false =>
      simp only [Bool.false_eq_true, if_false]
      apply List.filterMap_congr
      intro source _
      cases own : policies source with
      | none => rfl
      | some policy => exact congrArg some (counted_result env (counts source policy own))

end Applying

/-! ## The readers on their files -/

/-- The files that the readers open; one that is missing has no bytes. -/
structure TelemetryFiles where
  alerts : Option Bytes
  raw : Source → Option Bytes
  rollup : Source → Option Bytes

namespace TelemetryFiles

variable (loads : List Char → JsonText) (files : TelemetryFiles)

def alertLines : List LogLine :=
  logLines loads files.alerts

def sessionLines : List LogLine :=
  logLines loads (files.raw .sessionTelemetry)

def actionLogs : ActionLogs where
  cli := logLines loads (files.raw .cliTelemetry)
  actions := logLines loads (files.raw .actionTelemetry)
  sessions := files.sessionLines loads

def logs : Logs := fun source =>
  { raw := logLines loads (files.raw source), rollup := logLines loads (files.rollup source) }

end TelemetryFiles

/-- On which files each of the readers does not raise and leaves lines that are
no records out. -/
theorem readers_fail_open_iff (env : ReaderEnv) (loads : List Char → JsonText)
    (files : TelemetryFiles) (alertLimit sessionLimit : Nat) (windowDays : Int) (target : Rat)
    (policies : Policies) (dryRun : Bool) (now : Instant) :
    (FailOpen (alertsSummary env alertLimit) (files.alertLines loads) ↔
      Readable (files.alertLines loads) ∧
        ∀ record ∈ lastRecords alertLimit (values (files.alertLines loads)),
          isObject record = true) ∧
    (FailOpen (sessionTelemetrySummary env sessionLimit) (files.sessionLines loads) ↔
      CheckpointsRead env sessionLimit (files.sessionLines loads)) ∧
    (ShareFailOpen env windowDays target now (files.actionLogs loads) ↔
      ShareReads env windowDays now (files.actionLogs loads)) ∧
    (RetentionFailOpen env.toRetentionEnv policies now (files.logs loads) ↔
      RetentionReads env.toRetentionEnv policies now (files.logs loads)) ∧
    (ApplyFailOpen env.toRetentionEnv policies dryRun now (files.logs loads) ↔
      RetentionReads env.toRetentionEnv policies now (files.logs loads)) := by
  constructor
  · exact alerts_fail_open_iff env alertLimit _
  constructor
  · exact sessions_fail_open_iff env sessionLimit _
  constructor
  · exact share_fail_open_iff env windowDays target now _
  constructor
  · exact retention_fail_open_iff env.toRetentionEnv policies now _
  · exact apply_fail_open_iff env.toRetentionEnv policies dryRun now _

/-- Library functions; a log of one number calls none of them. -/
def bareEnv : ReaderEnv where
  str _ := ""
  fromisoformat _ := .invalid
  hourIsoformat _ := ""
  dateIsoformat _ := ""
  int
    | .int value => some value
    | _ => none
  float _ := none
  plus _ _ := none
  floatPlus left right := left + right
  mean total count := total / count
  roundCost cost := cost
  percent numerator total := some (100 * numerator / total)

/-- A number is JSON and no record. -/
theorem number_line_raises :
    let loads : List Char → JsonText := fun line =>
      if line = ['5'] then .value (.int 5) else .corrupt
    let number : Option Bytes := some [53, 10]
    let files : TelemetryFiles :=
      { alerts := number, raw := fun _ => number, rollup := fun _ => none }
    (alertsSummary bareEnv 200 (files.alertLines loads)).isNone ∧
      (sessionTelemetrySummary bareEnv 200 (files.sessionLines loads)).isNone ∧
      (actionShareSummary bareEnv 30 80 (50000 * dayLength) (files.actionLogs loads)).isNone ∧
      (retentionSummary bareEnv.toRetentionEnv defaultPolicies (50000 * dayLength)
        (files.logs loads)).isNone ∧
      (applyRetention bareEnv.toRetentionEnv defaultPolicies true (50000 * dayLength)
        (files.logs loads)).reports.isNone := by
  decide +kernel

end AiEnterpriseOs.Telemetry
