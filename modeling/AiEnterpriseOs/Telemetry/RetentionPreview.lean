import AiEnterpriseOs.Telemetry.Conservation
import AiEnterpriseOs.Telemetry.RetentionFailOpen

/-!
# The retention preview

The dry run and the applied pass go through the raw logs apart. The dry run leaves out the
records whose timestamp is no text, and the applied pass reports nothing of a source that it
fails to roll up.
-/

namespace AiEnterpriseOs.Telemetry

open Library

/-- The timestamp of the record is a text. -/
def hasTextTime (record : PyValue) : Bool :=
  match record.get? "timestamp" with
  | some (.str _) => true
  | _ => false

section Law

variable (env : RetentionEnv)

/-- The dry run counts what the pass after it counts and drops from the log of the source. -/
def SourcePreviewed (policies : Policies) (now : Instant) (logs : Logs) (source : Source) :
    Prop :=
  let preview := applyRetention env policies true now logs
  let applied := applyRetention env policies false now preview.logs
  ∃ reports report result before after, preview.reports = some reports ∧
      reports.filter (fun report => report.key = source) = [report] ∧
      applied.results.filter (fun result => result.key = source) = [result] ∧
      result.expiredRecords = report.expiredRecords ∧
      result.keepRecords = report.keepRecords ∧
      readJsonl (logs source).raw = some before ∧
      readJsonl (applied.logs source).raw = some after ∧
      before.length = after.length + report.expiredRecords

/-- The files are read; the timestamps of all expired records are texts, and if the source
is rolled up then each of them can be folded and the rollup file holds objects only. -/
structure Foreseen (source : Source) (policy : Policy) (now : Instant) (logs : SourceLogs) :
    Prop where
  reads : SourceReads env now policy logs
  texts : ∀ cutoff, cutoffAt now policy.days = some cutoff →
    ∀ record ∈ values logs.raw, expires env cutoff record = true → hasTextTime record = true
  rolls : policy.rollup = true → ∀ cutoff, cutoffAt now policy.days = some cutoff →
    ∀ record ∈ values logs.raw, expires env cutoff record = true →
      (foldRecord env source .empty record).isSome = true ∧
        ∀ row ∈ values logs.rollup, isObject row = true

end Law

section Sources

variable {env : RetentionEnv}

theorem range_expired {cutoff : Instant} {records : List PyValue} {start final : Range}
    (ranged : records.foldlM (Range.add env cutoff) start = some final) :
    final.expired = start.expired +
      records.countP fun record => expires env cutoff record && hasTextTime record := by
  induction records generalizing start with
  | nil =>
    rw [← Option.some.inj ranged]
    rfl
  | cons record rest ih =>
    rw [List.foldlM_cons] at ranged
    obtain ⟨next, added, restRanged⟩ := Option.bind_eq_some_iff.mp ranged
    rw [ih restRanged, List.countP_cons]
    obtain ⟨parsed, read, counted⟩ := Option.bind_eq_some_iff.mp added
    cases parsed with
    | none =>
      have stays : expires env cutoff record = false := by rw [expires, read]
      rw [← Option.some.inj counted, stays]
      simp
    | some instant =>
      have timed : expires env cutoff record = decide (instant < cutoff) := by
        rw [expires, read]
      obtain ⟨timestamp, stamped, decided⟩ := Option.bind_eq_some_iff.mp counted
      rw [timed, hasTextTime, stamped]
      cases timestamp with
      | str iso =>
        rw [← Option.some.inj decided]
        by_cases old : instant < cutoff
        · simp [old]
          omega
        · simp [old]
      | _ =>
        rw [← Option.some.inj decided]
        simp

theorem partition_is_some_iff (cutoff : Instant) (partition : Partition) (record : PyValue) :
    (partition.add env cutoff record).isSome = true ↔ (parseTs env record).isSome = true := by
  unfold Partition.add
  cases parseTs env record with
  | none => simp
  | some parsed =>
    apply iff_of_true _ rfl
    cases parsed with
    | none => rfl
    | some instant =>
      simp only [Option.bind_eq_bind, Option.bind_some]
      split <;> rfl

theorem partition_of_reads {policy : Policy} {now : Instant} {logs : SourceLogs}
    (reads : SourceReads env now policy logs) {cutoff : Instant}
    (cut : cutoffAt now policy.days = some cutoff) :
    partitionExpired env policy now logs.raw = some
        { kept := (values logs.raw).filter fun record => !expires env cutoff record
          expired := (values logs.raw).filter (expires env cutoff) } := by
  obtain ⟨readable, -, -, times⟩ := reads
  have divides : ((values logs.raw).foldlM (Partition.add env cutoff)
      { kept := [], expired := [] }).isSome = true :=
    ((FailsOnlyOn.of_is_some (partition_is_some_iff cutoff)).is_some_iff trivial).mpr times
  obtain ⟨partition, divided⟩ := Option.isSome_iff_exists.mp divides
  obtain ⟨keeps, drops⟩ := partition_filter divided
  rw [partitionExpired, read_readable readable, cut]
  simp only [Option.bind_eq_bind, Option.bind_some, divided]
  rw [List.nil_append] at keeps drops
  rw [← keeps, ← drops]

theorem existing_keys_is_some_iff {lines : List LogLine} (readable : Readable lines) :
    (existingRollupKeys env lines).isSome = true ↔ ∀ row ∈ values lines, isObject row = true := by
  have keyed : ∀ row, (rollupKey env row).isSome = true ↔ isObject row = true := by
    intro row
    by_cases object : isObject row = true
    · obtain ⟨timestamp, stamped⟩ := get_object object "timestamp" .none
      obtain ⟨granularity, graded⟩ := get_object object "granularity" .none
      obtain ⟨key, named⟩ := get_object object "key" .none
      refine iff_of_true ?_ object
      simp only [rollupKey, stamped, graded, named, Option.bind_eq_bind, Option.bind_some]
      split <;> rfl
    · rw [rollupKey, get_no_object object]
      simpa using object
  rw [existingRollupKeys, read_readable readable]
  simp only [Option.bind_eq_bind, Option.bind_some, Option.pure_def]
  rw [bind_some_is_some_iff, mapM_is_some_iff]
  simp only [keyed]

theorem aggregate_expired_iff {source : Source} {cutoff : Instant} {records : List PyValue}
    (old : ∀ record ∈ records, expires env cutoff record = true) (granularity : Granularity) :
    (aggregate env source granularity records).isSome = true ↔
      ∀ record ∈ records, (foldRecord env source .empty record).isSome = true := by
  rw [aggregate_is_some_iff]
  apply forall₂_congr
  intro record member
  have expired := old record member
  unfold expires at expired
  cases parsed : parseTs env record with
  | none =>
    rw [parsed] at expired
    cases expired
  | some found =>
    cases found with
    | none =>
      rw [parsed] at expired
      cases expired
    | some instant =>
      have object := object_of_instant env (by rw [parsed]; rfl)
      have keyed : ∃ key, aggKey env source record = some key := by
        cases source with
        | providerUsage =>
          obtain ⟨model, named⟩ := get_object object "model" .none
          simp [aggKey, named]
        | cliTelemetry =>
          obtain ⟨command, named⟩ := get_object object "command" .none
          simp [aggKey, named]
        | _ => exact ⟨_, rfl⟩
      obtain ⟨key, named⟩ := keyed
      simp [aggregateKey, parsed, named]

theorem rolled_returned_iff {source : Source} {policy : Policy} {cutoff : Instant}
    {expired : List PyValue} {lines : List LogLine} (readable : Readable lines)
    (old : ∀ record ∈ expired, expires env cutoff record = true) :
    (rolledRows env source policy expired lines).returned = true ↔
      (policy.rollup = true → (∀ row ∈ values lines, isObject row = true) ∧
        ∀ record ∈ expired, (foldRecord env source .empty record).isSome = true) := by
  rw [rolledRows]
  by_cases enabled : policy.rollup = true
  · rw [if_pos enabled, forall_prop_of_true enabled, ← existing_keys_is_some_iff readable,
      ← aggregate_expired_iff old .hourly]
    cases existingRollupKeys env lines with
    | none => simp
    | some existing =>
      have days := @aggregate_defined_iff env source .hourly expired .daily
      simp only [granularities, Outcome.forEach, rollUp, Option.isSome_some, true_and]
      cases hourly : aggregate env source .hourly expired with
      | none => simp [Outcome.andThen]
      | some rows =>
        rw [hourly] at days
        obtain ⟨daily, found⟩ := Option.isSome_iff_exists.mp (days.mp rfl)
        simp [found, Outcome.andThen]
  · rw [if_neg enabled]
    exact iff_of_true rfl fun rollup => absurd rollup enabled

theorem report_counts {key : Source} {policy : Policy} {now : Instant} {logs : SourceLogs}
    (reads : SourceReads env now policy logs) {cutoff : Instant}
    (cut : cutoffAt now policy.days = some cutoff) {report : SourceReport}
    (reported : sourceReport env key policy now logs = some report) :
    report.expiredRecords = ((values logs.raw).filter (expires env cutoff)).countP hasTextTime ∧
      report.keepRecords = (values logs.raw).length - report.expiredRecords := by
  rw [report_of_readable env key policy now reads.1 reads.2.1, cut, Option.bind_some] at reported
  obtain ⟨range, ranged, same⟩ := Option.bind_eq_some_iff.mp reported
  rw [← Option.some.inj same]
  refine ⟨?_, rfl⟩
  have counted := range_expired ranged
  rw [Nat.zero_add] at counted
  rw [List.countP_filter, counted]
  exact List.countP_congr fun record _ => by rw [Bool.and_comm]

theorem foreseen_iff {source : Source} {policy : Policy} {now : Instant} {logs : SourceLogs}
    (reads : SourceReads env now policy logs) {cutoff : Instant}
    (cut : cutoffAt now policy.days = some cutoff) :
    Foreseen env source policy now logs ↔
      (∀ record ∈ (values logs.raw).filter (expires env cutoff), hasTextTime record = true) ∧
        ∀ record ∈ (values logs.raw).filter (expires env cutoff), policy.rollup = true →
          (foldRecord env source .empty record).isSome = true ∧
            ∀ row ∈ values logs.rollup, isObject row = true := by
  constructor
  · intro known
    constructor
    · intro record member
      obtain ⟨listed, old⟩ := List.mem_filter.mp member
      exact known.texts cutoff cut record listed old
    · intro record member enabled
      obtain ⟨listed, old⟩ := List.mem_filter.mp member
      exact known.rolls enabled cutoff cut record listed old
  · rintro ⟨texts, rolls⟩
    refine ⟨reads, ?_, ?_⟩
    · intro other cut' record listed old
      cases cut.symm.trans cut'
      exact texts record (List.mem_filter.mpr ⟨listed, old⟩)
    · intro enabled other cut' record listed old
      cases cut.symm.trans cut'
      exact rolls record (List.mem_filter.mpr ⟨listed, old⟩) enabled

theorem source_counts_iff {source : Source} {policy : Policy} {now : Instant}
    {logs : SourceLogs} (reads : SourceReads env now policy logs) {report : SourceReport}
    (reported : sourceReport env source policy now logs = some report) :
    ((applySource env source policy now logs).2.expiredRecords = report.expiredRecords ∧
        (applySource env source policy now logs).2.keepRecords = report.keepRecords ∧
        ∃ before after, readJsonl logs.raw = some before ∧
          readJsonl (applySource env source policy now logs).1.raw = some after ∧
          before.length = after.length + report.expiredRecords) ↔
      Foreseen env source policy now logs := by
  obtain ⟨cutoff, cut⟩ := Option.isSome_iff_exists.mp reads.2.2.1
  obtain ⟨expired, kept⟩ := report_counts reads cut reported
  have read := read_readable reads.1
  have parts := List.length_eq_length_filter_add (l := values logs.raw) (expires env cutoff)
  rw [foreseen_iff reads cut, kept, expired]
  simp only [applySource, partition_of_reads reads cut]
  by_cases nothing : (values logs.raw).filter (expires env cutoff) = []
  · rw [if_pos nothing, nothing]
    rw [nothing] at parts
    refine iff_of_true ⟨rfl, ?_, _, _, read, read, rfl⟩ ⟨nofun, nofun⟩
    simpa using parts.symm
  · rw [if_neg nothing]
    have some : 0 < ((values logs.raw).filter (expires env cutoff)).length :=
      List.length_pos_iff.mpr nothing
    have returned := @rolled_returned_iff env source policy cutoff
      ((values logs.raw).filter (expires env cutoff)) logs.rollup reads.2.1
      fun record member => (List.mem_filter.mp member).2
    by_cases rolled : (rolledRows env source policy
        ((values logs.raw).filter (expires env cutoff)) logs.rollup).returned = true
    · rw [if_pos rolled]
      have rolls : ∀ record ∈ (values logs.raw).filter (expires env cutoff),
          policy.rollup = true → (foldRecord env source .empty record).isSome = true ∧
            ∀ row ∈ values logs.rollup, isObject row = true := by
        intro record member enabled
        obtain ⟨objects, folds⟩ := returned.mp rolled enabled
        exact ⟨folds record member, objects⟩
      rw [and_iff_left rolls, ← List.countP_eq_length]
      constructor
      · rintro ⟨same, -⟩
        exact same.symm
      · intro texts
        rw [texts]
        refine ⟨rfl, by dsimp only; omega, _, _, read, read_records _, by omega⟩
    · rw [if_neg rolled]
      refine iff_of_false ?_ ?_
      · -- the applied pass reports zero of everything for the source
        rintro ⟨noneExpired, noneKept, -⟩
        simp only [SourceResult.failure] at noneExpired noneKept
        omega
      · rintro ⟨-, rolls⟩
        apply rolled
        apply returned.mpr
        intro enabled
        obtain ⟨first, member⟩ := List.exists_mem_of_length_pos some
        exact ⟨(rolls first member enabled).2, fun record listed => (rolls record listed enabled).1⟩

end Sources

section Passes

variable (env : RetentionEnv)

theorem report_key {key : Source} {policy : Policy} {now : Instant} {logs : SourceLogs}
    {report : SourceReport} (reported : sourceReport env key policy now logs = some report) :
    report.key = key := by
  obtain ⟨_, _, rest⟩ := Option.bind_eq_some_iff.mp reported
  obtain ⟨_, _, rest⟩ := Option.bind_eq_some_iff.mp rest
  obtain ⟨_, _, rest⟩ := Option.bind_eq_some_iff.mp rest
  obtain ⟨_, _, same⟩ := Option.bind_eq_some_iff.mp rest
  rw [← Option.some.inj same]

theorem summary_is_some_iff (policies : Policies) (now : Instant) (logs : Logs) :
    (retentionSummary env policies now logs).isSome = true ↔
      ∀ source policy, policies source = some policy →
        SourceReads env now policy (logs source) := by
  rw [retentionSummary, mapM_is_some_iff]
  constructor
  · intro reported source policy own
    apply (source_report_iff env source policy now (logs source)).mp
    apply reported (source, policy)
    exact List.mem_filterMap.mpr ⟨source, mem_sources source, by rw [own]; rfl⟩
  · intro reads entry member
    obtain ⟨source, -, paired⟩ := List.mem_filterMap.mp member
    obtain ⟨policy, own, same⟩ := Option.map_eq_some_iff.mp paired
    rw [← same]
    exact (source_report_iff env source policy now (logs source)).mpr (reads source policy own)

theorem source_previewed_iff {policies : Policies} {now : Instant} {logs : Logs}
    {reports : List SourceReport} (summary : retentionSummary env policies now logs = some reports)
    {source : Source} {policy : Policy} (own : policies source = some policy) :
    SourcePreviewed env policies now logs source ↔
      Foreseen env source policy now (logs source) := by
  have reads := (summary_is_some_iff env policies now logs).mp (by rw [summary]; rfl)
    source policy own
  obtain ⟨report, reported⟩ := Option.isSome_iff_exists.mp
    ((source_report_iff env source policy now (logs source)).mpr reads)
  have listed : reports.filter (fun report => report.key = source) = [report] := by
    have all : reports = sources.filterMap fun source =>
        (policies source).bind fun policy => sourceReport env source policy now (logs source) := by
      rw [retentionSummary] at summary
      rw [← filterMap_of_mapM summary, List.filterMap_filterMap]
      apply List.filterMap_congr
      intro other _
      cases policies other <;> rfl
    rw [all, filter_named SourceReport.key _ _ sources sources_nodup source (mem_sources source), own,
      Option.bind_some, reported]
    · rfl
    · intro other found made
      obtain ⟨its, -, made⟩ := Option.bind_eq_some_iff.mp made
      exact report_key env made
  have results : (applyRetention env policies false now logs).results.filter
      (fun result => result.key = source) =
        [(applySource env source policy now (logs source)).2] := by
    rw [applyRetention, summary]
    simp only [Bool.false_eq_true, if_false]
    rw [filter_named SourceResult.key _ _ sources sources_nodup source (mem_sources source), own]
    · rfl
    · intro other found made
      obtain ⟨its, -, same⟩ := Option.map_eq_some_iff.mp made
      rw [← same]
      exact result_key env other its now (logs other)
  have passed : (applyRetention env policies false now logs).logs source =
      (applySource env source policy now (logs source)).1 := by
    rw [applyRetention, summary]
    simp [own]
  have dry : (applyRetention env policies true now logs).logs = logs := by
    rw [applyRetention, summary]
    rfl
  rw [← source_counts_iff reads reported, SourcePreviewed]
  simp only [dry, passed, results, apply_reports, summary]
  constructor
  · rintro ⟨made, same, result, before, after, found, only, single, counts, keeps, rest⟩
    cases found
    cases listed.symm.trans only
    cases single
    exact ⟨counts, keeps, before, after, rest⟩
  · rintro ⟨counts, keeps, before, after, rest⟩
    exact ⟨reports, report, _, before, after, rfl, listed, rfl, counts, keeps, rest⟩

/-- The dry run changes no file. It counts for every source what the pass after it counts
and drops exactly if the summary can be made, all expired records have texts as timestamps,
and rolling them up does not raise. -/
theorem retention_previewed_iff (policies : Policies) (now : Instant) (logs : Logs) :
    (applyRetention env policies true now logs).logs = logs ∧
      ((∀ source policy, policies source = some policy →
          SourcePreviewed env policies now logs source) ↔
        ∀ source policy, policies source = some policy →
          Foreseen env source policy now (logs source)) := by
  constructor
  · rw [applyRetention]
    cases retentionSummary env policies now logs <;> rfl
  · cases summary : retentionSummary env policies now logs with
    | some reports =>
      exact forall_congr' fun source => forall_congr' fun policy => forall_congr' fun own =>
        source_previewed_iff env summary own
    | none =>
      have unread : ¬∀ source policy, policies source = some policy →
          SourceReads env now policy (logs source) := by
        rw [← summary_is_some_iff, summary]
        nofun
      push Not at unread
      obtain ⟨source, policy, own, fails⟩ := unread
      refine iff_of_false ?_ fun known => fails (known source policy own).reads
      intro previewed
      obtain ⟨reports, -, -, -, -, reported, -⟩ := previewed source policy own
      rw [apply_reports, summary] at reported
      cases reported

/-- Library functions as they behave on the number 19700110, a date in its digits. -/
def digitsEnv : RetentionEnv :=
  { History.januaryEnv with
    str := fun _ => "19700110"
    fromisoformat := fun text =>
      if text = "19700110" then .instant (9 * dayLength) else .invalid }

/-- A record whose timestamp is a number expires, and the dry run does not count it. -/
theorem number_time_not_previewed :
    let policies : Policies := fun source =>
      if source = .metricsHistory then some { days := 7, rollup := true } else none
    let now : Instant := 20 * dayLength
    let logs : Logs := fun _ =>
      { raw := [.record (.dict [("timestamp", .int 19700110)])], rollup := [] }
    (applyRetention digitsEnv policies true now logs).reports.map
        (fun reports => reports.map SourceReport.expiredRecords) = some [0] ∧
      (applyRetention digitsEnv policies false now logs).results.map
        SourceResult.expiredRecords = [1] ∧
      ¬SourcePreviewed digitsEnv policies now logs .metricsHistory := by
  intro policies now logs
  have dry : (applyRetention digitsEnv policies true now logs).reports.map
      (fun reports => reports.map SourceReport.expiredRecords) = some [0] := by
    decide +kernel
  have applied : (applyRetention digitsEnv policies false now logs).results.map
      SourceResult.expiredRecords = [1] := by
    decide +kernel
  refine ⟨dry, applied, ?_⟩
  rintro ⟨reports, report, result, -, -, made, listed, single, same, -⟩
  have reported : report ∈ reports :=
    List.mem_of_mem_filter (p := fun report => decide (report.key = .metricsHistory))
      (by rw [listed]; exact List.mem_singleton_self report)
  have passed : result ∈ (applyRetention digitsEnv policies false now logs).results :=
    List.mem_of_mem_filter (p := fun result => decide (result.key = .metricsHistory)) (by
        have dryLogs : (applyRetention digitsEnv policies true now logs).logs = logs := rfl
        rw [dryLogs] at single
        rw [single]
        exact List.mem_singleton_self result)
  have zero : report.expiredRecords = 0 := by
    rw [made, Option.map_some] at dry
    have listedCounts := Option.some.inj dry
    have member := List.mem_map_of_mem (f := SourceReport.expiredRecords) reported
    rw [listedCounts] at member
    exact List.mem_singleton.mp member
  have one : result.expiredRecords = 1 := by
    have member := List.mem_map_of_mem (f := SourceResult.expiredRecords) passed
    rw [applied] at member
    exact List.mem_singleton.mp member
  omega

end Passes

end AiEnterpriseOs.Telemetry
