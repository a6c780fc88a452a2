import AiEnterpriseOs.Library.Runs
import AiEnterpriseOs.Telemetry.Rollups

/-!
# Conservation of telemetry

Over every history of appends and retention passes, the rollup rows of a
source count what was truncated from its log, and what cannot be parsed stays
in the log.
-/

namespace AiEnterpriseOs.Telemetry

open Library

structure History where
  logs : Logs
  /-- All lines ever appended. -/
  appended : Source → List LogLine
  /-- All records ever truncated. -/
  truncated : Source → List PyValue

inductive Event where
  | append (source : Source) (line : LogLine)
  | retention (dryRun : Bool) (now : Instant)

section Passes

variable (env : RetentionEnv) (policies : Policies)

def truncatedBy (results : List SourceResult) (source : Source) : List PyValue :=
  (results.filter fun result => result.key = source).flatMap SourceResult.truncated

namespace History

def start : History where
  logs := fun _ => { raw := [], rollup := [] }
  appended := fun _ => []
  truncated := fun _ => []

def append (history : History) (source : Source) (line : LogLine) : History :=
  { history with
    logs := fun other =>
      if other = source then
        { history.logs source with raw := (history.logs source).raw ++ [line] }
      else history.logs other
    appended := fun other =>
      if other = source then history.appended source ++ [line] else history.appended other }

def step (history : History) : Event → History
  | .append source line => history.append source line
  | .retention dryRun now =>
    let applied := applyRetention env policies dryRun now history.logs
    { history with
      logs := applied.logs
      truncated := fun source =>
        history.truncated source ++ truncatedBy applied.results source }

end History

/-- No JSON, or without a timestamp that can be parsed. -/
def unparsable : LogLine → Bool
  | .record value =>
    match parseTs env value with
    | some (some _) => false
    | _ => true
  | _ => true

/-- The record counts of a rollup file in the rows that meet a condition. -/
def rollupCounts (lines : List LogLine) (wanted : RowKey → Bool) : List PyValue :=
  lines.filterMap fun
    | .record value =>
      match rollupKey env value with
      | some (some key) => if wanted key then value.get? "records" else none
      | _ => none
    | _ => none

/-- Every truncated record is counted in one row of each granularity, and
every line that cannot be parsed is where it was. -/
structure Conserved (source : Source) (logs : SourceLogs) (appended : List LogLine)
    (truncated : List PyValue) : Prop where
  counted : ∀ granularity (place : String × String),
    rollupCounts env logs.rollup (fun key => key = (place.1, granularity.text, place.2)) =
      countOf (members (aggregateKey env source granularity) place truncated).length
  total : ∀ granularity : Granularity, ∃ counts : List Nat,
    rollupCounts env logs.rollup (fun key => key.2.1 = granularity.text) =
      (counts.map fun count : Nat => PyValue.int count) ∧
    counts.sum = truncated.length
  kept : logs.raw.filter (unparsable env) = appended.filter (unparsable env)

/-- A pass that truncates finds only JSON, new buckets, and no snapshot that
overwrites the sample count. -/
def CleanPass (source : Source) (policy : Policy) (now : Instant) (logs : SourceLogs) :
    Prop :=
  ∀ split, partitionExpired env policy now logs.raw = some split → split.expired ≠ [] →
    (aggregate env source .hourly split.expired).isSome = true →
      (∀ line ∈ logs.raw, ∃ record, line = .record record) ∧
      NewBuckets env source split.expired logs.rollup ∧
      (source = .metricsHistory → ∀ record ∈ split.expired, SparesSamples record)

def History.Clean (source : Source) (history : History) : Event → Prop
  | .append _ _ => True
  | .retention dryRun now =>
    dryRun = false → (retentionSummary env policies now history.logs).isSome = true →
      ∀ policy, policies source = some policy →
        CleanPass env source policy now (history.logs source)

end Passes

section Sources

variable {env : RetentionEnv}

/-- What a pass does to one source. -/
inductive SourcePassed (env : RetentionEnv) (source : Source) (before : SourceLogs) :
    SourceLogs → List PyValue → Prop where
  | unchanged : SourcePassed env source before before []
  | truncated (kept expired : List PyValue) (rows : List RollupRow)
      (cutoff : Instant) (records : List PyValue)
      (raw : before.raw = records.map .record)
      (keeps : kept = records.filter fun record => !expires env cutoff record)
      (drops : expired = records.filter (expires env cutoff))
      (counted : ∀ granularity (place : String × String),
        (rows.filter fun row => row.rowKey = (place.1, granularity.text, place.2)).map
            RollupRow.records =
          countOf (members (aggregateKey env source granularity) place expired).length)
      (fresh : NewBuckets env source expired before.rollup)
      (total : ∀ granularity, ∃ counts : List Nat,
        (rows.filter fun row => row.granularity = granularity).map RollupRow.records =
          (counts.map fun count : Nat => PyValue.int count) ∧ counts.sum = expired.length) :
      SourcePassed env source before
        { raw := kept.map .record, rollup := before.rollup ++ rows.map RollupRow.line } expired

theorem read_all_records {lines : List LogLine} {records : List PyValue}
    (clean : ∀ line ∈ lines, ∃ record, line = .record record)
    (read : readJsonl lines = some records) : lines = records.map .record := by
  induction lines generalizing records with
  | nil =>
    rw [← Option.some.inj read]
    rfl
  | cons line rest ih =>
    rw [List.forall_mem_cons] at clean
    obtain ⟨⟨record, rfl⟩, restClean⟩ := clean
    obtain ⟨others, restRead, rfl⟩ := Option.map_eq_some_iff.mp read
    rw [List.map_cons, ← ih restClean restRead]

theorem rows_of_granularity {source : Source} {records : List PyValue}
    {hourly daily : List RollupRow} (hours : aggregate env source .hourly records = some hourly)
    (days : aggregate env source .daily records = some daily) (granularity : Granularity) :
    ∃ rows, aggregate env source granularity records = some rows ∧
      (hourly ++ daily).filter (fun row => row.granularity = granularity) = rows := by
  have hourlyRows := aggregate_granularity hours
  have dailyRows := aggregate_granularity days
  cases granularity with
  | hourly =>
    refine ⟨hourly, hours, ?_⟩
    have all : hourly.filter (fun row => row.granularity = .hourly) = hourly :=
      List.filter_eq_self.mpr fun row member => by simpa using hourlyRows row member
    have none_ : daily.filter (fun row => row.granularity = .hourly) = [] :=
      List.filter_eq_nil_iff.mpr fun row member => by simp [dailyRows row member]
    rw [List.filter_append, all, none_, List.append_nil]
  | daily =>
    refine ⟨daily, days, ?_⟩
    have all : daily.filter (fun row => row.granularity = .daily) = daily :=
      List.filter_eq_self.mpr fun row member => by simpa using dailyRows row member
    have none_ : hourly.filter (fun row => row.granularity = .daily) = [] :=
      List.filter_eq_nil_iff.mpr fun row member => by simp [hourlyRows row member]
    rw [List.filter_append, all, none_, List.nil_append]

theorem filter_row_key (rows : List RollupRow) (granularity : Granularity)
    (place : String × String) :
    (rows.filter fun row => row.rowKey = (place.1, granularity.text, place.2)) =
      (rows.filter fun row => row.granularity = granularity).filter
        fun row => (row.timestamp, row.key) = place := by
  rw [List.filter_filter]
  apply List.filter_congr
  intro row _
  have texts : row.granularity.text = granularity.text ↔ row.granularity = granularity :=
    granularity_text_injective.eq_iff
  have parts : row.rowKey = (place.1, granularity.text, place.2) ↔
      (row.timestamp, row.key) = place ∧ row.granularity = granularity := by
    rw [RollupRow.rowKey, Prod.ext_iff, Prod.ext_iff, Prod.ext_iff, ← texts]
    constructor
    · rintro ⟨bucket, granularityText, key⟩
      exact ⟨⟨bucket, key⟩, granularityText⟩
    · rintro ⟨⟨bucket, key⟩, granularityText⟩
      exact ⟨bucket, granularityText, key⟩
  simp [parts]

theorem expired_placed {source : Source} {cutoff : Instant} {records : List PyValue}
    {rows : List RollupRow} {granularity : Granularity}
    (aggregated : aggregate env source granularity (records.filter (expires env cutoff)) =
      some rows) :
    ∀ record ∈ records.filter (expires env cutoff), ∃ key,
      aggregateKey env source granularity record = some (some key) := by
  intro record member
  obtain ⟨grouped, result, _⟩ := Option.bind_eq_some_iff.mp aggregated
  have defined := (@group_into_some_iff _ _ _ _ (aggregateKey env source granularity)
    (rowMetrics source) (foldRecord env source)
    (fun record => (foldRecord env source .empty record).isSome = true)
    (fun row record => by rw [fold_record_defined env source row .empty record])
    .empty (records.filter (expires env cutoff))).mp (by rw [result]; rfl) record member
  have timed := (List.mem_filter.mp member).2
  have place := defined.1
  unfold expires at timed
  unfold aggregateKey at place ⊢
  cases parsed : parseTs env record with
  | none =>
    rw [parsed] at timed
    cases timed
  | some found =>
    cases found with
    | none =>
      rw [parsed] at timed
      cases timed
    | some instant =>
      rw [parsed] at place
      cases key : aggKey env source record with
      | none =>
        rw [key] at place
        cases place
      | some text => exact ⟨_, rfl⟩

theorem apply_source_passed {source : Source} {policy : Policy} {now : Instant}
    {logs : SourceLogs} {stored : List RollupRow} (enabled : policy.rollup = true)
    (rolled : logs.rollup = stored.map RollupRow.line)
    (clean : CleanPass env source policy now logs) :
    SourcePassed env source logs (applySource env source policy now logs).1
      (applySource env source policy now logs).2.truncated := by
  unfold applySource
  cases split : partitionExpired env policy now logs.raw with
  | none => exact .unchanged
  | some parts =>
    obtain ⟨kept, expired⟩ := parts
    by_cases empty : expired = []
    · simp only [if_pos empty]
      exact .unchanged
    · simp only [if_neg empty]
      cases hours : aggregate env source .hourly expired with
      | none =>
        have stopped : rolledRows env source policy expired logs.rollup = .raising
              { lines := logs.rollup
                existing := stored.map RollupRow.rowKey
                rolled := 0 } := by
          rw [rolledRows, if_pos enabled, rolled, existing_keys_rows]
          simp only [granularities, Outcome.forEach, rollUp, hours]
          rfl
        rw [stopped]
        exact .unchanged
      | some hourly =>
        have hoursDefined : (aggregate env source .hourly expired).isSome = true := by
          rw [hours]
          rfl
        obtain ⟨daily, days⟩ := Option.isSome_iff_exists.mp
          ((aggregate_defined_iff .daily).mp hoursDefined)
        obtain ⟨allRecords, newBuckets, spared⟩ := clean _ split empty hoursDefined
        rw [rolled] at newBuckets
        obtain ⟨returned, lines⟩ :=
          rolled_new_rows enabled spared newBuckets hours days
        rw [← rolled] at returned lines newBuckets
        obtain ⟨records, read, restSplit⟩ := Option.bind_eq_some_iff.mp split
        obtain ⟨cutoff, _, divided⟩ := Option.bind_eq_some_iff.mp restSplit
        obtain ⟨keeps, drops⟩ := partition_filter divided
        rw [List.nil_append] at keeps drops
        have appended : (stored ++ hourly ++ daily).map RollupRow.line =
            logs.rollup ++ (hourly ++ daily).map RollupRow.line := by
          rw [rolled, List.append_assoc, List.map_append]
        rw [if_pos returned, lines, appended]
        refine .truncated kept expired (hourly ++ daily) cutoff records
          (read_all_records allRecords read) keeps drops ?_ newBuckets ?_
        · intro granularity place
          obtain ⟨rows, aggregated, same⟩ := rows_of_granularity hours days granularity
          rw [filter_row_key, same]
          exact aggregate_counts spared aggregated place
        · intro granularity
          obtain ⟨rows, aggregated, same⟩ := rows_of_granularity hours days granularity
          rw [same]
          refine aggregate_total spared ?_ aggregated
          have dropped : expired = records.filter (expires env cutoff) := drops
          rw [dropped] at aggregated ⊢
          exact expired_placed aggregated

end Sources

section Run

variable {env : RetentionEnv} {policies : Policies} {source : Source}

theorem rollup_counts_append (first second : List LogLine) (wanted : RowKey → Bool) :
    rollupCounts env (first ++ second) wanted =
      rollupCounts env first wanted ++ rollupCounts env second wanted :=
  List.filterMap_append

theorem rollup_counts_rows (rows : List RollupRow) (wanted : RowKey → Bool) :
    rollupCounts env (rows.map RollupRow.line) wanted =
      (rows.filter fun row => wanted row.rowKey).map RollupRow.records := by
  induction rows with
  | nil => rfl
  | cons row rest ih =>
    have head : rollupCounts env [row.line] wanted =
        if wanted row.rowKey then [row.records] else [] := by
      rw [rollupCounts, List.filterMap_cons]
      simp only [RollupRow.line, rollup_key_value]
      by_cases hit : wanted row.rowKey = true
      · rw [if_pos hit, if_pos hit]
        rfl
      · rw [if_neg hit, if_neg hit]
        rfl
    rw [List.map_cons, ← List.singleton_append, rollup_counts_append, head, ih]
    by_cases hit : wanted row.rowKey = true
    · rw [if_pos hit, @List.filter_cons_of_pos _ (fun row : RollupRow => wanted row.rowKey) row
        rest hit, List.map_cons, List.singleton_append]
    · rw [if_neg hit, @List.filter_cons_of_neg _ (fun row : RollupRow => wanted row.rowKey) row
        rest hit, List.nil_append]

theorem new_bucket_uncounted {before : SourceLogs} {expired truncated : List PyValue}
    {stored : List RollupRow} (rolled : before.rollup = stored.map RollupRow.line)
    (newBuckets : NewBuckets env source expired before.rollup) {granularity : Granularity}
    {place : String × String}
    (counted : rollupCounts env before.rollup
        (fun key => key = (place.1, granularity.text, place.2)) =
      countOf (members (aggregateKey env source granularity) place truncated).length)
    (touched : members (aggregateKey env source granularity) place expired ≠ []) :
    members (aggregateKey env source granularity) place truncated = [] := by
  obtain ⟨record, isMember⟩ := List.exists_mem_of_ne_nil _ touched
  obtain ⟨listed, placed⟩ := List.mem_filter.mp isMember
  have absent := newBuckets granularity record listed place (by simpa using placed) _
    (by rw [rolled, existing_keys_rows])
  have noRows : (stored.filter fun row =>
      row.rowKey = (place.1, granularity.text, place.2)) = [] := by
    refine List.filter_eq_nil_iff.mpr fun row member hit => absent ?_
    rw [← of_decide_eq_true hit]
    exact List.mem_map_of_mem member
  rw [rolled, rollup_counts_rows, noRows, List.map_nil, countOf] at counted
  by_contra nonempty
  rw [if_neg fun zero => nonempty (List.length_eq_zero_iff.mp zero)] at counted
  cases counted

theorem count_of_add {first second : Nat} (apart : second ≠ 0 → first = 0) :
    countOf (first + second) = countOf first ++ countOf second := by
  by_cases zero : second = 0
  · rw [zero, Nat.add_zero, countOf, countOf, if_pos rfl, List.append_nil]
  · rw [apart zero, Nat.zero_add]
    rfl

theorem unparsable_kept {cutoff : Instant} (records : List PyValue) :
    ((records.filter fun record => !expires env cutoff record).map LogLine.record).filter
        (unparsable env) =
      (records.map LogLine.record).filter (unparsable env) := by
  rw [List.filter_map, List.filter_map, List.filter_filter]
  congr 1
  apply List.filter_congr
  intro record _
  show (unparsable env (.record record) && !expires env cutoff record) =
    unparsable env (.record record)
  simp only [unparsable, expires]
  cases parseTs env record with
  | none => rfl
  | some found => cases found <;> simp

theorem conserved_passed {before after : SourceLogs} {appended : List LogLine}
    {truncated dropped : List PyValue} {stored : List RollupRow}
    (rolled : before.rollup = stored.map RollupRow.line)
    (conserved : Conserved env source before appended truncated)
    (passed : SourcePassed env source before after dropped) :
    Conserved env source after appended (truncated ++ dropped) ∧
      ∃ rows : List RollupRow, after.rollup = rows.map RollupRow.line := by
  cases passed with
  | unchanged =>
    rw [List.append_nil]
    exact ⟨conserved, stored, rolled⟩
  | truncated kept expired rows cutoff records raw keeps drops counted fresh total =>
    refine ⟨{ counted := ?_, total := ?_, kept := ?_ }, stored ++ rows, ?_⟩
    · intro granularity place
      have before := conserved.counted granularity place
      have apart := new_bucket_uncounted rolled fresh before
      rw [rollup_counts_append, before, rollup_counts_rows, counted granularity place,
        members_append, List.length_append, count_of_add]
      intro touched
      rw [apart fun empty => touched (by rw [empty]; rfl)]
      rfl
    · intro granularity
      obtain ⟨counts, already, sum⟩ := conserved.total granularity
      obtain ⟨newCounts, new, newSum⟩ := total granularity
      refine ⟨counts ++ newCounts, ?_, ?_⟩
      · have sameFilter : (rows.filter fun row => row.rowKey.2.1 = granularity.text) =
            rows.filter fun row => row.granularity = granularity := by
          apply List.filter_congr
          intro row _
          exact decide_eq_decide.mpr granularity_text_injective.eq_iff
        rw [rollup_counts_append, already, rollup_counts_rows, sameFilter, new, List.map_append]
      · rw [List.sum_append, sum, newSum, List.length_append]
    · rw [keeps, unparsable_kept, ← raw]
      exact conserved.kept
    · rw [rolled, List.map_append]

theorem result_key (env : RetentionEnv) (source : Source) (policy : Policy) (now : Instant)
    (logs : SourceLogs) : (applySource env source policy now logs).2.key = source := by
  unfold applySource
  cases partitionExpired env policy now logs.raw with
  | none => rfl
  | some split =>
    obtain ⟨kept, expired⟩ := split
    by_cases empty : expired = []
    · simp only [if_pos empty]
    · simp only [if_neg empty]
      split <;> rfl

theorem truncated_by_source (results : Source → Option SourceResult)
    (keyed : ∀ source result, results source = some result → result.key = source)
    (source : Source) :
    truncatedBy (sources.filterMap results) source =
      ((results source).map SourceResult.truncated).getD [] := by
  rw [truncatedBy, filter_named SourceResult.key results keyed sources sources_nodup source
    (mem_sources source)]
  cases results source with
  | none => rfl
  | some result => simp

namespace History

/-- What holds between the events of a clean history. -/
structure InStep (env : RetentionEnv) (source : Source) (history : History) : Prop where
  conserved : Conserved env source (history.logs source) (history.appended source)
    (history.truncated source)
  rolled : ∃ stored : List RollupRow, (history.logs source).rollup = stored.map RollupRow.line

theorem in_step_append {history : History} (inStep : InStep env source history)
    (other : Source) (line : LogLine) : InStep env source (history.append other line) := by
  by_cases same : source = other
  · subst same
    obtain ⟨⟨counted, total, kept⟩, rolled⟩ := inStep
    refine { conserved := { counted := ?_, total := ?_, kept := ?_ }, rolled := ?_ }
    all_goals simp only [append, if_true]
    · exact counted
    · exact total
    · rw [List.filter_append, kept, List.filter_append]
    · exact rolled
  · obtain ⟨conserved, rolled⟩ := inStep
    constructor
    · simp only [append, if_neg same]
      exact conserved
    · simp only [append, if_neg same]
      exact rolled

theorem in_step_retention {history : History} (inStep : InStep env source history)
    (enabled : ∀ policy, policies source = some policy → policy.rollup = true)
    {dryRun : Bool} {now : Instant}
    (clean : history.Clean env policies source (.retention dryRun now)) :
    InStep env source (history.step env policies (.retention dryRun now)) := by
  obtain ⟨conserved, stored, rolled⟩ := inStep
  have passed : SourcePassed env source (history.logs source)
      ((applyRetention env policies dryRun now history.logs).logs source)
      (truncatedBy (applyRetention env policies dryRun now history.logs).results source) := by
    unfold applyRetention
    cases summary : retentionSummary env policies now history.logs with
    | none => exact .unchanged
    | some reports =>
      cases dryRun with
      | true => exact .unchanged
      | false =>
        simp only [Bool.false_eq_true, if_false]
        rw [truncated_by_source _ (by
          intro other result found
          obtain ⟨policy, _, rfl⟩ := Option.map_eq_some_iff.mp found
          exact result_key env other policy now _)]
        cases own : policies source with
        | none => exact .unchanged
        | some policy =>
          exact apply_source_passed (enabled policy own) rolled
            (clean rfl (by rw [summary]; rfl) policy own)
  obtain ⟨conservedAfter, rolledAfter⟩ := conserved_passed rolled conserved passed
  exact { conserved := conservedAfter, rolled := rolledAfter }

theorem in_step_start : InStep env source start where
  conserved :=
    { counted := fun _ _ => rfl
      total := fun _ => ⟨[], rfl, rfl⟩
      kept := rfl }
  rolled := ⟨[], rfl⟩

/-- In every history whose passes are clean for a source that is rolled up,
its telemetry is conserved. -/
theorem telemetry_conserved (env : RetentionEnv) (policies : Policies) (source : Source)
    (enabled : ∀ policy, policies source = some policy → policy.rollup = true)
    (events : List Event)
    (meets : StepsMeet (step env policies) (Clean env policies source) start events) :
    let final := runInputs (step env policies) start events
    Conserved env source (final.logs source) (final.appended source) (final.truncated source) := by
  intro final
  have kept : ∀ history event, InStep env source history → history.Clean env policies source event →
        InStep env source (history.step env policies event) := by
    intro history event inStep clean
    cases event with
    | append other line => exact in_step_append inStep other line
    | retention dryRun now => exact in_step_retention inStep enabled clean
  exact (invariant_of_steps_meet (step env policies) kept start events in_step_start
    meets).conserved

/-- Library functions as they behave on two moments of 1970-01-10. -/
def januaryEnv : RetentionEnv where
  str _ := ""
  fromisoformat
    | "1970-01-10T10:10:00+00:00" => .instant (9 * dayLength + 10 * hourLength + 600000000)
    | "1970-01-10T10:50:00+00:00" => .instant (9 * dayLength + 10 * hourLength + 3000000000)
    | _ => .invalid
  hourIsoformat hour := if hour = 226 then "1970-01-10T10:00:00+00:00" else ""
  dateIsoformat day := if day = 9 then "1970-01-10" else ""
  int _ := none
  float _ := none
  plus _ _ := none
  floatPlus left right := left + right
  mean total count := total / count

def snapshotAt (timestamp : String) : PyValue :=
  .dict [("timestamp", .str timestamp), ("snapshot", .dict [])]

theorem spares_snapshot (timestamp : String) : SparesSamples (snapshotAt timestamp) := by
  intro items isEmpty item inside
  have noItems : (snapshotAt timestamp).get? "snapshot" = some (.dict []) := by
    simp [snapshotAt, PyValue.get?, PyValue.field]
  rw [noItems] at isEmpty
  have same : items = [] := (PyValue.dict.inj (Option.some.inj isEmpty)).symm
  rw [same] at inside
  cases inside

theorem clean_first_pass (timestamp : String) (policy : Policy) (now : Instant) :
    CleanPass januaryEnv .metricsHistory policy now
      { raw := [.record (snapshotAt timestamp)], rollup := [] } := by
  intro split divided _ _
  refine ⟨fun line member => ?_, fun _ _ _ _ _ keys existing => ?_, fun _ record member => ?_⟩
  · exact ⟨_, List.mem_singleton.mp member⟩
  · rw [← Option.some.inj existing]
    exact List.not_mem_nil
  · obtain ⟨cutoff, _, parts⟩ := Option.bind_eq_some_iff.mp divided
    rw [(partition_filter parts).2, List.nil_append] at member
    rw [List.mem_singleton.mp (List.mem_of_mem_filter member)]
    exact spares_snapshot timestamp

theorem one_snapshot_conserved :
    let events :=
      [ .append .metricsHistory (.record (snapshotAt "1970-01-10T10:10:00+00:00")),
        .retention false (16 * dayLength + 11 * hourLength) ]
    let final := runInputs (step januaryEnv defaultPolicies) start events
    Conserved januaryEnv .metricsHistory (final.logs .metricsHistory)
      (final.appended .metricsHistory) (final.truncated .metricsHistory) := by
  intro events final
  refine telemetry_conserved januaryEnv defaultPolicies .metricsHistory ?_ events
    ⟨trivial, fun _ _ policy _ => clean_first_pass _ policy _, trivial⟩
  intro policy own
  rw [← Option.some.inj own]

/-- Records of one hour that expire in two passes are counted once, and a
line that is no JSON goes with the first pass. -/
theorem split_hour_undercounted :
    let events := [ .append .metricsHistory (.record (snapshotAt "1970-01-10T10:10:00+00:00")),
      .append .metricsHistory (.record (snapshotAt "1970-01-10T10:50:00+00:00")),
      .append .metricsHistory (.corrupt "oops"),
      .retention false (16 * dayLength + 10 * hourLength + 1800000000),
      .retention false (16 * dayLength + 11 * hourLength) ]
    let final := runInputs (step januaryEnv defaultPolicies) start events
    (final.truncated .metricsHistory).length = 2 ∧
      (rollupCounts januaryEnv (final.logs .metricsHistory).rollup
        (fun key => key.2.1 = "hourly")).map PyValue.number? = [some 1] ∧
      ((final.appended .metricsHistory).filter (unparsable januaryEnv)).length = 1 ∧
      (final.logs .metricsHistory).raw.length = 0 := by
  decide +kernel

end History

end Run

end AiEnterpriseOs.Telemetry
