import AiEnterpriseOs.Telemetry.Retention

/-!
# What a rollup counts

The rows that expired records are aggregated into count each record once per
granularity, and the rows appended to a rollup file are those of new buckets.
-/

namespace AiEnterpriseOs.Telemetry

open Library

section Folding

variable (env : RetentionEnv)

theorem get_increase (row : Row) (name : String) (amount : PyValue) (key : String) :
    (increase env row name amount).get? key =
      if key = name then (row.get? name).map fun value => addNumbers env value amount
      else row.get? key :=
  OrderedDict.get_modify row name key _

theorem increase_samples {row : Row} {count : Int}
    (samples : row.get? "samples" = some (.int count)) :
    (increase env row "samples" (.int 1)).get? "samples" = some (.int (count + 1)) := by
  rw [get_increase, if_pos rfl, samples]
  rfl

theorem is_some_bind_congr {First Second Other : Type} {value : Option First}
    {next : First → Option Second} {other : First → Option Other}
    (same : ∀ first, (next first).isSome = (other first).isSome) :
    (value.bind next).isSome = (value.bind other).isSome := by
  cases value with
  | none => rfl
  | some first => exact same first

theorem fold_usage_defined (row other : Row) (record : PyValue) :
    (foldUsage env row record).isSome = (foldUsage env other record).isSome := by
  unfold foldUsage
  iterate 9 refine is_some_bind_congr fun _ => ?_
  split
  · rfl
  · exact is_some_bind_congr fun _ => rfl

theorem fold_invocation_defined (row other : Row) (record : PyValue) :
    (foldInvocation env row record).isSome = (foldInvocation env other record).isSome := by
  unfold foldInvocation
  refine is_some_bind_congr fun duration => ?_
  split
  · rfl
  · exact is_some_bind_congr fun _ => rfl

theorem fold_record_defined (source : Source) (row other : Row) (record : PyValue) :
    (foldRecord env source row record).isSome = (foldRecord env source other record).isSome := by
  cases source with
  | metricsHistory =>
    refine is_some_bind_congr fun snapshot => ?_
    split <;> rfl
  | providerUsage => exact fold_usage_defined env _ _ record
  | cliTelemetry => exact fold_invocation_defined env _ _ record
  | sessionTelemetry => rfl
  | actionTelemetry => rfl

/-- The snapshot of a record leaves the sample count alone. -/
def SparesSamples (record : PyValue) : Prop :=
  ∀ items, (record.get? "snapshot").map PyValue.orEmptyDict = some (.dict items) →
    ∀ item ∈ items, item.1 = "samples" → isGauge item.2 = false

theorem fold_snapshot_samples {row : Row} {items : List (String × PyValue)}
    (spared : ∀ item ∈ items, item.1 = "samples" → isGauge item.2 = false) :
    (foldSnapshot row items).get? "samples" = row.get? "samples" := by
  induction items generalizing row with
  | nil => rfl
  | cons item rest ih =>
    rw [List.forall_mem_cons] at spared
    have restKept := fun row => @ih row spared.2
    simp only [foldSnapshot] at restKept
    rw [foldSnapshot, List.foldl_cons, restKept]
    by_cases gauge : isGauge item.2 = true
    · have other : "samples" ≠ item.1 := by
        intro same
        rw [spared.1 same.symm] at gauge
        cases gauge
      rw [if_pos gauge, OrderedDict.get_set_other _ _ other]
    · rw [if_neg gauge]

theorem fold_usage_samples {row next : Row} {record : PyValue}
    (folded : foldUsage env row record = some next) :
    next.get? "samples" = row.get? "samples" := by
  unfold foldUsage at folded
  simp only [Option.bind_eq_bind, Option.bind_eq_some_iff] at folded
  obtain ⟨ok, _, usage, _, prompt, _, promptCount, _, completion, _, completionCount, _,
    total, _, totalCount, _, latency, _, final⟩ := folded
  split at final
  · rw [← Option.some.inj final]
    split <;> simp [get_increase]
  · obtain ⟨seconds, _, counted⟩ := Option.bind_eq_some_iff.mp final
    rw [← Option.some.inj counted]
    split <;> simp [get_increase]

theorem fold_invocation_samples {row next : Row} {record : PyValue}
    (folded : foldInvocation env row record = some next) :
    next.get? "samples" = row.get? "samples" := by
  obtain ⟨duration, _, final⟩ := Option.bind_eq_some_iff.mp folded
  split at final
  · rw [← Option.some.inj final]
    simp [get_increase]
  · obtain ⟨seconds, _, counted⟩ := Option.bind_eq_some_iff.mp final
    rw [← Option.some.inj counted]
    simp [get_increase]

theorem fold_record_samples {source : Source} {row next : Row} {record : PyValue}
    (spared : source = .metricsHistory → SparesSamples record)
    (folded : foldRecord env source row record = some next) {count : Int}
    (samples : row.get? "samples" = some (.int count)) :
    next.get? "samples" = some (.int (count + 1)) := by
  have counted := increase_samples env samples
  cases source with
  | metricsHistory =>
    obtain ⟨snapshot, read, final⟩ := Option.bind_eq_some_iff.mp folded
    split at final
    next items isDict =>
        rw [← Option.some.inj final, fold_snapshot_samples, counted]
        refine spared rfl items ?_
        rw [read, Option.map_some, isDict]
    next => cases final
  | providerUsage => rw [fold_usage_samples env folded, counted]
  | cliTelemetry => rw [fold_invocation_samples env folded, counted]
  | sessionTelemetry => rw [← Option.some.inj folded, counted]
  | actionTelemetry => rw [← Option.some.inj folded, counted]

theorem fresh_samples (source : Source) : (rowMetrics source).get? "samples" = some (.int 0) := by
  cases source <;> rfl

theorem fold_all_samples {source : Source} {row final : Row} {records : List PyValue}
    (spared : source = .metricsHistory → ∀ record ∈ records, SparesSamples record)
    (folded : records.foldlM (foldRecord env source) row = some final) {count : Int}
    (samples : row.get? "samples" = some (.int count)) :
    final.get? "samples" = some (.int (count + records.length)) := by
  induction records generalizing row count with
  | nil =>
    rw [← Option.some.inj folded, samples]
    simp
  | cons record rest ih =>
    rw [List.foldlM_cons] at folded
    obtain ⟨next, first, restFolded⟩ := Option.bind_eq_some_iff.mp folded
    have nextSamples := fold_record_samples env
      (fun isMetrics => spared isMetrics record List.mem_cons_self) first samples
    have final := ih
      (fun isMetrics other member => spared isMetrics other (List.mem_cons_of_mem _ member))
      restFolded nextSamples
    rw [final, List.length_cons]
    congr 2
    push_cast
    omega

end Folding

section Aggregating

variable (env : RetentionEnv)

/-- What a rollup file shows for a bucket of `count` records. -/
def countOf (count : Nat) : List PyValue :=
  if count = 0 then [] else [.int count]

variable {env} {source : Source} {granularity : Granularity} {records : List PyValue}

theorem grouped_samples {grouped : OrderedDict (String × String) Row}
    (spared : source = .metricsHistory → ∀ record ∈ records, SparesSamples record)
    (result : groupInto (aggregateKey env source granularity) (rowMetrics source)
      (foldRecord env source) .empty records = some grouped)
    {key : String × String} {row : Row} (present : grouped.get? key = some row) :
    members (aggregateKey env source granularity) key records ≠ [] ∧ row.getD "samples" .none =
        .int (members (aggregateKey env source granularity) key records).length := by
  have found := group_into_get result key
  rw [present] at found
  by_cases empty : members (aggregateKey env source granularity) key records = []
  · rw [if_pos empty, OrderedDict.get_empty] at found
    cases found
  · rw [if_neg empty, OrderedDict.getD, OrderedDict.get_empty, Option.getD_none] at found
    have samples := fold_all_samples env (fun isMetrics record member =>
      spared isMetrics record (List.mem_of_mem_filter member)) found.symm
      (fresh_samples source)
    rw [OrderedDict.getD, samples, Option.getD_some, zero_add]
    exact ⟨empty, rfl⟩

theorem aggregate_granularity {rows : List RollupRow}
    (aggregated : aggregate env source granularity records = some rows) :
    ∀ row ∈ rows, row.granularity = granularity := by
  obtain ⟨grouped, _, same⟩ := Option.bind_eq_some_iff.mp aggregated
  intro row member
  rw [← Option.some.inj same] at member
  obtain ⟨entry, _, rfl⟩ := List.mem_map.mp member
  rfl

theorem aggregate_distinct {rows : List RollupRow}
    (aggregated : aggregate env source granularity records = some rows) :
    (rows.map fun row => (row.timestamp, row.key)).Nodup := by
  obtain ⟨grouped, _, same⟩ := Option.bind_eq_some_iff.mp aggregated
  rw [← Option.some.inj same, List.map_map]
  exact grouped.distinct

theorem aggregate_counts {rows : List RollupRow}
    (spared : source = .metricsHistory → ∀ record ∈ records, SparesSamples record)
    (aggregated : aggregate env source granularity records = some rows)
    (key : String × String) :
    (rows.filter fun row => (row.timestamp, row.key) = key).map RollupRow.records =
      countOf (members (aggregateKey env source granularity) key records).length := by
  obtain ⟨grouped, result, same⟩ := Option.bind_eq_some_iff.mp aggregated
  have filtered : ((grouped.entries.map fun entry : (String × String) × Row =>
        ({ timestamp := entry.1.1
           source := source
           granularity := granularity
           key := entry.1.2
           metrics := finalizeMetrics env source entry.2
           records := entry.2.getD "samples" .none } : RollupRow)).filter
            fun row => (row.timestamp, row.key) = key).map RollupRow.records =
      (grouped.entries.filter fun entry => entry.1 = key).map
        fun entry => entry.2.getD "samples" .none := by
    rw [List.filter_map, List.map_map]
    rfl
  rw [← Option.some.inj same, filtered, OrderedDict.filter_entries]
  cases present : grouped.get? key with
  | none =>
    have empty : members (aggregateKey env source granularity) key records = [] := by
      by_contra nonempty
      have some_ := group_into_present result (.inr nonempty)
      rw [present] at some_
      cases some_
    rw [empty]
    rfl
  | some row =>
    obtain ⟨nonempty, samples⟩ := grouped_samples spared result present
    rw [countOf, if_neg fun zero => nonempty (List.length_eq_zero_iff.mp zero)]
    exact congrArg (fun value => [value]) samples

theorem aggregate_total {rows : List RollupRow}
    (spared : source = .metricsHistory → ∀ record ∈ records, SparesSamples record)
    (placed : ∀ record ∈ records, ∃ key,
      aggregateKey env source granularity record = some (some key))
    (aggregated : aggregate env source granularity records = some rows) :
    ∃ counts : List Nat, rows.map RollupRow.records =
        (counts.map fun count : Nat => PyValue.int count) ∧ counts.sum = records.length := by
  obtain ⟨grouped, result, same⟩ := Option.bind_eq_some_iff.mp aggregated
  refine ⟨grouped.keys.map fun key =>
    (members (aggregateKey env source granularity) key records).length, ?_, ?_⟩
  · rw [← Option.some.inj same, List.map_map, OrderedDict.keys, List.map_map, List.map_map]
    apply List.map_congr_left
    intro entry member
    have present : grouped.get? entry.1 = some entry.2 :=
      (grouped.get_eq_some_iff entry.1 entry.2).mpr member
    exact (grouped_samples spared result present).2
  · apply total_members grouped.distinct
    intro record member
    obtain ⟨key, atKey⟩ := placed record member
    refine ⟨key, ?_, atKey⟩
    have nonempty : members (aggregateKey env source granularity) key records ≠ [] :=
      List.ne_nil_of_mem (List.mem_filter.mpr ⟨member, by simpa using atKey⟩)
    obtain ⟨row, present⟩ :=
      Option.isSome_iff_exists.mp (group_into_present result (.inr nonempty))
    exact List.mem_map_of_mem ((grouped.get_eq_some_iff key row).mp present)

theorem aggregate_is_some_iff (granularity : Granularity) :
    (aggregate env source granularity records).isSome = true ↔
      ∀ record ∈ records, (aggregateKey env source granularity record).isSome = true ∧
        (∀ key, aggregateKey env source granularity record = some (some key) →
          (foldRecord env source .empty record).isSome = true) := by
  have grouping := @group_into_some_iff _ _ _ _ (aggregateKey env source granularity)
    (rowMetrics source) (foldRecord env source)
    (fun record => (foldRecord env source .empty record).isSome = true)
    (fun row record => by rw [fold_record_defined env source row .empty record])
    .empty records
  rw [← grouping, aggregate]
  cases groupInto (aggregateKey env source granularity) (rowMetrics source)
    (foldRecord env source) .empty records <;> rfl

theorem aggregate_defined_iff (other : Granularity) :
    (aggregate env source granularity records).isSome = true ↔
      (aggregate env source other records).isSome = true := by
  have places : ∀ record, (aggregateKey env source granularity record).isSome =
      (aggregateKey env source other record).isSome ∧
      ((∃ key, aggregateKey env source granularity record = some (some key)) ↔
        ∃ key, aggregateKey env source other record = some (some key)) := by
    intro record
    unfold aggregateKey
    cases parseTs env record with
    | none => simp
    | some found =>
      cases found with
      | none => simp
      | some timestamp => cases aggKey env source record <;> simp
  rw [aggregate_is_some_iff, aggregate_is_some_iff]
  refine forall_congr' fun record => forall_congr' fun _ => ?_
  rw [(places record).1, ← forall_exists_index (p := fun key =>
      aggregateKey env source granularity record = some (some key))
      (q := fun _ => (foldRecord env source .empty record).isSome = true),
    (places record).2, forall_exists_index]

theorem aggregate_from {rows : List RollupRow}
    (spared : source = .metricsHistory → ∀ record ∈ records, SparesSamples record)
    (aggregated : aggregate env source granularity records = some rows) {row : RollupRow}
    (member : row ∈ rows) :
    ∃ record ∈ records,
      aggregateKey env source granularity record = some (some (row.timestamp, row.key)) := by
  obtain ⟨grouped, result, same⟩ := Option.bind_eq_some_iff.mp aggregated
  rw [← Option.some.inj same] at member
  obtain ⟨entry, inside, rfl⟩ := List.mem_map.mp member
  have nonempty := (grouped_samples spared result
    ((grouped.get_eq_some_iff entry.1 entry.2).mpr inside)).1
  obtain ⟨record, isMember⟩ := List.exists_mem_of_ne_nil _ nonempty
  obtain ⟨listed, placed⟩ := List.mem_filter.mp isMember
  exact ⟨record, listed, by simpa using placed⟩

end Aggregating

section Files

variable {env : RetentionEnv}

def RollupRow.rowKey (row : RollupRow) : RowKey :=
  (row.timestamp, row.granularity.text, row.key)

def RollupRow.line (row : RollupRow) : LogLine := .record row.value

theorem read_rows (rows : List RollupRow) :
    readJsonl (rows.map RollupRow.line) = some (rows.map RollupRow.value) := by
  have lines : rows.map RollupRow.line = (rows.map RollupRow.value).map .record := by
    rw [List.map_map]
    rfl
  rw [lines, read_records]

theorem rollup_key_value (row : RollupRow) : rollupKey env row.value = some (some row.rowKey) := rfl

theorem existing_keys_rows (rows : List RollupRow) :
    existingRollupKeys env (rows.map RollupRow.line) = some (rows.map RollupRow.rowKey) := by
  have keys : (rows.map RollupRow.value).mapM (rollupKey env) =
      some ((rows.map RollupRow.rowKey).map some) := by
    induction rows with
    | nil => rfl
    | cons row rest ih =>
      rw [List.map_cons, List.mapM_cons, rollup_key_value, ih]
      rfl
  rw [existingRollupKeys, read_rows]
  show ((rows.map RollupRow.value).mapM (rollupKey env)).bind _ = _
  rw [keys, Option.bind_some]
  simp [List.reduceOption]

theorem add_new_rows {rows : List RollupRow} {rollup : Rollup}
    (distinct : (rows.map RollupRow.rowKey).Nodup)
    (fresh : ∀ row ∈ rows, row.rowKey ∉ rollup.existing) :
    rows.foldl Rollup.add rollup =
      { lines := rollup.lines ++ rows.map RollupRow.line
        existing := (rows.map RollupRow.rowKey).reverse ++ rollup.existing
        rolled := rollup.rolled + rows.length } := by
  induction rows generalizing rollup with
  | nil => simp
  | cons row rest ih =>
    rw [List.forall_mem_cons] at fresh
    obtain ⟨newKey, restDistinct⟩ := List.nodup_cons.mp distinct
    have added : rollup.add row =
        { lines := rollup.lines ++ [row.line]
          existing := row.rowKey :: rollup.existing
          rolled := rollup.rolled + 1 } := by
      rw [Rollup.add]
      exact if_neg fresh.1
    rw [List.foldl_cons, added, ih restDistinct]
    · simp [Nat.add_assoc, Nat.add_comm 1]
    · intro other member
      rw [List.mem_cons, not_or]
      refine ⟨fun same => newKey ?_, fresh.2 other member⟩
      rw [← same]
      exact List.mem_map_of_mem member

theorem row_keys_distinct {source : Source} {granularity : Granularity}
    {records : List PyValue} {rows : List RollupRow}
    (aggregated : aggregate env source granularity records = some rows) :
    (rows.map RollupRow.rowKey).Nodup := by
  have pairs := aggregate_distinct aggregated
  have same : rows.map RollupRow.rowKey = (rows.map fun row => (row.timestamp, row.key)).map
        fun pair => (pair.1, granularity.text, pair.2) := by
    rw [List.map_map]
    apply List.map_congr_left
    intro row member
    rw [RollupRow.rowKey, aggregate_granularity aggregated row member]
    rfl
  rw [same]
  refine pairs.map ?_
  rintro ⟨_, _⟩ ⟨_, _⟩ equal
  simpa using equal

theorem granularity_text_injective : Function.Injective Granularity.text := by
  intro first second same
  cases first <;> cases second <;> first | rfl | exact absurd same (by decide)

/-- No bucket of the records is rolled up yet. -/
def NewBuckets (env : RetentionEnv) (source : Source) (expired : List PyValue)
    (lines : List LogLine) : Prop :=
  ∀ granularity, ∀ record ∈ expired, ∀ place,
    aggregateKey env source granularity record = some (some place) →
      ∀ keys, existingRollupKeys env lines = some keys → (place.1, granularity.text, place.2) ∉ keys

theorem rolled_new_rows {source : Source} {policy : Policy} {expired : List PyValue}
    {hourly daily stored : List RollupRow} (enabled : policy.rollup = true)
    (spared : source = .metricsHistory → ∀ record ∈ expired, SparesSamples record)
    (newBuckets : NewBuckets env source expired (stored.map RollupRow.line))
    (hours : aggregate env source .hourly expired = some hourly)
    (days : aggregate env source .daily expired = some daily) :
    (rolledRows env source policy expired (stored.map RollupRow.line)).returned = true ∧
      (rolledRows env source policy expired (stored.map RollupRow.line)).state.lines =
        (stored ++ hourly ++ daily).map RollupRow.line := by
  have freshRows : ∀ {granularity rows}, aggregate env source granularity expired = some rows →
        ∀ row ∈ rows, row.rowKey ∉ stored.map RollupRow.rowKey := by
    intro granularity rows aggregated row member
    obtain ⟨record, listed, placed⟩ := aggregate_from spared aggregated member
    have absent := newBuckets granularity record listed _ placed _ (existing_keys_rows stored)
    rwa [← aggregate_granularity aggregated row member] at absent
  have apart : ∀ row ∈ daily,
      row.rowKey ∉ (hourly.map RollupRow.rowKey).reverse ++ stored.map RollupRow.rowKey := by
    intro row member
    rw [List.mem_append, not_or, List.mem_reverse]
    refine ⟨fun inside => ?_, freshRows days row member⟩
    obtain ⟨other, otherMember, same⟩ := List.mem_map.mp inside
    have texts : other.granularity.text = row.granularity.text :=
      congrArg (fun key => key.2.1) same
    rw [aggregate_granularity hours other otherMember,
      aggregate_granularity days row member] at texts
    exact absurd (granularity_text_injective texts) (by decide)
  rw [rolledRows, if_pos enabled, existing_keys_rows]
  simp only [granularities, Outcome.forEach, rollUp, hours, days, Outcome.returning_and_then]
  rw [add_new_rows (row_keys_distinct hours) (freshRows hours),
    add_new_rows (row_keys_distinct days) apart]
  exact ⟨rfl, by simp⟩

/-- A record that retention drops at this cutoff. -/
def expires (env : RetentionEnv) (cutoff : Instant) (record : PyValue) : Bool :=
  match parseTs env record with
  | some (some instant) => instant < cutoff
  | _ => false

theorem partition_filter {cutoff : Instant} {records : List PyValue} {start final : Partition}
    (result : records.foldlM (Partition.add env cutoff) start = some final) :
    final.kept = start.kept ++ records.filter (fun record => !expires env cutoff record) ∧
      final.expired = start.expired ++ records.filter (expires env cutoff) := by
  induction records generalizing start with
  | nil =>
    rw [← Option.some.inj result]
    simp
  | cons record rest ih =>
    rw [List.foldlM_cons] at result
    obtain ⟨next, added, restResult⟩ := Option.bind_eq_some_iff.mp result
    obtain ⟨kept, expired⟩ := ih restResult
    obtain ⟨parsed, read, decided⟩ := Option.bind_eq_some_iff.mp added
    rw [kept, expired]
    cases parsed with
    | none =>
      have stays : expires env cutoff record = false := by rw [expires, read]
      rw [← Option.some.inj decided]
      simp [stays]
    | some instant =>
      have timed : expires env cutoff record = decide (instant < cutoff) := by
        rw [expires, read]
      by_cases old : instant < cutoff
      · have moved : some { start with expired := start.expired ++ [record] } =
            some next := (if_pos old).symm.trans decided
        rw [← Option.some.inj moved]
        simp [timed, old]
      · have stays : some { start with kept := start.kept ++ [record] } =
            some next := (if_neg old).symm.trans decided
        rw [← Option.some.inj stays]
        simp [timed, old]

end Files

end AiEnterpriseOs.Telemetry
