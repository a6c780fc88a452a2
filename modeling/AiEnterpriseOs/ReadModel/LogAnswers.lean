import AiEnterpriseOs.Library.OptionFold
import AiEnterpriseOs.ReadModel.Answers

/-!
# The read model beside the logs

Runs in which the usage log and the metrics log are written record by record, with syncs and
rebuilds of the read model in between, whatever becomes of the event store.
-/

namespace AiEnterpriseOs.ReadModel

open Library Library.Connection
open Telemetry hiding readJsonl

inductive LogAction where
  | recordUsage (call : UsageCall)
  | logSnapshot (timestamp : String) (snapshot : PyValue)
  | events (file : Option Bytes)
  | sync
  | rebuild

def LogAction.record : LogAction → Source → Option PyValue
  | .recordUsage call, .providerUsage => some call.record
  | .logSnapshot timestamp snapshot, .metrics => some (snapshotRecord timestamp snapshot)
  | _, _ => none

section Writing

variable (env : ImportEnv) (line : PyValue → Bytes)

/-- The change to the logs, where a record is written as a line. -/
def LogAction.change : LogAction → Change
  | .recordUsage call => .append .providerUsage (line call.record)
  | .logSnapshot timestamp snapshot => .append .metrics (line (snapshotRecord timestamp snapshot))
  | .events none => .delete .events
  | .events (some bytes) => .replace .events bytes
  | .sync => .sync
  | .rebuild => .rebuild

/-- What is documented of JSON: a record written as a line is one line and is read back,
and so is a snapshot written to its column. -/
def WritesJson (action : LogAction) : Prop :=
  (∀ source record, action.record source = some record →
    WholeLines (line record) ∧ readJsonl env.loads (some (line record)) = some [record]) ∧
  ∀ timestamp snapshot, action = .logSnapshot timestamp snapshot →
    env.loads (env.dumps snapshot).toList = .value snapshot

/-- What a sync reads on from its watermark has no line end that only `splitlines` knows. -/
def ReadsPlain (replica : Replica) (change : Change) : Prop :=
  change = .sync → ∀ source bytes offset, source ≠ .events → replica.files source = some bytes →
    storedOffset replica.database.tables source = some offset → PlainLines (bytes.drop offset)

/-- A log of whole lines with these records, and a table with the rows of what of it was
imported. -/
structure LogLevel (replica : Replica) (source : Source) (records : List PyValue) : Prop where
  reads : readJsonl env.loads (some ((replica.files source).getD [])) = some records
  grown : ∃ more, WholeLines more ∧ (replica.files source).getD [] = replica.imported source ++ more
  whole : WholeLines (replica.imported source)
  level : ∀ offset, storedOffset replica.database.tables source = some offset →
    offset = (replica.imported source).length ∧ (stream env source).get replica.database.tables =
        loadRows env source (some (replica.imported source))
  fresh : storedOffset replica.database.tables source = none →
    (stream env source).get replica.database.tables = some []

structure LogsLevel (replica : Replica) (records : Source → List PyValue) : Prop where
  idle : replica.database.begun = none
  faultless : replica.database.fault = none
  schema : replica.database.tables.hasSchema = true
  each : ∀ source, source ≠ .events → LogLevel env replica source (records source)

variable {env}

theorem LogLevel.lines {replica : Replica} {source : Source} {records : List PyValue}
    (level : LogLevel env replica source records) :
    WholeLines ((replica.files source).getD []) := by
  obtain ⟨more, moreWhole, same⟩ := level.grown
  rw [same]
  exact whole_lines_append level.whole moreWhole

theorem LogLevel.append {replica : Replica} {source : Source} {records : List PyValue}
    (level : LogLevel env replica source records) {bytes : Bytes} {record : PyValue}
    (whole : WholeLines bytes)
    (read : readJsonl env.loads (some bytes) = some [record]) :
    LogLevel env (replica.step env (.append source bytes)) source (records ++ [record]) := by
  have file : ((replica.step env (.append source bytes)).files source) =
      some ((replica.files source).getD [] ++ bytes) := by
    simp [Replica.step, Replica.setFile]
  constructor
  · rw [file, Option.getD_some]
    exact read_append level.lines level.reads read
  · obtain ⟨more, moreWhole, same⟩ := level.grown
    refine ⟨more ++ bytes, whole_lines_append moreWhole whole, ?_⟩
    rw [file, Option.getD_some, same, List.append_assoc]
    rfl
  · exact level.whole
  · exact level.level
  · exact level.fresh

theorem LogLevel.elsewhere {replica : Replica} {source other : Source} {records : List PyValue}
    (level : LogLevel env replica source records) (different : source ≠ other)
    (file : Option Bytes) : LogLevel env (replica.setFile other file) source records := by
  have same : (replica.setFile other file).files source = replica.files source :=
    if_neg different
  exact
    { reads := by rw [same]; exact level.reads
      grown := by rw [same]; exact level.grown
      whole := level.whole
      level := level.level
      fresh := level.fresh }

theorem load_rows_on {source : Source} {front back : Bytes} {records : List PyValue}
    {before changed : List (stream env source).Stored} (whole : WholeLines front)
    (plain : PlainLines back) (read : readJsonl env.loads (some (front ++ back)) = some records)
    (loaded : loadRows env source (some front) = some before)
    {later : List PyValue}
    (laterRead : readJsonlSince env (some (front ++ back)) front.length = some later)
    (effect : recordsEffect env source later before = some changed) :
    loadRows env source (some (front ++ back)) = some changed := by
  obtain ⟨first, second, frontRead, backRead, both⟩ :=
    read_since env (clean_cut_lines whole plain) read
  have same : second = later := Option.some.inj (backRead.symm.trans laterRead)
  have initial : recordsEffect env source first [] = some before := by
    rw [loadRows, frontRead, Option.bind_some] at loaded
    exact loaded
  obtain ⟨rows, collected, _⟩ := Option.bind_eq_some_iff.mp effect
  rw [loadRows, read, Option.bind_some, both, records_effect_append, same, collected,
    Option.bind_some, initial, Option.bind_some, effect]

theorem LogLevel.synced_rows {replica : Replica} {source : Source} {records : List PyValue}
    (level : LogLevel env replica source records) {after : Tables}
    (plain : ∀ bytes offset, replica.files source = some bytes →
      storedOffset replica.database.tables source = some offset →
      PlainLines (bytes.drop offset))
    (done : SourceSynced env source (replica.files source) replica.database.tables after) :
    (stream env source).get after = loadRows env source (some ((replica.files source).getD [])) ∧
      storedOffset after source = some ((replica.files source).getD []).length := by
  obtain ⟨batch, stored, changed, read, table, effect, now, watermark⟩ := done
  obtain ⟨more, _, grown⟩ := level.grown
  have reads := level.reads
  rw [now, watermark, sync_batch_size env read]
  have full : ∀ bytes, replica.files source = some bytes →
      (readJsonl env.loads (some bytes)).map (fun records =>
        ({ records, size := bytes.length, reset := true } : SyncBatch)) = some batch →
      some changed = loadRows env source (some bytes) := by
    intro bytes _ found
    obtain ⟨all, allRead, made⟩ := Option.map_eq_some_iff.mp found
    rw [← made] at effect
    rw [loadRows, allRead]
    exact effect.symm
  cases file : replica.files source with
  | none =>
    rw [file] at read grown
    have empty : replica.imported source = [] := (List.append_eq_nil_iff.mp grown.symm).1
    rw [← Option.some.inj read, batch_effect_empty] at effect
    refine ⟨?_, rfl⟩
    rw [← effect, ← table]
    cases offset : storedOffset replica.database.tables source with
    | none => rw [level.fresh offset]; rfl
    | some _ => rw [(level.level _ offset).2, empty]; rfl
  | some bytes =>
    rw [file] at read grown reads
    rw [Option.getD_some] at grown reads ⊢
    refine ⟨?_, rfl⟩
    cases offset : storedOffset replica.database.tables source with
    | none =>
      rw [offset] at read
      exact full bytes file read
    | some cut =>
      obtain ⟨atEnd, loaded⟩ := level.level cut offset
      have shorter : ¬bytes.length < cut := by
        rw [grown, List.length_append]
        omega
      rw [offset, syncBatch] at read
      rw [if_neg shorter] at read
      split at read
      next level_ =>
        have nothing : more = [] := by
          rw [grown, List.length_append] at level_
          exact List.eq_nil_of_length_eq_zero (by omega)
        rw [← Option.some.inj read, batch_effect_empty] at effect
        rw [← effect, ← table, loaded, grown, nothing, List.append_nil]
      · obtain ⟨later, laterRead, made⟩ := Option.map_eq_some_iff.mp read
        rw [← made] at effect
        have tail := plain bytes cut file offset
        rw [grown, atEnd, List.drop_left] at tail
        rw [grown] at reads laterRead ⊢
        rw [atEnd] at laterRead
        exact (load_rows_on level.whole tail reads (loaded.symm.trans table) laterRead effect).symm

theorem LogLevel.settled {replica : Replica} {source : Source} {records : List PyValue}
    (level : LogLevel env replica source records) {after : Database}
    (rows : (stream env source).get after.tables =
      loadRows env source (some ((replica.files source).getD [])))
    (watermark : storedOffset after.tables source = some ((replica.files source).getD []).length) :
    LogLevel env (replica.settle (.returning after)) source records where
  reads := level.reads
  grown := ⟨[], plain_lines_nil.whole, (List.append_nil _).symm⟩
  whole := level.lines
  level := by
    intro offset found
    exact ⟨Option.some.inj (found.symm.trans watermark), rows⟩
  fresh := by
    intro missing
    cases missing.symm.trans watermark

theorem LogLevel.kept {replica : Replica} {source : Source} {records : List PyValue}
    (level : LogLevel env replica source records) :
    LogLevel env (replica.settle (.raising replica.database)) source records :=
  ⟨level.reads, level.grown, level.whole, level.level, level.fresh⟩

theorem logs_level_sync {replica : Replica} {records : Source → List PyValue}
    (logs : LogsLevel env replica records) (plain : ReadsPlain replica .sync) :
    LogsLevel env (replica.step env .sync) records := by
  have came := synced env replica.files logs.idle logs.schema logs.faultless
  rw [Replica.step]
  generalize syncFromJsonl env replica.files replica.database = outcome at came ⊢
  cases came with
  | undone source failed =>
    exact
      { idle := logs.idle
        faultless := logs.faultless
        schema := logs.schema
        each := fun source keyless => (logs.each source keyless).kept }
  | done tables schema each =>
    refine
      { idle := rfl
        faultless := rfl
        schema := schema
        each := fun source keyless => ?_ }
    obtain ⟨rows, watermark⟩ := (logs.each source keyless).synced_rows
      (fun bytes offset => plain rfl source bytes offset keyless) (each source)
    exact (logs.each source keyless).settled rows watermark

theorem logs_level_rebuild {replica : Replica} {records : Source → List PyValue}
    (logs : LogsLevel env replica records) : LogsLevel env (replica.step env .rebuild) records := by
  have came := rebuilt env replica.files logs.idle logs.faultless
  rw [Replica.step]
  generalize rebuild env replica.files replica.database = outcome at came ⊢
  cases came with
  | done tables schema each =>
    refine
      { idle := rfl
        faultless := rfl
        schema := schema
        each := fun source keyless => ?_ }
    obtain ⟨rows, loaded, table, watermark⟩ := each source
    apply (logs.each source keyless).settled
    · rw [table, ← loaded]
      cases replica.files source <;> rfl
    · rw [watermark, fileSize]
      cases replica.files source <;> rfl
  | unread =>
    exact
      { idle := logs.idle
        faultless := logs.faultless
        schema := logs.schema
        each := fun source keyless => (logs.each source keyless).kept }
  | emptied =>
    refine
      { idle := rfl
        faultless := rfl
        schema := rfl
        each := fun source keyless => ?_ }
    have level := logs.each source keyless
    refine ⟨level.reads, level.grown, level.whole, ?_, ?_⟩
    · intro offset found
      exact absurd found Replica.no_offsets_empty
    · intro _
      cases source <;> rfl

def recordsAfter (records : Source → List PyValue) (action : LogAction) :
    Source → List PyValue := fun source =>
  records source ++ (action.record source).toList

variable {line}

theorem logs_level_step {replica : Replica} {records : Source → List PyValue}
    {action : LogAction} (logs : LogsLevel env replica records)
    (writes : WritesJson env line action) (plain : ReadsPlain replica (action.change line)) :
    LogsLevel env (replica.step env (action.change line)) (recordsAfter records action) := by
  have appended : ∀ source record, (∀ other, action.record other =
        if other = source then some record else none) →
      LogsLevel env (replica.step env (.append source (line record)))
        (recordsAfter records action) := by
    intro source record wrote
    obtain ⟨whole, read⟩ := writes.1 source record (by rw [wrote, if_pos rfl])
    refine
      { idle := logs.idle
        faultless := logs.faultless
        schema := logs.schema
        each := fun other keyless => ?_ }
    rw [recordsAfter, wrote]
    by_cases here : other = source
    · rw [here] at keyless ⊢
      rw [if_pos rfl]
      exact (logs.each source keyless).append whole read
    · rw [if_neg here, Option.toList_none, List.append_nil]
      exact (logs.each other keyless).elsewhere here _
  have silent : ∀ after, LogsLevel env after records → (∀ source, action.record source = none) →
        LogsLevel env after (recordsAfter records action) := by
    intro after level nothing
    have same : recordsAfter records action = records := by
      funext source
      rw [recordsAfter, nothing, Option.toList_none, List.append_nil]
    rw [same]
    exact level
  cases action with
  | recordUsage call =>
    exact appended .providerUsage call.record fun other => by cases other <;> rfl
  | logSnapshot timestamp snapshot =>
    exact appended .metrics _ fun other => by cases other <;> rfl
  | events file =>
    apply silent _ _ fun source => by cases source <;> rfl
    have apart : LogsLevel env (replica.setFile .events file) records :=
      { idle := logs.idle
        faultless := logs.faultless
        schema := logs.schema
        each := fun source keyless => (logs.each source keyless).elsewhere keyless _ }
    cases file with
    | none => exact apart
    | some bytes => exact apart
  | sync => exact silent _ (logs_level_sync logs plain) fun source => by cases source <;> rfl
  | rebuild => exact silent _ (logs_level_rebuild logs) fun source => by cases source <;> rfl

theorem logs_level_run {actions : List LogAction} {replica : Replica}
    {records : Source → List PyValue} (logs : LogsLevel env replica records)
    (writes : ∀ action ∈ actions, WritesJson env line action)
    (plain : StepsMeet (Replica.step env) ReadsPlain replica
      (actions.map (LogAction.change line))) :
    LogsLevel env (runInputs (Replica.step env) replica (actions.map (LogAction.change line)))
      fun source => records source ++ actions.filterMap fun action => action.record source := by
  induction actions generalizing replica records with
  | nil =>
    simp only [List.filterMap_nil, List.append_nil]
    exact logs
  | cons action rest ih =>
    have next := logs_level_step logs (writes action List.mem_cons_self) plain.1
    have last := ih next (fun other member => writes other (List.mem_cons_of_mem _ member)) plain.2
    have same : (fun source => recordsAfter records action source ++
        rest.filterMap fun action => action.record source) =
        fun source => records source ++
          (action :: rest).filterMap fun action => action.record source := by
      funext source
      rw [recordsAfter, List.append_assoc, List.filterMap_cons]
      cases action.record source <;> rfl
    rw [← same]
    exact last

end Writing

/-! ## What was written -/

def usageCall? : LogAction → Option UsageCall
  | .recordUsage call => some call
  | _ => none

def snapshot? : LogAction → Option (String × PyValue)
  | .logSnapshot timestamp snapshot => some (timestamp, snapshot)
  | _ => none

/-- The last `limit` items, of which there is at least one to be shown. -/
def window {Item : Type} (limit : Nat) (items : List Item) : List Item :=
  items.drop (items.length - limit)

section Written

variable (actions : List LogAction)

theorem usage_records : (actions.filterMap fun action => action.record .providerUsage) =
    (actions.filterMap usageCall?).map UsageCall.record := by
  rw [List.map_filterMap]
  apply congrArg (fun pick => actions.filterMap pick)
  funext action
  cases action <;> rfl

theorem metric_records : (actions.filterMap fun action => action.record .metrics) =
    (actions.filterMap snapshot?).map fun entry => snapshotRecord entry.1 entry.2 := by
  rw [List.map_filterMap]
  apply congrArg (fun pick => actions.filterMap pick)
  funext action
  cases action <;> rfl

variable {env : ImportEnv} {actions}

theorem rows_of_records {Item : Type} {source : Source} (keyless : source ≠ .events)
    {record : Item → PyValue} {row : Item → (stream env source).Stored}
    (imported : ∀ item stored, ImportedAs env source (record item) stored → stored = row item)
    {items : List Item} {rows : List (stream env source).Stored}
    (effect : recordsEffect env source (items.map record) [] = some rows) :
    rows = items.map row := by
  obtain ⟨new, same, each⟩ := one_row_each env keyless effect
  rw [List.nil_append] at same
  rw [List.forall₂_map_left_iff] at each
  rw [same]
  clear same effect
  induction each with
  | nil => rfl
  | cons first _ ih => rw [List.map_cons, ← imported _ _ first, ← ih]

def metricRow (env : ImportEnv) (entry : String × PyValue) : MetricRow where
  timestamp := entry.1
  snapshot := env.dumps entry.2

theorem imported_metric (entry : String × PyValue) (stored : MetricRow)
    (imported : ImportedAs env .metrics (snapshotRecord entry.1 entry.2) stored) :
    stored = metricRow env entry := by
  have effect : some [metricRow env entry] = some [stored] := imported
  exact (List.cons.inj (Option.some.inj effect)).1.symm

theorem imported_usage (converts : Converts env) (call : UsageCall) (stored : UsageRow)
    (imported : ImportedAs env .providerUsage call.record stored) : stored = call.row := by
  have effect : (collectRows (stream env .providerUsage).parse [call.record]).bind (fun new =>
      applyAll insertUsage new []) = some [stored] := imported
  have parsed : (stream env .providerUsage).parse call.record = some (some call.row) := by
    show (parseProviderUsage env call.record).map some = some (some call.row)
    rw [usage_record_row converts, Option.map_some]
  rw [collectRows, parsed] at effect
  have inserted : (insertUsage call.row []).bind (applyAll insertUsage []) = some [stored] :=
    effect
  rw [insertUsage] at inserted
  split at inserted
  · exact (List.cons.inj (Option.some.inj inserted)).1.symm
  · cases inserted

/-! ## The two answers -/

theorem newest_rows_window {Item : Type} (limit : Nat) (items : List Item) :
    newestRows limit items = (window limit items).reverse := by
  rw [newestRows, window, List.take_reverse]

theorem last_records_window {limit : Nat} (positive : 1 ≤ limit) (records : List PyValue) :
    lastRecords limit records = window limit records := by
  rw [lastRecords, if_neg (by omega), window]

theorem window_map {Item Other : Type} (change : Item → Other) (limit : Nat)
    (items : List Item) : window limit (items.map change) = (window limit items).map change := by
  rw [window, window, List.length_map, List.map_drop]

theorem mapM_map_eq {Item Record Result : Type} {record : Item → Record}
    {read : Record → Option Result} {value : Item → Result} {items : List Item}
    (each : ∀ item ∈ items, read (record item) = some (value item)) :
    (items.map record).mapM read = some (items.map value) := by
  have all : ∀ item ∈ items, (read ∘ record) item = some (value item) := each
  rw [List.mapM_map]
  exact mapM_eq_map all

theorem usage_summary_log (converts : Converts env) (round : Rat → Nat → Rat) {limit : Nat}
    (positive : 1 ≤ limit) {file : Option Bytes} {calls : List UsageCall}
    (read : readJsonl env.loads file = some (calls.map UsageCall.record)) :
    providerUsageSummary (env.summaryEnv round) limit file =
      some (summarizeUsage (env.summaryEnv round) (entries (window limit calls))) := by
  have each : ((window limit calls).map UsageCall.record).mapM
      (UsageEntry.ofRecord (env.summaryEnv round)) = some (entries (window limit calls)) :=
    mapM_map_eq fun call _ => usage_record_entry converts round call
  have found : readJsonl (env.summaryEnv round).loads file =
      some (calls.map UsageCall.record) := read
  rw [providerUsageSummary, found]
  simp only [Option.bind_eq_bind, Option.bind_some, last_records_window positive, window_map, each]
  rfl

theorem usage_summary_table (env : SummaryEnv) {tables : Tables} (limit : Nat)
    {calls : List UsageCall} (rows : tables.providerUsage = some (calls.map UsageCall.row)) :
    tables.providerUsageByModel env limit =
      some (summarizeUsage env (entries (window limit calls).reverse)) := by
  rw [Tables.providerUsageByModel, rows, Option.map_some, newest_rows_window, window_map,
    entries, List.map_reverse, List.map_reverse, List.map_map]
  rfl

theorem metrics_summaries (round : Rat → Nat → Rat) {limit : Nat} (positive : 1 ≤ limit)
    {file : Option Bytes} {tables : Tables} {snapshots : List (String × PyValue)}
    (read : readJsonl env.loads file =
      some (snapshots.map fun entry => snapshotRecord entry.1 entry.2))
    (rows : tables.metricsHistory = some (snapshots.map (metricRow env)))
    (reread : ∀ entry ∈ snapshots, env.loads (env.dumps entry.2).toList = .value entry.2) :
    tables.metricsSummary (env.summaryEnv round) limit =
      metricsSummary (env.summaryEnv round) limit file := by
  have found : readJsonl (env.summaryEnv round).loads file =
      some (snapshots.map fun entry => snapshotRecord entry.1 entry.2) := read
  have each : ((window limit snapshots).map (metricRow env)).mapM
      (MetricRow.record (env.summaryEnv round)) =
      some ((window limit snapshots).map fun entry => snapshotRecord entry.1 entry.2) := by
    apply mapM_map_eq
    intro entry member
    have back : (env.summaryEnv round).loads (metricRow env entry).snapshot.toList =
        .value entry.2 := reread entry (List.mem_of_mem_drop member)
    rw [MetricRow.record, back]
    rfl
  rw [Tables.metricsSummary, Tables.metricsSnapshots, rows, Option.bind_some,
    newest_rows_window, List.reverse_reverse, window_map, each, Option.bind_some,
    metricsSummary, found, Option.bind_some, last_records_window positive, window_map]

/-- A store beside logs that have not been written yet. -/
def unwritten (events : Option Bytes) : Replica :=
  Replica.start fun source => if source = .events then events else none

theorem unwritten_level (events : Option Bytes) : LogsLevel env (unwritten events) fun _ => [] where
  idle := rfl
  faultless := rfl
  schema := rfl
  each := by
    intro source keyless
    have missing : (unwritten events).files source = none := if_neg keyless
    refine ⟨?_, ?_, plain_lines_nil.whole, ?_, ?_⟩
    · rw [missing]
      rfl
    · exact ⟨[], plain_lines_nil.whole, by rw [missing]; rfl⟩
    · intro offset found
      exact absurd found Replica.no_offsets_empty
    · intro _
      cases source <;> rfl

def SyncReturns (env : ImportEnv) (replica : Replica) : Prop :=
  (syncFromJsonl env replica.files replica.database).returned = true

theorem read_log (loads : List Char → JsonText) (file : Option Bytes) :
    readJsonl loads file = readJsonl loads (some (file.getD [])) := by
  cases file <;> rfl

theorem synced_tables {replica : Replica} {records : Source → List PyValue}
    (logs : LogsLevel env replica records) (plain : ReadsPlain replica .sync)
    (returned : SyncReturns env replica) (source : Source) (keyless : source ≠ .events) :
    readJsonl env.loads (replica.files source) = some (records source) ∧
      ∃ rows, (stream env source).get (replica.step env .sync).database.tables = some rows ∧
        recordsEffect env source (records source) [] = some rows := by
  have came := synced env replica.files logs.idle logs.schema logs.faultless
  have level := logs.each source keyless
  refine ⟨(read_log _ _).trans level.reads, ?_⟩
  rw [SyncReturns] at returned
  rw [Replica.step]
  generalize syncFromJsonl env replica.files replica.database = outcome at came returned ⊢
  cases came with
  | undone _ _ => cases returned
  | done tables schema each =>
    obtain ⟨rows, table⟩ := stream_get_schema env source schema
    have loaded := (level.synced_rows (fun bytes offset => plain rfl source bytes offset keyless)
      (each source)).1
    refine ⟨rows, table, ?_⟩
    rw [table, loadRows, level.reads, Option.bind_some] at loaded
    exact loaded.symm

/-- After a sync in any run, the metrics are summarized as from their log, and the usage is
exactly if the ties of the window agree. -/
theorem read_model_answers_iff (env : ImportEnv) (converts : Converts env)
    (round : Rat → Nat → Rat) (line : PyValue → Bytes) (events : Option Bytes)
    (actions : List LogAction) (writes : ∀ action ∈ actions, WritesJson env line action)
    (plain : StepsMeet (Replica.step env) ReadsPlain (unwritten events)
      (actions.map (LogAction.change line) ++ [.sync]))
    (returned : SyncReturns env (runInputs (Replica.step env) (unwritten events)
      (actions.map (LogAction.change line))))
    (limit : Nat) (positive : 1 ≤ limit) :
    let replica := runInputs (Replica.step env) (unwritten events)
      (actions.map (LogAction.change line) ++ [.sync])
    let tables := replica.database.tables
    let summaries := env.summaryEnv round
    tables.metricsSummary summaries limit =
        metricsSummary summaries limit (replica.files .metrics) ∧
      (tables.providerUsageByModel summaries limit =
          providerUsageSummary summaries limit (replica.files .providerUsage) ↔
        TiesAgree (window limit (actions.filterMap usageCall?))) := by
  intro replica tables summaries
  obtain ⟨earlier, last⟩ := (steps_meet_append _ _ _ _ _).mp plain
  have logs := logs_level_run (unwritten_level events) writes earlier
  have final : replica = (runInputs (Replica.step env) (unwritten events)
      (actions.map (LogAction.change line))).step env .sync :=
    run_inputs_append _ _ _ _
  obtain ⟨usageRead, usageTable, usageGet, usageEffect⟩ :=
    synced_tables logs last.1 returned .providerUsage (by decide)
  obtain ⟨metricsRead, metricsTable, metricsGet, metricsEffect⟩ :=
    synced_tables logs last.1 returned .metrics (by decide)
  rw [List.nil_append, usage_records] at usageRead usageEffect
  rw [List.nil_append, metric_records] at metricsRead metricsEffect
  have usageRows := rows_of_records (by decide) (imported_usage converts) usageEffect
  have metricRows := rows_of_records (by decide) imported_metric metricsEffect
  rw [usageRows] at usageGet
  rw [metricRows] at metricsGet
  have sameFiles : replica.files = (runInputs (Replica.step env) (unwritten events)
      (actions.map (LogAction.change line))).files := by
    rw [final]
    rfl
  have sameTables : tables = ((runInputs (Replica.step env) (unwritten events)
      (actions.map (LogAction.change line))).step env .sync).database.tables := by
    rw [← final]
  rw [sameFiles, sameTables]
  constructor
  · apply metrics_summaries round positive metricsRead metricsGet
    intro entry member
    obtain ⟨action, written, found⟩ := List.mem_filterMap.mp member
    apply (writes action written).2 entry.1
    cases action with
    | logSnapshot timestamp snapshot => rw [← Option.some.inj found]
    | _ => cases found
  · rw [usage_summary_table summaries limit usageGet,
      usage_summary_log converts round positive usageRead, Option.some_inj]
    exact summarize_reverse_iff summaries _

end Written

/-! ## Two models with as many tokens -/

/-- A call without usage. -/
def bareCall (model : String) : UsageCall where
  timestamp := ""
  provider := ""
  model := model
  usage := none
  latencySeconds := none
  ok := true
  error := ""

/-- The line of such a call, for a model of one letter. -/
def bareLine (model : UInt8) : Bytes :=
  [0x7b, 0x22, 0x74, 0x69, 0x6d, 0x65, 0x73, 0x74, 0x61, 0x6d, 0x70, 0x22, 0x3a, 0x20, 0x22,
    0x22, 0x2c, 0x20, 0x22, 0x70, 0x72, 0x6f, 0x76, 0x69, 0x64, 0x65, 0x72, 0x22, 0x3a, 0x20,
    0x22, 0x22, 0x2c, 0x20, 0x22, 0x6d, 0x6f, 0x64, 0x65, 0x6c, 0x22, 0x3a, 0x20, 0x22, model,
    0x22, 0x2c, 0x20, 0x22, 0x75, 0x73, 0x61, 0x67, 0x65, 0x22, 0x3a, 0x20, 0x7b, 0x7d, 0x2c,
    0x20, 0x22, 0x6c, 0x61, 0x74, 0x65, 0x6e, 0x63, 0x79, 0x5f, 0x73, 0x65, 0x63, 0x6f, 0x6e,
    0x64, 0x73, 0x22, 0x3a, 0x20, 0x6e, 0x75, 0x6c, 0x6c, 0x2c, 0x20, 0x22, 0x6f, 0x6b, 0x22,
    0x3a, 0x20, 0x74, 0x72, 0x75, 0x65, 0x2c, 0x20, 0x22, 0x65, 0x72, 0x72, 0x6f, 0x72, 0x22,
    0x3a, 0x20, 0x22, 0x22, 0x7d, 0xa]

/-- The library functions on the lines of the models `A` and `B`. -/
def bareEnv : ImportEnv where
  loads := fun text =>
    if text.contains 'A' then .value (bareCall "A").record
    else if text.contains 'B' then .value (bareCall "B").record
    else .corrupt
  str := fun value => match value with | .str text => text | _ => ""
  dumps := fun _ => "null"
  int := fun value => match value with | .int number => some number | _ => none
  float := fun value => match value with | .float number => some number | _ => none
  realText := fun _ => ""
  path := fun _ => ""
  now := ""

def bareWrite (record : PyValue) : Bytes :=
  match record.get? "model" with
  | some (.str "A") => bareLine 0x41
  | some (.str "B") => bareLine 0x42
  | _ => []

def shownModels (summary : UsageSummary) : List String :=
  summary.models.map fun row => match row.model with | .str name => name | _ => ""

/-- The table lists the later model first. -/
theorem tied_models_swap :
    let replica := runInputs (Replica.step bareEnv) (unwritten none)
      ([.recordUsage (bareCall "A"), .recordUsage (bareCall "B")].map
        (LogAction.change bareWrite) ++ [.sync])
    let summaries := bareEnv.summaryEnv fun value _ => value
    (replica.database.tables.providerUsageByModel summaries 500).map shownModels = some ["B", "A"] ∧
      (providerUsageSummary summaries 500 (replica.files .providerUsage)).map shownModels =
        some ["A", "B"] ∧
      replica.database.tables.providerUsageByModel summaries 500 ≠
        providerUsageSummary summaries 500 (replica.files .providerUsage) := by
  intro replica summaries
  have table : (replica.database.tables.providerUsageByModel summaries 500).map shownModels =
      some ["B", "A"] := by
    decide +kernel
  have log : (providerUsageSummary summaries 500 (replica.files .providerUsage)).map shownModels =
      some ["A", "B"] := by
    decide +kernel
  refine ⟨table, log, ?_⟩
  intro same
  rw [same, log] at table
  revert table
  decide

/-- One model has no ties. -/
theorem one_call_answers_alike :
    let replica := runInputs (Replica.step bareEnv) (unwritten none)
      ([.recordUsage (bareCall "A")].map (LogAction.change bareWrite) ++ [.sync])
    let summaries := bareEnv.summaryEnv fun value _ => value
    replica.database.tables.metricsSummary summaries 500 =
        metricsSummary summaries 500 (replica.files .metrics) ∧
      replica.database.tables.providerUsageByModel summaries 500 =
        providerUsageSummary summaries 500 (replica.files .providerUsage) := by
  have converts : Converts bareEnv := ⟨fun _ => rfl, fun _ => rfl, fun _ => rfl⟩
  let text := (bareLine 0x41).map fun byte => Char.ofNat byte.toNat
  have decoded : Utf8.decode (bareLine 0x41) = some text := by decide +kernel
  have cut : TextLines.fields TextLines.universalNewline text = [text.dropLast] := by
    decide +kernel
  have named : text.dropLast.contains 'A' = true := by decide +kernel
  have loaded : bareEnv.loads text.dropLast = .value (bareCall "A").record := by
    simp only [bareEnv]
    rw [if_pos named]
  have writes : ∀ action ∈ [LogAction.recordUsage (bareCall "A")],
      WritesJson bareEnv bareWrite action := by
    intro action member
    rw [List.mem_singleton.mp member]
    refine ⟨?_, by simp⟩
    intro source record written
    cases source with
    | providerUsage =>
      rw [← Option.some.inj written]
      constructor
      · exact ⟨text, decoded, .inr ⟨text.dropLast, by decide +kernel⟩⟩
      · have read : readJsonl bareEnv.loads (some (bareLine 0x41)) =
            some [(bareCall "A").record] := by
          rw [readJsonl, decoded, Option.bind_some, textRecords, cut, loadLines, loaded]
          rfl
        exact read
    | _ => cases written
  have plain : StepsMeet (Replica.step bareEnv) ReadsPlain (unwritten none)
      ([.recordUsage (bareCall "A")].map (LogAction.change bareWrite) ++ [.sync]) := by
    have appends : ReadsPlain (unwritten none)
        (LogAction.change bareWrite (.recordUsage (bareCall "A"))) := by
      intro synced
      cases synced
    refine ⟨appends, ?_, trivial⟩
    intro _ source bytes offset _ _ found
    exact absurd found Replica.no_offsets_empty
  have answers := read_model_answers_iff bareEnv converts (fun value _ => value) bareWrite none
    [.recordUsage (bareCall "A")] writes plain (by unfold SyncReturns; decide +kernel) 500
    (by decide)
  refine ⟨answers.1, answers.2.mpr ?_⟩
  intro total
  rfl

end AiEnterpriseOs.ReadModel
