import AiEnterpriseOs.ReadModel.SyncLemmas

/-!
# What a failed rebuild leaves

The scripts that drop and recreate the tables are committed statement by
statement, only the inserts after them are in a transaction. A rebuild that
fails keeps the projection exactly when it fails before the first drop.
-/

namespace AiEnterpriseOs.ReadModel

open Library Library.Connection

/-- The statements of a rebuild's transaction block, its commit included. -/
def statementCount (rows : ParsedRows) : Nat :=
  dropTables.length + createSchema.length + rows.events.length + rows.metrics.length +
    rows.providerUsage.length + 12 + 1

section Scripts

/-- Dropping and recreating either runs through, or the error strikes one of
the statements; from the second on the schema is incomplete then. -/
inductive Recreated (before : Database) : Outcome Database → Prop where
  | through (spared : Spares before.fault 8) : Recreated before
        (.returning { tables := .empty, begun := none, fault := faultAfter before.fault 8 })
  | untouched (after : Database) (struck : before.fault = some 0)
      (idle : after.begun = none) (same : after.tables = before.tables) :
      Recreated before (.raising after)
  | broken (after : Database) (count : Nat) (struck : before.fault = some (count + 1))
      (early : count + 1 < 8) (idle : after.begun = none)
      (incomplete : after.tables.hasSchema = false) : Recreated before (.raising after)

theorem run_script_cases (effects : List (Tables → Option Tables)) (before : Database)
    (idle : before.begun = none) :
    Ran (fun effect => effect) effects before (before.executescript effects) := by
  have same : before.commit = before := by
    rw [commit, ← idle]
  have ran := statements_ran (fun effect : Tables → Option Tables => effect) effects before
  rw [executescript, same]
  exact ran

theorem script_applies (effects : List (Tables → Option Tables))
    (total : ∀ effect ∈ effects, ∀ tables, (effect tables).isSome = true)
    (tables : Tables) : (applyAll (fun effect => effect) effects tables).isSome = true := by
  induction effects generalizing tables with
  | nil => rfl
  | cons effect rest ih =>
    obtain ⟨next, applied⟩ :=
      Option.isSome_iff_exists.mp (total effect List.mem_cons_self tables)
    rw [apply_all_cons, applied, Option.bind_some]
    exact ih (fun other member => total other (List.mem_cons_of_mem _ member)) next

theorem struck_in_script {effects : List (Tables → Option Tables)}
    (total : ∀ effect ∈ effects, ∀ tables, (effect tables).isSome = true)
    {before : Database} {count : Nat}
    (cause : before.fault = some count ∨ (Spares before.fault (count + 1) ∧
      applyAll (fun effect => effect) (effects.take (count + 1)) before.tables = none)) :
    before.fault = some count := by
  refine cause.resolve_right fun failed => ?_
  have applies := script_applies (effects.take (count + 1))
    (fun effect member => total effect (List.mem_of_mem_take member)) before.tables
  rw [failed.2] at applies
  cases applies

theorem drop_tables_total : ∀ effect ∈ dropTables, ∀ tables, (effect tables).isSome = true := by
  simp [dropTables]

theorem create_schema_total : ∀ effect ∈ createSchema, ∀ tables, (effect tables).isSome = true := by
  simp [createSchema]

theorem drop_stopped {before after : Database} {count : Nat}
    (inside : count < dropTables.length) (struck : before.fault = some count)
    (applied : applyAll (fun effect => effect) (dropTables.take count) before.tables =
      some after.tables)
    (idle : after.begun = none) : Recreated before (.raising after) := by
  have incomplete : ∀ tables : Tables, tables.events = none → tables.hasSchema = false := by
    intro tables gone
    simp [Tables.hasSchema, gone]
  cases count with
  | zero => exact .untouched after struck idle (Option.some.inj applied).symm
  | succ count =>
    have early : count + 1 < 4 := inside
    refine .broken after count struck (by omega) idle (incomplete _ ?_)
    rcases count with _ | _ | _ | count
    all_goals first | omega | exact congrArg Tables.events (Option.some.inj applied).symm

theorem create_stopped {before after : Database} {count : Nat}
    (inside : count < createSchema.length) (struck : before.fault = some (count + 4))
    (applied : applyAll (fun effect => effect) (createSchema.take count) {} = some after.tables)
    (idle : after.begun = none) : Recreated before (.raising after) := by
  have early : count < 4 := inside
  refine .broken after (count + 3) struck (by omega) idle ?_
  rcases count with _ | _ | _ | _ | count
  all_goals first | omega | (rw [← Option.some.inj applied]; rfl)

theorem fault_after_eq {fault : Option Nat} {spared count : Nat}
    (enough : Spares fault spared) (struck : faultAfter fault spared = some count) :
    fault = some (count + spared) := by
  cases fault with
  | none => cases struck
  | some remaining =>
    have least : spared ≤ remaining := enough remaining rfl
    simp only [faultAfter, Option.map_some, Option.some.injEq] at struck ⊢
    omega

theorem recreated (before : Database) (idle : before.begun = none) : Recreated before
      ((before.executescript dropTables).andThen fun database =>
        database.executescript createSchema) := by
  have dropping := run_script_cases dropTables before idle
  generalize before.executescript dropTables = dropped at dropping ⊢
  cases dropping with
  | through tables spared applied =>
    rw [Outcome.returning_and_then]
    have gone : tables = {} := (Option.some.inj applied).symm
    subst gone
    have creating := run_script_cases createSchema
      { before with tables := {}, fault := faultAfter before.fault dropTables.length } idle
    generalize executescript createSchema _ = created at creating ⊢
    cases creating with
    | through tables sparedRest applied =>
      have full : tables = .empty := (Option.some.inj applied).symm
      subst full
      have all := Recreated.through ((spares_add _ 4 4).mpr ⟨spared, sparedRest⟩)
      rw [fault_after_after, idle]
      exact all
    | stopped after count inside applied cause same =>
      exact create_stopped inside
        (fault_after_eq spared (struck_in_script create_schema_total cause)) applied
        (same.trans idle)
  | stopped after count inside applied cause same =>
    exact drop_stopped inside (struck_in_script drop_tables_total cause) applied (same.trans idle)

end Scripts

section Inserts

variable (env : ImportEnv)

/-- The inserts of a rebuild, which are in one transaction. -/
def insertRows (rows : ParsedRows) (sizes : Source → Nat) (database : Database) :
    Outcome Database :=
  ((stream env .events).insertAllNew rows.events database).andThen fun database =>
    ((stream env .metrics).insertAllNew rows.metrics database).andThen fun database =>
    ((stream env .providerUsage).insertAllNew rows.providerUsage database).andThen
      fun database => database.executemany insertInfo (infoRows env rows sizes)

theorem replace_tables_parts (rows : ParsedRows) (sizes : Source → Nat) (database : Database) :
    replaceTables env rows sizes database = database.guarded fun database =>
        ((database.executescript dropTables).andThen fun database =>
          database.executescript createSchema).andThen (insertRows env rows sizes) := by
  simp only [replaceTables, Outcome.and_then_assoc]
  rfl

theorem insert_rows_committed (rows : ParsedRows) (sizes : Source → Nat) (database : Database) :
    (insertRows env rows sizes database).state.committed = database.committed := by
  have keeps : ∀ {Row : Type} (effect : Row → Tables → Option Tables) (items : List Row)
      (state : Database), state.committed = database.committed →
      (state.executemany effect items).state.committed = database.committed := by
    intro Row effect items state same
    rw [executemany_committed, same]
  unfold insertRows Stream.insertAllNew
  let kept (state : Database) : Prop := state.committed = database.committed
  refine Outcome.and_then_state kept (keeps _ _ _ rfl) (fun _ same => same) fun state same => ?_
  refine Outcome.and_then_state kept (keeps _ _ _ same) (fun _ same => same) fun state same => ?_
  exact Outcome.and_then_state kept (keeps _ _ _ same) (fun _ same => same) (keeps _ _)

theorem info_rows_applied (rows : ParsedRows) (sizes : Source → Nat) (tables : Tables)
    (noInfo : tables.info = some OrderedDict.empty) :
    applyAll insertInfo (infoRows env rows sizes) tables =
      some { tables with
        info := some (OrderedDict.empty.setAll (infoRows env rows sizes)) } := by
  refine apply_all_insert_info _ tables _ noInfo (fun _ _ => rfl) ?_
  show ["schema_version", "rebuilt_at", "events_path", "metrics_path",
    "provider_usage_path", "events_count", "metrics_count", "provider_usage_count",
    "sync_offset_events", "sync_offset_metrics", "sync_offset_provider_usage",
    "last_sync_at"].Nodup
  decide

theorem info_rows_offset (rows : ParsedRows) (sizes : Source → Nat) (source : Source) :
    (OrderedDict.empty.setAll (infoRows env rows sizes)).get? source.offsetKey =
      some (.number (sizes source)) := by
  cases source <;>
    simp [infoRows, OrderedDict.setAll, OrderedDict.get_set, Source.offsetKey]

theorem insert_all_new_returned (source : Source) (rows : List (stream env source).Row)
    {database : Database} {stored : List (stream env source).Stored}
    (table : (stream env source).get database.tables = some stored)
    (next : Database → Outcome Database) :
    (((stream env source).insertAllNew rows database).andThen next).returned = true ↔
      ∃ inserted, applyAll (stream env source).insertNew rows stored = some inserted ∧
        Spares database.fault rows.length ∧
        (next
          { database.beginTransaction with
            tables := (stream env source).set database.tables inserted
            fault := faultAfter database.fault rows.length }).returned = true := by
  rw [Stream.insertAllNew, executemany_and_then_returned, apply_all_on_table env source _ _ table]
  constructor
  · rintro ⟨tables, applied, spared, returned⟩
    obtain ⟨inserted, whole, rfl⟩ := Option.map_eq_some_iff.mp applied
    exact ⟨inserted, whole, spared, returned⟩
  · rintro ⟨inserted, whole, spared, returned⟩
    exact ⟨_, by rw [whole, Option.map_some], spared, returned⟩

theorem insert_rows_returned (rows : ParsedRows) (sizes : Source → Nat)
    (database : Database) (cleared : database.tables = .empty) :
    ((insertRows env rows sizes database).andThen commits).returned = true ↔ rows.Insertable env ∧
        Spares database.fault (rows.events.length + rows.metrics.length +
          rows.providerUsage.length + 12 + 1) := by
  have noEvents : (stream env .events).get database.tables = some [] := by
    rw [cleared]
    rfl
  have noMetrics : ∀ events, (stream env .metrics).get
      ((stream env .events).set database.tables events) = some [] := by
    intro events
    rw [cleared]
    rfl
  have noUsage : ∀ events metrics, (stream env .providerUsage).get
      ((stream env .metrics).set ((stream env .events).set database.tables events)
        metrics) = some [] := by
    intro events metrics
    rw [cleared]
    rfl
  rw [insertRows, Outcome.and_then_assoc]
  refine (insert_all_new_returned env .events _ noEvents _).trans ?_
  constructor
  · rintro ⟨events, eventsIn, sparedEvents, returned⟩
    rw [Outcome.and_then_assoc] at returned
    obtain ⟨metrics, metricsIn, sparedMetrics, returned⟩ :=
      (insert_all_new_returned env .metrics _ (by exact noMetrics events) _).mp returned
    rw [Outcome.and_then_assoc] at returned
    obtain ⟨usage, usageIn, sparedUsage, returned⟩ :=
      (insert_all_new_returned env .providerUsage _ (by exact noUsage events metrics) _).mp returned
    obtain ⟨_, _, sparedInfo, committed⟩ :=
      (executemany_and_then_returned _ _ _ _).mp returned
    rw [commits_returned] at committed
    simp only [fault_after_after] at sparedMetrics sparedUsage sparedInfo committed
    refine ⟨⟨?_, ?_, ?_⟩, ?_⟩
    · exact (apply_all_insert_event _ [] (by simp)).mp (Option.isSome_of_eq_some eventsIn)
    · exact (apply_all_insert_metric env _ []).mp (Option.isSome_of_eq_some metricsIn)
    · exact (apply_all_insert_usage _ []).mp (Option.isSome_of_eq_some usageIn)
    · have first := (spares_add _ _ _).mpr ⟨sparedEvents, sparedMetrics⟩
      have second := (spares_add _ _ _).mpr ⟨first, sparedUsage⟩
      have third := (spares_add _ _ _).mpr ⟨second, sparedInfo⟩
      exact (spares_add _ _ _).mpr ⟨third, committed⟩
  · rintro ⟨⟨distinct, metricsBind, usageBind⟩, spared⟩
    obtain ⟨third, sparedCommit⟩ := (spares_add _ _ _).mp spared
    obtain ⟨second, sparedInfo⟩ := (spares_add _ _ _).mp third
    obtain ⟨first, sparedUsage⟩ := (spares_add _ _ _).mp second
    obtain ⟨sparedEvents, sparedMetrics⟩ := (spares_add _ _ _).mp first
    obtain ⟨events, eventsIn⟩ := Option.isSome_iff_exists.mp
      ((apply_all_insert_event rows.events [] (by simp)).mpr distinct)
    obtain ⟨metrics, metricsIn⟩ := Option.isSome_iff_exists.mp
      ((apply_all_insert_metric env rows.metrics []).mpr metricsBind)
    obtain ⟨usage, usageIn⟩ := Option.isSome_iff_exists.mp
      ((apply_all_insert_usage rows.providerUsage []).mpr usageBind)
    refine ⟨events, eventsIn, sparedEvents, ?_⟩
    rw [Outcome.and_then_assoc]
    refine (insert_all_new_returned env .metrics _ (by exact noMetrics events) _).mpr
      ⟨metrics, metricsIn, sparedMetrics, ?_⟩
    rw [Outcome.and_then_assoc]
    refine (insert_all_new_returned env .providerUsage _ (by exact noUsage events metrics) _).mpr
      ⟨usage, usageIn, ?_, ?_⟩
    · simp only [fault_after_after]
      exact sparedUsage
    · have infoIn := info_rows_applied env rows sizes ((stream env .providerUsage).set
        ((stream env .metrics).set ((stream env .events).set database.tables events)
          metrics) usage) (by rw [cleared]; rfl)
      refine (executemany_and_then_returned _ _ _ _).mpr ⟨_, infoIn, ?_, ?_⟩
      · simp only [fault_after_after]
        exact sparedInfo
      · rw [commits_returned]
        simp only [fault_after_after]
        exact sparedCommit

end Inserts

section Faultless

variable (env : ImportEnv)

theorem insert_event_ignore (row : EventRow) (stored next : List EventRow)
    (isNew : insertEvent row stored = some next) :
    insertOrIgnoreEvent row stored = some next := by
  unfold insertEvent at isNew
  unfold insertOrIgnoreEvent
  split at isNew
  · cases isNew
  · rw [if_neg ‹_›]
    exact isNew

theorem insert_new_insert (source : Source) (rows : List (stream env source).Row)
    (start final : List (stream env source).Stored)
    (inserted : applyAll (stream env source).insertNew rows start = some final) :
    applyAll (stream env source).insert rows start = some final := by
  have single : ∀ row stored next, (stream env source).insertNew row stored = some next →
      (stream env source).insert row stored = some next := by
    intro row stored next new
    cases source with
    | events => exact insert_event_ignore row stored next new
    | metrics => exact new
    | providerUsage => exact new
  induction rows generalizing start with
  | nil => exact inserted
  | cons row rest ih =>
    rw [apply_all_cons] at inserted ⊢
    obtain ⟨next, first, others⟩ := Option.bind_eq_some_iff.mp inserted
    rw [single row start next first, Option.bind_some]
    exact ih next others

/-- A rebuild brings in all three logs, stops before it touches a table, or
leaves all tables empty. -/
inductive Rebuilt (files : Files) (before : Database) : Outcome Database → Prop where
  | done (tables : Tables) (schema : tables.hasSchema = true)
      (each : ∀ source, ∃ rows, loadRows env source (files source) = some rows ∧
        (stream env source).get tables = some rows ∧
        storedOffset tables source = some (fileSize (files source))) :
      Rebuilt files before (.returning { tables := tables })
  | unread (unparsed : parseSources env files = none) : Rebuilt files before (.raising before)
  | emptied : Rebuilt files before (.raising { tables := .empty })

theorem insert_all_new_transacted (source : Source) (rows : List (stream env source).Row)
    {before : Database} {stored : List (stream env source).Stored}
    (table : (stream env source).get before.tables = some stored)
    (faultless : before.fault = none) :
    Transacted before ((applyAll (stream env source).insertNew rows stored).map
        ((stream env source).set before.tables))
      ((stream env source).insertAllNew rows before) := by
  have inserted := executemany_transacted
    (fun row => (stream env source).onTable ((stream env source).insertNew row)) rows
    faultless
  rw [apply_all_on_table env source _ _ table] at inserted
  exact inserted

theorem parsed_sources {files : Files} {rows : ParsedRows}
    (parsed : parseSources env files = some rows) :
    (stream env .events).parsedRows env (files .events) = some rows.events ∧
      (stream env .metrics).parsedRows env (files .metrics) = some rows.metrics ∧
      (stream env .providerUsage).parsedRows env (files .providerUsage) =
        some rows.providerUsage := by
  simp only [parseSources, Option.bind_eq_bind, Option.bind_eq_some_iff,
    Option.pure_def, Option.some.injEq] at parsed
  obtain ⟨events, eventsIn, metrics, metricsIn, usage, usageIn, rfl⟩ := parsed
  exact ⟨eventsIn, metricsIn, usageIn⟩

theorem load_rows_parsed {source : Source} {file : Option Bytes}
    {rows : List (stream env source).Row} {stored : List (stream env source).Stored}
    (parsed : (stream env source).parsedRows env file = some rows)
    (inserted : applyAll (stream env source).insertNew rows [] = some stored) :
    loadRows env source file = some stored := by
  obtain ⟨records, read, collected⟩ := Option.bind_eq_some_iff.mp parsed
  rw [loadRows, read, Option.bind_some, recordsEffect, collected, Option.bind_some]
  exact insert_new_insert env source rows [] stored inserted

/-- The tables after the inserts of a rebuild. -/
def rowsEffect (rows : ParsedRows) (sizes : Source → Nat) : Option Tables :=
  ((applyAll insertEvent rows.events []).map ((stream env .events).set .empty)).bind fun tables =>
  ((applyAll (insertMetric env) rows.metrics []).map ((stream env .metrics).set tables)).bind
    fun tables =>
  ((applyAll insertUsage rows.providerUsage []).map ((stream env .providerUsage).set tables)).bind
    fun tables => applyAll insertInfo (infoRows env rows sizes) tables

theorem insert_rows_transacted (rows : ParsedRows) (sizes : Source → Nat)
    {before : Database} (cleared : before.tables = .empty) (faultless : before.fault = none) :
    Transacted before (rowsEffect env rows sizes) (insertRows env rows sizes before) := by
  have noEvents : (stream env .events).get before.tables = some [] := by
    rw [cleared]
    rfl
  have events := insert_all_new_transacted env .events rows.events noEvents faultless
  rw [cleared] at events
  refine events.and_then ?_
  intro tables applied middle now _ quiet
  have metricsTable : (stream env .metrics).get middle.tables = some [] := by
    obtain ⟨stored, _, same⟩ := Option.map_eq_some_iff.mp applied
    rw [now, ← same]
    rfl
  have usageTable : (stream env .providerUsage).get middle.tables = some [] := by
    obtain ⟨stored, _, same⟩ := Option.map_eq_some_iff.mp applied
    rw [now, ← same]
    rfl
  rw [← now]
  refine (insert_all_new_transacted env .metrics rows.metrics metricsTable quiet).and_then ?_
  intro tables applied last now _ quiet
  have sameTable : (stream env .providerUsage).get last.tables = some [] := by
    obtain ⟨stored, _, same⟩ := Option.map_eq_some_iff.mp applied
    rw [now, ← same]
    exact usageTable
  rw [← now]
  refine (insert_all_new_transacted env .providerUsage rows.providerUsage sameTable
    quiet).and_then ?_
  intro tables _ final now _ quiet
  rw [← now]
  exact executemany_transacted insertInfo (infoRows env rows sizes) quiet

theorem rows_effect_each {rows : ParsedRows} {sizes : Source → Nat} {tables : Tables}
    (effect : rowsEffect env rows sizes = some tables) :
    tables.hasSchema = true ∧ applyAll insertEvent rows.events [] = tables.events ∧
      applyAll (insertMetric env) rows.metrics [] = tables.metricsHistory ∧
      applyAll insertUsage rows.providerUsage [] = tables.providerUsage ∧
      ∀ source, storedOffset tables source = some (sizes source) := by
  obtain ⟨_, eventsSet, effect⟩ := Option.bind_eq_some_iff.mp effect
  obtain ⟨events, eventsIn, rfl⟩ := Option.map_eq_some_iff.mp eventsSet
  obtain ⟨_, metricsSet, effect⟩ := Option.bind_eq_some_iff.mp effect
  obtain ⟨metrics, metricsIn, rfl⟩ := Option.map_eq_some_iff.mp metricsSet
  obtain ⟨_, usageSet, effect⟩ := Option.bind_eq_some_iff.mp effect
  obtain ⟨usage, usageIn, rfl⟩ := Option.map_eq_some_iff.mp usageSet
  rw [info_rows_applied env rows sizes _ rfl] at effect
  have same := Option.some.inj effect
  rw [← same]
  refine ⟨rfl, eventsIn, metricsIn, usageIn, fun source => ?_⟩
  rw [storedOffset, syncOffset, Option.map_some, info_rows_offset]
  rfl

theorem rebuilt (files : Files) {before : Database} (idle : before.begun = none)
    (faultless : before.fault = none) :
    Rebuilt env files before (rebuild env files before) := by
  unfold rebuild
  cases parsed : parseSources env files with
  | none => exact .unread parsed
  | some rows =>
    obtain ⟨eventsParsed, metricsParsed, usageParsed⟩ := parsed_sources env parsed
    have scripts := recreated before idle
    show Rebuilt env files before
      (replaceTables env rows (fun source => fileSize (files source)) before)
    rw [replace_tables_parts]
    generalize bodyEq : (fun database : Database =>
      ((database.executescript dropTables).andThen fun database =>
        database.executescript createSchema).andThen
          (insertRows env rows fun source => fileSize (files source))) = body
    have bodyAt : body before = ((before.executescript dropTables).andThen fun database =>
          database.executescript createSchema).andThen
            (insertRows env rows fun source => fileSize (files source)) := by
      rw [← bodyEq]
    generalize ((before.executescript dropTables).andThen fun database =>
      database.executescript createSchema) = outcome at scripts bodyAt
    cases scripts with
    | untouched after struck =>
      rw [faultless] at struck
      cases struck
    | broken after count struck =>
      rw [faultless] at struck
      cases struck
    | through spared =>
      have quiet : faultAfter before.fault 8 = none := by
        rw [faultless]
        rfl
      rw [Outcome.returning_and_then, quiet] at bodyAt
      have inserts := @insert_rows_transacted env rows
        (fun source => fileSize (files source)) { tables := .empty } rfl rfl
      have same : guarded body before =
          guarded (insertRows env rows fun source => fileSize (files source))
            { tables := .empty } := by
        simp only [guarded, bodyAt]
      rw [same, guarded_transacted inserts]
      cases effect : rowsEffect env rows fun source => fileSize (files source) with
      | none => exact .emptied
      | some tables =>
        obtain ⟨schema, eventsIn, metricsIn, usageIn, offsets⟩ :=
          rows_effect_each env effect
        refine .done tables schema fun source => ?_
        obtain ⟨stored, table⟩ := stream_get_schema env source schema
        refine ⟨stored, ?_, table, offsets source⟩
        cases source with
        | events => exact load_rows_parsed env eventsParsed (eventsIn.trans table)
        | metrics => exact load_rows_parsed env metricsParsed (metricsIn.trans table)
        | providerUsage => exact load_rows_parsed env usageParsed (usageIn.trans table)

end Faultless

section Atomicity

variable (env : ImportEnv)

theorem raising_body {body : Database → Outcome Database} {before after : Database}
    (raised : body before = .raising after) (idle : after.begun = none) :
    (guarded body before).returned = false ∧
      (guarded body before).state.committed = after.tables := by
  simp only [guarded, raised, Outcome.raising_returned, Bool.false_eq_true, false_and, if_false]
  exact ⟨trivial, committed_idle idle⟩

/-- The rebuild changes nothing, or nothing in it fails, or there was nothing
to lose: a log cannot be read or parsed, the error strikes the first drop,
every row can be inserted and no error strikes, or the projection was empty
and no error strikes before the schema is back. -/
def KeepsProjection (files : Files) (database : Database) : Prop :=
  parseSources env files = none ∨ database.fault = some 0 ∨
    (∃ rows, parseSources env files = some rows ∧ rows.Insertable env ∧
      Spares database.fault (statementCount rows)) ∨
    (database.tables = .empty ∧ Spares database.fault 8)

theorem statement_count_eq (rows : ParsedRows) : statementCount rows =
      8 + (rows.events.length + rows.metrics.length + rows.providerUsage.length + 12 + 1) := by
  rw [statementCount, show dropTables.length = 4 from rfl,
    show createSchema.length = 4 from rfl]
  omega

theorem replace_tables_keeps_iff (rows : ParsedRows) (sizes : Source → Nat)
    (database : Database) (idle : database.begun = none)
    (schema : database.tables.hasSchema = true) :
    ((replaceTables env rows sizes database).returned = false →
        (replaceTables env rows sizes database).state.committed = database.committed) ↔
      database.fault = some 0 ∨
        (rows.Insertable env ∧ Spares database.fault (statementCount rows)) ∨
        (database.tables = .empty ∧ Spares database.fault 8) := by
  have scripts := recreated database idle
  rw [replace_tables_parts, committed_idle idle]
  generalize bodyEq : (fun database : Database =>
    ((database.executescript dropTables).andThen fun database =>
      database.executescript createSchema).andThen (insertRows env rows sizes)) = body
  have bodyAt : body database = ((database.executescript dropTables).andThen fun database =>
        database.executescript createSchema).andThen (insertRows env rows sizes) := by
    rw [← bodyEq]
  generalize ((database.executescript dropTables).andThen fun database =>
    database.executescript createSchema) = outcome at scripts bodyAt
  cases scripts with
  | untouched after struck idleAfter same =>
    have kept := (raising_body bodyAt idleAfter).2
    rw [same] at kept
    exact iff_of_true (fun _ => kept) (.inl struck)
  | broken after count struck early idleAfter incomplete =>
    obtain ⟨raised, lost⟩ := raising_body bodyAt idleAfter
    refine iff_of_false ?_ ?_
    · intro keeps
      rw [lost] at keeps
      rw [keeps raised, schema] at incomplete
      cases incomplete
    · rintro (first | ⟨_, spared⟩ | ⟨_, spared⟩)
      · rw [struck] at first
        cases first
      · have enough := spared _ struck
        have total := statement_count_eq rows
        omega
      · have enough := spared _ struck
        omega
  | through spared =>
    rw [Outcome.returning_and_then] at bodyAt
    have keptEmpty := insert_rows_committed env rows sizes
      { tables := .empty, begun := none, fault := faultAfter database.fault 8 }
    have commits := insert_rows_returned env rows sizes
      { tables := .empty, begun := none, fault := faultAfter database.fault 8 } rfl
    rw [← bodyAt] at keptEmpty commits
    rw [← guarded_returned] at commits
    have notFirst : database.fault ≠ some 0 := by
      intro struck
      have enough := spared 0 struck
      omega
    have counted : Spares database.fault (statementCount rows) ↔
        Spares (faultAfter database.fault 8) (rows.events.length + rows.metrics.length +
          rows.providerUsage.length + 12 + 1) := by
      have split := spares_add database.fault 8 (rows.events.length +
        rows.metrics.length + rows.providerUsage.length + 12 + 1)
      rw [and_iff_right spared] at split
      rw [← split, statement_count_eq]
    by_cases returned : (guarded body database).returned = true
    · obtain ⟨insertable, rest⟩ := commits.mp returned
      refine iff_of_true (fun raised => ?_) (.inr (.inl ⟨insertable, counted.mpr rest⟩))
      rw [returned] at raised
      cases raised
    · have raised : (guarded body database).returned = false := by
        simpa using returned
      have nowEmpty : (guarded body database).state.committed = .empty := by
        rw [committed_idle (guarded_begun body database), guarded_raised raised, keptEmpty]
        rfl
      rw [nowEmpty]
      constructor
      · intro keeps
        exact .inr (.inr ⟨(keeps raised).symm, spared⟩)
      · rintro (first | ⟨insertable, enough⟩ | ⟨empty, _⟩) _
        · exact absurd first notFirst
        · exact absurd (commits.mpr ⟨insertable, counted.mp enough⟩) returned
        · exact empty.symm

/-- A rebuild that fails keeps the projection as it was committed exactly when
it keeps to the conditions above. -/
theorem failed_rebuild_keeps_iff (files : Files) (database : Database)
    (idle : database.begun = none) (schema : database.tables.hasSchema = true) :
    ((rebuild env files database).returned = false →
        (rebuild env files database).state.committed = database.committed) ↔
      KeepsProjection env files database := by
  unfold rebuild KeepsProjection
  cases parsed : parseSources env files with
  | none => exact iff_of_true (fun _ => rfl) (.inl rfl)
  | some rows =>
    have keeps := replace_tables_keeps_iff env rows
      (fun source => fileSize (files source)) database idle schema
    simpa using keeps

end Atomicity

/-- Library functions for logs that hold no JSON but empty objects. -/
def emptyObjectEnv : ImportEnv where
  loads line := if line = ['\x7b', '\x7d'] then .value (.dict []) else .corrupt
  str
    | .str text => text
    | _ => ""
  dumps _ := "\x7b\x7d"
  int
    | .int value => some value
    | _ => none
  float _ := none
  realText _ := ""
  path _ := ""
  now := ""

def emptyObjectLine : Bytes := [0x7b, 0x7d, 0x0a]

def oneEvent : Tables :=
  { Tables.empty with
    events := some [{ eventId := "e", timestamp := "", eventType := "system.startup",
                      source := "", status := "", payload := "\x7b\x7d" }] }

theorem unreadable_log_keeps_events : (rebuild { emptyObjectEnv with loads := fun _ => .fails }
        (fun _ => some emptyObjectLine) { tables := oneEvent }).state.committed.events =
      oneEvent.events := by
  have kept := (failed_rebuild_keeps_iff
    { emptyObjectEnv with loads := fun _ => .fails } (fun _ => some emptyObjectLine)
    { tables := oneEvent } rfl rfl).mpr (.inl (by decide +kernel))
  rw [kept (by decide +kernel)]
  rfl

/-- Two records with one event id empty the projection. -/
theorem repeated_event_empties_projection :
    let files : Files := fun source =>
      if source = .events then some (emptyObjectLine ++ emptyObjectLine) else none
    let outcome := rebuild emptyObjectEnv files { tables := oneEvent }
    outcome.returned = false ∧ outcome.state.committed.events = some [] := by
  decide +kernel

end AiEnterpriseOs.ReadModel
