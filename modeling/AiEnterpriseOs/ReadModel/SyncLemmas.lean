import AiEnterpriseOs.ReadModel.StoreLemmas

/-!
# What a sync does

While no database error strikes, a sync either brings in the batches of all
three sources and their watermarks or leaves every table as it was.
-/

namespace AiEnterpriseOs.ReadModel

open Library Library.Connection

section Batch

variable (env : ImportEnv) (source : Source)

/-- The rows that records add to given ones. -/
def recordsEffect (records : List PyValue) (rows : List (stream env source).Stored) :
    Option (List (stream env source).Stored) :=
  (collectRows (stream env source).parse records).bind fun new =>
    applyAll (stream env source).insert new rows

/-- The rows of a source's table after a batch. -/
def batchEffect (batch : SyncBatch) (rows : List (stream env source).Stored) :
    Option (List (stream env source).Stored) :=
  recordsEffect env source batch.records (if batch.reset then [] else rows)

/-- The rows of a log that is read from its start. -/
def loadRows (file : Option Bytes) : Option (List (stream env source).Stored) :=
  (readJsonl env.loads file).bind fun records => recordsEffect env source records []

/-- The same as `batchEffect`, on the tables. -/
def sourceEffect (batch : SyncBatch) (tables : Tables) : Option Tables :=
  (stream env source).onTable (batchEffect env source batch) tables

theorem insert_records_transacted (records : List PyValue) {before : Database}
    {rows : List (stream env source).Stored}
    (stored : (stream env source).get before.tables = some rows)
    (faultless : before.fault = none) :
    Transacted before
      ((recordsEffect env source records rows).map ((stream env source).set before.tables))
      ((stream env source).insertRecords records before) := by
  unfold recordsEffect Stream.insertRecords
  cases collectRows (stream env source).parse records with
  | none => exact .undone before rfl rfl faultless
  | some new =>
    have inserted := executemany_transacted
      (fun row => (stream env source).onTable ((stream env source).insert row)) new
      faultless
    rw [apply_all_on_table env source _ _ stored] at inserted
    exact inserted

theorem import_batch_transacted (batch : SyncBatch) {before : Database}
    (schema : before.tables.hasSchema = true) (faultless : before.fault = none) :
    Transacted before (sourceEffect env source batch before.tables)
      ((stream env source).importBatch batch before) := by
  obtain ⟨rows, stored⟩ := stream_get_schema env source schema
  rw [sourceEffect, on_table env source stored, Stream.importBatch, batchEffect]
  cases batch.reset with
  | false =>
    rw [if_neg (by simp), if_neg (by simp), Outcome.returning_and_then]
    exact insert_records_transacted env source batch.records stored faultless
  | true =>
    rw [if_pos rfl, if_pos rfl]
    have cleared := execute_transacted ((stream env source).onTable fun _ => some []) faultless
    rw [on_table env source stored, Option.map_some] at cleared
    have whole := @Transacted.and_then _ _ _ _ cleared
      (fun tables => (recordsEffect env source batch.records []).map
        ((stream env source).set tables))
      ((stream env source).insertRecords batch.records) (by
        intro tables applied middle now _ quiet
        rw [← now]
        refine insert_records_transacted env source batch.records ?_ quiet
        rw [now, ← Option.some.inj applied, stream_get_set])
    have same : (stream env source).set ((stream env source).set before.tables []) =
        (stream env source).set before.tables :=
      funext (stream_set_set env source before.tables [])
    rw [Option.bind_some, same] at whole
    exact whole

theorem set_schema {tables : Tables} (schema : tables.hasSchema = true)
    (rows : List (stream env source).Stored) :
    ((stream env source).set tables rows).hasSchema = true := by
  simp only [Tables.hasSchema, Bool.and_eq_true] at schema ⊢
  obtain ⟨⟨⟨info, events⟩, metrics⟩, usage⟩ := schema
  cases source
  · exact ⟨⟨⟨info, rfl⟩, metrics⟩, usage⟩
  · exact ⟨⟨⟨info, events⟩, rfl⟩, usage⟩
  · exact ⟨⟨⟨info, events⟩, metrics⟩, rfl⟩

theorem source_effect_cases {batch : SyncBatch} {before after : Tables}
    (schema : before.hasSchema = true)
    (applied : sourceEffect env source batch before = some after) :
    ∃ rows changed, (stream env source).get before = some rows ∧
      batchEffect env source batch rows = some changed ∧
      after = (stream env source).set before changed := by
  obtain ⟨rows, stored⟩ := stream_get_schema env source schema
  rw [sourceEffect, on_table env source stored] at applied
  obtain ⟨changed, effect, same⟩ := Option.map_eq_some_iff.mp applied
  exact ⟨rows, changed, stored, effect, same.symm⟩

end Batch

section Sync

variable (env : ImportEnv)

/-- The tables after the batches of all sources and the new watermarks. -/
def batchesEffect (batches : Batches) (tables : Tables) : Option Tables :=
  (sourceEffect env .events batches.events tables).bind fun tables =>
    (sourceEffect env .metrics batches.metrics tables).bind fun tables =>
    (sourceEffect env .providerUsage batches.providerUsage tables).bind fun tables =>
    applyAll setInfo (syncInfo env batches) tables

theorem source_effect_schema {source : Source} {batch : SyncBatch} {before after : Tables}
    (schema : before.hasSchema = true)
    (applied : sourceEffect env source batch before = some after) :
    after.hasSchema = true := by
  obtain ⟨_, changed, _, _, rfl⟩ := source_effect_cases env source schema applied
  exact set_schema env source schema changed

theorem import_batches_effect (batches : Batches) {before : Database}
    (schema : before.tables.hasSchema = true) (faultless : before.fault = none) :
    importBatches env batches before = (batchesEffect env batches before.tables).elim
        (.raising { tables := before.committed }) fun tables =>
          .returning { tables := tables } := by
  refine guarded_transacted ?_
  refine (import_batch_transacted env .events _ schema faultless).and_then ?_
  intro events eventsIn state now _ quiet
  have eventsSchema := source_effect_schema env schema eventsIn
  rw [← now] at eventsSchema ⊢
  refine (import_batch_transacted env .metrics _ eventsSchema quiet).and_then ?_
  intro metrics metricsIn state now _ quiet
  have metricsSchema := source_effect_schema env eventsSchema metricsIn
  rw [← now] at metricsSchema ⊢
  refine (import_batch_transacted env .providerUsage _ metricsSchema quiet).and_then ?_
  intro usage _ state now _ quiet
  rw [← now]
  exact executemany_transacted setInfo (syncInfo env batches) quiet

/-- The watermark of a source, in a database with the schema. -/
def storedOffset (tables : Tables) (source : Source) : Option Nat :=
  (syncOffset tables source).getD none

theorem sync_offset_schema {tables : Tables} (schema : tables.hasSchema = true)
    (source : Source) : syncOffset tables source = some (storedOffset tables source) := by
  simp only [Tables.hasSchema, Bool.and_eq_true, Option.isSome_iff_exists] at schema
  obtain ⟨info, stored⟩ := schema.1.1.1
  rw [storedOffset, syncOffset, stored, Option.map_some, Option.getD_some]

theorem sync_info_applied (batches : Batches) (tables : Tables) (schema : tables.hasSchema = true) :
    ∃ info, applyAll setInfo (syncInfo env batches) tables =
        some { tables with info := some info } ∧
      ∀ source, storedOffset { tables with info := some info } source =
        some (batches.of source).size := by
  simp only [Tables.hasSchema, Bool.and_eq_true, Option.isSome_iff_exists] at schema
  obtain ⟨info, stored⟩ := schema.1.1.1
  refine ⟨(((info.set Source.events.offsetKey (.number batches.events.size)).set
    Source.metrics.offsetKey (.number batches.metrics.size)).set
    Source.providerUsage.offsetKey (.number batches.providerUsage.size)).set
    "last_sync_at" (.text env.now), ?_, ?_⟩
  · simp only [syncInfo, apply_all_cons, setInfo, stored, Option.map_some, Option.bind_some]
    rfl
  · intro source
    cases source <;>
      simp [storedOffset, syncOffset, OrderedDict.get_set, Source.offsetKey, Batches.of]

/-- What a sync that returns has done to one source. -/
def SourceSynced (source : Source) (file : Option Bytes) (before after : Tables) : Prop :=
  ∃ batch rows changed, syncBatch env file (storedOffset before source) = some batch ∧
    (stream env source).get before = some rows ∧
    batchEffect env source batch rows = some changed ∧
    (stream env source).get after = some changed ∧
    storedOffset after source = some batch.size

/-- A sync returns with every source brought in, or raises because a batch
cannot be read or imported, and then changes nothing. -/
inductive Synced (files : Files) (before : Database) : Outcome Database → Prop where
  | done (tables : Tables) (schema : tables.hasSchema = true)
      (each : ∀ source, SourceSynced env source (files source) before.tables tables) :
      Synced files before (.returning { tables := tables })
  | undone (source : Source) (failed : ∀ batch rows, syncBatch env (files source)
          (storedOffset before.tables source) = some batch →
        (stream env source).get before.tables = some rows →
        batchEffect env source batch rows = none) :
      Synced files before (.raising before)

theorem read_batches_schema (files : Files) {tables : Tables} (schema : tables.hasSchema = true) :
    readBatches env files tables =
      (syncBatch env (files .events) (storedOffset tables .events)).bind fun events =>
        (syncBatch env (files .metrics) (storedOffset tables .metrics)).bind fun metrics =>
        (syncBatch env (files .providerUsage) (storedOffset tables .providerUsage)).bind
          fun providerUsage => some { events, metrics, providerUsage } := by
  rw [readBatches, sync_offset_schema schema, sync_offset_schema schema, sync_offset_schema schema]
  rfl

theorem effect_failed {source : Source} {batch : SyncBatch} {tables before : Tables}
    (same : (stream env source).get tables = (stream env source).get before)
    (failed : sourceEffect env source batch tables = none)
    {rows : List (stream env source).Stored}
    (stored : (stream env source).get before = some rows) :
    batchEffect env source batch rows = none := by
  rw [sourceEffect, on_table env source (same.trans stored)] at failed
  exact Option.map_eq_none_iff.mp failed

theorem stream_get_info (source : Source) (tables : Tables)
    (info : Option (OrderedDict String MetaValue)) :
    (stream env source).get { tables with info := info } = (stream env source).get tables := by
  cases source <;> rfl

theorem batches_effect_cases (batches : Batches) {before : Tables}
    (schema : before.hasSchema = true) :
    (∃ after, batchesEffect env batches before = some after ∧ after.hasSchema = true ∧
      ∀ source, ∃ rows changed, (stream env source).get before = some rows ∧
        batchEffect env source (batches.of source) rows = some changed ∧
        (stream env source).get after = some changed ∧
        storedOffset after source = some (batches.of source).size) ∨
      (batchesEffect env batches before = none ∧ ∃ source, ∀ rows,
        (stream env source).get before = some rows →
        batchEffect env source (batches.of source) rows = none) := by
  unfold batchesEffect
  cases eventsIn : sourceEffect env .events batches.events before with
  | none =>
    exact .inr ⟨rfl, .events, fun rows stored => effect_failed env rfl eventsIn stored⟩
  | some afterEvents =>
    obtain ⟨events, newEvents, eventsStored, eventsEffect, rfl⟩ :=
      source_effect_cases env .events schema eventsIn
    have eventsSchema := set_schema env .events schema newEvents
    rw [Option.bind_some]
    have sameMetrics := @stream_get_other env .metrics .events (by decide) before newEvents
    cases metricsIn : sourceEffect env .metrics batches.metrics
        ((stream env .events).set before newEvents) with
    | none =>
      exact .inr ⟨rfl, .metrics, fun rows stored =>
        effect_failed env sameMetrics metricsIn stored⟩
    | some afterMetrics =>
      obtain ⟨metrics, newMetrics, metricsStored, metricsEffect, rfl⟩ :=
        source_effect_cases env .metrics eventsSchema metricsIn
      have metricsSchema := set_schema env .metrics eventsSchema newMetrics
      rw [Option.bind_some]
      have sameUsage : (stream env .providerUsage).get ((stream env .metrics).set
          ((stream env .events).set before newEvents) newMetrics) =
          (stream env .providerUsage).get before := rfl
      cases usageIn : sourceEffect env .providerUsage batches.providerUsage
          ((stream env .metrics).set ((stream env .events).set before newEvents) newMetrics) with
      | none =>
        exact .inr ⟨rfl, .providerUsage, fun rows stored =>
          effect_failed env sameUsage usageIn stored⟩
      | some afterUsage =>
        obtain ⟨usage, newUsage, usageStored, usageEffect, rfl⟩ :=
          source_effect_cases env .providerUsage metricsSchema usageIn
        have usageSchema := set_schema env .providerUsage metricsSchema newUsage
        obtain ⟨info, infoIn, offsets⟩ :=
          sync_info_applied env batches _ usageSchema
        refine .inl ⟨_, infoIn, ?_, fun source => ?_⟩
        · simp only [Tables.hasSchema, Bool.and_eq_true] at usageSchema ⊢
          exact ⟨⟨⟨rfl, usageSchema.1.1.2⟩, usageSchema.1.2⟩, usageSchema.2⟩
        · rw [stream_get_info]
          cases source
          · exact ⟨events, newEvents, eventsStored, eventsEffect, rfl, offsets _⟩
          · exact ⟨metrics, newMetrics, sameMetrics ▸ metricsStored, metricsEffect,
              rfl, offsets _⟩
          · exact ⟨usage, newUsage, sameUsage ▸ usageStored, usageEffect, rfl, offsets _⟩

theorem synced (files : Files) {before : Database} (idle : before.begun = none)
    (schema : before.tables.hasSchema = true) (faultless : before.fault = none) :
    Synced env files before (syncFromJsonl env files before) := by
  have unread : ∀ source, syncBatch env (files source) (storedOffset before.tables source) = none →
      Synced env files before (.raising before) := by
    intro source missing
    refine .undone source ?_
    intro batch rows found
    rw [missing] at found
    cases found
  rw [syncFromJsonl, read_batches_schema env files schema]
  cases eventsRead : syncBatch env (files .events) (storedOffset before.tables .events) with
  | none => exact unread .events eventsRead
  | some events =>
  cases metricsRead : syncBatch env (files .metrics) (storedOffset before.tables .metrics) with
  | none => exact unread .metrics metricsRead
  | some metrics =>
  cases usageRead : syncBatch env (files .providerUsage)
      (storedOffset before.tables .providerUsage) with
  | none => exact unread .providerUsage usageRead
  | some usage =>
  have read : ∀ source, syncBatch env (files source) (storedOffset before.tables source) =
      some (Batches.of { events := events, metrics := metrics, providerUsage := usage }
        source) := by
    intro source
    cases source
    · exact eventsRead
    · exact metricsRead
    · exact usageRead
  simp only [Option.bind_some]
  rw [import_batches_effect env _ schema faultless]
  rcases batches_effect_cases env
      { events := events, metrics := metrics, providerUsage := usage } schema with
    ⟨after, effect, afterSchema, each⟩ | ⟨effect, source, failed⟩
  · rw [effect, Option.elim_some]
    refine .done after afterSchema fun source => ?_
    obtain ⟨rows, changed, stored, changes, now, offset⟩ := each source
    exact ⟨_, rows, changed, read source, stored, changes, now, offset⟩
  · have same : before = { tables := before.committed } := by
      rw [committed_idle idle]
      cases before
      simp_all
    rw [effect, Option.elim_none, ← same]
    refine .undone source ?_
    intro batch rows found stored
    rw [read source] at found
    rw [← Option.some.inj found]
    exact failed rows stored

end Sync

end AiEnterpriseOs.ReadModel
