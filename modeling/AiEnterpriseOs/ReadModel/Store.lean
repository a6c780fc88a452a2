import AiEnterpriseOs.Library.OrderedDict
import AiEnterpriseOs.Library.Transaction
import AiEnterpriseOs.ReadModel.Records

/-!
# Read model store

The projection tables, their rebuild from the source logs and the incremental
sync. A table that was dropped is `none`; rows are in the order of their ids.
-/

namespace AiEnterpriseOs.ReadModel

open Library

/-- A value of the `meta` table; the decimal text of a number is the number. -/
inductive MetaValue where
  | text (value : String)
  | number (value : Nat)
  deriving DecidableEq

structure Tables where
  info : Option (OrderedDict String MetaValue) := none
  events : Option (List EventRow) := none
  metricsHistory : Option (List MetricRow) := none
  providerUsage : Option (List UsageRow) := none

abbrev Database := Connection Tables

namespace Tables

def hasSchema (tables : Tables) : Bool :=
  tables.info.isSome && tables.events.isSome && tables.metricsHistory.isSome &&
    tables.providerUsage.isSome

/-- The tables as a new database has them. -/
def empty : Tables where
  info := some OrderedDict.empty
  events := some []
  metricsHistory := some []
  providerUsage := some []

end Tables

section Schema

def dropTables : List (Tables → Option Tables) :=
  [ fun tables => some { tables with events := none },
    fun tables => some { tables with metricsHistory := none },
    fun tables => some { tables with providerUsage := none },
    fun tables => some { tables with info := none } ]

/-- `CREATE TABLE IF NOT EXISTS` for each table. -/
def createSchema : List (Tables → Option Tables) :=
  [ fun tables => some { tables with info := some (tables.info.getD OrderedDict.empty) },
    fun tables => some { tables with events := some (tables.events.getD []) },
    fun tables => some { tables with metricsHistory := some (tables.metricsHistory.getD []) },
    fun tables => some { tables with providerUsage := some (tables.providerUsage.getD []) } ]

end Schema

section Inserts

def insertEvent (row : EventRow) (rows : List EventRow) : Option (List EventRow) :=
  if rows.any fun other => other.eventId = row.eventId then none else some (rows ++ [row])

/-- `INSERT OR IGNORE INTO events`. -/
def insertOrIgnoreEvent (row : EventRow) (rows : List EventRow) : Option (List EventRow) :=
  some (if rows.any fun other => other.eventId = row.eventId then rows else rows ++ [row])

def insertMetric (env : ImportEnv) (bound : PyValue × String) (rows : List MetricRow) :
    Option (List MetricRow) :=
  (bindText env bound.1).map fun timestamp =>
    rows ++ [{ timestamp := timestamp, snapshot := bound.2 }]

def insertUsage (row : UsageRow) (rows : List UsageRow) : Option (List UsageRow) :=
  if row.binds then some (rows ++ [row]) else none

def insertInfo (item : String × MetaValue) (tables : Tables) : Option Tables :=
  tables.info.bind fun info =>
    if (info.get? item.1).isSome then none
    else some { tables with info := some (info.set item.1 item.2) }

/-- `_set_meta(key, value)`. -/
def setInfo (item : String × MetaValue) (tables : Tables) : Option Tables :=
  tables.info.map fun info => { tables with info := some (info.set item.1 item.2) }

end Inserts

/-- The way of one source from its records to its table. -/
structure Stream where
  Row : Type
  Stored : Type
  parse : PyValue → Option (Option Row)
  insertNew : Row → List Stored → Option (List Stored)
  insert : Row → List Stored → Option (List Stored)
  get : Tables → Option (List Stored)
  set : Tables → List Stored → Tables

/-- Events are deduplicated by a sync; the other rows have no key. -/
def stream (env : ImportEnv) : Source → Stream
  | .events =>
    { Row := EventRow
      Stored := EventRow
      parse := parseEventRecord env
      insertNew := insertEvent
      insert := insertOrIgnoreEvent
      get := fun tables => tables.events
      set := fun tables rows => { tables with events := some rows } }
  | .metrics =>
    { Row := PyValue × String
      Stored := MetricRow
      parse := fun record => (parseMetric env record).map some
      insertNew := insertMetric env
      insert := insertMetric env
      get := fun tables => tables.metricsHistory
      set := fun tables rows => { tables with metricsHistory := some rows } }
  | .providerUsage =>
    { Row := UsageRow
      Stored := UsageRow
      parse := fun record => (parseProviderUsage env record).map some
      insertNew := insertUsage
      insert := insertUsage
      get := fun tables => tables.providerUsage
      set := fun tables rows => { tables with providerUsage := some rows } }

def collectRows {Row : Type} (parse : PyValue → Option (Option Row)) :
    List PyValue → Option (List Row)
  | [] => some []
  | record :: rest =>
    match parse record with
    | none => none
    | some row => (collectRows parse rest).map fun rows => row.toList ++ rows

namespace Stream

/-- A statement on the table of the stream. -/
def onTable (stream : Stream) (change : List stream.Stored → Option (List stream.Stored))
    (tables : Tables) : Option Tables :=
  ((stream.get tables).bind change).map (stream.set tables)

def parsedRows (stream : Stream) (env : ImportEnv) (file : Option Bytes) :
    Option (List stream.Row) :=
  (readJsonl env.loads file).bind (collectRows stream.parse)

/-- `executemany("INSERT INTO ...", rows)`. -/
def insertAllNew (stream : Stream) (rows : List stream.Row) (database : Database) :
    Outcome Database :=
  database.executemany (fun row => stream.onTable (stream.insertNew row)) rows

def insertRecords (stream : Stream) (records : List PyValue) (database : Database) :
    Outcome Database :=
  match collectRows stream.parse records with
  | none => .raising database
  | some rows => database.executemany (fun row => stream.onTable (stream.insert row)) rows

/-- The part of a sync that imports one batch. -/
def importBatch (stream : Stream) (batch : SyncBatch) (database : Database) :
    Outcome Database :=
  (if batch.reset then database.execute (stream.onTable fun _ => some [])
    else .returning database).andThen (stream.insertRecords batch.records)

end Stream

def Source.offsetKey : Source → String
  | events => "sync_offset_events"
  | metrics => "sync_offset_metrics"
  | providerUsage => "sync_offset_provider_usage"

section Rebuild

variable (env : ImportEnv)

/-- The rows a rebuild parses from the three logs before it touches a table. -/
structure ParsedRows where
  events : List EventRow
  metrics : List (PyValue × String)
  providerUsage : List UsageRow

def parseSources (files : Files) : Option ParsedRows := do
  let events ← (stream env .events).parsedRows env (files .events)
  let metrics ← (stream env .metrics).parsedRows env (files .metrics)
  let providerUsage ← (stream env .providerUsage).parsedRows env (files .providerUsage)
  return { events, metrics, providerUsage }

def infoRows (rows : ParsedRows) (sizes : Source → Nat) : List (String × MetaValue) :=
  [ ("schema_version", .number 1), ("rebuilt_at", .text env.now),
    ("events_path", .text (env.path .events)),
    ("metrics_path", .text (env.path .metrics)),
    ("provider_usage_path", .text (env.path .providerUsage)),
    ("events_count", .number rows.events.length),
    ("metrics_count", .number rows.metrics.length),
    ("provider_usage_count", .number rows.providerUsage.length),
    (Source.events.offsetKey, .number (sizes .events)),
    (Source.metrics.offsetKey, .number (sizes .metrics)),
    (Source.providerUsage.offsetKey, .number (sizes .providerUsage)),
    ("last_sync_at", .text env.now) ]

/-- The transaction block of a rebuild. -/
def replaceTables (rows : ParsedRows) (sizes : Source → Nat) (database : Database) :
    Outcome Database :=
  database.guarded fun database =>
    (database.executescript dropTables).andThen fun database =>
    (database.executescript createSchema).andThen fun database =>
    ((stream env .events).insertAllNew rows.events database).andThen fun database =>
    ((stream env .metrics).insertAllNew rows.metrics database).andThen fun database =>
    ((stream env .providerUsage).insertAllNew rows.providerUsage database).andThen
      fun database => database.executemany insertInfo (infoRows env rows sizes)

def rebuild (files : Files) (database : Database) : Outcome Database :=
  match parseSources env files with
  | none => .raising database
  | some rows => replaceTables env rows (fun source => fileSize (files source)) database

end Rebuild

section Sync

variable (env : ImportEnv)

/-- A stored watermark; the outer `none` is the error on a missing table. -/
def syncOffset (tables : Tables) (source : Source) : Option (Option Nat) :=
  tables.info.map fun info =>
    match info.get? source.offsetKey with
    | some (.number offset) => some offset
    | _ => none

structure Batches where
  events : SyncBatch
  metrics : SyncBatch
  providerUsage : SyncBatch

def Batches.of (batches : Batches) : Source → SyncBatch
  | .events => batches.events
  | .metrics => batches.metrics
  | .providerUsage => batches.providerUsage

def readBatches (files : Files) (tables : Tables) : Option Batches := do
  let eventsOffset ← syncOffset tables .events
  let metricsOffset ← syncOffset tables .metrics
  let usageOffset ← syncOffset tables .providerUsage
  let events ← syncBatch env (files .events) eventsOffset
  let metrics ← syncBatch env (files .metrics) metricsOffset
  let providerUsage ← syncBatch env (files .providerUsage) usageOffset
  return { events, metrics, providerUsage }

/-- What a sync records: the new watermarks and its time. -/
def syncInfo (batches : Batches) : List (String × MetaValue) :=
  [ (Source.events.offsetKey, .number batches.events.size),
    (Source.metrics.offsetKey, .number batches.metrics.size),
    (Source.providerUsage.offsetKey, .number batches.providerUsage.size),
    ("last_sync_at", .text env.now) ]

/-- The transaction block of a sync. -/
def importBatches (batches : Batches) (database : Database) : Outcome Database :=
  database.guarded fun database =>
    ((stream env .events).importBatch batches.events database).andThen fun database =>
    ((stream env .metrics).importBatch batches.metrics database).andThen fun database =>
    ((stream env .providerUsage).importBatch batches.providerUsage database).andThen
      fun database => database.executemany setInfo (syncInfo env batches)

def syncFromJsonl (files : Files) (database : Database) : Outcome Database :=
  match readBatches env files database.tables with
  | none => .raising database
  | some batches => importBatches env batches database

end Sync

/-- `ReadModelStore(db_path)` on a database that holds `tables`. -/
def openStore (tables : Tables) : Outcome Database :=
  ({ tables := tables } : Database).executescript createSchema

end AiEnterpriseOs.ReadModel
