import AiEnterpriseOs.Library.Runs
import AiEnterpriseOs.ReadModel.Rebuild

/-!
# Incremental sync against rebuild

The source logs and the projection over a history of changes. A sync brings a
source level with its log when the log was read up to a cut between two lines
and that part of it is still there.
-/

namespace AiEnterpriseOs.ReadModel

open Library Library.Connection
open Library.TextLines

section Cut

/-- When the bytes are well-formed text, the cut falls between two characters
and leaves something of a line on one side only, and the text after it has no
line end that only `splitlines` knows, unless next to blanks. -/
def CleanCut (front back : Bytes) : Prop :=
  ∀ text, Utf8.decode (front ++ back) = some text →
    ∃ head tail, Utf8.decode front = some head ∧ Utf8.decode back = some tail ∧
      (Blank (lastPiece universalNewline head) ∨ Blank (firstPiece universalNewline tail)) ∧
      fields splitlinesEnd tail = fields universalNewline tail

variable (env : ImportEnv)

theorem read_since {front back : Bytes} {records : List PyValue} (cut : CleanCut front back)
    (read : readJsonl env.loads (some (front ++ back)) = some records) :
    ∃ first second, readJsonl env.loads (some front) = some first ∧
      readJsonlSince env (some (front ++ back)) front.length = some second ∧
      records = first ++ second := by
  obtain ⟨text, decoded, loaded⟩ := Option.bind_eq_some_iff.mp read
  obtain ⟨head, tail, frontText, backText, between, sameLines⟩ := cut text decoded
  rw [Utf8.decode_append front back head frontText, backText, Option.map_some] at decoded
  rw [← Option.some.inj decoded, textRecords, fields_append rfl rfl between,
    load_lines_append] at loaded
  obtain ⟨first, headLoaded, rest⟩ := Option.bind_eq_some_iff.mp loaded
  obtain ⟨second, tailLoaded, same⟩ := Option.map_eq_some_iff.mp rest
  refine ⟨first, second, ?_, ?_, same.symm⟩
  · rw [readJsonl, frontText, Option.bind_some, textRecords, headLoaded]
  · simp only [readJsonlSince, List.drop_left, Utf8.decode_replacing back tail backText,
      sameLines, tailLoaded]

theorem collect_rows_append {Row : Type} (parse : PyValue → Option (Option Row))
    (first second : List PyValue) :
    collectRows parse (first ++ second) = (collectRows parse first).bind fun rows =>
        (collectRows parse second).map fun others => rows ++ others := by
  induction first with
  | nil => cases found : collectRows parse second <;> simp [collectRows, found]
  | cons record rest ih =>
    rw [List.cons_append, collectRows, collectRows]
    cases parse record with
    | none => rfl
    | some row =>
      simp only [ih]
      cases collectRows parse rest <;> cases collectRows parse second <;> simp

theorem records_effect_append (source : Source) (first second : List PyValue)
    (rows : List (stream env source).Stored) :
    recordsEffect env source (first ++ second) rows =
      ((collectRows (stream env source).parse second).bind fun _ =>
        recordsEffect env source first rows).bind (recordsEffect env source second) := by
  unfold recordsEffect
  rw [collect_rows_append]
  cases collectRows (stream env source).parse first <;>
    cases collectRows (stream env source).parse second <;>
    simp [apply_all_append]

theorem load_rows_cut {source : Source} {front back : Bytes}
    {rows : List (stream env source).Stored} (cut : CleanCut front back)
    (loaded : loadRows env source (some (front ++ back)) = some rows) :
    ∃ before second, loadRows env source (some front) = some before ∧
      readJsonlSince env (some (front ++ back)) front.length = some second ∧
      recordsEffect env source second before = some rows := by
  obtain ⟨records, read, effect⟩ := Option.bind_eq_some_iff.mp loaded
  obtain ⟨first, second, frontRead, backRead, rfl⟩ := read_since env cut read
  rw [records_effect_append] at effect
  obtain ⟨before, parsed, last⟩ := Option.bind_eq_some_iff.mp effect
  obtain ⟨_, _, initial⟩ := Option.bind_eq_some_iff.mp parsed
  refine ⟨before, second, ?_, backRead, last⟩
  rw [loadRows, frontRead, Option.bind_some, initial]

end Cut

section Source

variable (env : ImportEnv) (source : Source)

/-- The watermark is at the end of what was imported, and the table holds the
rows of that, if it can be read at all. -/
def Mirrors (tables : Tables) (imported : Bytes) : Prop :=
  ∀ offset, storedOffset tables source = some offset → offset = imported.length ∧
      ∀ rows, loadRows env source (some imported) = some rows →
        (stream env source).get tables = some rows

/-- A missing log has no rows to lose; one that is read on from its watermark
starts with what was imported and is cut there cleanly. -/
def ReadsOn (file : Option Bytes) (tables : Tables) (imported : Bytes) : Prop :=
  match file with
  | none => (stream env source).get tables = some []
  | some bytes => ∀ offset, storedOffset tables source = some offset → offset ≤ bytes.length →
        bytes.take offset = imported ∧ CleanCut imported (bytes.drop offset)

theorem batch_effect_empty (size : Nat) (rows : List (stream env source).Stored) :
    batchEffect env source { records := [], size := size, reset := false } rows =
      some rows := rfl

theorem load_rows_missing : loadRows env source none = some [] := rfl

theorem load_rows_empty : loadRows env source (some []) = some [] := rfl

theorem batch_catches_up {file : Option Bytes} {tables : Tables} {imported : Bytes}
    {stored rows : List (stream env source).Stored}
    (mirrors : Mirrors env source tables imported)
    (reads : ReadsOn env source file tables imported)
    (table : (stream env source).get tables = some stored)
    (loaded : loadRows env source file = some rows) :
    ∃ batch, syncBatch env file (storedOffset tables source) = some batch ∧
      batchEffect env source batch stored = some rows := by
  have whole : ∀ bytes, file = some bytes → ∃ records,
      readJsonl env.loads (some bytes) = some records ∧
        recordsEffect env source records [] = some rows := by
    intro bytes present
    rw [present] at loaded
    exact Option.bind_eq_some_iff.mp loaded
  cases file with
  | none =>
    have noRows : stored = [] := Option.some.inj (table.symm.trans reads)
    rw [load_rows_missing] at loaded
    refine ⟨_, rfl, ?_⟩
    rw [batch_effect_empty, noRows, ← loaded]
  | some bytes =>
    obtain ⟨records, read, effect⟩ := whole bytes rfl
    unfold syncBatch
    cases offsetEq : storedOffset tables source with
    | none => exact ⟨{ records := records, size := bytes.length, reset := true },
        by simp only [read, Option.map_some], effect⟩
    | some offset =>
      by_cases shrunk : bytes.length < offset
      · exact ⟨{ records := records, size := bytes.length, reset := true },
          by simp only [if_pos shrunk, read, Option.map_some], effect⟩
      · obtain ⟨same, cut⟩ := reads offset offsetEq (by omega)
        obtain ⟨atEnd, mirrored⟩ := mirrors offset offsetEq
        by_cases unchanged : offset = bytes.length
        · rw [unchanged, List.take_length] at same
          rw [same] at loaded
          have now := Option.some.inj (table.symm.trans (mirrored rows loaded))
          exact ⟨{ records := [], size := bytes.length, reset := false },
            by simp only [if_neg shrunk, if_pos unchanged],
            by rw [batch_effect_empty, now]⟩
        · have parts : imported ++ bytes.drop offset = bytes := by
            rw [← same, List.take_append_drop]
          rw [← parts] at loaded
          obtain ⟨before, second, front, back, last⟩ := load_rows_cut env cut loaded
          have now := Option.some.inj (table.symm.trans (mirrored before front))
          rw [parts, ← atEnd] at back
          exact ⟨{ records := second, size := bytes.length, reset := false },
            by simp only [if_neg shrunk, if_neg unchanged, back, Option.map_some],
            by rw [now]; exact last⟩

theorem sync_batch_size {file : Option Bytes} {offset : Option Nat} {batch : SyncBatch}
    (read : syncBatch env file offset = some batch) : batch.size = fileSize file := by
  have mapped : ∀ (records : Option (List PyValue)) (size : Nat) (reset : Bool),
      (records.map fun records => { records, size, reset }) = some batch → batch.size = size := by
    intro records size reset found
    obtain ⟨_, _, rfl⟩ := Option.map_eq_some_iff.mp found
    rfl
  cases file with
  | none => rw [← Option.some.inj read, fileSize]; rfl
  | some bytes =>
    rw [fileSize, Option.map_some, Option.getD_some]
    cases offset with
    | none => exact mapped _ _ _ read
    | some offset =>
      simp only [syncBatch] at read
      split at read
      · exact mapped _ _ _ read
      · split at read
        · rw [← Option.some.inj read]
        · exact mapped _ _ _ read

theorem rebuilt_mirrors {file : Option Bytes} {tables : Tables}
    {rows : List (stream env source).Stored} (loaded : loadRows env source file = some rows)
    (table : (stream env source).get tables = some rows)
    (watermark : storedOffset tables source = some (fileSize file)) :
    Mirrors env source tables (file.getD []) := by
  intro offset found
  rw [watermark] at found
  constructor
  · rw [← Option.some.inj found, fileSize]
    cases file <;> rfl
  · intro other otherLoaded
    have importedRows : loadRows env source (some (file.getD [])) = some rows := by
      cases file with
      | none => exact loaded
      | some bytes => exact loaded
    rw [table, ← importedRows, otherLoaded]

theorem synced_mirrors {file : Option Bytes} {before after : Tables} {imported : Bytes}
    (mirrors : Mirrors env source before imported)
    (reads : ReadsOn env source file before imported)
    (done : SourceSynced env source file before after) :
    Mirrors env source after (file.getD []) := by
  obtain ⟨batch, stored, changed, read, table, effect, now, offset⟩ := done
  intro watermark found
  rw [offset] at found
  constructor
  · rw [← Option.some.inj found, sync_batch_size env read, fileSize]
    cases file <;> rfl
  · intro rows loaded
    have loadedFile : loadRows env source file = some rows := by
      cases file with
      | none => exact loaded
      | some bytes => exact loaded
    obtain ⟨other, otherRead, otherEffect⟩ :=
      batch_catches_up env source mirrors reads table loadedFile
    rw [read] at otherRead
    rw [← Option.some.inj otherRead, effect] at otherEffect
    rw [now, otherEffect]

end Source

/-- The logs and the projection; `imported` keeps what each log held when it
was last brought in. -/
structure Replica where
  files : Files
  database : Database
  imported : Source → Bytes

/-- What happens to the logs or the store. A truncation or rotation leaves any
other content. -/
inductive Change where
  | append (source : Source) (bytes : Bytes)
  | replace (source : Source) (bytes : Bytes)
  | delete (source : Source)
  | sync
  | rebuild

namespace Replica

variable (env : ImportEnv)

def setFile (replica : Replica) (source : Source) (file : Option Bytes) : Replica :=
  { replica with
    files := fun other => if other = source then file else replica.files other }

/-- The replica after a sync or a rebuild came out. -/
def settle (replica : Replica) (outcome : Outcome Database) : Replica :=
  { replica with
    database := outcome.state
    imported := if outcome.returned then fun source => (replica.files source).getD []
      else replica.imported }

def step (replica : Replica) : Change → Replica
  | .append source bytes =>
    replica.setFile source (some ((replica.files source).getD [] ++ bytes))
  | .replace source bytes => replica.setFile source (some bytes)
  | .delete source => replica.setFile source none
  | .sync => replica.settle (syncFromJsonl env replica.files replica.database)
  | .rebuild => replica.settle (rebuild env replica.files replica.database)

/-- A new store beside the logs. -/
def start (files : Files) : Replica where
  files := files
  database := { tables := .empty }
  imported := fun _ => []

/-- Every log can be read on when it is synced. -/
def SyncsInStep (replica : Replica) (change : Change) : Prop :=
  change = .sync → ∀ source, ReadsOn env source (replica.files source) replica.database.tables
      (replica.imported source)

structure Level (replica : Replica) : Prop where
  idle : replica.database.begun = none
  faultless : replica.database.fault = none
  schema : replica.database.tables.hasSchema = true
  mirrors : ∀ source, Mirrors env source replica.database.tables (replica.imported source)

theorem level_start (files : Files) : Level env (start files) where
  idle := rfl
  faultless := rfl
  schema := rfl
  mirrors source offset found := by
    cases source <;> cases found

theorem level_set_file {replica : Replica} (level : Level env replica) (source : Source)
    (file : Option Bytes) : Level env (replica.setFile source file) where
  idle := level.idle
  faultless := level.faultless
  schema := level.schema
  mirrors := level.mirrors

theorem level_sync {replica : Replica} (level : Level env replica)
    (inStep : SyncsInStep env replica .sync) : Level env (replica.step env .sync) := by
  have came := synced env replica.files level.idle level.schema level.faultless
  have reads := inStep rfl
  rw [step]
  generalize syncFromJsonl env replica.files replica.database = outcome at came ⊢
  cases came with
  | done tables schema each =>
    exact
      { idle := rfl
        faultless := rfl
        schema := schema
        mirrors := fun source =>
          synced_mirrors env source (level.mirrors source) (reads source) (each source) }
  | undone source failed =>
    exact
      { idle := level.idle
        faultless := level.faultless
        schema := level.schema
        mirrors := level.mirrors }

theorem no_offsets_empty {source : Source} {offset : Nat} :
    storedOffset .empty source ≠ some offset := by
  cases source <;> exact nofun

theorem level_rebuild {replica : Replica} (level : Level env replica) :
    Level env (replica.step env .rebuild) := by
  have came := rebuilt env replica.files level.idle level.faultless
  rw [step]
  generalize rebuild env replica.files replica.database = outcome
    at came ⊢
  cases came with
  | done tables schema each =>
    refine
      { idle := rfl
        faultless := rfl
        schema := schema
        mirrors := fun source => ?_ }
    obtain ⟨rows, loaded, table, watermark⟩ := each source
    exact rebuilt_mirrors env source loaded table watermark
  | unread =>
    exact
      { idle := level.idle
        faultless := level.faultless
        schema := level.schema
        mirrors := level.mirrors }
  | emptied =>
    refine
      { idle := rfl
        faultless := rfl
        schema := rfl
        mirrors := fun source offset found => ?_ }
    exact absurd found no_offsets_empty

theorem level_step (replica : Replica) (change : Change) (level : Level env replica)
    (inStep : SyncsInStep env replica change) : Level env (replica.step env change) := by
  cases change with
  | append source bytes => exact level_set_file env level source _
  | replace source bytes => exact level_set_file env level source _
  | delete source => exact level_set_file env level source _
  | sync => exact level_sync env level inStep
  | rebuild => exact level_rebuild env level

theorem sync_as_rebuild {replica : Replica} (level : Level env replica)
    (reads : ∀ source, ReadsOn env source (replica.files source) replica.database.tables
      (replica.imported source))
    (returned : (rebuild env replica.files
      { tables := .empty }).returned = true) (source : Source) :
    (stream env source).get (replica.step env .sync).database.tables =
      (stream env source).get (rebuild env replica.files { tables := .empty }).state.tables := by
  have came := synced env replica.files level.idle level.schema level.faultless
  have fresh := @rebuilt env replica.files { tables := .empty } rfl rfl
  have settled : (replica.step env .sync).database =
      (syncFromJsonl env replica.files replica.database).state := rfl
  rw [settled]
  generalize syncFromJsonl env replica.files replica.database = outcome at came ⊢
  generalize rebuild env replica.files { tables := .empty } = rebuiltOutcome at fresh returned ⊢
  cases fresh with
  | unread => cases returned
  | emptied => cases returned
  | done freshTables freshSchema eachFresh =>
    cases came with
    | done tables schema each =>
      obtain ⟨rows, loaded, freshTable, _⟩ := eachFresh source
      obtain ⟨batch, stored, changed, read, table, effect, now, _⟩ := each source
      obtain ⟨other, otherRead, otherEffect⟩ :=
        batch_catches_up env source (level.mirrors source) (reads source) table loaded
      rw [read] at otherRead
      rw [← Option.some.inj otherRead, effect] at otherEffect
      exact now.trans (otherEffect.trans freshTable.symm)
    | undone failing failed =>
      obtain ⟨rows, loaded, _, _⟩ := eachFresh failing
      obtain ⟨stored, table⟩ := stream_get_schema env failing level.schema
      obtain ⟨batch, read, effect⟩ :=
        batch_catches_up env failing (level.mirrors failing) (reads failing) table loaded
      rw [failed batch stored read table] at effect
      cases effect

/-- In every history whose syncs can read on, the tables after a sync are
those that a rebuild from the logs, where one goes through, would produce. -/
theorem synced_as_rebuilt (files : Files) (changes : List Change)
    (meets : StepsMeet (step env) (SyncsInStep env) (start files) (changes ++ [.sync])) :
    let synced := runInputs (step env) (start files) (changes ++ [.sync])
    let fresh := rebuild env synced.files { tables := .empty }
    fresh.returned = true → synced.database.tables.events = fresh.state.tables.events ∧
      synced.database.tables.metricsHistory = fresh.state.tables.metricsHistory ∧
      synced.database.tables.providerUsage = fresh.state.tables.providerUsage := by
  intro synced fresh returned
  obtain ⟨runMeets, lastMeets⟩ :=
    (steps_meet_append (step env) _ _ changes [.sync]).mp meets
  have level := invariant_of_steps_meet (step env) (level_step env) (start files) changes
    (level_start env files) runMeets
  have last : synced = (runInputs (step env) (start files) changes).step env .sync :=
    run_inputs_append (step env) (start files) changes [.sync]
  have same := sync_as_rebuild env level (lastMeets.1 rfl)
  have sameFiles : synced.files = (runInputs (step env) (start files) changes).files := by
    rw [last]
    rfl
  have freshEq : fresh = rebuild env
      (runInputs (step env) (start files) changes).files { tables := .empty } := by
    rw [← sameFiles]
  rw [freshEq] at returned ⊢
  rw [last]
  exact ⟨same returned .events, same returned .metrics, same returned .providerUsage⟩

theorem cut_between_objects : CleanCut emptyObjectLine emptyObjectLine := by
  intro text _
  have decoded : Utf8.decode emptyObjectLine = some ['\x7b', '\x7d', '\n'] := rfl
  refine ⟨_, _, decoded, decoded, .inl ?_, ?_⟩
  all_goals decide +kernel

theorem growing_log_synced :
    let changes : List Change :=
      [ .append .metrics emptyObjectLine, .sync, .append .metrics emptyObjectLine ]
    let synced := runInputs (step emptyObjectEnv) (start fun _ => none) (changes ++ [.sync])
    synced.database.tables.metricsHistory =
      (rebuild emptyObjectEnv synced.files { tables := .empty }).state.tables.metricsHistory := by
  intro changes synced
  refine (synced_as_rebuilt emptyObjectEnv (fun _ => none) changes ?_ (by decide +kernel)).2.1
  refine ⟨nofun, fun _ source => ?_, nofun, fun _ source => ?_, trivial⟩
  · cases source with
    | events => rfl
    | metrics => exact fun offset found => nomatch found
    | providerUsage => rfl
  · cases source with
    | events => rfl
    | metrics =>
      intro offset found _
      have atLine : storedOffset (runInputs (step emptyObjectEnv) (start fun _ => none)
          (changes.take 3)).database.tables .metrics = some 3 := by
        decide +kernel
      have same : some 3 = some offset := atLine.symm.trans found
      rw [← Option.some.inj same]
      exact ⟨by decide +kernel, cut_between_objects⟩
    | providerUsage => rfl

/-- A log that disappears leaves its rows behind. -/
theorem deleted_log_keeps_rows :
    let changes : List Change :=
      [ .append .metrics emptyObjectLine, .sync, .delete .metrics, .sync ]
    let synced := runInputs (step emptyObjectEnv) (start fun _ => none) changes
    let fresh := rebuild emptyObjectEnv synced.files { tables := .empty }
    fresh.returned = true ∧ (synced.database.tables.metricsHistory.map List.length,
        fresh.state.tables.metricsHistory.map List.length) = (some 1, some 0) := by
  decide +kernel

end Replica

end AiEnterpriseOs.ReadModel
