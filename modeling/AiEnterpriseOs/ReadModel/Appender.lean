import AiEnterpriseOs.ReadModel.WholeLines

/-!
# Imports beside an appender

A rebuild and the syncs after it, taken apart into their looks at the logs,
while another process appends to them. A rebuild looks at a log's size after
it has read it, a sync before.
-/

namespace AiEnterpriseOs.ReadModel

open Library Library.Connection
open Library.TextLines

/-- The next step of the importing process. What it reads is parsed when it is
written, which no other step can tell from parsing it at once. -/
inductive Task where
  | read (source : Source)
  | takeSize (source : Source)
  | replaceTables
  | importBatches
  deriving DecidableEq

def rebuildTasks : List Task :=
  [ .read .events, .read .metrics, .read .providerUsage, .takeSize .events,
    .takeSize .metrics, .takeSize .providerUsage, .replaceTables ]

def syncTasks : List Task :=
  [ .takeSize .events, .read .events, .takeSize .metrics, .read .metrics,
    .takeSize .providerUsage, .read .providerUsage, .importBatches ]

structure Session where
  files : Files
  database : Database
  pending : List Task
  /-- The logs as last read. -/
  seen : Source → Option Bytes
  /-- The sizes as last looked at; a missing log has none. -/
  sizes : Source → Option Nat

inductive Action where
  | append (source : Source) (bytes : Bytes)
  | work

section Batches

variable (env : ImportEnv)

/-- `syncBatch` with the size and the content from two looks at the log. -/
def syncBatchAt (size : Option Nat) (content : Option Bytes) (offset : Option Nat) :
    Option SyncBatch :=
  match size with
  | none => some { records := [], size := 0, reset := false }
  | some size =>
    match offset with
    | none =>
      (readJsonl env.loads content).map fun records => { records, size, reset := true }
    | some offset =>
      if size < offset then
        (readJsonl env.loads content).map fun records => { records, size, reset := true }
      else if offset = size then some { records := [], size, reset := false }
      else
        (readJsonlSince env content offset).map fun records =>
          { records, size, reset := false }

theorem sync_batch_at_once (file : Option Bytes) (offset : Option Nat) :
    syncBatchAt env (file.map List.length) file offset = syncBatch env file offset := by
  cases file <;> cases offset <;> rfl

end Batches

namespace Session

variable (env : ImportEnv)

def readBatchesAt (session : Session) : Option Batches := do
  let offset := storedOffset session.database.tables
  let events ← syncBatchAt env (session.sizes .events) (session.seen .events) (offset .events)
  let metrics ← syncBatchAt env (session.sizes .metrics) (session.seen .metrics) (offset .metrics)
  let providerUsage ← syncBatchAt env (session.sizes .providerUsage)
    (session.seen .providerUsage) (offset .providerUsage)
  return { events, metrics, providerUsage }

def runTask (session : Session) : Task → Session
  | .read source =>
    { session with
      seen := fun other => if other = source then session.files source
        else session.seen other }
  | .takeSize source =>
    { session with
      sizes := fun other => if other = source then (session.files source).map List.length
        else session.sizes other }
  | .replaceTables =>
    match parseSources env session.seen with
    | none => session
    | some rows =>
      { session with
        database := (replaceTables env rows
          (fun source => (session.sizes source).getD 0) session.database).state }
  | .importBatches =>
    match session.readBatchesAt env with
    | none => session
    | some batches =>
      { session with database := (importBatches env batches session.database).state }

def step (session : Session) : Action → Session
  | .append source bytes =>
    { session with
      files := fun other =>
        if other = source then some ((session.files source).getD [] ++ bytes)
        else session.files other }
  | .work =>
    match session.pending with
    | [] => { session with pending := syncTasks }
    | task :: rest => { session.runTask env task with pending := rest }

/-- A store that was just opened on its database, about to be rebuilt. -/
def start (files : Files) (tables : Tables) : Session where
  files := files
  database := (openStore tables).state
  pending := rebuildTasks
  seen := fun _ => none
  sizes := fun _ => none

end Session

section Order

/-- Looks still to come: of the two at one log the early one is never left
behind the late one, and the last task uses what they saw. -/
structure LookOrder (early late : Source → Task) (final : Task) (pending : List Task) : Prop where
  distinct : pending.Nodup
  last : pending.getLast? = some final
  only : ∀ task ∈ pending, task = final ∨ ∃ source, task = early source ∨ task = late source
  stays : ∀ source, early source ∈ pending → late source ∈ pending
  apart : pending.Pairwise fun first later => ∀ source, first = late source → later ≠ early source

theorem rebuild_tasks_order : LookOrder .read .takeSize .replaceTables rebuildTasks where
  distinct := by decide
  last := rfl
  only := by simp [rebuildTasks]
  stays source _ := by cases source <;> decide
  apart := by simp [rebuildTasks]

theorem content_to_read (source : Source) : .read source ∈ rebuildTasks := by
  cases source <;> decide

theorem size_to_take (source : Source) : .takeSize source ∈ syncTasks := by
  cases source <;> decide

theorem sync_tasks_order : LookOrder .takeSize .read .importBatches syncTasks where
  distinct := by decide
  last := rfl
  only := by simp [syncTasks]
  stays source _ := by cases source <;> decide
  apart := by simp [syncTasks]

variable {early late : Source → Task} {final task : Task} {rest : List Task}

theorem LookOrder.head_last (order : LookOrder early late final (final :: rest)) : rest = [] := by
  cases rest with
  | nil => rfl
  | cons next others =>
    have member : final ∈ next :: others := by
      have last := order.last
      rw [List.getLast?_cons_cons] at last
      exact List.mem_of_getLast? last
    exact absurd member (List.nodup_cons.mp order.distinct).1

theorem LookOrder.tail (order : LookOrder early late final (task :: rest))
    (inner : task ≠ final) : LookOrder early late final rest where
  distinct := (List.nodup_cons.mp order.distinct).2
  last := by
    have last := order.last
    cases rest with
    | nil =>
      rw [List.getLast?_singleton] at last
      exact absurd (Option.some.inj last) inner
    | cons next others =>
      rw [List.getLast?_cons_cons] at last
      exact last
  only other member := order.only other (List.mem_cons_of_mem _ member)
  stays source member := by
    have lateMember := order.stays source (List.mem_cons_of_mem _ member)
    refine (List.mem_cons.mp lateMember).resolve_left fun same => ?_
    exact (List.pairwise_cons.mp order.apart).1 _ member source same.symm rfl
  apart := (List.pairwise_cons.mp order.apart).2

theorem LookOrder.nonempty {pending : List Task}
    (order : LookOrder early late final pending) : pending ≠ [] := by
  intro empty
  have last := order.last
  rw [empty] at last
  cases last

end Order

section Growth

variable (env : ImportEnv)

/-- Whole lines, all of which can be imported. -/
def Sound (source : Source) (file : Option Bytes) : Prop :=
  WholeLines (file.getD []) ∧ (loadRows env source (some (file.getD []))).isSome = true

/-- Lines an appender may write. -/
def Appendable (source : Source) (bytes : Bytes) : Prop :=
  PlainLines bytes ∧ (loadRows env source (some bytes)).isSome = true

/-- What follows an earlier content is plain lines. -/
def Grown (earlier : Bytes) (file : Option Bytes) : Prop :=
  ∃ more, PlainLines more ∧ file.getD [] = earlier ++ more

theorem grown_refl (file : Option Bytes) : Grown (file.getD []) file :=
  ⟨[], plain_lines_nil, by rw [List.append_nil]⟩

theorem Grown.append {earlier : Bytes} {file : Option Bytes} (grown : Grown earlier file)
    {bytes : Bytes} (plain : PlainLines bytes) :
    Grown earlier (some (file.getD [] ++ bytes)) := by
  obtain ⟨more, morePlain, same⟩ := grown
  refine ⟨more ++ bytes, plain_lines_append morePlain plain, ?_⟩
  rw [Option.getD_some, same, List.append_assoc]

theorem Sound.append {source : Source} {file : Option Bytes} (sound : Sound env source file)
    {bytes : Bytes} (appendable : Appendable env source bytes) :
    Sound env source (some (file.getD [] ++ bytes)) :=
  ⟨whole_lines_append sound.1 appendable.1.whole,
    load_rows_append env source sound.1 sound.2 appendable.2⟩

theorem Sound.loads {source : Source} {file : Option Bytes} (sound : Sound env source file) :
    ∃ rows, loadRows env source file = some rows := by
  obtain ⟨rows, loaded⟩ := Option.isSome_iff_exists.mp sound.2
  cases file with
  | none => exact ⟨[], rfl⟩
  | some bytes => exact ⟨rows, loaded⟩

theorem Sound.parses {source : Source} {file : Option Bytes} (sound : Sound env source file) :
    ∃ rows, (stream env source).parsedRows env file = some rows := by
  obtain ⟨_, loaded⟩ := sound.loads
  obtain ⟨records, read, effect⟩ := Option.bind_eq_some_iff.mp loaded
  obtain ⟨rows, collected, _⟩ := Option.bind_eq_some_iff.mp effect
  exact ⟨rows, by rw [Stream.parsedRows, read, Option.bind_some, collected]⟩

/-- The table of a source is level with an earlier content of its log. -/
structure Follows (source : Source) (tables : Tables) (imported : Bytes) : Prop where
  mirrors : Mirrors env source tables imported
  fresh : storedOffset tables source = none → (stream env source).get tables = some []
  whole : WholeLines imported

theorem Follows.reads_on {source : Source} {tables : Tables} {imported : Bytes}
    (follows : Follows env source tables imported) {file : Option Bytes}
    (grown : Grown imported file) : ReadsOn env source file tables imported := by
  obtain ⟨more, plain, same⟩ := grown
  cases file with
  | none =>
    have empty : imported = [] := (List.append_eq_nil_iff.mp same.symm).1
    show (stream env source).get tables = some []
    cases offset : storedOffset tables source with
    | none => exact follows.fresh offset
    | some watermark =>
      refine (follows.mirrors watermark offset).2 [] ?_
      rw [empty, load_rows_empty]
  | some bytes =>
    have parts : bytes = imported ++ more := same
    intro offset found _
    rw [(follows.mirrors offset found).1, parts, List.take_left, List.drop_left]
    exact ⟨rfl, clean_cut_lines follows.whole plain⟩

end Growth

namespace Session

variable (env : ImportEnv)

def BetweenLooks (session : Session) (source : Source) : Prop :=
  ¬(.read source ∈ session.pending ↔ .takeSize source ∈ session.pending)

/-- A sync that has seen a log missing or no longer than its watermark reads
nothing of it. -/
def Skips (session : Session) (source : Source) : Prop :=
  .importBatches ∈ session.pending ∧ (session.sizes source = none ∨
      session.sizes source = storedOffset session.database.tables source)

/-- Appends are whole lines that can be imported, and none falls between the
two looks at its log, unless nothing will be read. -/
def Undisturbed (session : Session) : Action → Prop
  | .work => True
  | .append source bytes =>
    Appendable env source bytes ∧ (session.BetweenLooks source → session.Skips source)

/-- What a rebuild knows of one log. -/
def RebuildLook (session : Session) (source : Source) : Prop :=
  .read source ∉ session.pending → Sound env source (session.seen source) ∧
      Grown ((session.seen source).getD []) (session.files source) ∧
      (.takeSize source ∈ session.pending → session.seen source = session.files source) ∧
      (.takeSize source ∉ session.pending →
        session.sizes source = (session.seen source).map List.length)

/-- What a sync knows of one log: its batch will be that of some moment since
the sync began. -/
def SyncLook (session : Session) (source : Source) (imported : Bytes) : Prop :=
  .takeSize source ∉ session.pending →
    ∃ snapshot, Sound env source snapshot ∧ Grown imported snapshot ∧
      Grown (snapshot.getD []) (session.files source) ∧
      session.sizes source = snapshot.map List.length ∧
      (.read source ∈ session.pending →
        snapshot = session.files source ∨ session.sizes source = none ∨
          session.sizes source = storedOffset session.database.tables source) ∧
      (.read source ∉ session.pending → syncBatchAt env (session.sizes source) (session.seen source)
            (storedOffset session.database.tables source) =
          syncBatch env snapshot (storedOffset session.database.tables source))

inductive Phase (session : Session) : Prop where
  | rebuilding (order : LookOrder .read .takeSize .replaceTables session.pending)
      (looks : ∀ source, RebuildLook env session source)
  | syncing (order : LookOrder .takeSize .read .importBatches session.pending)
      (looks : ∀ source, ∃ imported, Follows env source session.database.tables imported ∧
          Grown imported (session.files source) ∧
          SyncLook env session source imported)
  | idle (rest : session.pending = []) (follows : ∀ source, ∃ imported,
        Follows env source session.database.tables imported ∧ Grown imported (session.files source))

structure Tracked (session : Session) : Prop where
  noTransaction : session.database.begun = none
  faultless : session.database.fault = none
  schema : session.database.tables.hasSchema = true
  sound : ∀ source, Sound env source (session.files source)
  phase : Phase env session

section Append

variable {env : ImportEnv}

theorem RebuildLook.append {session : Session} {source other : Source} {bytes : Bytes}
    (look : RebuildLook env session other) (appendable : Appendable env source bytes)
    (undisturbed : other = source →
      (.read other ∈ session.pending ↔ .takeSize other ∈ session.pending)) :
    RebuildLook env (session.step env (.append source bytes)) other := by
  intro beenRead
  obtain ⟨sound, grown, gap, settled⟩ := look beenRead
  by_cases same : other = source
  · refine ⟨sound, ?_, ?_, settled⟩
    · simp only [step, if_pos same]
      rw [← same]
      exact grown.append appendable.1
    · intro between
      exact absurd ((undisturbed same).mpr between) beenRead
  · refine ⟨sound, ?_, ?_, settled⟩
    · simp only [step, if_neg same]
      exact grown
    · simp only [step, if_neg same]
      exact gap

theorem SyncLook.append {session : Session} {source other : Source} {bytes imported : Bytes}
    (look : SyncLook env session other imported) (appendable : Appendable env source bytes)
    (undisturbed : other = source → session.BetweenLooks other → session.Skips other) :
    SyncLook env (session.step env (.append source bytes)) other imported := by
  intro sized
  obtain ⟨snapshot, sound, since, grown, size, gap, settled⟩ := look sized
  by_cases same : other = source
  · refine ⟨snapshot, sound, since, ?_, size, ?_, settled⟩
    · simp only [step, if_pos same]
      rw [← same]
      exact grown.append appendable.1
    · intro reading
      have between : session.BetweenLooks other := fun both => sized (both.mp reading)
      exact .inr (undisturbed same between).2
  · refine ⟨snapshot, sound, since, ?_, size, ?_, settled⟩
    · simp only [step, if_neg same]
      exact grown
    · simp only [step, if_neg same]
      exact gap

theorem grown_append {session : Session} {source other : Source} {bytes earlier : Bytes}
    (grown : Grown earlier (session.files other)) (plain : PlainLines bytes) :
    Grown earlier ((session.step env (.append source bytes)).files other) := by
  by_cases same : other = source
  · simp only [step, if_pos same]
    rw [← same]
    exact grown.append plain
  · simp only [step, if_neg same]
    exact grown

theorem tracked_append {session : Session} (tracked : Tracked env session)
    {source : Source} {bytes : Bytes}
    (undisturbed : session.Undisturbed env (.append source bytes)) :
    Tracked env (session.step env (.append source bytes)) := by
  obtain ⟨appendable, quiet⟩ := undisturbed
  refine
    { noTransaction := tracked.noTransaction
      faultless := tracked.faultless
      schema := tracked.schema
      sound := fun other => ?_
      phase := ?_ }
  · by_cases same : other = source
    · simp only [step, if_pos same]
      rw [← same] at appendable ⊢
      exact (tracked.sound other).append env appendable
    · simp only [step, if_neg same]
      exact tracked.sound other
  · cases tracked.phase with
    | rebuilding order looks =>
      refine .rebuilding order fun other => (looks other).append appendable ?_
      intro same
      by_contra between
      have skips := quiet (same ▸ between)
      obtain unlike | ⟨_, unlike | unlike⟩ := order.only _ skips.1 <;> cases unlike
    | syncing order looks =>
      refine .syncing order fun other => ?_
      obtain ⟨imported, follows, grown, look⟩ := looks other
      exact ⟨imported, follows, grown_append grown appendable.1,
        look.append appendable fun same between => same ▸ quiet (same ▸ between)⟩
    | idle rest follows =>
      refine .idle rest fun other => ?_
      obtain ⟨imported, level, grown⟩ := follows other
      exact ⟨imported, level, grown_append grown appendable.1⟩

end Append

section Work

variable {env : ImportEnv} {session : Session} {rest : List Task} {source other : Source}

/-- The session after its next task. -/
def worked (env : ImportEnv) (session : Session) (task : Task) (rest : List Task) : Session :=
  { session.runTask env task with pending := rest }

theorem step_work {task : Task} (next : session.pending = task :: rest) :
    session.step env .work = session.worked env task rest := by
  simp only [step, next, worked]

theorem still_pending {task head : Task} (next : session.pending = head :: rest)
    (member : task ∈ rest) : task ∈ session.pending := by
  rw [next]
  exact List.mem_cons_of_mem head member

theorem not_pending {task head : Task} (next : session.pending = head :: rest)
    (different : task ≠ head) (gone : task ∉ rest) : task ∉ session.pending := by
  rw [next]
  exact List.not_mem_cons_of_ne_of_not_mem different gone

theorem RebuildLook.read (look : RebuildLook env session other)
    (next : session.pending = .read source :: rest)
    (order : LookOrder .read .takeSize .replaceTables session.pending)
    (sound : Sound env other (session.files other)) :
    RebuildLook env (session.worked env (.read source) rest) other := by
  intro beenRead
  by_cases same : other = source
  · subst same
    simp only [worked, runTask, ↓reduceIte]
    refine ⟨sound, grown_refl _, fun _ => trivial, fun taken => ?_⟩
    have later := order.stays other (by rw [next]; exact List.mem_cons_self)
    rw [next] at later
    exact absurd ((List.mem_cons.mp later).resolve_left nofun) taken
  · have earlier : .read other ∉ session.pending :=
      not_pending next (fun isHead => same (Task.read.inj isHead)) beenRead
    obtain ⟨soundSeen, grown, gap, settled⟩ := look earlier
    simp only [worked, runTask, if_neg same]
    refine ⟨soundSeen, grown, ?_, ?_⟩
    · intro member
      exact gap (still_pending next member)
    · intro taken
      exact settled (not_pending next nofun taken)

theorem RebuildLook.takeSize (look : RebuildLook env session other)
    (next : session.pending = .takeSize source :: rest) :
    RebuildLook env (session.worked env (.takeSize source) rest) other := by
  intro beenRead
  have earlier : .read other ∉ session.pending := not_pending next nofun beenRead
  obtain ⟨soundSeen, grown, gap, settled⟩ := look earlier
  by_cases same : other = source
  · subst same
    simp only [worked, runTask, ↓reduceIte]
    have seenNow := gap (by rw [next]; exact List.mem_cons_self)
    refine ⟨soundSeen, grown, fun _ => seenNow, fun _ => by rw [seenNow]⟩
  · simp only [worked, runTask, if_neg same]
    refine ⟨soundSeen, grown, ?_, ?_⟩
    · intro member
      exact gap (still_pending next member)
    · intro taken
      exact settled (not_pending next (fun isHead => same (Task.takeSize.inj isHead)) taken)

theorem SyncLook.takeSize {imported : Bytes} (look : SyncLook env session other imported)
    (next : session.pending = .takeSize source :: rest)
    (order : LookOrder .takeSize .read .importBatches session.pending)
    (sound : Sound env other (session.files other))
    (grown : Grown imported (session.files other)) :
    SyncLook env (session.worked env (.takeSize source) rest) other imported := by
  intro taken
  by_cases same : other = source
  · subst same
    simp only [worked, runTask, ↓reduceIte]
    refine ⟨session.files other, sound, grown, grown_refl _, rfl, fun _ => .inl rfl,
      fun beenRead => ?_⟩
    have later := order.stays other (by rw [next]; exact List.mem_cons_self)
    rw [next] at later
    exact absurd ((List.mem_cons.mp later).resolve_left nofun) beenRead
  · have earlier : .takeSize other ∉ session.pending :=
      not_pending next (fun isHead => same (Task.takeSize.inj isHead)) taken
    obtain ⟨snapshot, soundThen, since, grownSince, size, gap, settled⟩ := look earlier
    simp only [worked, runTask, if_neg same]
    refine ⟨snapshot, soundThen, since, grownSince, size, ?_, ?_⟩
    · intro member
      exact gap (still_pending next member)
    · intro beenRead
      exact settled (not_pending next nofun beenRead)

theorem sync_batch_skips {size offset : Option Nat} {snapshot content : Option Bytes}
    (sizeThen : size = snapshot.map List.length) (skips : size = none ∨ size = offset) :
    syncBatchAt env size content offset = syncBatch env snapshot offset := by
  cases snapshot with
  | none =>
    rw [Option.map_none] at sizeThen
    rw [sizeThen]
    rfl
  | some bytes =>
    rw [Option.map_some] at sizeThen
    have same : some bytes.length = offset := by
      rw [← sizeThen]
      refine skips.resolve_left fun missing => ?_
      rw [missing] at sizeThen
      cases sizeThen
    rw [sizeThen, ← same]
    simp only [syncBatchAt, syncBatch, lt_self_iff_false, if_false, if_true]

theorem SyncLook.read {imported : Bytes} (look : SyncLook env session other imported)
    (next : session.pending = .read source :: rest)
    (order : LookOrder .takeSize .read .importBatches session.pending) :
    SyncLook env (session.worked env (.read source) rest) other imported := by
  intro taken
  have earlier : .takeSize other ∉ session.pending := not_pending next nofun taken
  obtain ⟨snapshot, soundThen, since, grownSince, size, gap, settled⟩ := look earlier
  by_cases same : other = source
  · subst same
    simp only [worked, runTask, ↓reduceIte]
    have gone : .read other ∉ rest := by
      have distinct := order.distinct
      rw [next] at distinct
      exact (List.nodup_cons.mp distinct).1
    refine ⟨snapshot, soundThen, since, grownSince, size, fun member => absurd member gone,
      fun _ => ?_⟩
    rcases gap (by rw [next]; exact List.mem_cons_self) with now | skips
    · rw [size, now, sync_batch_at_once]
    · exact sync_batch_skips size skips
  · simp only [worked, runTask, if_neg same]
    refine ⟨snapshot, soundThen, since, grownSince, size, ?_, ?_⟩
    · intro member
      exact gap (still_pending next member)
    · intro beenRead
      exact settled (not_pending next (fun isHead => same (Task.read.inj isHead)) beenRead)

end Work

section Transactions

variable {env : ImportEnv} {session : Session}

theorem run_replace (sized : ∀ source,
    session.sizes source = (session.seen source).map List.length) :
    session.runTask env .replaceTables =
      { session with database := (rebuild env session.seen session.database).state } := by
  have sameSizes : (fun source => (session.sizes source).getD 0) =
      fun source => fileSize (session.seen source) := by
    funext source
    rw [sized source, fileSize]
  rw [runTask, rebuild, sameSizes]
  cases parseSources env session.seen <;> rfl

theorem run_import (schema : session.database.tables.hasSchema = true) (snapshots : Files)
    (settled : ∀ source, syncBatchAt env (session.sizes source) (session.seen source)
          (storedOffset session.database.tables source) =
        syncBatch env (snapshots source) (storedOffset session.database.tables source)) :
    session.runTask env .importBatches =
      { session with
        database := (syncFromJsonl env snapshots session.database).state } := by
  have sameBatches : session.readBatchesAt env =
      readBatches env snapshots session.database.tables := by
    rw [read_batches_schema env snapshots schema, readBatchesAt]
    simp only [settled]
    rfl
  rw [runTask, sameBatches, syncFromJsonl]
  cases readBatches env snapshots session.database.tables <;> rfl

theorem sound_parses {files : Files} (sound : ∀ source, Sound env source (files source)) :
    parseSources env files ≠ none := by
  obtain ⟨events, eventsParsed⟩ := (sound .events).parses
  obtain ⟨metrics, metricsParsed⟩ := (sound .metrics).parses
  obtain ⟨usage, usageParsed⟩ := (sound .providerUsage).parses
  rw [parseSources, eventsParsed, metricsParsed, usageParsed]
  exact Option.some_ne_none _

/-- What a rebuild or sync leaves behind: an idle store level with what was
read. -/
structure Settled (env : ImportEnv) (files : Files) (database : Database) : Prop where
  noTransaction : database.begun = none
  faultless : database.fault = none
  schema : database.tables.hasSchema = true
  follows : ∀ source, Follows env source database.tables ((files source).getD [])

theorem rebuild_settles {files : Files} {database : Database}
    (noTransaction : database.begun = none) (faultless : database.fault = none)
    (sound : ∀ source, Sound env source (files source)) :
    Settled env files (rebuild env files database).state := by
  have came := rebuilt env files noTransaction faultless
  generalize rebuild env files database = outcome at came ⊢
  cases came with
  | unread unparsed => exact absurd unparsed (sound_parses sound)
  | emptied =>
    refine
      { noTransaction := rfl
        faultless := rfl
        schema := rfl
        follows := fun source =>
          { mirrors := fun offset found => ?_
            fresh := fun _ => by cases source <;> rfl
            whole := (sound source).1 } }
    exact absurd found Replica.no_offsets_empty
  | done tables schema each =>
    refine
      { noTransaction := rfl
        faultless := rfl
        schema := schema
        follows := fun source => ?_ }
    obtain ⟨rows, loaded, table, watermark⟩ := each source
    refine
      { mirrors := rebuilt_mirrors env source loaded table watermark
        fresh := fun missing => ?_
        whole := (sound source).1 }
    have noOffset : storedOffset tables source = none := missing
    rw [watermark] at noOffset
    cases noOffset

theorem sync_settles {files : Files} {database : Database}
    (noTransaction : database.begun = none) (faultless : database.fault = none)
    (schema : database.tables.hasSchema = true)
    (sound : ∀ source, Sound env source (files source))
    (follows : ∀ source, ∃ imported, Follows env source database.tables imported ∧
      Grown imported (files source)) :
    Settled env files (syncFromJsonl env files database).state ∧
      ∀ source, (stream env source).get (syncFromJsonl env files database).state.tables =
        loadRows env source (files source) := by
  have came := synced env files noTransaction schema faultless
  have catches : ∀ source stored rows, (stream env source).get database.tables = some stored →
      loadRows env source (files source) = some rows →
      ∃ batch, syncBatch env (files source) (storedOffset database.tables source) =
          some batch ∧ batchEffect env source batch stored = some rows := by
    intro source stored rows table loaded
    obtain ⟨imported, level, grown⟩ := follows source
    exact batch_catches_up env source level.mirrors (level.reads_on env grown) table loaded
  generalize syncFromJsonl env files database = outcome at came ⊢
  cases came with
  | undone source failed =>
    obtain ⟨stored, table⟩ := stream_get_schema env source schema
    obtain ⟨rows, loaded⟩ := (sound source).loads
    obtain ⟨batch, read, effect⟩ := catches source stored rows table loaded
    rw [failed batch stored read table] at effect
    cases effect
  | done tables newSchema each =>
    have levels : ∀ source, (stream env source).get tables =
        loadRows env source (files source) := by
      intro source
      obtain ⟨batch, stored, changed, read, table, effect, now, _⟩ := each source
      obtain ⟨rows, loaded⟩ := (sound source).loads
      obtain ⟨other, otherRead, otherEffect⟩ := catches source stored rows table loaded
      rw [read] at otherRead
      rw [← Option.some.inj otherRead, effect] at otherEffect
      rw [now, loaded, otherEffect]
    refine ⟨
      { noTransaction := rfl
        faultless := rfl
        schema := newSchema
        follows := fun source => ?_ }, levels⟩
    obtain ⟨imported, level, grown⟩ := follows source
    obtain ⟨batch, _, _, _, _, _, _, offset⟩ := each source
    refine
      { mirrors := synced_mirrors env source level.mirrors (level.reads_on env grown)
          (each source)
        fresh := fun missing => ?_
        whole := (sound source).1 }
    have noOffset : storedOffset tables source = none := missing
    rw [offset] at noOffset
    cases noOffset

end Transactions

section Run

variable (env : ImportEnv)

theorem tracked_rebuild_task {session : Session} (tracked : Tracked env session)
    {task : Task} {rest : List Task} (next : session.pending = task :: rest)
    (order : LookOrder .read .takeSize .replaceTables session.pending)
    (looks : ∀ source, RebuildLook env session source) :
    Tracked env (session.worked env task rest) := by
  have member : task ∈ session.pending := by
    rw [next]
    exact List.mem_cons_self
  have tailOrder : task ≠ .replaceTables → LookOrder .read .takeSize .replaceTables rest := by
    intro inner
    rw [next] at order
    exact order.tail inner
  rcases order.only task member with rfl | ⟨source, rfl | rfl⟩
  · have done_ : rest = [] := by
      rw [next] at order
      exact order.head_last
    have known : ∀ source, Sound env source (session.seen source) ∧
        Grown ((session.seen source).getD []) (session.files source) ∧
        session.sizes source = (session.seen source).map List.length := by
      intro source
      obtain ⟨sound, grown, _, settled⟩ := looks source (by rw [next, done_]; simp)
      exact ⟨sound, grown, settled (by rw [next, done_]; simp)⟩
    have settles := @rebuild_settles env _ _ tracked.noTransaction tracked.faultless
      fun source => (known source).1
    rw [worked, run_replace fun source => (known source).2.2]
    exact
      { noTransaction := settles.noTransaction
        faultless := settles.faultless
        schema := settles.schema
        sound := tracked.sound
        phase := .idle done_ fun source =>
          ⟨_, settles.follows source, (known source).2.1⟩ }
  · exact
      { tracked with
        phase := .rebuilding (tailOrder nofun) fun other =>
          (looks other).read next order (tracked.sound other) }
  · exact
      { tracked with
        phase := .rebuilding (tailOrder nofun) fun other => (looks other).takeSize next }

theorem tracked_sync_task {session : Session} (tracked : Tracked env session)
    {task : Task} {rest : List Task} (next : session.pending = task :: rest)
    (order : LookOrder .takeSize .read .importBatches session.pending)
    (looks : ∀ source, ∃ imported, Follows env source session.database.tables imported ∧
      Grown imported (session.files source) ∧ SyncLook env session source imported) :
    Tracked env (session.worked env task rest) := by
  have member : task ∈ session.pending := by
    rw [next]
    exact List.mem_cons_self
  have tailOrder : task ≠ .importBatches → LookOrder .takeSize .read .importBatches rest := by
    intro inner
    rw [next] at order
    exact order.tail inner
  rcases order.only task member with rfl | ⟨source, rfl | rfl⟩
  · have done_ : rest = [] := by
      rw [next] at order
      exact order.head_last
    have known : ∀ source, ∃ snapshot imported, Sound env source snapshot ∧
        Follows env source session.database.tables imported ∧ Grown imported snapshot ∧
        Grown (snapshot.getD []) (session.files source) ∧
        syncBatchAt env (session.sizes source) (session.seen source)
            (storedOffset session.database.tables source) =
          syncBatch env snapshot (storedOffset session.database.tables source) := by
      intro source
      obtain ⟨imported, follows, _, look⟩ := looks source
      obtain ⟨snapshot, sound, since, grown, _, _, settled⟩ :=
        look (by rw [next, done_]; simp)
      exact ⟨snapshot, imported, sound, follows, since, grown, settled (by rw [next, done_]; simp)⟩
    choose snapshots imported sound follows since grown settled using known
    have settles := (sync_settles tracked.noTransaction tracked.faultless tracked.schema
      sound fun source => ⟨imported source, follows source, since source⟩).1
    rw [worked, run_import tracked.schema snapshots settled]
    exact
      { noTransaction := settles.noTransaction
        faultless := settles.faultless
        schema := settles.schema
        sound := tracked.sound
        phase := .idle done_ fun source => ⟨_, settles.follows source, grown source⟩ }
  · refine
      { tracked with
        phase := .syncing (tailOrder nofun) fun other => ?_ }
    obtain ⟨imported, follows, grown, look⟩ := looks other
    exact ⟨imported, follows, grown, look.takeSize next order (tracked.sound other) grown⟩
  · refine
      { tracked with
        phase := .syncing (tailOrder nofun) fun other => ?_ }
    obtain ⟨imported, follows, grown, look⟩ := looks other
    exact ⟨imported, follows, grown, look.read next order⟩

theorem tracked_work {session : Session} (tracked : Tracked env session) :
    Tracked env (session.step env .work) := by
  cases next : session.pending with
  | nil =>
    have begins : session.step env .work = { session with pending := syncTasks } := by
      simp only [step, next]
    rw [begins]
    refine
      { tracked with
        phase := .syncing sync_tasks_order fun source => ?_ }
    cases tracked.phase with
    | rebuilding order looks => exact absurd next order.nonempty
    | syncing order looks => exact absurd next order.nonempty
    | idle rest follows =>
      obtain ⟨imported, level, grown⟩ := follows source
      exact ⟨imported, level, grown, fun taken => absurd (size_to_take source) taken⟩
  | cons task rest =>
    rw [step_work next]
    cases tracked.phase with
    | rebuilding order looks => exact tracked_rebuild_task env tracked next order looks
    | syncing order looks => exact tracked_sync_task env tracked next order looks
    | idle finished follows =>
      rw [next] at finished
      cases finished

theorem tracked_step (session : Session) (action : Action) (tracked : Tracked env session)
    (undisturbed : session.Undisturbed env action) :
    Tracked env (session.step env action) := by
  cases action with
  | append source bytes => exact tracked_append tracked undisturbed
  | work => exact tracked_work env tracked

theorem open_store_ready (tables : Tables) :
    (openStore tables).state.begun = none ∧ (openStore tables).state.fault = none ∧
      (openStore tables).state.tables.hasSchema = true := by
  exact ⟨rfl, rfl, rfl⟩

theorem tracked_start {files : Files} (tables : Tables)
    (sound : ∀ source, Sound env source (files source)) :
    Tracked env (start files tables) := by
  obtain ⟨noTransaction, faultless, schema⟩ := open_store_ready tables
  refine
    { noTransaction := noTransaction
      faultless := faultless
      schema := schema
      sound := sound
      phase := .rebuilding rebuild_tasks_order fun source unread =>
        absurd (content_to_read source) unread }

theorem quiet_sync {session : Session} (idle : session.pending = [])
    (schema : session.database.tables.hasSchema = true) :
    runInputs (step env) session (List.replicate 8 .work) =
      { files := session.files
        database := (syncFromJsonl env session.files session.database).state
        pending := []
        seen := session.files
        sizes := fun source => (session.files source).map List.length } := by
  have looked : runInputs (step env) session (List.replicate 7 .work) =
      { files := session.files
        database := session.database
        pending := [.importBatches]
        seen := session.files
        sizes := fun source => (session.files source).map List.length } := by
    simp only [List.replicate, run_inputs_cons, run_inputs_nil, step, idle, syncTasks, runTask]
    congr 1 <;> (funext source; cases source <;> rfl)
  have imports := @run_import env
    { files := session.files
      database := session.database
      pending := [.importBatches]
      seen := session.files
      sizes := fun source => (session.files source).map List.length }
    schema session.files fun source => sync_batch_at_once env _ _
  rw [show List.replicate 8 Action.work = List.replicate 7 .work ++ [.work] from rfl,
    run_inputs_append, looked, run_inputs_cons, run_inputs_nil, step_work rfl, worked, imports]

end Run

section ExactlyOnce

variable (env : ImportEnv)

/-- All that is appended to one log. -/
def appended (source : Source) : List Action → Bytes
  | [] => []
  | .append other bytes :: rest =>
    if source = other then bytes ++ appended source rest else appended source rest
  | .work :: rest => appended source rest

theorem work_keeps_files (session : Session) : (session.step env .work).files = session.files := by
  simp only [step]
  cases session.pending with
  | nil => rfl
  | cons task rest =>
    cases task with
    | read source => rfl
    | takeSize source => rfl
    | replaceTables =>
      simp only [runTask]
      cases parseSources env session.seen <;> rfl
    | importBatches =>
      simp only [runTask]
      cases session.readBatchesAt env <;> rfl

theorem run_files (session : Session) (actions : List Action) (source : Source) :
    ((runInputs (step env) session actions).files source).getD [] =
      (session.files source).getD [] ++ appended source actions := by
  induction actions generalizing session with
  | nil => rw [run_inputs_nil, appended, List.append_nil]
  | cons action rest ih =>
    rw [run_inputs_cons, ih]
    cases action with
    | append other bytes =>
      by_cases same : source = other
      · subst same
        simp only [step, appended, if_true, Option.getD_some, List.append_assoc]
      · simp only [step, appended, if_neg same]
    | work => rw [work_keeps_files, appended]

/-- When no append comes between the two looks at its log, a last sync leaves
one row for each record of the log, in its order. -/
theorem appended_lines_imported_once (files : Files) (tables : Tables)
    (actions : List Action) (sound : ∀ source, Sound env source (files source))
    (meets : StepsMeet (step env) (fun session => session.Undisturbed env)
      (start files tables) actions)
    (idle : (runInputs (step env) (start files tables) actions).pending = []) :
    let final := runInputs (step env) (start files tables) (actions ++ List.replicate 8 .work)
    ∀ source, source ≠ .events → (final.files source).getD [] =
          (files source).getD [] ++ appended source actions ∧
        ∃ records rows, readJsonl env.loads (final.files source) = some records ∧
          (stream env source).get final.database.tables = some rows ∧
          List.Forall₂ (ImportedAs env source) records rows := by
  intro final source keyless
  have tracked : Tracked env (runInputs (step env) (start files tables) actions) :=
    invariant_of_steps_meet (step env) (tracked_step env) _ actions
      (tracked_start env tables sound) meets
  have grew := run_files env (start files tables) actions source
  have last : final = runInputs (step env) (runInputs (step env) (start files tables) actions)
        (List.replicate 8 .work) :=
    run_inputs_append (step env) (start files tables) actions _
  rw [last]
  generalize runInputs (step env) (start files tables) actions = session
    at tracked idle grew
  rw [quiet_sync env idle tracked.schema]
  refine ⟨grew, ?_⟩
  have follows : ∀ source, ∃ imported, Follows env source session.database.tables imported ∧
        Grown imported (session.files source) := by
    cases tracked.phase with
    | rebuilding order looks => exact absurd idle order.nonempty
    | syncing order looks => exact absurd idle order.nonempty
    | idle rest follows => exact follows
  obtain ⟨settled, levels⟩ := sync_settles tracked.noTransaction tracked.faultless
    tracked.schema tracked.sound follows
  obtain ⟨rows, loaded⟩ := (tracked.sound source).loads
  obtain ⟨records, read, effect⟩ := Option.bind_eq_some_iff.mp loaded
  obtain ⟨new, same, each⟩ := one_row_each env keyless effect
  rw [List.nil_append] at same
  exact ⟨records, rows, read, (levels source).trans loaded, same ▸ each⟩

theorem appendable_empty_object : Appendable emptyObjectEnv .metrics emptyObjectLine := by
  refine ⟨⟨['\x7b', '\x7d', '\n'], by decide +kernel, .inr ⟨['\x7b', '\x7d'], rfl⟩, ?_⟩,
    by decide +kernel⟩
  show fields _ _ = fields _ _
  decide +kernel

theorem sound_missing_log (source : Source) : Sound emptyObjectEnv source none := by
  refine ⟨⟨[], rfl, .inl rfl⟩, ?_⟩
  rw [Option.getD_none, load_rows_empty]
  rfl

theorem appends_beside_rebuild_imported :
    let actions := [.work, .append .metrics emptyObjectLine, .work, .work, .work, .work, .work,
      .append .metrics emptyObjectLine, .work]
    let final := runInputs (step emptyObjectEnv) (start (fun _ => none) .empty)
      (actions ++ List.replicate 8 .work)
    ∃ records rows, readJsonl emptyObjectEnv.loads (final.files .metrics) = some records ∧
      (stream emptyObjectEnv .metrics).get final.database.tables = some rows ∧
      List.Forall₂ (ImportedAs emptyObjectEnv .metrics) records rows := by
  intro actions final
  refine (appended_lines_imported_once emptyObjectEnv (fun _ => none) .empty actions
    sound_missing_log ?_ (by decide +kernel) .metrics nofun).2
  refine ⟨trivial, ⟨appendable_empty_object, fun between => absurd ?_ between⟩, trivial,
    trivial, trivial, trivial, trivial,
    ⟨appendable_empty_object, fun between => absurd ?_ between⟩, trivial, trivial⟩ <;>
  decide +kernel

/-- A line appended after a rebuild has read its log and before it takes the
log's size is never imported; one between the looks of a sync is imported
twice. -/
theorem appends_between_looks :
    let lost := [.work, .work, .work, .append .metrics emptyObjectLine, .work, .work, .work, .work]
    let doubled := List.replicate 7 .work ++ [.append .metrics emptyObjectLine] ++
      List.replicate 4 .work ++ [.append .metrics emptyObjectLine] ++ List.replicate 4 .work
    let counts := fun actions =>
      let final := runInputs (step emptyObjectEnv)
        (start (fun _ => some emptyObjectLine) .empty) (actions ++ List.replicate 8 .work)
      ((readJsonl emptyObjectEnv.loads (final.files .metrics)).map List.length,
        final.database.tables.metricsHistory.map List.length)
    counts lost = (some 2, some 1) ∧ counts doubled = (some 3, some 4) := by
  decide +kernel

end ExactlyOnce

end Session

end AiEnterpriseOs.ReadModel
