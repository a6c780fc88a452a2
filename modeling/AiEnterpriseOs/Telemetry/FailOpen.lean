import AiEnterpriseOs.Library.NewestPerKey
import AiEnterpriseOs.Library.OptionFold
import AiEnterpriseOs.Telemetry.Readers
import Mathlib.Data.String.Basic

/-!
# Which logs the telemetry readers survive

A summary is fail-open on its logs if it does not raise and says what it says
without the lines that are no JSON objects.
-/

namespace AiEnterpriseOs.Telemetry

open Library

/-! ## Lines and records -/

/-- The line is a JSON object. -/
def isRecord : LogLine → Bool
  | .record (.dict _) => true
  | _ => false

def isObject : PyValue → Bool
  | .dict _ => true
  | _ => false

/-- Reading the line raises more than a `JSONDecodeError`. -/
def LogLine.fails : LogLine → Bool
  | .failing _ => true
  | _ => false

/-- The bytes decode, and every line is JSON or raises `JSONDecodeError`. -/
def Readable (lines : List LogLine) : Prop :=
  ∀ line ∈ lines, line.fails = false

/-- The JSON values of the lines. -/
def values (lines : List LogLine) : List PyValue :=
  lines.filterMap fun line =>
    match line with
    | .record value => some value
    | _ => none

theorem read_readable {lines : List LogLine} (readable : Readable lines) :
    readJsonl lines = some (values lines) := by
  induction lines with
  | nil => rfl
  | cons line rest ih =>
    have others : Readable rest := fun other member =>
      readable other (List.mem_cons_of_mem _ member)
    cases line with
    | record value =>
      rw [readJsonl, ih others]
      rfl
    | corrupt text => exact ih others
    | failing text => cases readable _ List.mem_cons_self

theorem read_is_some_iff (lines : List LogLine) :
    (readJsonl lines).isSome = true ↔ Readable lines := by
  induction lines with
  | nil => exact iff_of_true rfl (List.forall_mem_nil _)
  | cons line rest ih =>
    rw [Readable, List.forall_mem_cons, ← Readable, ← ih]
    cases line with
    | record value => simp [readJsonl, LogLine.fails]
    | corrupt text => simp [readJsonl, LogLine.fails]
    | failing text => simp [readJsonl, LogLine.fails]

theorem records_readable (lines : List LogLine) : Readable (lines.filter isRecord) := by
  intro line member
  obtain ⟨_, record⟩ := List.mem_filter.mp member
  cases line with
  | failing text => cases record
  | _ => rfl

theorem values_records (lines : List LogLine) :
    values (lines.filter isRecord) = (values lines).filter isObject := by
  induction lines with
  | nil => rfl
  | cons line rest ih =>
    cases line with
    | record value =>
      cases value with
      | dict items => exact congrArg (PyValue.dict items :: ·) ih
      | _ => exact ih
    | _ => exact ih

theorem last_records_filter {limit : Nat} {records : List PyValue}
    (objects : ∀ record ∈ lastRecords limit records, isObject record = true) :
    lastRecords limit (records.filter isObject) = lastRecords limit records := by
  unfold lastRecords at objects ⊢
  split at objects
  next unlimited =>
    rw [if_pos unlimited, if_pos unlimited]
    exact List.filter_eq_self.mpr objects
  next limited =>
    rw [if_neg limited, if_neg limited]
    have kept := List.filter_eq_self.mpr objects
    have split := congrArg (List.filter isObject)
      (List.take_append_drop (records.length - limit) records).symm
    rw [List.filter_append, kept] at split
    rw [split]
    by_cases short : records.length ≤ limit
    · have cut : records.length - limit = 0 := by omega
      simp [cut]
    · have length : (records.drop (records.length - limit)).length = limit := by
        rw [List.length_drop]
        omega
      rw [List.length_append, length, Nat.add_sub_cancel, List.drop_left]

section Reading

variable {Summary : Type}

/-- The summary does not raise, and lines that are no records add nothing. -/
def FailOpen (summary : List LogLine → Option Summary) (lines : List LogLine) : Prop :=
  ∃ result, summary lines = some result ∧ summary (lines.filter isRecord) = some result

theorem read_last_readable {limit : Nat} {lines : List LogLine} (readable : Readable lines) :
    readLast limit lines = some (lastRecords limit (values lines)) := by
  rw [readLast, read_readable readable, Option.map_some]

theorem read_last_is_some_iff (limit : Nat) (lines : List LogLine) :
    (readLast limit lines).isSome = true ↔ Readable lines := by
  rw [readLast, Option.isSome_map, read_is_some_iff]

theorem fail_open_last_iff {limit : Nat} {summarize : List PyValue → Option Summary}
    {accepted : List PyValue → Prop}
    (defined : ∀ records, (summarize records).isSome = true ↔ accepted records)
    (objects : ∀ records, accepted records → ∀ record ∈ records, isObject record = true)
    (lines : List LogLine) :
    FailOpen (fun lines => (readLast limit lines).bind summarize) lines ↔
      Readable lines ∧ accepted (lastRecords limit (values lines)) := by
  constructor
  · rintro ⟨result, summarized, _⟩
    obtain ⟨records, read, found⟩ := Option.bind_eq_some_iff.mp summarized
    have readable := (read_last_is_some_iff limit lines).mp (by rw [read]; rfl)
    rw [read_last_readable readable] at read
    cases read
    exact ⟨readable, (defined _).mp (by rw [found]; rfl)⟩
  · rintro ⟨readable, fits⟩
    obtain ⟨result, found⟩ := Option.isSome_iff_exists.mp ((defined _).mpr fits)
    refine ⟨result, ?_, ?_⟩
    · dsimp only
      rw [read_last_readable readable, Option.bind_some, found]
    · dsimp only
      rw [read_last_readable (records_readable lines), Option.bind_some, values_records,
        last_records_filter (objects _ fits), found]

end Reading

/-! ## Fields -/

theorem get_object {record : PyValue} (object : isObject record = true) (name : String)
    (fallback : PyValue) : ∃ value, record.get? name fallback = some value := by
  cases record with
  | dict items => exact ⟨_, rfl⟩
  | _ => cases object

theorem object_of_get {record value : PyValue} {name : String} {fallback : PyValue}
    (found : record.get? name fallback = some value) : isObject record = true := by
  cases record with
  | dict items => rfl
  | _ => cases found

theorem get_no_object {record : PyValue} (other : ¬isObject record = true) (name : String)
    (fallback : PyValue) : record.get? name fallback = none := by
  cases record with
  | dict items => exact absurd rfl other
  | _ => rfl

/-! ## Alerts -/

section Alerts

variable (env : ReaderEnv)

def componentOf (record : PyValue) : String :=
  text env.toRetentionEnv (((record.get? "component").getD .none).orElse (.str "(unknown)"))

theorem latest_fails_only_on : FailsOnlyOn (latestByComponent env)
      (fun latest record => latest.set (componentOf env record) record)
      (fun record => isObject record = true)
      (fun latest => ∀ record ∈ latest.values, isObject record = true) where
  accepts latest record _ object := by
    obtain ⟨component, found⟩ := get_object object "component" .none
    rw [latestByComponent, found, componentOf, found]
    rfl
  refuses latest record _ other := by
    rw [latestByComponent, get_no_object other]
    rfl
  keeps latest record sound object := by
    intro kept member
    rcases OrderedDict.mem_values_set member with rfl | before
    · exact object
    · exact sound kept before

theorem open_alert_is_some (component : String) {record : PyValue}
    (object : isObject record = true) : (openAlert component record).isSome = true := by
  obtain ⟨kind, kindFound⟩ := get_object object "kind" .none
  obtain ⟨timestamp, timestampFound⟩ := get_object object "timestamp" .none
  obtain ⟨reason, reasonFound⟩ := get_object object "reason" .none
  obtain ⟨attempts, attemptsFound⟩ := get_object object "attempts" .none
  obtain ⟨source, sourceFound⟩ := get_object object "source" .none
  rw [openAlert, kindFound, timestampFound, reasonFound, attemptsFound, sourceFound]
  simp only [Option.bind_eq_bind, Option.bind_some]
  split <;> rfl

theorem summarize_alerts_iff (records : List PyValue) :
    (summarizeAlerts env records).isSome = true ↔ ∀ record ∈ records, isObject record = true := by
  rw [summarizeAlerts]
  by_cases empty : records.isEmpty = true
  · rw [if_pos empty, List.isEmpty_iff.mp empty]
    exact iff_of_true rfl (List.forall_mem_nil _)
  · rw [if_neg empty]
    have fold := latest_fails_only_on env
    have start : ∀ record ∈ (OrderedDict.empty : OrderedDict String PyValue).values,
        isObject record = true := List.forall_mem_nil _
    by_cases objects : ∀ record ∈ records, isObject record = true
    · have sound := fold.foldl_sound start objects
      rw [fold.eq_foldl start objects]
      apply iff_of_true _ objects
      have alerts := mapM_is_some_iff.mpr fun entry member =>
        open_alert_is_some (Prod.fst entry) (sound (Prod.snd entry) (List.mem_map_of_mem member))
      obtain ⟨found, read⟩ := Option.isSome_iff_exists.mp alerts
      simp only [Option.bind_eq_bind, Option.bind_some, read]
      rfl
    · rw [fold.eq_none start objects]
      exact iff_of_false Bool.false_ne_true objects

theorem alerts_fail_open_iff (limit : Nat) (lines : List LogLine) :
    FailOpen (alertsSummary env limit) lines ↔
      Readable lines ∧ ∀ record ∈ lastRecords limit (values lines), isObject record = true :=
  fail_open_last_iff (summarize_alerts_iff env) (fun _ objects => objects) lines

end Alerts

/-! ## Sessions -/

section Sessions

variable (env : ReaderEnv)

/-- The session of a record, and the text that it is ordered by. -/
def sessionOf (record : PyValue) : HashKey :=
  (sessionKey record).getD .none

def stampOf (record : PyValue) : String :=
  (recordTs record).getD ""

theorem object_of_session {record : PyValue} (keyed : (sessionKey record).isSome = true) :
    isObject record = true := by
  obtain ⟨key, found⟩ := Option.isSome_iff_exists.mp keyed
  obtain ⟨sessionId, read, _⟩ := Option.bind_eq_some_iff.mp found
  exact object_of_get read

theorem record_ts_object {record : PyValue} (object : isObject record = true) :
    recordTs record = some (stampOf record) := by
  obtain ⟨timestamp, found⟩ := get_object object "timestamp" .none
  rw [stampOf, recordTs, found]
  cases timestamp <;> rfl

theorem newest_fails_only_on : FailsOnlyOn newestBySession (keepNewer sessionOf stampOf)
      (fun record => (sessionKey record).isSome = true)
      (fun newest => ∀ record ∈ newest.values, isObject record = true) where
  accepts newest record sound keyed := by
    obtain ⟨key, found⟩ := Option.isSome_iff_exists.mp keyed
    have same : sessionOf record = key := by rw [sessionOf, found, Option.getD_some]
    rw [newestBySession, keepNewer, found, same]
    cases held : newest.get? key with
    | none => simp [held]
    | some current =>
      have currentObject := sound current ((OrderedDict.mem_values_iff _ _).mpr ⟨key, held⟩)
      simp only [Option.bind_eq_bind, Option.bind_some, held,
        record_ts_object currentObject, record_ts_object (object_of_session keyed)]
      split <;> rfl
  refuses newest record _ refused := by
    rw [newestBySession, Option.not_isSome_iff_eq_none.mp refused]
    rfl
  keeps newest record sound keyed := by
    intro kept member
    rcases mem_keep_newer _ _ member with rfl | before
    · exact object_of_session keyed
    · exact sound kept before

/-- The counts of a checkpoint that `int` reads. -/
def countFields : List String :=
  ["messages_user", "messages_assistant", "tool_calls", "commands_run", "tokens_input",
    "tokens_output", "tokens_reasoning"]

/-- What the totals read of a checkpoint: counts that `int` reads, a cost that
`float` reads, an end reason and a model that are hashable. -/
def CheckpointReads (record : PyValue) : Prop :=
  (∀ name ∈ countFields, (intField env record name).isSome = true) ∧
    (costField env record).isSome = true ∧
    (keyedField record "end_reason" "checkpoint").isSome = true ∧
    (keyedField record "model_id" "(unknown)").isSome = true

theorem totals_is_some_iff (totals : SessionTotals) (record : PyValue) :
    (totals.add env record).isSome = true ↔
      (∀ name ∈ countFields, (intField env record name).isSome = true) ∧
        (costField env record).isSome = true := by
  simp only [countFields, List.forall_mem_cons, List.not_mem_nil, false_implies, implies_true,
    and_true, and_assoc]
  exact bind_is_some_iff fun _ _ => bind_is_some_iff fun _ _ => bind_is_some_iff fun _ _ =>
    bind_is_some_iff fun _ _ => bind_is_some_iff fun _ _ => bind_is_some_iff fun _ _ =>
    bind_is_some_iff fun _ _ => bind_some_is_some_iff _ _

theorem row_is_some_iff (row : ModelRow) (record : PyValue) : (row.add env record).isSome = true ↔
      (intField env record "messages_assistant").isSome = true ∧
        (intField env record "tool_calls").isSome = true ∧
        (costField env record).isSome = true :=
  bind_is_some_iff fun _ _ => bind_is_some_iff fun _ _ => bind_some_is_some_iff _ _

theorem tally_is_some_iff (tally : SessionTally) (record : PyValue) :
    (tally.add env record).isSome = true ↔ CheckpointReads env record := by
  have chained : (tally.add env record).isSome = true ↔
      (tally.totals.add env record).isSome = true ∧
        (keyedField record "end_reason" "checkpoint").isSome = true ∧
        (keyedField record "model_id" "(unknown)").isSome = true ∧
        (intField env record "messages_assistant").isSome = true ∧
        (intField env record "tool_calls").isSome = true ∧
        (costField env record).isSome = true := by
    refine bind_is_some_iff fun totals _ => bind_is_some_iff fun reason _ =>
      bind_is_some_iff fun model _ => ?_
    rw [← row_is_some_iff env (tally.byModel.getD model.2 { modelId := model.1 }) record]
    exact bind_some_is_some_iff _ _
  rw [chained, totals_is_some_iff, CheckpointReads]
  constructor
  · rintro ⟨⟨counts, cost⟩, reason, model, _⟩
    exact ⟨counts, cost, reason, model⟩
  · rintro ⟨counts, cost, reason, model⟩
    refine ⟨⟨counts, cost⟩, reason, model, ?_, ?_, cost⟩
    · exact counts _ (by simp [countFields])
    · exact counts _ (by simp [countFields])

/-- The checkpoints of which the totals are made. -/
def NewestCheckpoint (records : List PyValue) (record : PyValue) : Prop :=
  NewestOf sessionOf stampOf records record

theorem summarize_sessions_iff (records : List PyValue) :
    (summarizeSessions env records).isSome = true ↔
      (∀ record ∈ records, (sessionKey record).isSome = true) ∧
        ∀ record, NewestCheckpoint records record → CheckpointReads env record := by
  rw [summarizeSessions]
  by_cases empty : records.isEmpty = true
  · rw [if_pos empty, List.isEmpty_iff.mp empty]
    refine iff_of_true rfl ⟨List.forall_mem_nil _, ?_⟩
    intro record newest
    cases newest_of_mem _ _ newest
  · rw [if_neg empty]
    have fold := newest_fails_only_on
    have start : ∀ record ∈ (OrderedDict.empty : OrderedDict HashKey PyValue).values,
        isObject record = true := List.forall_mem_nil _
    by_cases keyed : ∀ record ∈ records, (sessionKey record).isSome = true
    · have kept : records.foldl (keepNewer sessionOf stampOf) .empty =
          newestPerKey sessionOf stampOf records := rfl
      have tally := FailsOnlyOn.of_is_some (tally_is_some_iff env)
      have recent : ((newestPerKey sessionOf stampOf records).values.insertionSort
          comesNewer).Perm (newestPerKey sessionOf stampOf records).values :=
        List.perm_insertionSort _ _
      have newest : (∀ record ∈ (newestPerKey sessionOf stampOf records).values.insertionSort
            comesNewer, CheckpointReads env record) ↔
          ∀ record, NewestCheckpoint records record → CheckpointReads env record := by
        simp only [recent.mem_iff, mem_newest_iff]
        rfl
      have tallied : (((newestPerKey sessionOf stampOf records).values.insertionSort
          comesNewer).foldlM (SessionTally.add env) {}).isSome = true ↔ _ :=
        tally.is_some_iff trivial
      rw [fold.eq_foldl start keyed, kept, ← newest, and_iff_right keyed, ← tallied]
      exact bind_some_is_some_iff _ _
    · rw [fold.eq_none start keyed]
      exact iff_of_false Bool.false_ne_true fun both => keyed both.1

/-- Every one of the last checkpoints is an object with a hashable session id,
and the newest of each session can be counted. -/
def CheckpointsRead (limit : Nat) (lines : List LogLine) : Prop :=
  let records := lastRecords limit (values lines)
  Readable lines ∧ (∀ record ∈ records, (sessionKey record).isSome = true) ∧
    ∀ record, NewestCheckpoint records record → CheckpointReads env record

theorem sessions_fail_open_iff (limit : Nat) (lines : List LogLine) :
    FailOpen (sessionTelemetrySummary env limit) lines ↔ CheckpointsRead env limit lines :=
  fail_open_last_iff (summarize_sessions_iff env)
    (fun _ accepted record member => object_of_session (accepted.1 record member)) lines

end Sessions

/-! ## Operator actions -/

section Actions

variable (env : ReaderEnv) (since : Instant)

theorem object_of_time {record : PyValue} {parsed : Option Instant}
    (found : parseTs env.toRetentionEnv record = some parsed) : isObject record = true := by
  obtain ⟨raw, read, _⟩ := Option.bind_eq_some_iff.mp found
  exact object_of_get read

/-- The record has a timestamp within the window. -/
def withinWindow (record : PyValue) : Bool :=
  match parseTs env.toRetentionEnv record with
  | some (some ts) => !decide (ts < since)
  | _ => false

/-- The time of the record is read, and within the window its count is. -/
def CountReads (record : PyValue) : Prop :=
  (parseTs env.toRetentionEnv record).isSome = true ∧
    (withinWindow env since record = true → (recordCount env record).isSome = true)

/-- The count of a record within the window. -/
def countIn (record : PyValue) : Int :=
  if withinWindow env since record then (recordCount env record).getD 0 else 0

theorem window_cases (record : PyValue) : parseTs env.toRetentionEnv record = none ∨
      (withinWindow env since record = false ∧ (parseTs env.toRetentionEnv record = some none ∨
          ∃ ts, parseTs env.toRetentionEnv record = some (some ts) ∧ ts < since)) ∨
        withinWindow env since record = true ∧
          ∃ ts, parseTs env.toRetentionEnv record = some (some ts) ∧ ¬ts < since := by
  unfold withinWindow
  cases parseTs env.toRetentionEnv record with
  | none => exact Or.inl rfl
  | some parsed =>
    right
    cases parsed with
    | none => exact Or.inl ⟨rfl, Or.inl rfl⟩
    | some ts =>
      by_cases outside : ts < since
      · exact Or.inl ⟨by simp [outside], Or.inr ⟨ts, rfl, outside⟩⟩
      · exact Or.inr ⟨by simp [outside], ts, rfl, outside⟩

theorem count_reads_iff (record : PyValue) (total : Int) :
    (countLog env since total record).isSome = true ↔ CountReads env since record := by
  unfold countLog CountReads
  rcases window_cases env since record with unread | ⟨outside, read | ⟨ts, read, early⟩⟩ |
      ⟨inside, ts, read, late⟩
  · simp [unread]
  · simp [read, outside]
  · simp [read, outside, early]
  · simp only [read, inside, Option.bind_eq_bind, Option.bind_some, if_neg late,
      Option.isSome_some, true_and, true_implies]
    exact bind_some_is_some_iff _ _

theorem count_log_value {record : PyValue} {total counted : Int}
    (found : countLog env since total record = some counted) :
    counted = total + countIn env since record := by
  unfold countLog at found
  unfold countIn
  rcases window_cases env since record with unread | ⟨outside, read | ⟨ts, read, early⟩⟩ |
      ⟨inside, ts, read, late⟩
  · simp [unread] at found
  · simp [read] at found
    simp [outside, found]
  · simp [read, early] at found
    simp [outside, found]
  · simp only [read, Option.bind_eq_bind, Option.bind_some, if_neg late] at found
    obtain ⟨count, recorded, same⟩ := Option.bind_eq_some_iff.mp found
    rw [if_pos inside, recorded, Option.getD_some]
    exact (Option.some.inj same).symm

def sourceOf (record : PyValue) : String :=
  text env.toRetentionEnv (((record.get? "source").getD .none).orElse (.str ""))

/-- The count of a GUI or desktop action within the window. -/
def operatorCount (record : PyValue) : Int :=
  if sourceOf env record = "gui" ∨ sourceOf env record = "desktop" then
    countIn env since record
  else 0

theorem action_reads_iff (tally : ActionTally) (record : PyValue) :
    (tally.add env since record).isSome = true ↔ CountReads env since record := by
  unfold ActionTally.add CountReads
  rcases window_cases env since record with unread | ⟨outside, read | ⟨ts, read, early⟩⟩ |
      ⟨inside, ts, read, late⟩
  · simp [unread]
  · simp [read, outside]
  · simp [read, outside, early]
  · have object := object_of_time env read
    obtain ⟨source, sourceFound⟩ := get_object object "source" .none
    obtain ⟨action, actionFound⟩ := get_object object "action" .none
    simp only [read, inside, sourceFound, actionFound, Option.bind_eq_bind, Option.bind_some,
      if_neg late, Option.isSome_some, true_and, true_implies]
    exact bind_some_is_some_iff _ _

theorem action_tally_value {record : PyValue} {tally added : ActionTally}
    (found : tally.add env since record = some added) :
    added.gui + added.desktop = tally.gui + tally.desktop + operatorCount env since record := by
  unfold ActionTally.add at found
  unfold operatorCount countIn
  rcases window_cases env since record with unread | ⟨outside, read | ⟨ts, read, early⟩⟩ |
      ⟨inside, ts, read, late⟩
  · simp [unread] at found
  · simp [read] at found
    simp [outside, found]
  · simp [read, early] at found
    simp [outside, found]
  · have object := object_of_time env read
    obtain ⟨source, sourceFound⟩ := get_object object "source" .none
    obtain ⟨action, actionFound⟩ := get_object object "action" .none
    have named : sourceOf env record = text env.toRetentionEnv (source.orElse (.str "")) := by
      rw [sourceOf, sourceFound, Option.getD_some]
    simp only [read, sourceFound, actionFound, Option.bind_eq_bind, Option.bind_some,
      if_neg late] at found
    obtain ⟨count, recorded, same⟩ := Option.bind_eq_some_iff.mp found
    rw [if_pos inside, recorded, Option.getD_some, named, ← Option.some.inj same]
    by_cases gui : text env.toRetentionEnv (source.orElse (.str "")) = "gui"
    · simp only [gui, true_or, if_true, String.reduceEq, if_false]
      omega
    · by_cases desktop : text env.toRetentionEnv (source.orElse (.str "")) = "desktop"
      · simp only [desktop, or_true, if_true, String.reduceEq, if_false]
        omega
      · simp only [gui, desktop, or_false, if_false]
        omega

/-- The time of a checkpoint is read, and within the window its session is
hashable. -/
def WindowReads (record : PyValue) : Prop :=
  (parseTs env.toRetentionEnv record).isSome = true ∧
    (withinWindow env since record = true → (sessionKey record).isSome = true)

def instantOf (record : PyValue) : Instant :=
  ((parseTs env.toRetentionEnv record).getD none).getD 0

theorem window_fails_only_on : FailsOnlyOn (newestInWindow env since)
      (fun newest record => if withinWindow env since record then
        keepNewer sessionOf (instantOf env) newest record else newest)
      (WindowReads env since)
      (fun newest => ∀ record ∈ newest.values,
        ∃ ts, parseTs env.toRetentionEnv record = some (some ts)) where
  accepts newest record sound reads := by
    rw [newestInWindow]
    rcases window_cases env since record with unread | ⟨outside, read | ⟨ts, read, early⟩⟩ |
        ⟨inside, ts, read, late⟩
    · rw [WindowReads, unread] at reads
      cases reads.1
    · simp [read, outside]
    · simp [read, outside, early]
    · obtain ⟨key, keyed⟩ := Option.isSome_iff_exists.mp (reads.2 inside)
      have same : sessionOf record = key := by rw [sessionOf, keyed, Option.getD_some]
      simp only [read, inside, keyed, Option.bind_eq_bind, Option.bind_some, if_neg late,
        if_true, keepNewer, same]
      cases held : newest.get? key with
      | none => rfl
      | some current =>
        obtain ⟨currentTs, currentRead⟩ :=
          sound current ((OrderedDict.mem_values_iff _ _).mpr ⟨key, held⟩)
        simp only [instantOf, read, currentRead, Option.bind_some, Option.getD_some]
        split <;> rfl
  refuses newest record _ refused := by
    rw [newestInWindow]
    rcases window_cases env since record with unread | ⟨outside, read | ⟨ts, read, early⟩⟩ |
        ⟨inside, ts, read, late⟩
    · rw [unread]
      rfl
    · exact absurd ⟨by rw [read]; rfl, by simp [outside]⟩ refused
    · exact absurd ⟨by rw [read]; rfl, by simp [outside]⟩ refused
    · have unhashable : sessionKey record = none := by
        by_contra keyed
        exact refused ⟨by rw [read]; rfl, fun _ => Option.isSome_iff_ne_none.mpr keyed⟩
      simp [read, late, unhashable]
  keeps newest record sound reads := by
    intro kept member
    rcases window_cases env since record with unread | ⟨outside, _⟩ | ⟨inside, ts, read, _⟩
    · rw [WindowReads, unread] at reads
      cases reads.1
    · rw [outside] at member
      exact sound kept member
    · rw [if_pos inside] at member
      rcases mem_keep_newer _ _ member with rfl | before
      · exact ⟨ts, read⟩
      · exact sound kept before

/-- The checkpoints within the window that the desktop actions are taken from,
by the time that is read off them. -/
def newestWithin (records : List PyValue) : OrderedDict HashKey PyValue :=
  newestPerKey sessionOf (instantOf env) (records.filter (withinWindow env since))

def NewestWithin (records : List PyValue) (record : PyValue) : Prop :=
  NewestOf sessionOf (instantOf env) (records.filter (withinWindow env since)) record

/-- The two counts that `int` reads. -/
def ActionsRead (record : PyValue) : Prop :=
  (intField env record "commands_run").isSome = true ∧
    (intField env record "tool_calls").isSome = true

def actionsOf (record : PyValue) : Int :=
  (intField env record "commands_run").getD 0 + (intField env record "tool_calls").getD 0

theorem session_actions_iff (total : Int) (record : PyValue) :
    (sessionActions env total record).isSome = true ↔ ActionsRead env record :=
  bind_is_some_iff fun _ _ => bind_some_is_some_iff _ _

theorem session_actions_value {record : PyValue} {total added : Int}
    (found : sessionActions env total record = some added) :
    added = total + actionsOf env record := by
  obtain ⟨commands, commandsRead, rest⟩ := Option.bind_eq_some_iff.mp found
  obtain ⟨tools, toolsRead, same⟩ := Option.bind_eq_some_iff.mp rest
  rw [actionsOf, commandsRead, toolsRead]
  exact (Option.some.inj same).symm

/-- The checkpoints are read, and the newest within the window counted. -/
def DesktopReads (records : List PyValue) : Prop :=
  (∀ record ∈ records, WindowReads env since record) ∧
    ∀ record, NewestWithin env since records record → ActionsRead env record

theorem no_checkpoint_unread : ∀ record ∈ (OrderedDict.empty : OrderedDict HashKey PyValue).values,
      ∃ ts, parseTs env.toRetentionEnv record = some (some ts) :=
  List.forall_mem_nil _

theorem desktop_of_reads {records : List PyValue}
    (reads : ∀ record ∈ records, WindowReads env since record) :
    desktopSessionActions env since records =
      (newestWithin env since records).values.foldlM (sessionActions env) 0 := by
  have folded := (window_fails_only_on env since).eq_foldl (no_checkpoint_unread env) reads
  rw [← List.foldl_filter] at folded
  rw [desktopSessionActions, folded]
  rfl

theorem desktop_is_some_iff (records : List PyValue) :
    (desktopSessionActions env since records).isSome = true ↔ DesktopReads env since records := by
  by_cases reads : ∀ record ∈ records, WindowReads env since record
  · have summed : ((newestWithin env since records).values.foldlM
        (sessionActions env) 0).isSome = true ↔ _ :=
      (FailsOnlyOn.of_is_some (session_actions_iff env)).is_some_iff trivial
    rw [desktop_of_reads env since reads, summed, DesktopReads, and_iff_right reads]
    simp only [newestWithin, mem_newest_iff]
    rfl
  · have folded := (window_fails_only_on env since).eq_none (no_checkpoint_unread env) reads
    rw [desktopSessionActions, folded]
    exact iff_of_false Bool.false_ne_true fun desktop => reads desktop.1

def checkpointActions (records : List PyValue) : Int :=
  ((newestWithin env since records).values.map (actionsOf env)).sum

theorem desktop_value {records : List PyValue} {total : Int}
    (found : desktopSessionActions env since records = some total) :
    total = checkpointActions env since records := by
  have reads := ((desktop_is_some_iff env since records).mp (by rw [found]; rfl)).1
  rw [desktop_of_reads env since reads] at found
  have summed := foldlM_sum id (actionsOf env)
    (fun _ _ _ stepped => session_actions_value env stepped) found
  rw [id, id, zero_add] at summed
  exact summed

/-- The counts of a log within the window. -/
def loggedCounts (records : List PyValue) : Int :=
  (records.map (countIn env since)).sum

/-- The GUI and desktop actions of the action log within the window. -/
def operatorCounts (records : List PyValue) : Int :=
  (records.map (operatorCount env since)).sum

/-- The share of operator actions in all of them is defined: there are none, or
their quotient is a float. -/
def ShareDefined (operators total : Int) : Prop :=
  total = 0 ∨ (env.percent operators total).isSome = true

theorem share_defined_iff (operators total : Int) :
    (shareOf env operators total).isSome = true ↔ ShareDefined env operators total := by
  unfold shareOf ShareDefined
  split
  next none_counted => exact iff_of_true rfl (Or.inl none_counted)
  next counted => exact (or_iff_right counted).symm

/-- What `action_share_summary` makes of the records that it reads. -/
def ActionsCounted (cli actions sessions : List PyValue) : Prop :=
  let operators := operatorCounts env since actions + checkpointActions env since sessions
  (∀ record ∈ cli, CountReads env since record) ∧
    (∀ record ∈ actions, CountReads env since record) ∧
    DesktopReads env since sessions ∧
    ShareDefined env operators (operators + loggedCounts env since cli)

theorem summarize_share_iff (windowDays : Int) (target : Rat)
    (cli actions checkpoints : List PyValue) :
    (summarizeShare env windowDays target since cli actions checkpoints).isSome = true ↔
      ActionsCounted env since cli actions checkpoints := by
  have cliFold : (cli.foldlM (countLog env since) 0).isSome = true ↔ _ :=
    (FailsOnlyOn.of_is_some fun total record =>
      count_reads_iff env since record total).is_some_iff trivial
  have actionFold : (actions.foldlM (ActionTally.add env since) {}).isSome = true ↔ _ :=
    (FailsOnlyOn.of_is_some (action_reads_iff env since)).is_some_iff trivial
  rw [ActionsCounted, ← cliFold, ← actionFold, ← desktop_is_some_iff]
  apply bind_is_some_iff
  intro cliTotal cliCounted
  apply bind_is_some_iff
  intro tally tallied
  apply bind_is_some_iff
  intro fromSessions summed
  have cliValue := foldlM_sum id (countIn env since)
    (fun _ _ _ stepped => count_log_value env since stepped) cliCounted
  have tallyValue := foldlM_sum (fun tally : ActionTally => tally.gui + tally.desktop)
    (operatorCount env since) (fun _ _ _ stepped => action_tally_value env since stepped)
    tallied
  rw [id, id, zero_add, ← loggedCounts] at cliValue
  simp only [zero_add] at tallyValue
  rw [← operatorCounts] at tallyValue
  rw [tallyValue, cliValue, desktop_value env since summed]
  exact (bind_some_is_some_iff _ _).trans (share_defined_iff env _ _)

/-- All three logs are read, the window starts at a date, and what is read can
be counted. -/
def ShareReads (windowDays : Int) (now : Instant) (logs : ActionLogs) : Prop :=
  Readable logs.cli ∧ Readable logs.actions ∧ Readable logs.sessions ∧
    ∃ since, windowStart now windowDays = some since ∧
      ActionsCounted env since (values logs.cli) (values logs.actions)
        (lastRecords maxRecords (values logs.sessions))

theorem share_of_readable {logs : ActionLogs} (cli : Readable logs.cli)
    (actions : Readable logs.actions) (sessions : Readable logs.sessions)
    (windowDays : Int) (target : Rat) (now : Instant) :
    actionShareSummary env windowDays target now logs =
      (windowStart now windowDays).bind fun since =>
        summarizeShare env windowDays target since (values logs.cli) (values logs.actions)
          (lastRecords maxRecords (values logs.sessions)) := by
  rw [actionShareSummary, read_readable cli, read_readable actions, read_last_readable sessions]
  rfl

theorem share_is_some_iff (windowDays : Int) (target : Rat) (now : Instant) (logs : ActionLogs) :
    (actionShareSummary env windowDays target now logs).isSome = true ↔
      ShareReads env windowDays now logs := by
  constructor
  · intro summarized
    obtain ⟨share, found⟩ := Option.isSome_iff_exists.mp summarized
    obtain ⟨since, window, rest⟩ := Option.bind_eq_some_iff.mp found
    obtain ⟨cliRecords, cliRead, rest⟩ := Option.bind_eq_some_iff.mp rest
    obtain ⟨actionRecords, actionsRead, rest⟩ := Option.bind_eq_some_iff.mp rest
    obtain ⟨checkpoints, sessionsRead, _⟩ := Option.bind_eq_some_iff.mp rest
    have cli := (read_is_some_iff logs.cli).mp (by rw [cliRead]; rfl)
    have actions := (read_is_some_iff logs.actions).mp (by rw [actionsRead]; rfl)
    have sessions := (read_last_is_some_iff maxRecords logs.sessions).mp (by
      rw [sessionsRead]
      rfl)
    rw [share_of_readable env cli actions sessions, window, Option.bind_some,
      summarize_share_iff] at summarized
    exact ⟨cli, actions, sessions, since, window, summarized⟩
  · rintro ⟨cli, actions, sessions, since, window, counted⟩
    rw [share_of_readable env cli actions sessions, window, Option.bind_some, summarize_share_iff]
    exact counted

/-- The logs without the lines that are no records. -/
def ActionLogs.records (logs : ActionLogs) : ActionLogs where
  cli := logs.cli.filter isRecord
  actions := logs.actions.filter isRecord
  sessions := logs.sessions.filter isRecord

def ShareFailOpen (windowDays : Int) (target : Rat) (now : Instant) (logs : ActionLogs) :
    Prop :=
  ∃ share, actionShareSummary env windowDays target now logs = some share ∧
    actionShareSummary env windowDays target now logs.records = some share

theorem values_objects {lines : List LogLine}
    (objects : ∀ record ∈ values lines, isObject record = true) :
    values (lines.filter isRecord) = values lines := by
  rw [values_records, List.filter_eq_self.mpr objects]

theorem object_of_reads {record : PyValue}
    (reads : (parseTs env.toRetentionEnv record).isSome = true) : isObject record = true := by
  obtain ⟨parsed, found⟩ := Option.isSome_iff_exists.mp reads
  exact object_of_time env found

theorem share_fail_open_iff (windowDays : Int) (target : Rat) (now : Instant) (logs : ActionLogs) :
    ShareFailOpen env windowDays target now logs ↔ ShareReads env windowDays now logs := by
  rw [← share_is_some_iff env windowDays target now logs]
  constructor
  · rintro ⟨share, found, _⟩
    rw [found]
    rfl
  · intro summarized
    obtain ⟨share, found⟩ := Option.isSome_iff_exists.mp summarized
    obtain ⟨cli, actions, sessions, since, window, counted⟩ :=
      (share_is_some_iff env windowDays target now logs).mp summarized
    refine ⟨share, found, ?_⟩
    rw [share_of_readable env cli actions sessions] at found
    rw [share_of_readable env (records_readable _) (records_readable _) (records_readable _),
      ← found]
    have cliSame := values_objects fun record member =>
      object_of_reads env (counted.1 record member).1
    have actionsSame := values_objects fun record member =>
      object_of_reads env (counted.2.1 record member).1
    have sessionsSame := last_records_filter fun record member =>
      object_of_reads env (counted.2.2.1.1 record member).1
    rw [ActionLogs.records, cliSame, actionsSame, values_records, sessionsSame]

end Actions

end AiEnterpriseOs.Telemetry
