import AiEnterpriseOs.Library.IsoTime
import AiEnterpriseOs.Library.StableSort
import AiEnterpriseOs.Telemetry.FailOpen

/-!
# Capture times of session checkpoints

Every checkpoint gets the reading of the clock as its capture time, or, where
the clock has not passed the last one, that one and a microsecond. The times are
kept and compared as their ISO texts.
-/

namespace AiEnterpriseOs.Telemetry

open Library

/-! ## The texts produced -/

/-- `_next_timestamp` after the last text, with `now` read off the clock; none
is an exception, which leaves the last text as it is. -/
def nextTimestamp (lastTimestamp : Option String) (now : DateTime) : Option String :=
  let candidate := now.isoformat
  match lastTimestamp with
  | none => some candidate
  | some last =>
    if candidate ≤ last then do
      let moment ← DateTime.fromisoformat last
      let next ← moment.plusMicrosecond
      some next.isoformat
    else some candidate

/-- What `_next_timestamp` returns on one reading after another. -/
def produced (lastTimestamp : Option String) : List DateTime → List String
  | [] => []
  | now :: rest =>
    match nextTimestamp lastTimestamp now with
    | none => produced lastTimestamp rest
    | some timestamp => timestamp :: produced (some timestamp) rest

theorem next_timestamp_of_later {moment now : DateTime} (later : moment.instant < now.instant) :
    nextTimestamp (some moment.isoformat) now = some now.isoformat := by
  have above := (DateTime.isoformat_lt_iff moment now).mpr later
  rw [nextTimestamp]
  exact if_neg (not_le_of_gt above)

theorem next_timestamp_of_not_later {moment now : DateTime}
    (behind : ¬moment.instant < now.instant) :
    nextTimestamp (some moment.isoformat) now = moment.plusMicrosecond.map DateTime.isoformat := by
  have below : now.isoformat ≤ moment.isoformat :=
    le_of_not_gt fun above => behind ((DateTime.isoformat_lt_iff moment now).mp above)
  rw [nextTimestamp, if_pos below, DateTime.fromisoformat_isoformat]
  cases follows : moment.plusMicrosecond with
  | none => simp [follows]
  | some next => simp [follows]

theorem next_timestamp_cases (moment now : DateTime) :
    (∃ next : DateTime, nextTimestamp (some moment.isoformat) now = some next.isoformat ∧
        moment.instant < next.instant) ∨
      nextTimestamp (some moment.isoformat) now = none ∧ moment.IsLast := by
  by_cases later : moment.instant < now.instant
  · exact Or.inl ⟨now, next_timestamp_of_later later, later⟩
  · rw [next_timestamp_of_not_later later]
    cases follows : moment.plusMicrosecond with
    | none => exact Or.inr ⟨rfl, moment.plus_none_iff.mp follows⟩
    | some next =>
      have bumped := DateTime.instant_plus follows
      exact Or.inl ⟨next, rfl, by omega⟩

theorem produced_after (moment : DateTime) (readings : List DateTime) : ∃ moments : List DateTime,
      produced (some moment.isoformat) readings = moments.map DateTime.isoformat ∧
        (moment :: moments).Pairwise fun first second => first.instant < second.instant := by
  induction readings generalizing moment with
  | nil => exact ⟨[], rfl, List.pairwise_singleton _ _⟩
  | cons now rest ih =>
    rw [produced]
    rcases next_timestamp_cases moment now with ⟨next, stepped, later⟩ | ⟨refused, _⟩
    · obtain ⟨moments, texts, rising⟩ := ih next
      rw [stepped]
      refine ⟨next :: moments, by rw [List.map_cons, ← texts], ?_⟩
      have above := (List.pairwise_cons.mp rising).1
      apply List.Pairwise.cons _ rising
      intro other member
      rcases List.mem_cons.mp member with rfl | member
      · exact later
      · exact later.trans (above other member)
    · rw [refused]
      exact ih moment

theorem produced_times (readings : List DateTime) : ∃ moments : List DateTime,
      produced none readings = moments.map DateTime.isoformat ∧
        moments.Pairwise fun first second => first.instant < second.instant := by
  cases readings with
  | nil => exact ⟨[], rfl, List.Pairwise.nil⟩
  | cons now rest =>
    obtain ⟨moments, texts, rising⟩ := produced_after now rest
    exact ⟨now :: moments, congrArg (List.cons now.isoformat) texts, rising⟩

theorem produced_after_all (moment : DateTime) (readings : List DateTime) :
    (produced (some moment.isoformat) readings).length = readings.length ∨
      ∃ final : DateTime, final.IsLast ∧
        final.isoformat ∈ moment.isoformat :: produced (some moment.isoformat) readings := by
  induction readings generalizing moment with
  | nil => exact Or.inl rfl
  | cons now rest ih =>
    rw [produced]
    rcases next_timestamp_cases moment now with ⟨next, stepped, _⟩ | ⟨_, last⟩
    · rw [stepped]
      rcases ih next with all | ⟨final, last, member⟩
      · exact Or.inl (congrArg (· + 1) all)
      · exact Or.inr ⟨final, last, List.mem_cons_of_mem _ member⟩
    · exact Or.inr ⟨moment, last, List.mem_cons_self⟩

theorem produced_all (readings : List DateTime) :
    (produced none readings).length = readings.length ∨
      ∃ final : DateTime, final.IsLast ∧ final.isoformat ∈ produced none readings := by
  cases readings with
  | nil => exact Or.inl rfl
  | cons now rest =>
    rcases produced_after_all now rest with all | last
    · exact Or.inl (congrArg (· + 1) all)
    · exact Or.inr last

/-- A second reading of the same time gets the next microsecond, here that of
the next day, which is written without microseconds. -/
example :
    let time : DateTime := ⟨⟨2028, 2, 29, by decide, by decide, by decide⟩,
      23, 59, 59, 999999, by decide, by decide, by decide, by decide⟩
    produced none [time, time] =
      ["2028-02-29T23:59:59.999999+00:00", "2028-03-01T00:00:00+00:00"] := by
  decide

/-! ## The log -/

/-- The arguments of `record_session_telemetry`. -/
structure Checkpoint where
  sessionId : String
  startedAt : Option String := none
  updatedAt : Option String := none
  endReason : String := "checkpoint"
  title : String := ""
  directory : String := ""
  projectId : Option String := none
  agent : Option String := none
  modelId : Option String := none
  providerId : Option String := none
  messagesUser : Int := 0
  messagesAssistant : Int := 0
  toolCalls : Int := 0
  commandsRun : Int := 0
  toolsUsed : List (String × Int) := []
  tokensInput : Int := 0
  tokensOutput : Int := 0
  tokensReasoning : Int := 0
  cost : Rat := 0
  additions : Int := 0
  deletions : Int := 0
  filesChanged : Int := 0

def textOrNone (text : Option String) : PyValue := (text.map PyValue.str).getD .none

def Checkpoint.record (checkpoint : Checkpoint) (timestamp : String) : PyValue :=
  .dict [ ("timestamp", .str timestamp), ("session_id", .str checkpoint.sessionId),
    ("started_at", textOrNone checkpoint.startedAt),
    ("updated_at", textOrNone checkpoint.updatedAt),
    ("end_reason", .str checkpoint.endReason),
    ("title", .str checkpoint.title),
    ("directory", .str checkpoint.directory),
    ("project_id", textOrNone checkpoint.projectId),
    ("agent", textOrNone checkpoint.agent),
    ("model_id", textOrNone checkpoint.modelId),
    ("provider_id", textOrNone checkpoint.providerId),
    ("messages_user", .int checkpoint.messagesUser),
    ("messages_assistant", .int checkpoint.messagesAssistant),
    ("tool_calls", .int checkpoint.toolCalls),
    ("commands_run", .int checkpoint.commandsRun),
    ("tools_used", .dict (checkpoint.toolsUsed.map fun used => (used.1, .int used.2))),
    ("tokens_input", .int checkpoint.tokensInput),
    ("tokens_output", .int checkpoint.tokensOutput),
    ("tokens_reasoning", .int checkpoint.tokensReasoning),
    ("cost", .float checkpoint.cost),
    ("additions", .int checkpoint.additions),
    ("deletions", .int checkpoint.deletions),
    ("files_changed", .int checkpoint.filesChanged)]

/-- The last text that the process produced, and the records of its log file. -/
structure SessionLog where
  lastTimestamp : Option String := none
  records : List PyValue := []

/-- A call of `record_session_telemetry`: what the clock reads, and whether the
file can be appended to and rewritten. -/
structure RecordCall where
  now : DateTime
  checkpoint : Checkpoint
  appended : Bool := true
  rewritten : Bool := true

def maxSessionRecords : Nat := 5000

def maybePrune (rewritten : Bool) (records : List PyValue) : List PyValue :=
  if rewritten && decide (maxSessionRecords < records.length) then
    lastRecords maxSessionRecords records
  else records

def recordSessionTelemetry (log : SessionLog) (call : RecordCall) : SessionLog :=
  match nextTimestamp log.lastTimestamp call.now with
  | none => log
  | some timestamp => {
      lastTimestamp := some timestamp
      records :=
        if call.appended then
          maybePrune call.rewritten (log.records ++ [call.checkpoint.record timestamp])
        else log.records }

/-- The log of a process after its calls. -/
def sessionLog (calls : List RecordCall) : SessionLog :=
  calls.foldl recordSessionTelemetry {}

/-! ## The order of the records -/

theorem record_stamp (checkpoint : Checkpoint) (timestamp : String) :
    stampOf (checkpoint.record timestamp) = timestamp := by
  simp [stampOf, recordTs, Checkpoint.record, PyValue.get?, PyValue.field]

theorem hash_text_or (text : Option String) (fallback : String) :
    (hashKey ((textOrNone text).orElse (.str fallback))).isSome = true := by
  cases text with
  | none => rfl
  | some text =>
    rw [textOrNone, Option.map_some, Option.getD_some, PyValue.orElse]
    split <;> rfl

theorem record_keyed (checkpoint : Checkpoint) (timestamp : String) :
    (sessionKey (checkpoint.record timestamp)).isSome = true := by
  have found : (checkpoint.record timestamp).get? "session_id" =
      some (textOrNone (some checkpoint.sessionId)) := by
    simp [Checkpoint.record, PyValue.get?, PyValue.field, textOrNone]
  rw [sessionKey, found]
  exact hash_text_or (some checkpoint.sessionId) "(unknown)"

theorem last_records_sublist (limit : Nat) (records : List PyValue) :
    (lastRecords limit records).Sublist records := by
  rw [lastRecords]
  split
  · exact List.Sublist.refl records
  · exact List.drop_sublist _ records

theorem maybe_prune_sublist (rewritten : Bool) (records : List PyValue) :
    (maybePrune rewritten records).Sublist records := by
  rw [maybePrune]
  split
  · exact last_records_sublist _ records
  · exact List.Sublist.refl records

/-- The records of a log are those of checkpoints, and their texts rise up to
the last one produced. -/
structure SessionLog.Ordered (log : SessionLog) : Prop where
  moment : ∀ last, log.lastTimestamp = some last → ∃ time : DateTime, last = time.isoformat
  captured : ∀ record ∈ log.records, ∃ (checkpoint : Checkpoint) (timestamp : String),
    record = checkpoint.record timestamp
  rising : log.records.Pairwise fun earlier later => stampOf earlier < stampOf later
  bounded : ∀ record ∈ log.records, ∃ last, log.lastTimestamp = some last ∧ stampOf record ≤ last

theorem next_timestamp_gt {log : SessionLog} (ordered : log.Ordered) {now : DateTime}
    {timestamp : String} (stepped : nextTimestamp log.lastTimestamp now = some timestamp) :
    (∃ time : DateTime, timestamp = time.isoformat) ∧
      ∀ last, log.lastTimestamp = some last → last < timestamp := by
  cases held : log.lastTimestamp with
  | none =>
    rw [held] at stepped
    cases stepped
    exact ⟨⟨now, rfl⟩, fun last found => by cases found⟩
  | some last =>
    obtain ⟨moment, same⟩ := ordered.moment last held
    rw [held, same] at stepped
    rcases next_timestamp_cases moment now with ⟨next, produced, later⟩ | ⟨refused, _⟩
    · rw [produced] at stepped
      cases stepped
      refine ⟨⟨next, rfl⟩, fun other found => ?_⟩
      cases found
      rw [same]
      exact (DateTime.isoformat_lt_iff moment next).mpr later
    · rw [refused] at stepped
      cases stepped

theorem record_call_ordered {log : SessionLog} (ordered : log.Ordered) (call : RecordCall) :
    (recordSessionTelemetry log call).Ordered := by
  rw [recordSessionTelemetry]
  cases stepped : nextTimestamp log.lastTimestamp call.now with
  | none => exact ordered
  | some timestamp =>
    obtain ⟨⟨time, isText⟩, above⟩ := next_timestamp_gt ordered stepped
    have before : ∀ record ∈ log.records, stampOf record < timestamp := by
      intro record member
      obtain ⟨last, held, bounded⟩ := ordered.bounded record member
      exact lt_of_le_of_lt bounded (above last held)
    -- Every kept record comes from the log with the new record at its end.
    have kept : ∀ records : List PyValue,
        records.Sublist (log.records ++ [call.checkpoint.record timestamp]) →
          SessionLog.Ordered { lastTimestamp := some timestamp, records := records } := by
      intro records sublist
      refine ⟨?_, ?_, ?_, ?_⟩
      · intro last held
        cases held
        exact ⟨time, isText⟩
      · intro record member
        rcases List.mem_append.mp (sublist.subset member) with earlier | new
        · exact ordered.captured record earlier
        · exact ⟨call.checkpoint, timestamp, List.mem_singleton.mp new⟩
      · apply List.Pairwise.sublist sublist
        rw [List.pairwise_append]
        refine ⟨ordered.rising, List.pairwise_singleton _ _, ?_⟩
        intro record member new isNew
        rw [List.mem_singleton.mp isNew, record_stamp]
        exact before record member
      · intro record member
        refine ⟨timestamp, rfl, ?_⟩
        rcases List.mem_append.mp (sublist.subset member) with earlier | new
        · exact le_of_lt (before record earlier)
        · rw [List.mem_singleton.mp new, record_stamp]
    apply kept
    split
    · exact maybe_prune_sublist _ _
    · exact List.sublist_append_left _ _

theorem session_log_ordered (calls : List RecordCall) : (sessionLog calls).Ordered := by
  induction calls using List.reverseRecOn with
  | nil =>
    refine ⟨?_, List.forall_mem_nil _, List.Pairwise.nil, List.forall_mem_nil _⟩
    intro last held
    cases held
  | append_singleton calls call ih =>
    rw [sessionLog, List.foldl_append]
    exact record_call_ordered ih call

theorem record_call_stamps (log : SessionLog) (call : RecordCall) :
    ((recordSessionTelemetry log call).records.map stampOf).Sublist
      (log.records.map stampOf ++ (nextTimestamp log.lastTimestamp call.now).toList) := by
  rw [recordSessionTelemetry]
  cases nextTimestamp log.lastTimestamp call.now with
  | none =>
    rw [Option.toList_none, List.append_nil]
  | some timestamp =>
    dsimp only
    split
    · have kept := (maybe_prune_sublist call.rewritten
        (log.records ++ [call.checkpoint.record timestamp])).map stampOf
      rwa [List.map_append, List.map_singleton, record_stamp] at kept
    · exact List.sublist_append_left _ _

theorem fold_stamps (calls : List RecordCall) (log : SessionLog) :
    ((calls.foldl recordSessionTelemetry log).records.map stampOf).Sublist
      (log.records.map stampOf ++ produced log.lastTimestamp (calls.map RecordCall.now)) := by
  induction calls generalizing log with
  | nil => exact List.sublist_append_left _ _
  | cons call rest ih =>
    have called := record_call_stamps log call
    rw [List.foldl_cons, List.map_cons, produced]
    apply (ih (recordSessionTelemetry log call)).trans
    cases stepped : nextTimestamp log.lastTimestamp call.now with
    | none =>
      rw [recordSessionTelemetry, stepped]
    | some timestamp =>
      rw [stepped] at called
      have moved : (recordSessionTelemetry log call).lastTimestamp = some timestamp := by
        rw [recordSessionTelemetry, stepped]
      rw [moved, List.append_cons]
      exact called.append_right _

theorem session_log_stamps (calls : List RecordCall) :
    ((sessionLog calls).records.map stampOf).Sublist (produced none (calls.map RecordCall.now)) :=
  fold_stamps calls {}

/-! ## The summary -/

/-- `int` reads integers and `float` reads floats. -/
def ReadsNumbers (env : ReaderEnv) : Prop :=
  (∀ value, (env.int (.int value)).isSome = true) ∧
    ∀ value, (env.float (.float value)).isSome = true

theorem record_reads {env : ReaderEnv} (reads : ReadsNumbers env) (checkpoint : Checkpoint)
    (timestamp : String) : CheckpointReads env (checkpoint.record timestamp) := by
  refine ⟨?_, ?_, ?_, ?_⟩
  · simp only [countFields, List.forall_mem_cons]
    simp [intField, Checkpoint.record, PyValue.get?, PyValue.field, reads.1]
  · simp [costField, Checkpoint.record, PyValue.get?, PyValue.field, reads.2]
  · have found : (checkpoint.record timestamp).get? "end_reason" =
        some (textOrNone (some checkpoint.endReason)) := by
      simp [Checkpoint.record, PyValue.get?, PyValue.field, textOrNone]
    rw [keyedField, found]
    exact (bind_some_is_some_iff _ _).mpr (hash_text_or (some checkpoint.endReason) "checkpoint")
  · have found : (checkpoint.record timestamp).get? "model_id" =
        some (textOrNone checkpoint.modelId) := by
      simp [Checkpoint.record, PyValue.get?, PyValue.field]
    rw [keyedField, found]
    exact (bind_some_is_some_iff _ _).mpr (hash_text_or checkpoint.modelId "(unknown)")

theorem SessionLog.Ordered.sorted {log : SessionLog} (ordered : log.Ordered)
    {selected arranged : List PyValue} (among : selected.Sublist log.records)
    (same : arranged.Perm selected) :
    (arranged.insertionSort fun left right => stampOf left ≤ stampOf right) = selected ∧
      arranged.insertionSort comesNewer = selected.reverse :=
  ⟨sorted_up_of_rising (ordered.rising.sublist among) same,
    sorted_down_of_rising (ordered.rising.sublist among) same⟩

theorem SessionLog.Ordered.summary {log : SessionLog} (ordered : log.Ordered) {env : ReaderEnv}
    (reads : ReadsNumbers env) (limit : Nat) :
    ∃ summary : SessionSummary,
      sessionTelemetrySummary env limit (log.records.map LogLine.record) = some summary ∧
        summary.recent = (lastPerKey sessionOf (lastRecords limit log.records)).reverse := by
  have among := last_records_sublist limit log.records
  have captured : ∀ record ∈ lastRecords limit log.records,
      (sessionKey record).isSome = true ∧ CheckpointReads env record := by
    intro record member
    obtain ⟨checkpoint, timestamp, rfl⟩ := ordered.captured record (among.subset member)
    exact ⟨record_keyed checkpoint timestamp, record_reads reads checkpoint timestamp⟩
  rw [sessionTelemetrySummary, readLast, read_records, Option.map_some, Option.bind_some]
  generalize lastRecords limit log.records = records at among captured ⊢
  have defined := (summarize_sessions_iff env records).mpr
    ⟨fun record member => (captured record member).1, fun record newest =>
      (captured record (newest_of_mem _ _ newest)).2⟩
  obtain ⟨summary, found⟩ := Option.isSome_iff_exists.mp defined
  refine ⟨summary, found, ?_⟩
  rw [summarizeSessions] at found
  split at found
  next empty =>
    cases found
    rw [List.isEmpty_iff.mp empty]
    rfl
  next =>
    have initial : ∀ record ∈ (OrderedDict.empty : OrderedDict HashKey PyValue).values,
        isObject record = true := List.forall_mem_nil _
    rw [newest_fails_only_on.eq_foldl initial fun record member =>
      (captured record member).1] at found
    obtain ⟨newest, kept, rest⟩ := Option.bind_eq_some_iff.mp found
    cases kept
    obtain ⟨tally, _, same⟩ := Option.bind_eq_some_iff.mp rest
    cases same
    exact (ordered.sorted ((last_per_key_sublist _ _).trans among)
      (newest_perm_last sessionOf stampOf (ordered.rising.sublist among))).2

/-- Whatever the clock reads, the texts produced are those of later and later
times, and rise themselves; so the order of recording is the order of the
texts, and the summary shows the last checkpoint of each session, the latest first.
Every reading gets a text until the calendar ends. -/
theorem session_timestamps_rise (readings : List DateTime) (calls : List RecordCall) :
    (∃ moments : List DateTime, produced none readings = moments.map DateTime.isoformat ∧
        moments.Pairwise fun first second => first.instant < second.instant) ∧
      (produced none readings).Pairwise (fun first second => first < second) ∧
      ((produced none readings).length = readings.length ∨
        ∃ final : DateTime, final.IsLast ∧ final.isoformat ∈ produced none readings) ∧
      ((sessionLog calls).records.map stampOf).Sublist (produced none (calls.map RecordCall.now)) ∧
      (∀ selected arranged : List PyValue, selected.Sublist (sessionLog calls).records →
        arranged.Perm selected →
          (arranged.insertionSort fun left right => stampOf left ≤ stampOf right) = selected ∧
            arranged.insertionSort comesNewer = selected.reverse) ∧
      ∀ (env : ReaderEnv) (limit : Nat), ReadsNumbers env → ∃ summary : SessionSummary,
          sessionTelemetrySummary env limit ((sessionLog calls).records.map LogLine.record) =
              some summary ∧
            summary.recent =
              (lastPerKey sessionOf (lastRecords limit (sessionLog calls).records)).reverse := by
  have ordered := session_log_ordered calls
  obtain ⟨moments, texts, rising⟩ := produced_times readings
  refine ⟨⟨moments, texts, rising⟩, ?_, produced_all readings, session_log_stamps calls, ?_, ?_⟩
  · rw [texts, List.pairwise_map]
    exact rising.imp fun less => (DateTime.isoformat_lt_iff _ _).mpr less
  · exact fun _ _ among same => ordered.sorted among same
  · exact fun _ limit reads => ordered.summary reads limit

end AiEnterpriseOs.Telemetry
