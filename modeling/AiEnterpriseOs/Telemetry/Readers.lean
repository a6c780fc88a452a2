import AiEnterpriseOs.Telemetry.Retention
import Mathlib.Data.List.Sort

/-!
# Telemetry readers

The summaries of the alert log, of the session checkpoints and of the share of
operator actions. Each reads its log whole; `none` stands for an exception.
-/

namespace AiEnterpriseOs.Telemetry

open Library

/-- The library functions that the readers call besides. -/
structure ReaderEnv extends RetentionEnv where
  /-- `round(cost, 6)`. -/
  roundCost : Rat → Rat
  /-- `round(numerator / total * 100, 1)`; none where the quotient is too large
  for a float. -/
  percent : Int → Int → Option Rat

/-! ## Reading a log -/

section Lines

variable (loads : List Char → JsonText)

def logLine (line : List Char) : LogLine :=
  match loads line with
  | .value value => .record value
  | .corrupt => .corrupt (String.ofList line)
  | .fails => .failing (String.ofList line)

/-- The lines of a file. Bytes that are no UTF-8 raise while the lines are
read, and the readers let that through. -/
def logLines : Option Bytes → List LogLine
  | none => []
  | some bytes =>
    match Utf8.decode bytes with
    | none => [.failing ""]
    | some text => (TextLines.fields TextLines.universalNewline text).map (logLine loads)

end Lines

/-- `records[-limit:]`. -/
def lastRecords (limit : Nat) (records : List PyValue) : List PyValue :=
  if limit = 0 then records else records.drop (records.length - limit)

/-- `read_alerts`, and `read_session_telemetry` on its log. -/
def readLast (limit : Nat) (lines : List LogLine) : Option (List PyValue) :=
  (readJsonl lines).map (lastRecords limit)

/-! ## Alerts -/

structure OpenAlert where
  component : String
  openedAt : PyValue
  reason : PyValue
  attempts : PyValue
  source : PyValue

structure AlertsSummary where
  records : Nat := 0
  openCount : Nat := 0
  openAlerts : List OpenAlert := []
  recent : List PyValue := []

section Alerts

variable (env : ReaderEnv)

/-- The latest record per component wins. -/
def latestByComponent (latest : OrderedDict String PyValue) (record : PyValue) :
    Option (OrderedDict String PyValue) := do
  let component := text env.toRetentionEnv ((← record.get? "component").orElse (.str "(unknown)"))
  return latest.set component record

/-- The inner `none` is a component whose latest record is no open one. -/
def openAlert (component : String) (record : PyValue) : Option (Option OpenAlert) := do
  if !(← record.get? "kind").equal (.str "open") then return none
  return some {
    component := component
    openedAt := ← record.get? "timestamp"
    reason := (← record.get? "reason").orElse (.str "")
    attempts := ← record.get? "attempts"
    source := (← record.get? "source").orElse (.str "") }

def opensBefore (left right : OpenAlert) : Prop :=
  text env.toRetentionEnv left.openedAt ≤ text env.toRetentionEnv right.openedAt

instance (left right : OpenAlert) : Decidable (opensBefore env left right) := by
  unfold opensBefore
  infer_instance

/-- `alerts_summary` once the records are read. -/
def summarizeAlerts (records : List PyValue) : Option AlertsSummary := do
  if records.isEmpty then return {}
  let latest ← records.foldlM (latestByComponent env) .empty
  let openAlerts := (← latest.entries.mapM fun entry => openAlert entry.1 entry.2).reduceOption
  return {
    records := records.length
    openCount := openAlerts.length
    openAlerts := openAlerts.insertionSort (opensBefore env)
    recent := records }

def alertsSummary (limit : Nat) (lines : List LogLine) : Option AlertsSummary :=
  (readLast limit lines).bind (summarizeAlerts env)

end Alerts

/-! ## Sessions -/

/-- A value as a dictionary key; numbers are keys by their value. -/
inductive HashKey where
  | none
  | number (value : Rat)
  | text (value : String)
  deriving DecidableEq

/-- `none` is a value that is not hashable. -/
def hashKey : PyValue → Option HashKey
  | .none => some .none
  | .bool value => some (.number (if value then 1 else 0))
  | .int value => some (.number value)
  | .float value => some (.number value)
  | .str value => some (.text value)
  | .list _ => Option.none
  | .dict _ => Option.none

structure SessionTotals where
  sessions : Int := 0
  userMessages : Int := 0
  assistantMessages : Int := 0
  toolCalls : Int := 0
  commandsRun : Int := 0
  tokensInput : Int := 0
  tokensOutput : Int := 0
  tokensReasoning : Int := 0
  cost : Rat := 0

structure ModelRow where
  modelId : PyValue
  sessions : Int := 0
  assistantMessages : Int := 0
  toolCalls : Int := 0
  cost : Rat := 0

structure SessionTally where
  totals : SessionTotals := {}
  byModel : OrderedDict HashKey ModelRow := .empty
  byEndReason : OrderedDict HashKey (PyValue × Nat) := .empty

structure SessionSummary where
  records : Nat := 0
  sessions : Int := 0
  recent : List PyValue := []
  totals : SessionTotals := {}
  byModel : List ModelRow := []
  byEndReason : List (PyValue × Nat) := []

section Sessions

variable (env : ReaderEnv)

/-- Missing values sort as oldest. -/
def recordTs (record : PyValue) : Option String := do
  match ← record.get? "timestamp" with
  | .str value => return value
  | _ => return ""

/-- `record.get("session_id") or "(unknown)"`, as a key. -/
def sessionKey (record : PyValue) : Option HashKey := do
  hashKey ((← record.get? "session_id").orElse (.str "(unknown)"))

def newestBySession (newest : OrderedDict HashKey PyValue) (record : PyValue) :
    Option (OrderedDict HashKey PyValue) := do
  let sessionId ← sessionKey record
  match newest.get? sessionId with
  | none => return newest.set sessionId record
  | some current =>
    if (← recordTs current) < (← recordTs record) then return newest.set sessionId record
    else return newest

/-- `int(record.get(name, 0))`. -/
def intField (record : PyValue) (name : String) : Option Int := do
  env.int (← record.get? name (.int 0))

/-- `float(record.get("cost", 0.0))`. -/
def costField (record : PyValue) : Option Rat := do
  env.float (← record.get? "cost" (.float 0))

def SessionTotals.add (totals : SessionTotals) (record : PyValue) :
    Option SessionTotals := do
  return {
    sessions := totals.sessions + 1
    userMessages := totals.userMessages + (← intField env record "messages_user")
    assistantMessages :=
      totals.assistantMessages + (← intField env record "messages_assistant")
    toolCalls := totals.toolCalls + (← intField env record "tool_calls")
    commandsRun := totals.commandsRun + (← intField env record "commands_run")
    tokensInput := totals.tokensInput + (← intField env record "tokens_input")
    tokensOutput := totals.tokensOutput + (← intField env record "tokens_output")
    tokensReasoning := totals.tokensReasoning + (← intField env record "tokens_reasoning")
    cost := env.floatPlus totals.cost (← costField env record) }

def ModelRow.add (row : ModelRow) (record : PyValue) : Option ModelRow := do
  return {
    modelId := row.modelId
    sessions := row.sessions + 1
    assistantMessages := row.assistantMessages + (← intField env record "messages_assistant")
    toolCalls := row.toolCalls + (← intField env record "tool_calls")
    cost := env.floatPlus row.cost (← costField env record) }

/-- `record.get(name) or fallback` with its key. -/
def keyedField (record : PyValue) (name fallback : String) : Option (PyValue × HashKey) := do
  let value := (← record.get? name).orElse (.str fallback)
  return (value, ← hashKey value)

def SessionTally.add (tally : SessionTally) (record : PyValue) : Option SessionTally := do
  let totals ← tally.totals.add env record
  let (reason, reasonKey) ← keyedField record "end_reason" "checkpoint"
  let counted := tally.byEndReason.getD reasonKey (reason, 0)
  let (model, modelKey) ← keyedField record "model_id" "(unknown)"
  let row ← (tally.byModel.getD modelKey { modelId := model }).add env record
  return {
    totals := totals
    byModel := tally.byModel.set modelKey row
    byEndReason := tally.byEndReason.set reasonKey (counted.1, counted.2 + 1) }

/-- The order of `sorted(..., key=_record_ts, reverse=True)`. -/
def comesNewer (left right : PyValue) : Prop :=
  (recordTs right).getD "" ≤ (recordTs left).getD ""

instance (left right : PyValue) : Decidable (comesNewer left right) := by
  unfold comesNewer
  infer_instance

/-- `session_telemetry_summary` once the records are read. -/
def summarizeSessions (records : List PyValue) : Option SessionSummary := do
  if records.isEmpty then return {}
  let newest ← records.foldlM newestBySession .empty
  let recent := newest.values.insertionSort comesNewer
  let tally ← recent.foldlM (SessionTally.add env) {}
  return {
    records := records.length
    sessions := tally.totals.sessions
    recent := recent
    totals := { tally.totals with cost := env.roundCost tally.totals.cost }
    byModel := tally.byModel.values.insertionSort fun left right =>
      right.sessions ≤ left.sessions
    byEndReason := tally.byEndReason.values }

def sessionTelemetrySummary (limit : Nat) (lines : List LogLine) :
    Option SessionSummary :=
  (readLast limit lines).bind (summarizeSessions env)

end Sessions

/-! ## Operator actions -/

structure ActionTally where
  gui : Int := 0
  desktop : Int := 0
  byAction : OrderedDict (String × String) Int := .empty

structure ActionShare where
  windowDays : Int
  target : Rat
  cli : Int
  gui : Int
  desktop : Int
  desktopSessionActions : Int
  guiDesktopTotal : Int
  actionsTotal : Int
  sharePct : Rat
  atTarget : Bool
  byAction : List ((String × String) × Int)

section Actions

variable (env : ReaderEnv)

/-- `datetime.max`. -/
def lastInstant : Instant := 2932897 * dayLength - 1

/-- `now - timedelta(days=window_days)`. -/
def windowStart (now : Instant) (windowDays : Int) : Option Instant :=
  let since := now - windowDays * dayLength
  if since < firstInstant ∨ lastInstant < since then none else some since

def recordCount (record : PyValue) : Option Int := do
  return max 0 (← env.int (← record.get? "count" (.int 1)))

def countLog (since : Instant) (total : Int) (record : PyValue) : Option Int := do
  match ← parseTs env.toRetentionEnv record with
  | none => return total
  | some ts => if ts < since then return total else return total + (← recordCount env record)

def ActionTally.add (since : Instant) (tally : ActionTally) (record : PyValue) :
    Option ActionTally := do
  match ← parseTs env.toRetentionEnv record with
  | none => return tally
  | some ts =>
    if ts < since then return tally
    let source := text env.toRetentionEnv ((← record.get? "source").orElse (.str ""))
    let action := text env.toRetentionEnv ((← record.get? "action").orElse (.str ""))
    let count ← recordCount env record
    return {
      gui := if source = "gui" then tally.gui + count else tally.gui
      desktop := if source = "desktop" then tally.desktop + count else tally.desktop
      byAction :=
        if source ≠ "" ∧ action ≠ "" then
          tally.byAction.set (source, action) (tally.byAction.getD (source, action) 0 + count)
        else tally.byAction }

def newestInWindow (since : Instant) (newest : OrderedDict HashKey PyValue)
    (record : PyValue) : Option (OrderedDict HashKey PyValue) := do
  match ← parseTs env.toRetentionEnv record with
  | none => return newest
  | some ts =>
    if ts < since then return newest
    let sessionId ← sessionKey record
    match newest.get? sessionId with
    | none => return newest.set sessionId record
    | some current =>
      match ← parseTs env.toRetentionEnv current with
      | none => return newest.set sessionId record
      | some currentTs =>
        if currentTs < ts then return newest.set sessionId record else return newest

def sessionActions (total : Int) (record : PyValue) : Option Int := do
  return total + ((← intField env record "commands_run") + (← intField env record "tool_calls"))

def maxRecords : Nat := 5000

/-- `_desktop_session_actions` once the checkpoints are read. -/
def desktopSessionActions (since : Instant) (records : List PyValue) : Option Int := do
  let newest ← records.foldlM (newestInWindow env since) .empty
  newest.values.foldlM (sessionActions env) 0

/-- `round(numerator / total * 100, 1) if total else 0.0`. -/
def shareOf (numerator total : Int) : Option Rat :=
  if total = 0 then some 0 else env.percent numerator total

/-- `action_share_summary` once the records are read. -/
def summarizeShare (windowDays : Int) (target : Rat) (since : Instant)
    (cli actions checkpoints : List PyValue) : Option ActionShare := do
  let cliTotal ← cli.foldlM (countLog env since) 0
  let tally ← actions.foldlM (ActionTally.add env since) {}
  let fromSessions ← desktopSessionActions env since checkpoints
  let numerator := tally.gui + tally.desktop + fromSessions
  let actionsTotal := numerator + cliTotal
  let sharePct ← shareOf env numerator actionsTotal
  return {
    windowDays := windowDays
    target := target
    cli := cliTotal
    gui := tally.gui
    desktop := tally.desktop
    desktopSessionActions := fromSessions
    guiDesktopTotal := numerator
    actionsTotal := actionsTotal
    sharePct := sharePct
    atTarget := target ≤ sharePct
    byAction := tally.byAction.entries.insertionSort fun left right => right.2 ≤ left.2 }

structure ActionLogs where
  cli : List LogLine
  actions : List LogLine
  sessions : List LogLine

def actionShareSummary (windowDays : Int) (target : Rat) (now : Instant)
    (logs : ActionLogs) : Option ActionShare :=
  (windowStart now windowDays).bind fun since =>
    (readJsonl logs.cli).bind fun cli =>
      (readJsonl logs.actions).bind fun actions =>
        (readLast maxRecords logs.sessions).bind fun checkpoints =>
          summarizeShare env windowDays target since cli actions checkpoints

end Actions

end AiEnterpriseOs.Telemetry
