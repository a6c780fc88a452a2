import AiEnterpriseOs.Jsonl
import Mathlib.Algebra.Group.Int.Defs

/-!
# Records of the read model

The source logs, the rows that their records become, and the readers of a
whole log and of what was appended to it. `none` stands for an exception.
-/

namespace AiEnterpriseOs.ReadModel

open Library Library.TextLines

inductive Source where
  | events
  | metrics
  | providerUsage
  deriving DecidableEq, Inhabited

/-- The logs of the three sources; a missing log is `none`. -/
abbrev Files := Source → Option Bytes

/-- The library functions the import calls, and what it stamps the tables with. -/
structure ImportEnv where
  loads : List Char → JsonText
  str : PyValue → String
  dumps : PyValue → String
  int : PyValue → Option Int
  float : PyValue → Option Rat
  /-- How a text column shows a number. -/
  realText : Rat → String
  path : Source → String
  now : String

structure EventRow where
  eventId : String
  timestamp : String
  eventType : String
  source : String
  status : String
  payload : String
  deriving DecidableEq

structure MetricRow where
  timestamp : String
  snapshot : String
  deriving DecidableEq

structure UsageRow where
  timestamp : String
  provider : String
  model : String
  promptTokens : Int
  completionTokens : Int
  totalTokens : Int
  latencySeconds : Option Rat
  ok : Bool
  error : String
  deriving DecidableEq

section Reading

variable (env : ImportEnv)

def fileSize (file : Option Bytes) : Nat :=
  (file.map List.length).getD 0

def readJsonlSince (file : Option Bytes) (offset : Nat) : Option (List PyValue) :=
  match file with
  | none => some []
  | some bytes =>
    loadLines env.loads (fields splitlinesEnd (Utf8.decodeReplacing (bytes.drop offset)))

structure SyncBatch where
  records : List PyValue
  size : Nat
  reset : Bool

def syncBatch (file : Option Bytes) (offset : Option Nat) : Option SyncBatch :=
  match file with
  | none => some { records := [], size := 0, reset := false }
  | some bytes =>
    let size := bytes.length
    match offset with
    | none =>
      (readJsonl env.loads (some bytes)).map fun records => { records, size, reset := true }
    | some offset =>
      if size < offset then
        (readJsonl env.loads (some bytes)).map fun records =>
          { records, size, reset := true }
      else if offset = size then some { records := [], size, reset := false }
      else
        (readJsonlSince env (some bytes) offset).map fun records =>
          { records, size, reset := false }

end Reading

section Parsing

variable (env : ImportEnv)

/-- `str(metadata.get(key) or record.get(key) or fallback)`. -/
def eventField (metadata record : PyValue) (key fallback : String) : Option String :=
  (metadata.get? key).bind fun first =>
    (record.get? key).map fun second =>
      env.str (first.orElse (second.orElse (.str fallback)))

/-- One record of the event store; the inner `none` is an envelope, which is
skipped. -/
def parseEventRecord (record : PyValue) : Option (Option EventRow) := do
  let kind ← record.get? "_type"
  if kind.equal (.str "envelope") then return none
  let metadata := (← record.get? "metadata").orEmptyDict
  let eventId ← eventField env metadata record "event_id" ""
  let timestamp ← eventField env metadata record "timestamp" ""
  let eventType ← eventField env metadata record "event_type" "unknown"
  let source ← eventField env metadata record "source" ""
  let status ← eventField env metadata record "status" ""
  let payload := env.dumps (← record.get? "payload").orEmptyDict
  return some { eventId, timestamp, eventType, source, status, payload }

/-- What is bound for a row of the metrics table: the time stamp as read. -/
def parseMetric (record : PyValue) : Option (PyValue × String) := do
  let timestamp ← record.get? "timestamp" (.str "")
  let snapshot ← record.get? "snapshot" (.dict [])
  return (timestamp, env.dumps snapshot)

def parseProviderUsage (record : PyValue) : Option UsageRow := do
  let usage := (← record.get? "usage").orEmptyDict
  let prompt ← env.int ((← usage.get? "prompt_tokens" (.int 0)).orElse (.int 0))
  let completion ← env.int ((← usage.get? "completion_tokens" (.int 0)).orElse (.int 0))
  let total ← env.int ((← usage.get? "total_tokens" (.int 0)).orElse (.int (prompt + completion)))
  let latency ←
    match ← record.get? "latency_seconds" with
    | .none => some none
    | value => (env.float value).map some
  some
    { timestamp := env.str (← record.get? "timestamp" (.str ""))
      provider := env.str (← record.get? "provider" (.str ""))
      model := env.str (← record.get? "model" (.str ""))
      promptTokens := prompt
      completionTokens := completion
      totalTokens := total
      latencySeconds := latency
      ok := (← record.get? "ok" (.bool true)).truthy
      error := env.str (← record.get? "error" (.str "")) }

end Parsing

section Binding

/-- Integers that a connection can bind. -/
def bindsInt (value : Int) : Bool :=
  -(2 ^ 63) ≤ value && value < 2 ^ 63

def UsageRow.binds (row : UsageRow) : Bool :=
  bindsInt row.promptTokens && bindsInt row.completionTokens && bindsInt row.totalTokens

/-- What a `TEXT NOT NULL` column stores; `none` when the value cannot be
bound or is null. -/
def bindText (env : ImportEnv) : PyValue → Option String
  | .str text => some text
  | .bool value => some (if value then "1" else "0")
  | .int value => if bindsInt value then some (toString value) else none
  | .float value => some (env.realText value)
  | _ => none

end Binding

end AiEnterpriseOs.ReadModel
