import AiEnterpriseOs.Decisions.Models

/-!
# The decision history after a restart

Every recorded version of a decision is a line of the log. A restart reads the lines up
to the first that is no JSON and rebuilds a decision from each entry that allows it.
-/

namespace AiEnterpriseOs.Decisions

open Library

/-- Times, numbers and JSON as the standard library reads and writes them. `reread` is
what becomes of a free-form value in a line, `none` where it cannot be written. -/
structure HistoryEnv where
  isoformat : Int → String
  fromisoformat : String → Option Int
  parseInt : String → Option Int
  reread : PyValue → Option PyValue
  iso_read : ∀ time, fromisoformat (isoformat time) = some time
  iso_empty : fromisoformat "" = none

/-- A decision with its attributes as they are; nothing checks those of a rebuilt one. -/
structure DecisionObject where
  category : DecisionCategory
  priority : DecisionPriority
  status : DecisionStatus
  createdAt : Option Int
  updatedAt : Option Int
  resolvedAt : Option Int
  attributes : List (String × PyValue)

def DecisionObject.id (object : DecisionObject) : PyValue :=
  (PyValue.field object.attributes "id").getD .none

namespace DecisionPriority

def number : DecisionPriority → Int
  | low => 1
  | medium => 2
  | high => 3
  | critical => 4
  | emergency => 5

def ofNumber : Int → Option DecisionPriority
  | 1 => some low
  | 2 => some medium
  | 3 => some high
  | 4 => some critical
  | 5 => some emergency
  | _ => none

end DecisionPriority

namespace DecisionStatus

def ofValue : String → Option DecisionStatus
  | "pending" => some pending
  | "approved" => some approved
  | "rejected" => some rejected
  | "escalated" => some escalated
  | "deferred" => some deferred
  | "cancelled" => some cancelled
  | "in_review" => some inReview
  | "awaiting_info" => some awaitingInfo
  | _ => none

end DecisionStatus

namespace DecisionCategory

def ofValue : String → Option DecisionCategory
  | "strategic" => some strategic
  | "operational" => some operational
  | "financial" => some financial
  | "technical" => some technical
  | "hr" => some hr
  | "compliance" => some compliance
  | "governance" => some governance
  | "risk" => some risk
  | "other" => some other
  | _ => none

end DecisionCategory

section Writing

def texts (items : List String) : PyValue := .list (items.map .str)

def optionalText (text : Option String) : PyValue := (text.map PyValue.str).getD .none

namespace Decision

variable (env : HistoryEnv) (decision : Decision) (options metadata context : PyValue)

/-- The entry of a version whose free-form fields have these values. -/
def entry (now : Int) : List (String × PyValue) :=
  let time (stamp : Option Int) : PyValue := optionalText (stamp.map env.isoformat)
  [("id", .str decision.id), ("title", .str decision.title),
    ("description", .str decision.description),
    ("category", .str decision.category.value),
    ("priority", .int decision.priority.number),
    ("status", .str decision.status.value),
    ("requester", .str decision.requester),
    ("owner", .str decision.owner),
    ("stakeholders", texts decision.stakeholders),
    ("options", options),
    ("selected_option", optionalText decision.selectedOption),
    ("rationale", optionalText decision.rationale),
    ("risk_score", (decision.riskScore.map PyValue.float).getD .none),
    ("risk_factors", texts decision.riskFactors),
    ("approval_required", .bool decision.approvalRequired),
    ("approved_by", optionalText decision.approvedBy),
    ("escalation_path", texts decision.escalationPath),
    ("tags", texts decision.tags),
    ("created_at", .str (env.isoformat decision.createdAt)),
    ("updated_at", time decision.updatedAt),
    ("resolved_at", time decision.resolvedAt),
    ("metadata", metadata),
    ("context", context),
    ("constraints", texts decision.constraints),
    ("dependents", texts decision.dependents),
    ("recorded_at", .str (env.isoformat now))]

def objectWith : DecisionObject where
  category := decision.category
  priority := decision.priority
  status := decision.status
  createdAt := some decision.createdAt
  updatedAt := decision.updatedAt
  resolvedAt := decision.resolvedAt
  attributes :=
    [("id", .str decision.id), ("title", .str decision.title),
      ("description", .str decision.description),
      ("requester", .str decision.requester),
      ("owner", .str decision.owner),
      ("stakeholders", texts decision.stakeholders),
      ("options", options),
      ("selected_option", optionalText decision.selectedOption),
      ("rationale", optionalText decision.rationale),
      ("risk_score", (decision.riskScore.map PyValue.float).getD .none),
      ("risk_factors", texts decision.riskFactors),
      ("approval_required", .bool decision.approvalRequired),
      ("approved_by", optionalText decision.approvedBy),
      ("escalation_path", texts decision.escalationPath),
      ("tags", texts decision.tags),
      ("metadata", metadata),
      ("context", context),
      ("constraints", texts decision.constraints),
      ("dependents", texts decision.dependents)]

def object : DecisionObject :=
  decision.objectWith (.list decision.options) (.dict decision.metadata.entries)
    (.dict decision.context.entries)

/-- What the version reads back as, if its line can be written. -/
def readBack : Option DecisionObject := do
  let options ← env.reread (.list decision.options)
  let metadata ← env.reread (.dict decision.metadata.entries)
  let context ← env.reread (.dict decision.context.entries)
  some (decision.objectWith options metadata context)

/-- The entry that the line of the version loads as. -/
def line (now : Int) : Option PyValue := do
  let options ← env.reread (.list decision.options)
  let metadata ← env.reread (.dict decision.metadata.entries)
  let context ← env.reread (.dict decision.context.entries)
  some (.dict (decision.entry env options metadata context now))

end Decision

end Writing

section Rebuilding

variable (env : HistoryEnv)

/-- The fields with their defaults that are taken as they are. -/
def attributeDefaults : List (String × Option PyValue) :=
  [("id", none), ("title", none), ("description", none), ("requester", some (.str "")),
    ("owner", some (.str "")),
    ("stakeholders", some (.list [])),
    ("options", some (.list [])),
    ("selected_option", some .none),
    ("rationale", some .none),
    ("risk_score", some .none),
    ("risk_factors", some (.list [])),
    ("approval_required", some (.bool true)),
    ("approved_by", some .none),
    ("escalation_path", some (.list [])),
    ("tags", some (.list [])),
    ("metadata", some (.dict [])),
    ("context", some (.dict [])),
    ("constraints", some (.list [])),
    ("dependents", some (.list []))]

def convertedFields : List String :=
  ["category", "status", "priority", "created_at", "updated_at", "resolved_at"]

/-- A key and a value from an element of a list that `dict` is called with. -/
def pairOf : PyValue → Option (String × PyValue)
  | .list [.str key, value] => some (key, value)
  | .str text =>
    match text.toList with
    | [key, value] => some (String.singleton key, .str (String.singleton value))
    | _ => none
  | .dict [(key, _), (value, _)] => some (key, .str value)
  | _ => none

/-- `dict(entry)` where it has the keys of a call; the last of equal keys counts. -/
def fieldsOf : PyValue → Option (List (String × PyValue))
  | .dict items => some items
  | .list items => (items.mapM pairOf).map List.reverse
  | .str text => if text = "" then some [] else none
  | _ => none

variable (data : List (String × PyValue))

/-- `data.get(key) or fallback`. -/
def fieldOr (key : String) (fallback : PyValue) : PyValue :=
  let value := (PyValue.field data key).getD .none
  if value.truthy then value else fallback

/-- A missing time is none; the outer `none` stands for an exception. -/
def timeField (key : String) : Option (Option Int) :=
  match fieldOr data key .none with
  | .none => some none
  | .str text => (env.fromisoformat text).map some
  | _ => none

def categoryField : Option DecisionCategory :=
  match fieldOr data "category" (.str "other") with
  | .str text => DecisionCategory.ofValue text
  | _ => none

def statusField : Option DecisionStatus :=
  match fieldOr data "status" (.str "pending") with
  | .str text => DecisionStatus.ofValue text
  | _ => none

/-- `DecisionPriority(int(value))`. -/
def priorityField : Option DecisionPriority :=
  match fieldOr data "priority" (.int 2) with
  | .bool value => DecisionPriority.ofNumber (if value then 1 else 0)
  | .int value => DecisionPriority.ofNumber value
  | .float value => DecisionPriority.ofNumber (value.num.tdiv value.den)
  | .str text => (env.parseInt text).bind DecisionPriority.ofNumber
  | _ => none

/-- `Decision(**data)` for the fields that are taken as they are. -/
def attributesOf : Option (List (String × PyValue)) :=
  if data.all fun item =>
      item.1 ∈ convertedFields || item.1 ∈ attributeDefaults.map Prod.fst then
    attributeDefaults.mapM fun named =>
      ((PyValue.field data named.1).or named.2).map fun value => (named.1, value)
  else none

def decisionFromHistoryEntry (entry : PyValue) : Option DecisionObject := do
  let fields ← fieldsOf entry
  let data := fields.filter fun item => item.1 ≠ "recorded_at"
  let createdAt ← timeField env data "created_at"
  let updatedAt ← timeField env data "updated_at"
  let resolvedAt ← timeField env data "resolved_at"
  let category ← categoryField data
  let status ← statusField data
  let priority ← priorityField env data
  let attributes ← attributesOf data
  some
    { category := category
      priority := priority
      status := status
      createdAt := createdAt
      updatedAt := updatedAt
      resolvedAt := resolvedAt
      attributes := attributes }

end Rebuilding

section Rereading

variable (env : HistoryEnv) (data : List (String × PyValue))

theorem iso_nonempty (time : Int) : env.isoformat time ≠ "" := by
  intro empty
  have read := env.iso_read time
  rw [empty, env.iso_empty] at read
  cases read

theorem time_read (key : String) (stamp : Option Int)
    (found : PyValue.field data key = some (optionalText (stamp.map env.isoformat))) :
    timeField env data key = some stamp := by
  rw [timeField, fieldOr, found]
  cases stamp with
  | none => rfl
  | some time =>
    simp [optionalText, PyValue.truthy, iso_nonempty, env.iso_read]

theorem category_read (category : DecisionCategory)
    (found : PyValue.field data "category" = some (.str category.value)) :
    categoryField data = some category := by
  rw [categoryField, fieldOr, found]
  cases category <;> rfl

theorem status_read (status : DecisionStatus)
    (found : PyValue.field data "status" = some (.str status.value)) :
    statusField data = some status := by
  rw [statusField, fieldOr, found]
  cases status <;> rfl

theorem priority_read (priority : DecisionPriority)
    (found : PyValue.field data "priority" = some (.int priority.number)) :
    priorityField env data = some priority := by
  rw [priorityField, fieldOr, found]
  cases priority <;> rfl

variable (decision : Decision) (options metadata context : PyValue) (now : Int)

theorem entry_data : ((decision.entry env options metadata context now).filter fun item =>
        item.1 ≠ "recorded_at") =
      (decision.entry env options metadata context now).dropLast := rfl

theorem attributes_read : attributesOf (decision.entry env options metadata context now).dropLast =
      some (decision.objectWith options metadata context).attributes := rfl

theorem rebuilt_entry :
    decisionFromHistoryEntry env (.dict (decision.entry env options metadata context now)) =
      some (decision.objectWith options metadata context) := by
  have created := time_read env (decision.entry env options metadata context now).dropLast
    "created_at" (some decision.createdAt) rfl
  have updated := time_read env (decision.entry env options metadata context now).dropLast
    "updated_at" decision.updatedAt rfl
  have resolved := time_read env (decision.entry env options metadata context now).dropLast
    "resolved_at" decision.resolvedAt rfl
  have category := category_read (decision.entry env options metadata context now).dropLast
    decision.category rfl
  have status := status_read (decision.entry env options metadata context now).dropLast
    decision.status rfl
  have priority := priority_read env
    (decision.entry env options metadata context now).dropLast decision.priority rfl
  simp only [decisionFromHistoryEntry, fieldsOf, entry_data, created, updated, resolved,
    category, status, priority, attributes_read, Option.bind_eq_bind, Option.bind_some]
  rfl

end Rereading

section Restarting

/-- A line of the log as a reader takes it. -/
inductive HistoryLine where
  | parsed (value : PyValue)
  | broken
  | blank

/-- The line is no version of a decision: no decision with a text for its id is rebuilt. -/
def HistoryLine.Malformed (env : HistoryEnv) : HistoryLine → Prop
  | .parsed value =>
    ∀ object, decisionFromHistoryEntry env value = some object → ∀ id, object.id ≠ .str id
  | .broken | .blank => True

/-- What happens to the log, in its order: `record` is called, or there is another line. -/
inductive LogItem (env : HistoryEnv) where
  | recorded (decision : Decision) (now : Int)
  | other (line : HistoryLine) (malformed : line.Malformed env)

/-- `_load_from_disk` over the lines that the file hands out before it raises. -/
def loadFromDisk : List HistoryLine → List PyValue
  | [] => []
  | .broken :: _ => []
  | .blank :: rest => loadFromDisk rest
  | .parsed value :: rest => value :: loadFromDisk rest

def getHistory {Entry : Type*} (limit : Nat) (history : List Entry) : List Entry :=
  history.drop (history.length - limit)

/-- `hash(value)` does not raise. -/
def hashable : PyValue → Bool
  | .list _ | .dict _ => false
  | _ => true

/-- The index under an id that is a text; no other id is asked for. -/
def DecisionObject.keyed (object : DecisionObject) : Option (String × DecisionObject) :=
  match object.id with
  | .str id => some (id, object)
  | _ => none

/-- `import_decisions`, which raises on an id that cannot be a key. -/
def importDecisions : OrderedDict String DecisionObject → List DecisionObject →
      Option (OrderedDict String DecisionObject)
  | index, [] => some index
  | index, object :: rest =>
    if hashable object.id then
      importDecisions (match object.keyed with
        | some entry => index.set entry.1 entry.2
        | none => index) rest
    else none

variable (env : HistoryEnv)

/-- `_decision_engine_instance` over a file that hands out so many lines. -/
def rebuild (handedOut : Nat) (lines : List HistoryLine) :
    Option (OrderedDict String DecisionObject) :=
  let history := loadFromDisk (lines.take handedOut)
  importDecisions .empty ((getHistory 1000000 history).filterMap (decisionFromHistoryEntry env))

namespace LogItem

variable {env}

/-- The line of the item; a version that cannot be dumped has none. -/
def line : LogItem env → Option HistoryLine
  | .recorded decision now => (decision.line env now).map .parsed
  | .other line _ => some line

def value (item : LogItem env) : PyValue :=
  match item.line with
  | some (.parsed value) => value
  | _ => .none

/-- A version that was written, as it was recorded. -/
def version : LogItem env → Option (String × DecisionObject)
  | .recorded decision now =>
    (decision.line env now).map fun _ => (decision.id, decision.object)
  | .other _ _ => none

/-- A version that was written, as it reads back. -/
def reread : LogItem env → Option (String × DecisionObject)
  | .recorded decision _ => (decision.readBack env).map fun object => (decision.id, object)
  | .other _ _ => none

/-- The items whose lines are loaded as entries. -/
def parsedItems : Nat → List (LogItem env) → List (LogItem env)
  | _, [] => []
  | handedOut, item :: rest =>
    match item.line with
    | none => parsedItems handedOut rest
    | some line =>
      match handedOut with
      | 0 => []
      | handedOut + 1 =>
        match line with
        | .broken => []
        | .blank => parsedItems handedOut rest
        | .parsed _ => item :: parsedItems handedOut rest

end LogItem

def lastVersions (versions : List (String × DecisionObject)) :
    OrderedDict String DecisionObject :=
  OrderedDict.empty.setAll versions

/-- The rebuilt engine has for every id its last recorded version. -/
def RestartAgrees (handedOut : Nat) (log : List (LogItem env)) : Prop :=
  ∃ index, rebuild env handedOut (log.filterMap LogItem.line) = some index ∧
    ∀ id, index.get? id = (lastVersions (log.filterMap LogItem.version)).get? id

/-- No loaded entry has an id that cannot be a key, and for every id the last loaded
version reads back as the last recorded one. -/
def LoadsVersions (handedOut : Nat) (log : List (LogItem env)) : Prop :=
  let loaded := getHistory 1000000 (LogItem.parsedItems handedOut log)
  (∀ item ∈ loaded, ∀ object, decisionFromHistoryEntry env item.value = some object →
      hashable object.id = true) ∧
    ∀ id, (lastVersions (loaded.filterMap LogItem.reread)).get? id =
      (lastVersions (log.filterMap LogItem.version)).get? id

theorem import_decisions_eq (index : OrderedDict String DecisionObject)
    (objects : List DecisionObject) :
    importDecisions index objects =
      if objects.all fun object => hashable object.id then
        some (index.setAll (objects.filterMap DecisionObject.keyed))
      else none := by
  induction objects generalizing index with
  | nil => rfl
  | cons object rest ih =>
    rw [importDecisions, List.all_cons]
    by_cases keys : hashable object.id = true
    · rw [if_pos keys, keys, Bool.true_and, ih]
      cases entry : object.keyed with
      | none => rw [List.filterMap_cons_none entry]
      | some pair =>
        rw [List.filterMap_cons_some entry]
        rfl
    · rw [if_neg keys, Bool.eq_false_iff.mpr keys]
      rfl

theorem load_items (handedOut : Nat) (log : List (LogItem env)) :
    loadFromDisk ((log.filterMap LogItem.line).take handedOut) =
      (LogItem.parsedItems handedOut log).map LogItem.value := by
  induction log generalizing handedOut with
  | nil => simp [loadFromDisk, LogItem.parsedItems]
  | cons item rest ih =>
    cases written : item.line with
    | none =>
      rw [List.filterMap_cons_none written, ih handedOut]
      simp only [LogItem.parsedItems, written]
    | some line =>
      rw [List.filterMap_cons_some written]
      cases handedOut with
      | zero =>
        simp only [LogItem.parsedItems, written]
        rfl
      | succ handedOut =>
        simp only [LogItem.parsedItems, written, List.take_succ_cons]
        cases line with
        | broken => rfl
        | blank => exact ih handedOut
        | parsed value =>
          have read : item.value = value := by
            rw [LogItem.value, written]
          simp only [loadFromDisk, List.map_cons, read, ih handedOut]

theorem get_history_map {Entry Other : Type*} (limit : Nat) (read : Entry → Other)
    (history : List Entry) :
    getHistory limit (history.map read) = (getHistory limit history).map read := by
  rw [getHistory, getHistory, List.length_map, List.map_drop]

theorem object_with_keyed (decision : Decision) (options metadata context : PyValue) :
    (decision.objectWith options metadata context).keyed =
      some (decision.id, decision.objectWith options metadata context) := rfl

theorem rebuilt_item (item : LogItem env) :
    (decisionFromHistoryEntry env item.value).bind DecisionObject.keyed = item.reread := by
  cases item with
  | recorded decision now =>
    simp only [LogItem.value, LogItem.line, LogItem.reread, Decision.line, Decision.readBack]
    cases env.reread (.list decision.options) with
    | none => rfl
    | some options =>
      cases env.reread (.dict decision.metadata.entries) with
      | none => rfl
      | some metadata =>
        cases env.reread (.dict decision.context.entries) with
        | none => rfl
        | some context =>
          simp only [Option.bind_eq_bind, Option.bind_some, Option.map_some,
            rebuilt_entry, object_with_keyed]
  | other line malformed =>
    rw [LogItem.reread]
    cases line with
    | broken => rfl
    | blank => rfl
    | parsed value =>
      simp only [LogItem.value, LogItem.line]
      cases rebuilt : decisionFromHistoryEntry env value with
      | none => rfl
      | some object =>
        rw [Option.bind_some, DecisionObject.keyed]
        split
        · next id same => exact absurd same (malformed object rebuilt id)
        · rfl

/-- The history of the engine that recorded the log. -/
def liveHistory (log : List (LogItem env)) : DecisionHistory :=
  log.foldl (fun history item =>
      match item with
      | .recorded decision _ => history.record decision
      | .other _ _ => history)
    .empty

theorem live_last_versions (log : List (LogItem env))
    (written : ∀ decision now, LogItem.recorded decision now ∈ log →
      (decision.line env now).isSome = true) (id : String) :
    ((liveHistory env log).get id).map Decision.object =
      (lastVersions (log.filterMap LogItem.version)).get? id := by
  induction log using List.reverseRecOn with
  | nil => rfl
  | append_singleton log item ih =>
    have earlier := ih fun decision now member =>
      written decision now (List.mem_append_left _ member)
    rw [liveHistory, List.foldl_append, ← liveHistory, List.filterMap_append, lastVersions,
      OrderedDict.setAll_append, ← lastVersions]
    cases item with
    | other line malformed => exact earlier
    | recorded decision now =>
      have dumped := written decision now (List.mem_append_right _ List.mem_cons_self)
      obtain ⟨line, lineEq⟩ := Option.isSome_iff_exists.mp dumped
      have version : LogItem.version (.recorded decision now : LogItem env) =
          some (decision.id, decision.object) := by
        rw [LogItem.version, lineEq, Option.map_some]
      rw [List.filterMap_cons_some version, List.filterMap_nil, OrderedDict.setAll_single,
        OrderedDict.get_set, ← earlier]
      simp only [List.foldl_cons, List.foldl_nil]
      rw [DecisionHistory.get_record]
      split <;> rfl

end Restarting

section Example

def epoch : List Char := "1970-01-01T00:00:00".toList

theorem epoch_length : epoch.length = 19 := by decide +kernel

/-- Times from the epoch on, with a mark for each microsecond. -/
def epochText (time : Int) : String :=
  String.ofList (epoch ++ List.replicate time.natAbs (if 0 ≤ time then '+' else '-'))

def epochTime (text : String) : Option Int :=
  let marks := text.toList.drop 19
  if text.toList.length < 19 then none
  else some (if marks.head? = some '-' then -(marks.length : Int) else marks.length)

theorem epoch_read (time : Int) : epochTime (epochText time) = some time := by
  rw [epochTime, epochText, String.toList_ofList, List.drop_left' epoch_length]
  have long : ¬(epoch ++ List.replicate time.natAbs
      (if 0 ≤ time then '+' else '-')).length < 19 := by
    rw [List.length_append, epoch_length]
    omega
  simp only [if_neg long, List.length_replicate]
  by_cases forward : 0 ≤ time
  · have unmarked : ¬(List.replicate time.natAbs '+').head? = some '-' := by
      cases time.natAbs <;> simp [List.replicate]
    rw [if_pos forward, if_neg unmarked]
    exact congrArg some (Int.natAbs_of_nonneg forward)
  · obtain ⟨count, countEq⟩ : ∃ count, time.natAbs = count + 1 :=
      Nat.exists_eq_succ_of_ne_zero (by omega)
    have marked : (List.replicate time.natAbs '-').head? = some '-' := by
      rw [countEq]
      rfl
    rw [if_neg forward, if_pos marked]
    exact congrArg some (by omega)

def epochEnv : HistoryEnv where
  isoformat := epochText
  fromisoformat := epochTime
  parseInt _ := none
  reread value := some value
  iso_read := epoch_read
  iso_empty := rfl

theorem last_version_live :
    let log : List (LogItem epochEnv) :=
      [.recorded (Decision.created "d1") 0,
        .recorded { Decision.created "d1" with status := .approved } 1]
    ((liveHistory epochEnv log).get "d1").map Decision.object =
      (lastVersions (log.filterMap LogItem.version)).get? "d1" := by
  intro log
  apply live_last_versions epochEnv log
  intro decision now member
  simp only [log, List.mem_cons, List.not_mem_nil, or_false] at member
  rcases member with same | same <;> cases same <;> decide +kernel

end Example

end AiEnterpriseOs.Decisions
