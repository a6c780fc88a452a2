import AiEnterpriseOs.ReadModel.WholeLines
import AiEnterpriseOs.Telemetry.Summaries
import Mathlib.Algebra.Ring.Int.Defs

/-!
# What the read model answers

The summaries from the tables, beside those from the logs that the runtime writes.
-/

namespace AiEnterpriseOs.ReadModel

open Library Telemetry

/-! ## Queries -/

section Queries

variable (env : SummaryEnv)

/-- `SELECT ... ORDER BY id DESC LIMIT ?`. -/
def newestRows {Row : Type} (limit : Nat) (rows : List Row) : List Row := rows.reverse.take limit

def UsageRow.entry (row : UsageRow) : UsageEntry :=
  let model := if row.model = "" then "(unknown)" else row.model
  { key := .text model
    model := .str model
    ok := row.ok
    promptTokens := row.promptTokens
    completionTokens := row.completionTokens
    totalTokens := row.totalTokens
    latency := row.latencySeconds }

/-- `provider_usage_by_model(limit)`; a missing table raises. -/
def Tables.providerUsageByModel (tables : Tables) (limit : Nat) : Option UsageSummary :=
  tables.providerUsage.map fun rows =>
    summarizeUsage env ((newestRows limit rows).map UsageRow.entry)

def snapshotRecord (timestamp : String) (snapshot : PyValue) : PyValue :=
  .dict [("timestamp", .str timestamp), ("snapshot", snapshot)]

def MetricRow.record (row : MetricRow) : Option PyValue :=
  match env.loads row.snapshot.toList with
  | .value snapshot => some (snapshotRecord row.timestamp snapshot)
  | .corrupt => none
  | .fails => none

def Tables.metricsSnapshots (tables : Tables) (limit : Nat) : Option (List PyValue) :=
  tables.metricsHistory.bind fun rows =>
    (newestRows limit rows).reverse.mapM (MetricRow.record env)

/-- `ReadModelStore.metrics_summary(limit)`. -/
def Tables.metricsSummary (tables : Tables) (limit : Nat) : Option MetricsSummary :=
  (tables.metricsSnapshots env limit).bind (summarizeMetrics env)

end Queries

/-! ## The writers of the logs -/

/-- The arguments of `record_provider_usage`, and the clock. -/
structure UsageCall where
  timestamp : String
  provider : String
  model : String
  usage : Option (OrderedDict String Int)
  latencySeconds : Option Rat
  ok : Bool
  error : String

namespace UsageCall

variable (call : UsageCall)

/-- `dict(usage or {})`. -/
def usageItems : List (String × PyValue) :=
  ((call.usage.getD .empty).entries).map fun entry => (entry.1, .int entry.2)

def record : PyValue :=
  .dict [("timestamp", .str call.timestamp), ("provider", .str call.provider),
      ("model", .str call.model),
      ("usage", .dict call.usageItems),
      ("latency_seconds", (call.latencySeconds.map PyValue.float).getD .none),
      ("ok", .bool call.ok),
      ("error", .str call.error)]

def tokens (name : String) : Int := ((call.usage.getD .empty).get? name).getD 0

/-- The tokens in total, or of prompt and completion where no total is given. -/
def totalTokens : Int :=
  if call.tokens "total_tokens" = 0 then
    call.tokens "prompt_tokens" + call.tokens "completion_tokens"
  else call.tokens "total_tokens"

def modelName : String := if call.model = "" then "(unknown)" else call.model

def row : UsageRow where
  timestamp := call.timestamp
  provider := call.provider
  model := call.model
  promptTokens := call.tokens "prompt_tokens"
  completionTokens := call.tokens "completion_tokens"
  totalTokens := call.totalTokens
  latencySeconds := call.latencySeconds
  ok := call.ok
  error := call.error

end UsageCall

/-- What is documented of the conversions: a value of the type is itself. -/
structure Converts (env : ImportEnv) : Prop where
  int : ∀ value, env.int (.int value) = some value
  float : ∀ value, env.float (.float value) = some value
  str : ∀ value, env.str (.str value) = value

def ImportEnv.summaryEnv (env : ImportEnv) (round : Rat → Nat → Rat) : SummaryEnv where
  loads := env.loads
  int := env.int
  float := env.float
  round := round

/-! ## Both take the same from a record -/

section Records

theorem usage_field (call : UsageCall) (name : String) :
    (PyValue.field call.usageItems name).getD (.int 0) = .int (call.tokens name) := by
  rw [UsageCall.usageItems, UsageCall.tokens, OrderedDict.get?]
  induction (call.usage.getD .empty).entries with
  | nil => rfl
  | cons entry rest ih =>
    rw [PyValue.field] at ih ⊢
    rw [List.map_cons, List.find?_cons, OrderedDict.lookup]
    by_cases here : entry.1 = name
    · simp [here]
    · simp only [here, beq_eq_false_iff_ne.mpr here, if_false]
      exact ih

theorem usage_get (call : UsageCall) (name : String) :
    (PyValue.dict call.usageItems).orEmptyDict.get? name (.int 0) =
      some (.int (call.tokens name)) := by
  have kept : (PyValue.dict call.usageItems).orEmptyDict = .dict call.usageItems := by
    rw [PyValue.orEmptyDict]
    split
    · rfl
    next empty =>
      have none_ : call.usageItems = [] := by simpa [PyValue.truthy] using empty
      rw [none_]
  rw [kept, PyValue.get?, usage_field]

theorem int_or (value other : Int) :
    (PyValue.int value).orElse (.int other) = .int (if value = 0 then other else value) := by
  by_cases zero : value = 0
  · simp [PyValue.orElse, PyValue.truthy, zero]
  · simp [PyValue.orElse, PyValue.truthy, zero]

/-- The fields of a record, read one by one. -/
structure ReadFields (call : UsageCall) : Prop where
  timestamp : call.record.get? "timestamp" (.str "") = some (.str call.timestamp)
  provider : call.record.get? "provider" (.str "") = some (.str call.provider)
  model : ∀ fallback, call.record.get? "model" fallback = some (.str call.model)
  usage : call.record.get? "usage" = some (.dict call.usageItems)
  latency : call.record.get? "latency_seconds" =
    some ((call.latencySeconds.map PyValue.float).getD .none)
  ok : call.record.get? "ok" (.bool true) = some (.bool call.ok)
  error : call.record.get? "error" (.str "") = some (.str call.error)

theorem read_fields (call : UsageCall) : ReadFields call :=
  ⟨rfl, rfl, fun _ => rfl, rfl, rfl, rfl, rfl⟩

variable {env : ImportEnv} (converts : Converts env) (round : Rat → Nat → Rat)
include converts

theorem usage_record_row (call : UsageCall) :
    parseProviderUsage env call.record = some call.row := by
  have fields := read_fields call
  have itself : ∀ value : Int, (if value = 0 then 0 else value) = value := by
    intro value
    split
    next zero => exact zero.symm
    · rfl
  unfold parseProviderUsage
  dsimp only [Option.bind_eq_bind]
  rw [fields.usage, Option.bind_some, usage_get, Option.bind_some, int_or, itself,
    converts.int, Option.bind_some, usage_get, Option.bind_some, int_or, itself, converts.int,
    Option.bind_some, usage_get, Option.bind_some, int_or, converts.int, Option.bind_some,
    fields.latency, Option.bind_some]
  cases known : call.latencySeconds with
  | none =>
    simp only [Option.map_none, Option.getD_none, fields.timestamp, fields.provider,
      fields.model, fields.ok, fields.error, Option.bind_some, converts.str]
    rw [UsageCall.row, known]
    rfl
  | some latency =>
    simp only [Option.map_some, Option.getD_some, converts.float, fields.timestamp,
      fields.provider, fields.model, fields.ok, fields.error, Option.bind_some, converts.str]
    rw [UsageCall.row, known]
    rfl

theorem usage_record_entry (call : UsageCall) :
    UsageEntry.ofRecord (env.summaryEnv round) call.record = some call.row.entry := by
  have fields := read_fields call
  have model : (PyValue.str call.model).orElse (.str "(unknown)") = .str call.modelName := by
    rw [PyValue.orElse, UsageCall.modelName]
    by_cases empty : call.model = ""
    · simp [PyValue.truthy, empty]
    · simp [PyValue.truthy, empty]
  simp only [UsageEntry.ofRecord, ImportEnv.summaryEnv, fields.usage, fields.latency,
    fields.model, model, Option.bind_eq_bind, Option.bind_some, usage_get, int_or,
    converts.int]
  cases known : call.latencySeconds with
  | none =>
    simp only [Option.map_none, Option.getD_none, fields.ok, hashKey, Option.bind_some]
    rw [UsageCall.row, UsageRow.entry, known]
    rfl
  | some latency =>
    simp only [Option.map_some, Option.getD_some, converts.float, fields.ok, hashKey,
      Option.bind_some]
    rw [UsageCall.row, UsageRow.entry, known]
    rfl

end Records

/-! ## One window from both ends -/

section Window

variable (env : SummaryEnv) (calls : List UsageCall)

/-- The models of the calls, each where it comes first. -/
def modelNames : List String := calls.map UsageCall.modelName

def modelTotal (name : String) : Int :=
  ((calls.filter fun call => call.modelName = name).map UsageCall.totalTokens).sum

/-- The models with one total come in the same order from the oldest and from the newest
call. -/
def TiesAgree : Prop :=
  ∀ total, (listed (modelNames calls)).filter (fun name => modelTotal calls name = total) =
    (listed (modelNames calls).reverse).filter fun name => modelTotal calls name = total

def entries : List UsageEntry := calls.map fun call => call.row.entry

def modelRow (name : String) : ModelTally :=
  ((entries calls).filter fun entry => entry.key = .text name).foldl ModelTally.add
    { model := .str name }

variable {calls}

theorem model_add_comm (row : ModelTally) (first second : UsageEntry) :
    (row.add first).add second = (row.add second).add first := by
  simp only [ModelTally.add, ModelTally.mk.injEq]
  exact ⟨trivial, trivial, add_right_comm _ _ _, add_right_comm _ _ _, add_right_comm _ _ _,
    add_right_comm _ _ _, add_right_comm _ _ _, add_right_comm _ _ _, add_right_comm _ _ _⟩

theorem totals_add_comm (totals : UsageTotals) (first second : UsageEntry) :
    (totals.add first).add second = (totals.add second).add first := by
  simp only [UsageTotals.add, UsageTotals.mk.injEq]
  exact ⟨trivial, add_right_comm _ _ _, add_right_comm _ _ _, add_right_comm _ _ _,
    add_right_comm _ _ _, add_right_comm _ _ _⟩

theorem foldl_add_model (items : List UsageEntry) (row : ModelTally) :
    (items.foldl ModelTally.add row).model = row.model := by
  induction items generalizing row with
  | nil => rfl
  | cons item rest ih => exact ih _

theorem foldl_add_total (items : List UsageEntry) (row : ModelTally) :
    (items.foldl ModelTally.add row).totalTokens =
      row.totalTokens + (items.map UsageEntry.totalTokens).sum := by
  induction items generalizing row with
  | nil => simp
  | cons item rest ih =>
    rw [List.foldl_cons, ih, List.map_cons, List.sum_cons, ModelTally.add, add_assoc]

theorem model_row_model (name : String) : (modelRow calls name).model = .str name :=
  foldl_add_model _ _

@[simp] theorem entry_key (call : UsageCall) : call.row.entry.key = .text call.modelName := rfl

theorem model_row_total (name : String) :
    (modelRow calls name).totalTokens = modelTotal calls name := by
  have named : ∀ call : UsageCall,
      decide (call.row.entry.key = .text name) = decide (call.modelName = name) := by
    intro call
    simp
  rw [modelRow, foldl_add_total, modelTotal, entries, List.filter_map, List.map_map]
  have filters : calls.filter ((fun entry => decide (entry.key = .text name)) ∘
      fun call : UsageCall => call.row.entry) =
      calls.filter fun call => call.modelName = name :=
    List.filter_congr fun call _ => named call
  rw [filters, zero_add]
  rfl

theorem by_model_values {items : List UsageCall} (perm : items.Perm calls) :
    (byModel (entries items)).values = (listed (modelNames items)).map (modelRow calls) := by
  let start : HashKey → ModelTally := fun key =>
    match key with
    | .text name => { model := .str name }
    | _ => { model := .none }
  have starts : ∀ entry ∈ entries items, ModelTally.start entry = start entry.key := by
    intro entry member
    obtain ⟨call, _, same⟩ := List.mem_map.mp member
    rw [← same]
    rfl
  have commutes : RightCommutative ModelTally.add := ⟨model_add_comm⟩
  have keys : (entries items).map UsageEntry.key = (modelNames items).map HashKey.text := by
    rw [entries, modelNames, List.map_map, List.map_map]
    rfl
  have injective : Function.Injective HashKey.text := fun _ _ same => HashKey.text.inj same
  rw [byModel, tally_values (entries items) starts, keys, listed_map injective, List.map_map]
  apply List.map_congr_left
  intro name _
  exact ((perm.map _).filter _).foldl_eq _

theorem rows_of_models {rows : List ModelTally}
    (models : ∀ row ∈ rows, ∃ name, row = modelRow calls name) :
    rows = (rows.map ModelTally.model).map fun model =>
      match model with
      | .str name => modelRow calls name
      | _ => { model := .none } := by
  rw [List.map_map]
  symm
  apply (List.map_congr_left _).trans (List.map_id rows)
  intro row member
  obtain ⟨name, same⟩ := models row member
  rw [same, Function.comp_apply, model_row_model]
  rfl

end Window

section Agreement

variable (env : SummaryEnv) (calls : List UsageCall)

theorem model_row_injective : Function.Injective (modelRow calls) := by
  intro first second same
  have models := congrArg ModelTally.model same
  rw [model_row_model, model_row_model] at models
  exact PyValue.str.inj models

theorem shown_rows_iff {first second : List String} :
    (sortedDown ModelTally.totalTokens (first.map (modelRow calls))).map (ModelTally.finish env) =
        (sortedDown ModelTally.totalTokens (second.map (modelRow calls))).map
          (ModelTally.finish env) ↔
      ∀ total, first.filter (fun name => modelTotal calls name = total) =
        second.filter fun name => modelTotal calls name = total := by
  have filters : ∀ (listing : List String) (total : Int),
      (listing.map (modelRow calls)).filter (fun row => row.totalTokens = total) =
        (listing.filter fun name => modelTotal calls name = total).map (modelRow calls) := by
    intro listing total
    rw [List.filter_map]
    congr 1
    apply List.filter_congr
    intro name _
    simp [model_row_total]
  have of_models : ∀ (listing : List String),
      ∀ row ∈ sortedDown ModelTally.totalTokens (listing.map (modelRow calls)),
        ∃ name, row = modelRow calls name := by
    intro listing row member
    obtain ⟨name, _, same⟩ := List.mem_map.mp ((List.mem_insertionSort _).mp member)
    exact ⟨name, same.symm⟩
  have sorted_iff := @sorted_down_eq_iff _ _ _ ModelTally.totalTokens
    (first.map (modelRow calls)) (second.map (modelRow calls))
  constructor
  · intro shown total
    have models := congrArg (List.map ModelUsage.model) shown
    rw [List.map_map, List.map_map] at models
    have sorted : sortedDown ModelTally.totalTokens (first.map (modelRow calls)) =
        sortedDown ModelTally.totalTokens (second.map (modelRow calls)) := by
      rw [rows_of_models (of_models first), rows_of_models (of_models second)]
      exact congrArg _ models
    have rows := sorted_iff.mp sorted total
    rw [filters, filters] at rows
    exact List.map_injective_iff.mpr (model_row_injective calls) rows
  · intro alike
    rw [sorted_iff.mpr]
    intro total
    rw [filters, filters, alike]

theorem summarize_reverse_iff :
    summarizeUsage env (entries calls.reverse) = summarizeUsage env (entries calls) ↔
      TiesAgree calls := by
  have names : modelNames calls.reverse = (modelNames calls).reverse := List.map_reverse
  have lengths : (entries calls.reverse).length = (entries calls).length := by
    rw [entries, entries, List.length_map, List.length_map, List.length_reverse]
  have commutes : RightCommutative UsageTotals.add := ⟨totals_add_comm⟩
  have totals : (entries calls.reverse).foldl UsageTotals.add {} =
      (entries calls).foldl UsageTotals.add {} :=
    ((List.reverse_perm calls).map _).foldl_eq _
  rw [summarizeUsage, summarizeUsage, lengths, totals, UsageSummary.mk.injEq,
    by_model_values (List.Perm.refl calls), by_model_values (List.reverse_perm calls), names,
    shown_rows_iff]
  constructor
  · intro same total
    exact (same.2.1 total).symm
  · intro agree
    exact ⟨rfl, fun total => (agree total).symm, rfl⟩

end Agreement

end AiEnterpriseOs.ReadModel
