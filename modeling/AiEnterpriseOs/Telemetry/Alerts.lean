import AiEnterpriseOs.Telemetry.FailOpen
import AiEnterpriseOs.Telemetry.Rollups

/-!
# Isolation alerts

The records that the supervisor appends to the alert log, and what the summary
of the log makes of them.
-/

namespace AiEnterpriseOs.Telemetry

open Library

inductive AlertKind where
  | opened
  | resolved
  deriving DecidableEq

def AlertKind.text : AlertKind → String
  | opened => "open"
  | resolved => "resolved"

structure Alert where
  timestamp : String
  kind : AlertKind
  component : String
  reason : String
  attempts : Option Nat

namespace Alert

def value (alert : Alert) : PyValue :=
  .dict [ ("timestamp", .str alert.timestamp), ("kind", .str alert.kind.text),
      ("component", .str alert.component), ("reason", .str alert.reason),
      ("attempts", match alert.attempts with
        | none => .none
        | some attempts => .int attempts),
      ("source", .str "runtime.supervisor") ]

def line (alert : Alert) : LogLine := .record alert.value

/-- The component under which the summary files the record. -/
def filedUnder (alert : Alert) : String :=
  if alert.component = "" then "(unknown)" else alert.component

theorem filed_under_named {alert : Alert} (named : alert.component ≠ "") :
    alert.filedUnder = alert.component :=
  if_neg named

theorem filed_under_unnamed {alert : Alert} (unnamed : alert.component = "") :
    alert.filedUnder = "(unknown)" :=
  if_pos unnamed

theorem filed_under_ne_empty (alert : Alert) : alert.filedUnder ≠ "" := by
  by_cases unnamed : alert.component = ""
  · rw [filed_under_unnamed unnamed]
    decide
  · rw [filed_under_named unnamed]
    exact unnamed

theorem component_of_value (env : ReaderEnv) (alert : Alert) :
    componentOf env alert.value = alert.filedUnder := by
  have found : alert.value.get? "component" = some (.str alert.component) := by
    simp [value, PyValue.get?, PyValue.field]
  rw [componentOf, found, filedUnder]
  by_cases unnamed : alert.component = ""
  · simp [PyValue.orElse, PyValue.truthy, text, unnamed]
  · simp [PyValue.orElse, PyValue.truthy, text, unnamed]

/-- The entry of the summary for an open record. -/
def entry (component : String) (alert : Alert) : OpenAlert :=
  { component := component
    openedAt := .str alert.timestamp
    reason := .str alert.reason
    attempts := match alert.attempts with
      | none => .none
      | some attempts => .int attempts
    source := .str "runtime.supervisor" }

theorem open_alert_value (component : String) (alert : Alert) : openAlert component alert.value =
      some (if alert.kind = .opened then some (alert.entry component) else none) := by
  obtain ⟨timestamp, kind, own, reason, attempts⟩ := alert
  by_cases empty : reason = ""
  · cases kind with
    | opened =>
      simp [openAlert, value, entry, PyValue.get?, PyValue.field, AlertKind.text,
        PyValue.orElse, PyValue.truthy, empty]
    | resolved =>
      simp [openAlert, value, PyValue.get?, PyValue.field, AlertKind.text]
  · cases kind with
    | opened =>
      simp [openAlert, value, entry, PyValue.get?, PyValue.field, AlertKind.text,
        PyValue.orElse, PyValue.truthy, empty]
    | resolved =>
      simp [openAlert, value, PyValue.get?, PyValue.field, AlertKind.text]

end Alert

/-- The alerts that `read_alerts` returns. -/
def newestAlerts (limit : Nat) (alerts : List Alert) : List Alert :=
  if limit = 0 then alerts else alerts.drop (alerts.length - limit)

def latestUnder (name : String) (alerts : List Alert) : Option Alert :=
  alerts.reverse.find? fun alert => alert.filedUnder = name

theorem latest_under_iff {name : String} {alerts : List Alert} {alert : Alert} :
    latestUnder name alerts = some alert ↔
      alert.filedUnder = name ∧ ∃ early late, alerts = early ++ alert :: late ∧
        ∀ later ∈ late, later.filedUnder ≠ name := by
  rw [latestUnder, find_last_iff, decide_eq_true_eq]
  simp only [decide_eq_false_iff_not, ne_eq]

theorem latest_under_from {name : String} {alert : Alert} (early late : List Alert)
    (filed : alert.filedUnder = name) :
    ∃ last, latestUnder name (early ++ alert :: late) = some last ∧
      last.filedUnder = name ∧ (last = alert ∨ last ∈ late) := by
  unfold latestUnder
  rw [List.reverse_append, List.reverse_cons, List.append_assoc, List.find?_append]
  cases found : late.reverse.find? fun alert => alert.filedUnder = name with
  | none => exact ⟨alert, by simp [filed], filed, .inl rfl⟩
  | some last =>
    have same : last.filedUnder = name := by simpa using List.find?_some found
    have member := List.mem_reverse.mp (List.mem_of_find?_eq_some found)
    exact ⟨last, rfl, same, .inr member⟩

theorem read_alerts (limit : Nat) (alerts : List Alert) : readLast limit (alerts.map Alert.line) =
      some ((newestAlerts limit alerts).map Alert.value) := by
  have lines : alerts.map Alert.line = (alerts.map Alert.value).map .record := by
    rw [List.map_map]
    rfl
  rw [readLast, lines, read_records, Option.map_some, lastRecords, newestAlerts]
  split_ifs
  · rfl
  · rw [List.map_drop, List.length_map]

section Summary

variable (env : ReaderEnv)

theorem latest_records (alerts : List Alert) :
    ∃ latest, (alerts.map Alert.value).foldlM (latestByComponent env) .empty = some latest ∧
      ∀ name, latest.get? name = (latestUnder name alerts).map Alert.value := by
  have objects : ∀ record ∈ alerts.map Alert.value, isObject record = true := by
    intro record member
    obtain ⟨alert, _, rfl⟩ := List.mem_map.mp member
    rfl
  refine ⟨_, (latest_fails_only_on env).eq_foldl (List.forall_mem_nil _) objects, ?_⟩
  intro name
  have assigned := OrderedDict.get_setAll_find
    (alerts.map fun alert => (alert.filedUnder, alert.value)) name
  rw [OrderedDict.setAll, List.foldl_map] at assigned
  rw [List.foldl_map]
  simp only [Alert.component_of_value]
  rw [assigned, ← List.map_reverse, List.find?_map, Option.map_map, latestUnder]
  rfl

theorem open_entries {alerts : List Alert} {latest : OrderedDict String PyValue}
    (at_name : ∀ name, latest.get? name = (latestUnder name alerts).map Alert.value) :
    ∃ entries, latest.entries.mapM (fun entry => openAlert entry.1 entry.2) = some entries ∧
      ∀ name, name ∈ entries.reduceOption.map OpenAlert.component ↔
        ∃ alert, latestUnder name alerts = some alert ∧ alert.kind = .opened := by
  let opened := fun entry : String × PyValue => (openAlert entry.1 entry.2).getD none
  have opened_value : ∀ name (alert : Alert), opened (name, alert.value) =
      if alert.kind = .opened then some (alert.entry name) else none := by
    intro name alert
    change (openAlert name alert.value).getD none = _
    rw [Alert.open_alert_value, Option.getD_some]
  have listed : ∀ entry, entry ∈ latest.entries ↔
      ∃ alert, latestUnder entry.1 alerts = some alert ∧ alert.value = entry.2 := by
    intro entry
    rw [← OrderedDict.get_eq_some_iff, at_name, Option.map_eq_some_iff]
  refine ⟨latest.entries.map opened, mapM_eq_map ?_, ?_⟩
  · intro entry member
    obtain ⟨alert, _, same⟩ := (listed entry).mp member
    change _ = some ((openAlert entry.1 entry.2).getD none)
    rw [← same, Alert.open_alert_value, Option.getD_some]
  · intro name
    simp only [List.mem_map, List.reduceOption, List.mem_filterMap, id_eq, exists_eq_right]
    constructor
    · rintro ⟨shown, ⟨entry, member, isShown⟩, rfl⟩
      obtain ⟨alert, last, same⟩ := (listed entry).mp member
      rw [← Prod.mk.eta (p := entry), ← same, opened_value] at isShown
      split_ifs at isShown with kind
      rw [← Option.some.inj isShown]
      exact ⟨alert, last, kind⟩
    · rintro ⟨alert, last, kind⟩
      refine ⟨alert.entry name, ⟨(name, alert.value), ?_, ?_⟩, rfl⟩
      · exact (listed _).mpr ⟨alert, last, rfl⟩
      · rw [opened_value, if_pos kind]

theorem summarize_alerts (alerts : List Alert) :
    ∃ summary, summarizeAlerts env (alerts.map Alert.value) = some summary ∧
      ∀ name, name ∈ summary.openAlerts.map OpenAlert.component ↔
        ∃ alert, latestUnder name alerts = some alert ∧ alert.kind = .opened := by
  cases alerts with
  | nil => exact ⟨{}, rfl, fun name => by simp [latestUnder]⟩
  | cons first rest =>
    obtain ⟨latest, folded, at_name⟩ := latest_records env (first :: rest)
    obtain ⟨entries, read, opened⟩ := open_entries at_name
    have nonempty : ((first :: rest).map Alert.value).isEmpty = false := rfl
    rw [summarizeAlerts, nonempty, folded]
    simp only [Bool.false_eq_true, if_false, Option.bind_eq_bind, Option.bind_some, read]
    refine ⟨_, rfl, ?_⟩
    intro name
    rw [← opened name]
    exact ((List.perm_insertionSort _ _).map OpenAlert.component).mem_iff

theorem alerts_summary_open (limit : Nat) (alerts : List Alert) :
    ∃ summary, alertsSummary env limit (alerts.map Alert.line) = some summary ∧
      ∀ name, name ∈ summary.openAlerts.map OpenAlert.component ↔
        ∃ alert, latestUnder name (newestAlerts limit alerts) = some alert ∧
          alert.kind = .opened := by
  rw [alertsSummary, read_alerts, Option.bind_some]
  exact summarize_alerts env _

end Summary

end AiEnterpriseOs.Telemetry
