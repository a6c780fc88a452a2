import AiEnterpriseOs.Runtime.Isolation
import AiEnterpriseOs.Telemetry.Alerts

/-!
# Isolation and its alerts

The supervisor records an alert whenever it isolates or re-admits a component.
The open alerts of the summary, which reads only the newest records of the log,
are compared with the set of isolated components.
-/

namespace AiEnterpriseOs.Runtime

open Library Telemetry

structure AlertedOperation (Instance : Type) where
  operation : RuntimeOperation Instance
  timestamp : String
  /-- The further arguments of a call of `isolate`. -/
  reason : String := "manual"
  attempts : Option Nat := none

structure AlertedRuntime (Instance : Type) where
  supervised : SupervisedRuntime Instance
  alerts : List Alert

namespace AlertedRuntime

variable {Instance : Type}

def isolated (state : AlertedRuntime Instance) : Finset String :=
  state.supervised.runtime.isolated

/-- What the operation appends to the alert log. -/
def alertsOf (runtime : RuntimeEngine Instance) (call : AlertedOperation Instance) :
    List Alert :=
  match call.operation with
  | .isolate component =>
    [ { timestamp := call.timestamp
        kind := .opened
        component := component
        reason := call.reason
        attempts := call.attempts } ]
  | .unisolate component =>
    [ { timestamp := call.timestamp
        kind := .resolved
        component := component
        reason := "unisolated"
        attempts := none } ]
  | .failure outside component reason =>
    if component ∈ runtime.isolated then []
    else
      let result := (runtime.recover outside component).2
      let alert := fun why : String =>
        [ { timestamp := call.timestamp
            kind := .opened
            component := component
            reason := why ++ reason
            attempts := some result.attempts : Alert } ]
      if result.success = false then alert "recovery failed: "
      else if "isolate" ∈ result.actionsTaken then alert "isolated during recovery: "
      else []
  | _ => []

def step (state : AlertedRuntime Instance) (call : AlertedOperation Instance) :
    AlertedRuntime Instance :=
  { supervised := state.supervised.step call.operation
    alerts := state.alerts ++ alertsOf state.supervised.runtime call }

/-- A runtime in which nothing is isolated, with an empty alert log. -/
def started (runtime : RuntimeEngine Instance) : AlertedRuntime Instance :=
  { supervised := SupervisedRuntime.started runtime, alerts := [] }

/-- The components with an open alert are the isolated ones. -/
def AlertsMirrorIsolation (env : ReaderEnv) (limit : Nat) (state : AlertedRuntime Instance) :
    Prop :=
  ∃ summary, alertsSummary env limit (state.alerts.map Alert.line) = some summary ∧
    ∀ name, name ∈ summary.openAlerts.map OpenAlert.component ↔ name ∈ state.isolated

/-- Each isolated component has a name and a record among those that the summary
reads; `(unknown)` has one after those of the component without a name. -/
def Listed (limit : Nat) (state : AlertedRuntime Instance) : Prop :=
  ∀ name ∈ state.isolated, name ≠ "" ∧
    ∃ early alert late, newestAlerts limit state.alerts = early ++ alert :: late ∧
      alert.component = name ∧
      (name = "(unknown)" → ∀ later ∈ late, later.component ≠ "")

/-- A component is isolated exactly when its last record in the log is an open one. -/
def Mirrored (state : AlertedRuntime Instance) : Prop :=
  ∀ name, name ∈ state.isolated ↔
    ∃ alert, (state.alerts.reverse.find? fun alert => alert.component = name) = some alert ∧
      alert.kind = .opened

theorem failure_isolated (runtime : RuntimeEngine Instance) (outside : Outside)
    (component reason : String) (live : component ∉ runtime.isolated) :
    (runtime.onFailure outside component reason).isolated =
      if RuntimeEngine.Isolates (runtime.nextOutcome outside component) then
        insert component runtime.isolated
      else runtime.isolated := by
  rw [RuntimeEngine.on_failure_live outside runtime component reason live]
  split_ifs
  · obtain ⟨engines, marked, _⟩ := RuntimeEngine.on_engine_failed_frame
      ((runtime.recoveredState component (runtime.nextOutcome outside component)).isolate
        component) component reason (runtime.nextOutcome outside component)
    rw [marked]
    rfl
  · obtain ⟨engines, marked, _⟩ := RuntimeEngine.on_engine_failed_frame
      (runtime.recoveredState component (runtime.nextOutcome outside component))
      component reason (runtime.nextOutcome outside component)
    rw [marked]
    rfl

theorem failure_alerts (runtime : RuntimeEngine Instance) (outside : Outside)
    (component reason : String) (live : component ∉ runtime.isolated)
    {call : AlertedOperation Instance}
    (fails : call.operation = .failure outside component reason) :
    if RuntimeEngine.Isolates (runtime.nextOutcome outside component) then
      ∃ alert, alertsOf runtime call = [alert] ∧ alert.component = component ∧ alert.kind = .opened
    else alertsOf runtime call = [] := by
  unfold alertsOf RuntimeEngine.Isolates
  rw [fails]
  dsimp only
  rw [if_neg live, RuntimeEngine.recover_spec]
  by_cases failed : (runtime.nextOutcome outside component).success = false
  · simp [failed]
  · by_cases taken : "isolate" ∈ (runtime.nextOutcome outside component).actionsTaken
    · simp [failed, taken]
    · simp [failed, taken]

theorem send_isolated (state : SupervisedRuntime Instance) :
    state.send.runtime.isolated = state.runtime.isolated := by
  unfold SupervisedRuntime.send
  split
  · rfl
  · rfl
  · rfl
  · split
    · rfl
    · rfl

theorem step_cases (state : AlertedRuntime Instance) (call : AlertedOperation Instance) :
    ((state.step call).isolated = state.isolated ∧ (state.step call).alerts = state.alerts) ∨
      ∃ alert, (state.step call).alerts = state.alerts ++ [alert] ∧ (state.step call).isolated =
          if alert.kind = .opened then insert alert.component state.isolated
          else state.isolated.erase alert.component := by
  obtain ⟨operation, timestamp, why, attempts⟩ := call
  have silent : ∀ {after : AlertedRuntime Instance},
      after.isolated = state.isolated → after.alerts = state.alerts ++ [] →
        after.isolated = state.isolated ∧ after.alerts = state.alerts :=
    fun same none => ⟨same, none.trans (List.append_nil _)⟩
  cases operation with
  | isolate component => exact .inr ⟨_, rfl, rfl⟩
  | unisolate component => exact .inr ⟨_, rfl, rfl⟩
  | beat component => exact .inl (silent rfl rfl)
  | send => exact .inl (silent (send_isolated state.supervised) rfl)
  | registerEngine name engine =>
    exact .inl (silent (RuntimeEngine.unregister_absent _ name).2 rfl)
  | unregisterEngine name =>
    exact .inl (silent (RuntimeEngine.unregister_absent _ name).2 rfl)
  | recoverEngine outside name =>
    refine .inl (silent ?_ rfl)
    change (state.supervised.runtime.recover outside name).1.isolated = _
    rw [RuntimeEngine.recover_spec]
    rfl
  | elapse clock => exact .inl (silent rfl rfl)
  | failure outside component reason =>
    let runtime := state.supervised.runtime
    by_cases hit : component ∈ runtime.isolated
    · have none : alertsOf runtime ⟨.failure outside component reason, timestamp, why,
          attempts⟩ = [] := if_pos hit
      refine .inl (silent ?_ (congrArg (state.alerts ++ ·) none))
      exact congrArg RuntimeEngine.isolated
        (RuntimeEngine.on_failure_isolated outside runtime component reason hit)
    · have isolated := failure_isolated runtime outside component reason hit
      have alerts := @failure_alerts Instance runtime outside component reason hit
        ⟨.failure outside component reason, timestamp, why, attempts⟩ rfl
      split_ifs at isolated alerts
      · obtain ⟨alert, written, same, kind⟩ := alerts
        refine .inr ⟨alert, congrArg (state.alerts ++ ·) written, ?_⟩
        rw [if_pos kind, same]
        exact isolated
      · exact .inl (silent isolated (congrArg (state.alerts ++ ·) alerts))

theorem mirrored_step (state : AlertedRuntime Instance) (call : AlertedOperation Instance)
    (mirrored : Mirrored state) : Mirrored (state.step call) := by
  intro name
  rcases step_cases state call with ⟨same, none⟩ | ⟨alert, written, changed⟩
  · rw [same, none]
    exact mirrored name
  · rw [written, changed, List.reverse_append, List.reverse_singleton, List.singleton_append,
      List.find?_cons]
    by_cases here : alert.component = name
    · rw [decide_eq_true here]
      by_cases kind : alert.kind = .opened
      · simp [kind, here]
      · simp [kind, here]
    · rw [decide_eq_false here, ← mirrored name]
      by_cases kind : alert.kind = .opened
      · rw [if_pos kind, Finset.mem_insert, or_iff_right fun same => here same.symm]
      · rw [if_neg kind, Finset.mem_erase]
        exact and_iff_right fun same => here same.symm

theorem mirrored_run (runtime : RuntimeEngine Instance) (calls : List (AlertedOperation Instance)) :
    Mirrored (runInputs step (started runtime) calls) := by
  apply invariant_of_steps step mirrored_step
  intro name
  exact iff_of_false (Finset.notMem_empty name) nofun

section Window

variable {state : AlertedRuntime Instance} {limit : Nat}

theorem window_last_isolated (mirrored : Mirrored state) {alert : Alert}
    {early late : List Alert} (split : newestAlerts limit state.alerts = early ++ alert :: late)
    (final : ∀ later ∈ late, later.component ≠ alert.component) :
    alert.component ∈ state.isolated ↔ alert.kind = .opened := by
  obtain ⟨front, whole⟩ : ∃ front, state.alerts = front ++ (early ++ alert :: late) := by
    rw [← split]
    unfold newestAlerts
    split_ifs
    · exact ⟨[], rfl⟩
    · exact ⟨_, (List.take_append_drop _ _).symm⟩
  have last : (state.alerts.reverse.find? fun other => other.component = alert.component) =
      some alert := by
    rw [find_last_iff]
    refine ⟨decide_eq_true rfl, front ++ early, late, ?_, ?_⟩
    · rw [whole, List.append_assoc]
    · intro later member
      exact decide_eq_false (final later member)
  rw [mirrored alert.component, last]
  simp

theorem latest_under_isolated (mirrored : Mirrored state) {name : String} {alert : Alert}
    (latest : latestUnder name (newestAlerts limit state.alerts) = some alert) :
    alert.component ∈ state.isolated ↔ alert.kind = .opened := by
  obtain ⟨filed, early, late, split, final⟩ := latest_under_iff.mp latest
  apply window_last_isolated mirrored split
  intro later member same
  have under : later.filedUnder = alert.filedUnder := by
    rw [Alert.filedUnder, same, Alert.filedUnder]
  exact final later member (under.trans filed)

theorem alerts_mirror_iff (env : ReaderEnv) (mirrored : Mirrored state) :
    AlertsMirrorIsolation env limit state ↔ Listed limit state := by
  obtain ⟨summary, read, shown⟩ := alerts_summary_open env limit state.alerts
  have same : AlertsMirrorIsolation env limit state ↔
      ∀ name, (∃ alert, latestUnder name (newestAlerts limit state.alerts) = some alert ∧
        alert.kind = .opened) ↔ name ∈ state.isolated := by
    simp only [AlertsMirrorIsolation, read, Option.some.injEq, exists_eq_left', shown]
  rw [same]
  constructor
  · intro agree name hit
    obtain ⟨alert, latest, kind⟩ := (agree name).mpr hit
    obtain ⟨filed, early, late, split, final⟩ := latest_under_iff.mp latest
    have own : alert.component ≠ "" := by
      intro unnamed
      have isolated := (latest_under_isolated mirrored latest).mpr kind
      rw [unnamed] at isolated
      obtain ⟨other, found, _⟩ := (agree "").mpr isolated
      exact other.filed_under_ne_empty (latest_under_iff.mp found).1
    have component : alert.component = name := (Alert.filed_under_named own).symm.trans filed
    refine ⟨component ▸ own, early, alert, late, split, component, ?_⟩
    intro unknown later member unnamed
    exact final later member ((Alert.filed_under_unnamed unnamed).trans unknown.symm)
  · intro listed name
    constructor
    · rintro ⟨alert, latest, kind⟩
      have isolated := (latest_under_isolated mirrored latest).mpr kind
      rw [← (latest_under_iff.mp latest).1,
        Alert.filed_under_named (listed alert.component isolated).1]
      exact isolated
    · intro hit
      obtain ⟨named, early, alert, late, split, component, clean⟩ := listed name hit
      have filed : alert.filedUnder = name := by
        rw [Alert.filed_under_named (component ▸ named), component]
      obtain ⟨last, latest, lastFiled, place⟩ := latest_under_from early late filed
      rw [← split] at latest
      have own : last.component = name := by
        rcases place with equal | later
        · rw [equal, component]
        · by_cases unnamed : last.component = ""
          · have unknown := lastFiled.symm.trans (Alert.filed_under_unnamed unnamed)
            exact absurd unnamed (clean unknown last later)
          · exact (Alert.filed_under_named unnamed).symm.trans lastFiled
      exact ⟨last, latest, (latest_under_isolated mirrored latest).mp (own ▸ hit)⟩

end Window

/-- After every history the open alerts are those of the isolated components exactly when
each of these has its alert among the records that the summary reads. -/
theorem open_alerts_mirror_iff (env : ReaderEnv) (limit : Nat)
    (runtime : RuntimeEngine Instance) (calls : List (AlertedOperation Instance)) :
    AlertsMirrorIsolation env limit (runInputs step (started runtime) calls) ↔
      Listed limit (runInputs step (started runtime) calls) :=
  alerts_mirror_iff env (mirrored_run runtime calls)

def isolateAt (component : String) : AlertedOperation Unit where
  operation := .isolate component
  timestamp := "2026-08-04T10:00:00+00:00"

def unisolateAt (component : String) : AlertedOperation Unit where
  operation := .unisolate component
  timestamp := "2026-08-04T10:00:00+00:00"

/-- Library functions that no alert depends on. -/
def plainEnv : ReaderEnv where
  str _ := ""
  fromisoformat _ := .invalid
  hourIsoformat _ := ""
  dateIsoformat _ := ""
  int _ := none
  float _ := none
  plus _ _ := none
  floatPlus left right := left + right
  mean total count := total / count
  roundCost cost := cost
  percent _ _ := none

/-- One component is isolated and stays so, another is isolated and re-admitted a hundred
times: the summary no longer reads the first alert. -/
theorem old_alert_forgotten :
    let calls := isolateAt "memory" ::
      (List.replicate 100 [isolateAt "events", unisolateAt "events"]).flatten
    let final := runInputs step (started (RuntimeEngine.created 15 3 3 true false
      shippedPolicies)) calls
    final.isolated = {"memory"} ∧ ¬AlertsMirrorIsolation plainEnv 200 final := by
  intro calls final
  have isolated : final.isolated = {"memory"} := by decide +kernel
  refine ⟨isolated, ?_⟩
  rw [alerts_mirror_iff plainEnv (mirrored_run _ _)]
  intro listed
  obtain ⟨_, early, alert, late, split, component, _⟩ := listed "memory"
    (by rw [isolated]; exact Finset.mem_singleton_self _)
  have others : ∀ alert ∈ newestAlerts 200 final.alerts, alert.component ≠ "memory" := by
    decide +kernel
  exact others alert (by rw [split]; simp) component

end AlertedRuntime

end AiEnterpriseOs.Runtime
