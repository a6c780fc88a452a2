import AiEnterpriseOs.Runtime.RecoveryOutcome
import Mathlib.Logic.Function.Iterate

/-!
# One failure, one recovery

What a pass does to one component is a number of failures reported for it, one
after the other. Each is a recovery attempt until one of them isolates the
component. The heartbeat manager reports a failure through its callback and in
the list it returns.
-/

namespace AiEnterpriseOs.Runtime

open Library

/-- What supervision keeps about one component. -/
@[ext] structure ComponentRecord where
  isolated : Bool
  attempts : Nat
  results : List RecoveryResult
  restarts : Nat

def RecoveryResult.restarts (result : RecoveryResult) : Nat :=
  if "restart" ∈ result.actionsTaken then 1 else 0

namespace ComponentRecord

/-- A failure of the component, where `outcome` is the result of an attempt. -/
def fail (outcome : Nat → RecoveryResult) (record : ComponentRecord) : ComponentRecord :=
  if record.isolated then record
  else
    let result := outcome (record.attempts + 1)
    { isolated := RuntimeEngine.Isolates result
      attempts := record.attempts + 1
      results := record.results ++ [result]
      restarts := record.restarts + result.restarts }

variable (outcome : Nat → RecoveryResult)

theorem fail_isolated {record : ComponentRecord} (isolated : record.isolated = true) :
    record.fail outcome = record := by
  rw [fail, if_pos isolated]

theorem fail_live {record : ComponentRecord} (live : record.isolated = false) :
    record.fail outcome =
      { isolated := RuntimeEngine.Isolates (outcome (record.attempts + 1))
        attempts := record.attempts + 1
        results := record.results ++ [outcome (record.attempts + 1)]
        restarts := record.restarts + (outcome (record.attempts + 1)).restarts } := by
  rw [fail, live]
  rfl

theorem fails_isolated {record : ComponentRecord} (isolated : record.isolated = true)
    (count : Nat) : (fail outcome)^[count] record = record :=
  Function.iterate_fixed (fail_isolated outcome isolated) count

theorem fails_results_length (record : ComponentRecord) (count : Nat) :
    record.results.length ≤ ((fail outcome)^[count] record).results.length := by
  induction count generalizing record with
  | zero => exact le_refl _
  | succ count ih =>
    rw [Function.iterate_succ_apply]
    refine le_trans ?_ (ih _)
    cases isolated : record.isolated with
    | true => rw [fail_isolated outcome isolated]
    | false =>
      rw [fail_live outcome isolated, List.length_append]
      omega

/-- Exactly one result is filed, and the restarts are those of that result. -/
def RecoveredOnce (before after : ComponentRecord) : Prop :=
  ∃ result, after.results = before.results ++ [result] ∧
    after.restarts = before.restarts + result.restarts

theorem recovered_once_iff (record : ComponentRecord) (count : Nat) :
    RecoveredOnce record ((fail outcome)^[count + 1] record) ↔ record.isolated = false ∧
        (RuntimeEngine.Isolates (outcome (record.attempts + 1)) ∨ count = 0) := by
  cases isolated : record.isolated with
  | true =>
    rw [fails_isolated outcome isolated]
    refine iff_of_false ?_ nofun
    rintro ⟨result, same, _⟩
    have lengths := congrArg List.length same
    rw [List.length_append, List.length_singleton] at lengths
    omega
  | false =>
    rw [Function.iterate_succ_apply]
    have first := fail_live outcome isolated
    simp only [true_and]
    by_cases isolates : RuntimeEngine.Isolates (outcome (record.attempts + 1))
    · have stays : (record.fail outcome).isolated = true := by
        rw [first]
        exact decide_eq_true isolates
      rw [fails_isolated outcome stays, first]
      exact iff_of_true ⟨_, rfl, rfl⟩ (Or.inl isolates)
    · cases count with
      | zero =>
        rw [Function.iterate_zero_apply, first]
        exact iff_of_true ⟨_, rfl, rfl⟩ (Or.inr rfl)
      | succ count =>
        refine iff_of_false ?_ (not_or.mpr ⟨isolates, Nat.succ_ne_zero count⟩)
        rintro ⟨result, same, _⟩
        have live : (record.fail outcome).isolated = false := by
          rw [first]
          exact decide_eq_false isolates
        have longer := fails_results_length outcome ((record.fail outcome).fail outcome) count
        rw [Function.iterate_succ_apply] at same
        rw [same, fail_live outcome live, first] at longer
        simp only [List.length_append, List.length_singleton] at longer
        omega

end ComponentRecord

namespace RuntimeEngine

variable {Instance : Type}

def record (runtime : RuntimeEngine Instance) (component : String) : ComponentRecord :=
  { isolated := component ∈ runtime.isolated
    attempts := runtime.recovery.attempts.getD component 0
    results := runtime.recovery.results.getD component []
    restarts := runtime.restarted.count component }

variable (outside : Outside)

section Failure

theorem recovered_record (runtime : RuntimeEngine Instance) (component other : String)
    (result : RecoveryResult) :
    (runtime.recoveredState component result).record other =
      if other = component then
        { runtime.record component with
          attempts := (runtime.record component).attempts + 1
          results := (runtime.record component).results ++ [result]
          restarts := (runtime.record component).restarts + result.restarts }
      else runtime.record other := by
  unfold record recoveredState RecoveryResult.restarts
  dsimp only
  rw [OrderedDict.getD_set, OrderedDict.getD_set]
  by_cases same : other = component
  · rw [same, if_pos rfl, if_pos rfl, if_pos rfl]
    congr 1
    split
    · rw [List.count_append, List.count_singleton_self]
    · rfl
  · rw [if_neg same, if_neg same, if_neg same]
    congr 1
    split
    · rw [List.count_append, List.count_singleton, if_neg (by simpa using Ne.symm same)]
      rfl
    · rfl

theorem isolate_record (runtime : RuntimeEngine Instance) (component other : String) :
    (runtime.isolate component).record other =
      if other = component then { runtime.record component with isolated := true }
      else runtime.record other := by
  unfold record isolate
  by_cases same : other = component
  · simp [same]
  · simp [same]

theorem on_failure_record (runtime : RuntimeEngine Instance) (component other reason : String) :
    (runtime.onFailure outside component reason).record other =
      if other = component then
        (runtime.record component).fail (runtime.outcome outside component)
      else runtime.record other := by
  by_cases isolated : component ∈ runtime.isolated
  · rw [on_failure_isolated outside runtime component reason isolated,
      ComponentRecord.fail_isolated _ (by simpa [record] using isolated)]
    split
    · next same => rw [same]
    · rfl
  · have live : (runtime.record component).isolated = false := by simpa [record] using isolated
    rw [on_failure_live outside runtime component reason isolated, ComponentRecord.fail_live _ live]
    have marks : ∀ (state : RuntimeEngine Instance) (result : RecoveryResult),
        (state.onEngineFailed component reason result).record other = state.record other := by
      intro state result
      obtain ⟨engines, marked, _⟩ := on_engine_failed_frame state component reason result
      rw [marked]
      rfl
    rw [marks]
    change (if Isolates (runtime.nextOutcome outside component) then _ else _ :
      RuntimeEngine Instance).record other = _
    split
    · next isolates =>
        rw [isolate_record, recovered_record, recovered_record, if_pos rfl]
        split
        · have decided : decide (Isolates (runtime.nextOutcome outside component)) = true :=
            decide_eq_true isolates
          exact ComponentRecord.ext decided.symm rfl rfl rfl
        · rfl
    · next isolates =>
        rw [recovered_record]
        split
        · have decided : decide (Isolates (runtime.nextOutcome outside component)) = false :=
            decide_eq_false isolates
          exact ComponentRecord.ext (live.trans decided.symm) rfl rfl rfl
        · rfl

end Failure

section Pass

variable (component : String)

/-- Between the two states so many failures of the component are reported. -/
structure Fails (count : Nat) (before after : RuntimeEngine Instance) : Prop where
  remedies : SameRemedies before after
  callback : after.heartbeats.onFailure = before.heartbeats.onFailure
  record : after.record component =
    (ComponentRecord.fail (before.outcome outside component))^[count] (before.record component)
  health : component ∉ after.isolated → component ∉ before.isolated ∧
    after.healthMonitor.get? component = before.healthMonitor.get? component

variable {component}

theorem Fails.refl (runtime : RuntimeEngine Instance) :
    Fails outside component 0 runtime runtime :=
  ⟨SameRemedies.refl runtime, rfl, rfl, fun live => ⟨live, rfl⟩⟩

theorem Fails.trans {first second third : RuntimeEngine Instance} {earlier later : Nat}
    (left : Fails outside component earlier first second)
    (right : Fails outside component later second third) :
    Fails outside component (earlier + later) first third where
  remedies := left.remedies.trans right.remedies
  callback := right.callback.trans left.callback
  record := by
    have sameOutcome : second.outcome outside component = first.outcome outside component :=
      funext (outcome_congr outside left.remedies component)
    rw [right.record, left.record, sameOutcome, Nat.add_comm, Function.iterate_add_apply]
  health live := by
    obtain ⟨middle, same⟩ := right.health live
    exact ⟨(left.health middle).1, same.trans (left.health middle).2⟩

theorem set_misses_fails (runtime : RuntimeEngine Instance) (other : String) (misses : Nat) :
    Fails outside component 0 runtime (runtime.setMisses other misses) :=
  ⟨⟨fun _ => rfl, rfl, rfl, rfl, rfl, rfl⟩, rfl, rfl, fun live => ⟨live, rfl⟩⟩

theorem on_failure_frame (runtime : RuntimeEngine Instance) (failing reason : String) :
    let after := runtime.onFailure outside failing reason
    after.heartbeats.onFailure = runtime.heartbeats.onFailure ∧
      ∀ other, other ∉ after.isolated → other ∉ runtime.isolated ∧
        after.healthMonitor.get? other = runtime.healthMonitor.get? other := by
  intro after
  have recovered : ∀ result, (runtime.recoveredState failing result).heartbeats.onFailure =
        runtime.heartbeats.onFailure := by
    intro result
    unfold recoveredState
    dsimp only
    split
    · exact HeartbeatManager.beat_on_failure _ _ _
    · rfl
  by_cases isolated : failing ∈ runtime.isolated
  · have kept : after = runtime := on_failure_isolated outside runtime failing reason isolated
    rw [kept]
    exact ⟨rfl, fun _ live => ⟨live, rfl⟩⟩
  · simp only [after, on_failure_live outside runtime failing reason isolated]
    split
    · obtain ⟨engines, marked, _⟩ := on_engine_failed_frame
        ((runtime.recoveredState failing (runtime.nextOutcome outside failing)).isolate failing)
        failing reason (runtime.nextOutcome outside failing)
      rw [marked]
      refine ⟨recovered _, ?_⟩
      intro other live
      obtain ⟨different, notBefore⟩ := not_or.mp fun hit => live (Finset.mem_insert.mpr hit)
      exact ⟨notBefore, (OrderedDict.get_erase _ _ _).trans (if_neg different)⟩
    · obtain ⟨engines, marked, _⟩ := on_engine_failed_frame
        (runtime.recoveredState failing (runtime.nextOutcome outside failing))
        failing reason (runtime.nextOutcome outside failing)
      rw [marked]
      exact ⟨recovered _, fun other live => ⟨live, rfl⟩⟩

theorem on_failure_fails (runtime : RuntimeEngine Instance) (failing reason : String) :
    Fails outside component (if failing = component then 1 else 0) runtime
      (runtime.onFailure outside failing reason) where
  remedies := on_failure_same outside runtime failing reason
  callback := (on_failure_frame outside runtime failing reason).1
  record := by
    rw [on_failure_record]
    by_cases same : failing = component
    · rw [if_pos same.symm, if_pos same, same]
      rfl
    · rw [if_neg (Ne.symm same), if_neg same]
      rfl
  health := (on_failure_frame outside runtime failing reason).2 component

theorem reported_fails (calls : List (String × String)) (runtime : RuntimeEngine Instance) :
    Fails outside component ((calls.map Prod.fst).count component) runtime
      (calls.foldl (fun runtime call => runtime.onFailure outside call.1 call.2) runtime) := by
  induction calls generalizing runtime with
  | nil => exact Fails.refl outside runtime
  | cons call rest ih =>
    rw [List.map_cons, List.count_cons, List.foldl_cons, Nat.add_comm]
    have first := @on_failure_fails Instance outside component runtime call.1 call.2
    simp only [beq_iff_eq]
    exact first.trans outside (ih _)

theorem check_component_fails (now : Int) (runtime : RuntimeEngine Instance)
    (failures : List String) (checked : String) :
    ∃ declared : List String,
      (checkComponent outside now (runtime, failures) checked).2 = failures ++ declared ∧
      (declared = [] ∨ declared = [checked]) ∧
      Fails outside component
        (if runtime.heartbeats.onFailure then declared.count component else 0) runtime
        (checkComponent outside now (runtime, failures) checked).1 := by
  unfold checkComponent
  dsimp only
  split
  · generalize runtime.heartbeats.consecutiveMisses.getD checked 0 + 1 = misses
    have missed := @set_misses_fails Instance outside component runtime checked misses
    split
    · refine ⟨[checked], rfl, .inr rfl, ?_⟩
      have cleared := fun state => @set_misses_fails Instance outside component state checked 0
      by_cases callback : runtime.heartbeats.onFailure = true
      · have called := @on_failure_fails Instance outside component
          (runtime.setMisses checked misses) checked "heartbeat_timeout"
        have whole := (missed.trans outside called).trans outside (cleared _)
        have calls : (runtime.setMisses checked misses).heartbeats.onFailure = true := callback
        rw [if_pos callback, if_pos calls, List.count_singleton]
        simpa only [Nat.zero_add, Nat.add_zero, beq_iff_eq] using whole
      · have silent : ¬(runtime.setMisses checked misses).heartbeats.onFailure = true := callback
        rw [if_neg callback, if_neg silent]
        exact missed.trans outside (cleared _)
    · refine ⟨[], (List.append_nil _).symm, .inl rfl, ?_⟩
      rw [List.count_nil, ite_self]
      exact missed
  · refine ⟨[], (List.append_nil _).symm, .inl rfl, ?_⟩
    rw [List.count_nil, ite_self]
    exact set_misses_fails outside runtime checked 0

theorem check_components_fails (now : Int) (names : List String)
    (runtime : RuntimeEngine Instance) (failures : List String) :
    ∃ declared : List String,
      (names.foldl (checkComponent outside now) (runtime, failures)).2 = failures ++ declared ∧
      declared.Sublist names ∧
      Fails outside component
        (if runtime.heartbeats.onFailure then declared.count component else 0) runtime
        (names.foldl (checkComponent outside now) (runtime, failures)).1 := by
  induction names generalizing runtime failures with
  | nil =>
    refine ⟨[], (List.append_nil _).symm, List.Sublist.slnil, ?_⟩
    rw [List.count_nil, ite_self]
    exact Fails.refl outside runtime
  | cons name rest ih =>
    obtain ⟨here, listed, single, checked⟩ :=
      @check_component_fails Instance outside component now runtime failures name
    obtain ⟨later, laterListed, sublist, passed⟩ :=
      ih (checkComponent outside now (runtime, failures) name).1 (failures ++ here)
    have pair : checkComponent outside now (runtime, failures) name =
        ((checkComponent outside now (runtime, failures) name).1, failures ++ here) :=
      Prod.ext rfl listed
    refine ⟨here ++ later, ?_, ?_, ?_⟩
    · rw [List.foldl_cons, pair, laterListed, List.append_assoc]
    · rcases single with none | one
      · rw [none]
        exact sublist.cons name
      · rw [one]
        exact sublist.cons_cons name
    · rw [List.foldl_cons, pair, List.count_append]
      rw [checked.callback] at passed
      by_cases callback : runtime.heartbeats.onFailure = true
      · rw [if_pos callback] at checked passed ⊢
        exact checked.trans outside passed
      · rw [if_neg callback] at checked passed ⊢
        exact checked.trans outside passed

theorem heartbeat_check_fails (runtime : RuntimeEngine Instance) (now : Int)
    (failed : component ∈ (runtime.heartbeatCheck outside now).2) :
    (runtime.heartbeatCheck outside now).2.count component = 1 ∧
      Fails outside component (if runtime.heartbeats.onFailure then 1 else 0) runtime
        (runtime.heartbeatCheck outside now).1 := by
  obtain ⟨declared, listed, sublist, passed⟩ := @check_components_fails Instance outside component
    now runtime.heartbeats.heartbeats.keys runtime []
  rw [List.nil_append] at listed
  have once : declared.count component = 1 := by
    apply List.count_eq_one_of_mem (runtime.heartbeats.heartbeats.distinct.sublist sublist)
    rw [← listed]
    exact failed
  rw [once] at passed
  exact ⟨by rw [heartbeatCheck, listed, once], passed⟩

theorem mem_health_problems (runtime : RuntimeEngine Instance) (name : String) :
    name ∈ (runtime.healthProblems outside).map Prod.fst ↔
      (runtime.healthMonitor.get? name).isSome = true ∧ HealthProblem (name, outside.probe name) ∨
        name = "system" ∧ HealthProblem (name, outside.system) := by
  have registered : name ∈ runtime.healthMonitor.keys ↔
      (runtime.healthMonitor.get? name).isSome = true := by
    rw [OrderedDict.mem_keys_iff, Option.isSome_iff_exists]
  rw [← registered]
  unfold healthProblems checkAll
  simp only [List.mem_map, List.mem_filter, List.mem_append, List.mem_singleton, decide_eq_true_eq]
  constructor
  · rintro ⟨check, ⟨listed | rfl, problem⟩, rfl⟩
    · obtain ⟨other, member, rfl⟩ := listed
      exact .inl ⟨member, problem⟩
    · exact .inr ⟨rfl, problem⟩
  · rintro (⟨member, problem⟩ | ⟨rfl, problem⟩)
    · exact ⟨_, ⟨.inl ⟨name, member, rfl⟩, problem⟩, rfl⟩
    · exact ⟨_, ⟨.inr rfl, problem⟩, rfl⟩

end Pass

/-- Exactly one recovery for a component that the heartbeat manager declares
failed in a pass: the component is not isolated, and its first recovery
isolates it, or the manager has no callback and no health check reports the
component. -/
theorem one_failure_one_recovery_iff (runtime : RuntimeEngine Instance) (now : Int)
    (component : String) (failed : component ∈ (runtime.heartbeatCheck outside now).2) :
    (runtime.record component).RecoveredOnce ((runtime.checkOnce outside now).1.record component) ↔
      component ∉ runtime.isolated ∧ (Isolates (runtime.nextOutcome outside component) ∨
          runtime.heartbeats.onFailure = false ∧
            component ∉ (runtime.healthProblems outside).map Prod.fst) := by
  let checked := (runtime.heartbeatCheck outside now).1
  let failures := (runtime.heartbeatCheck outside now).2
  let reported := failures.foldl
    (fun state name => state.onFailure outside name "heartbeat_timeout") checked
  let problems := reported.healthProblems outside
  obtain ⟨once, called⟩ := heartbeat_check_fails outside runtime now failed
  have listed : Fails outside component 1 checked reported := by
    have loop := @reported_fails Instance outside component
      (failures.map fun name => (name, "heartbeat_timeout")) checked
    have names : (failures.map fun name => (name, "heartbeat_timeout")).map Prod.fst =
        failures := by
      simp [Function.comp_def]
    rw [names, once, List.foldl_map] at loop
    exact loop
  have probed : Fails outside component ((problems.map Prod.fst).count component) reported
      (runtime.checkOnce outside now).1 := by
    have loop := @reported_fails Instance outside component
      (problems.map fun check => (check.1, check.2.value)) reported
    have names : (problems.map fun check => (check.1, check.2.value)).map Prod.fst =
        problems.map Prod.fst := by
      simp [Function.comp_def]
    rw [names, List.foldl_map] at loop
    exact loop
  have before := called.trans outside listed
  have whole := (before.trans outside probed).record
  have live : (runtime.record component).isolated = false ↔ component ∉ runtime.isolated :=
    decide_eq_false_iff_not
  rw [whole, Nat.add_right_comm, ComponentRecord.recovered_once_iff, live]
  apply and_congr_right
  intro notIsolated
  apply or_congr_right'
  intro keeps
  by_cases callback : runtime.heartbeats.onFailure = true
  · rw [if_pos callback]
    exact iff_of_false (by omega) fun quiet => Bool.noConfusion (callback.symm.trans quiet.1)
  · have quiet : runtime.heartbeats.onFailure = false := by simpa using callback
    rw [if_neg callback] at before ⊢
    have stays : component ∉ reported.isolated := by
      have first := before.record
      rw [Nat.zero_add, Function.iterate_one,
        ComponentRecord.fail_live _ (live.mpr notIsolated)] at first
      have isolated := congrArg ComponentRecord.isolated first
      exact of_decide_eq_false (isolated.trans (decide_eq_false keeps))
    have sameHealth := (before.health stays).2
    rw [Nat.zero_add, List.count_eq_zero, mem_health_problems, mem_health_problems, sameHealth]
    exact ⟨fun absent => ⟨quiet, absent⟩, fun silent => silent.2⟩

/-- A runtime with the shipped policies, whose engine has missed two beats. -/
def silentEngine (onFailure : Bool) : RuntimeEngine Unit :=
  ((created 15 3 3 onFailure false shippedPolicies).registerEngine "memory" ()).setMisses "memory" 2

/-- Without the callback the failure is reported once. -/
theorem silent_engine_recovered_once : ((silentEngine false).record "memory").RecoveredOnce
      (((silentEngine false).checkOnce .quiet 100).1.record "memory") :=
  (one_failure_one_recovery_iff .quiet (silentEngine false) 100 "memory"
    (by decide +kernel)).mpr (by decide +kernel)

/-- With the callback it is reported twice, and the engine restarted twice. -/
theorem silent_engine_recovered_twice :
    ((silentEngine true).heartbeatCheck .quiet 100).2 = ["memory"] ∧
      ¬((silentEngine true).record "memory").RecoveredOnce
        (((silentEngine true).checkOnce .quiet 100).1.record "memory") ∧
      (((silentEngine true).checkOnce .quiet 100).1.record "memory").attempts = 2 ∧
      ((silentEngine true).checkOnce .quiet 100).1.restarted = ["memory", "memory"] := by
  have twice : (((silentEngine true).checkOnce .quiet 100).1.record
      "memory").results.length = 2 := by
    decide +kernel
  refine ⟨by decide +kernel, ?_, by decide +kernel, by decide +kernel⟩
  rintro ⟨result, same, _⟩
  rw [same] at twice
  cases twice

end RuntimeEngine

end AiEnterpriseOs.Runtime
