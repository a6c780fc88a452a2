import AiEnterpriseOs.Runtime.Supervision

/-!
# The outcome of a recovery

Which actions a recovery takes and what it returns depend on the policies, the
factories and the process table, and not on what earlier recoveries changed. A
recovery changes the records of its own component alone.
-/

namespace AiEnterpriseOs.Runtime

open Library

namespace RuntimeEngine

variable {Instance : Type} (outside : Outside)

/-- The actions that `execute` takes. -/
def takenActions (runtime : RuntimeEngine Instance) (component : String) (attempts : Nat) :
    List String → List String
  | [] => []
  | action :: rest =>
    if (runtime.takeAction outside component attempts action).isSome then
      if action ≠ "escalate" then [action]
      else action :: takenActions runtime component attempts rest
    else takenActions runtime component attempts rest

/-- The result of the recovery that is the given attempt. -/
def outcome (runtime : RuntimeEngine Instance) (component : String) (attempts : Nat) :
    RecoveryResult :=
  match runtime.policyFor component with
  | none => refusal component attempts "No enabled recovery policy configured"
  | some policy =>
    if policy.enabled = false then
      refusal component attempts "No enabled recovery policy configured"
    else if runtime.maxAttempts policy < attempts then
      refusal component attempts ("Max attempts (" ++ toString (runtime.maxAttempts policy) ++
          ") exceeded; actions attempted: " ++ ", ".intercalate policy.actions)
    else
      executed component policy attempts
        (runtime.takenActions outside component attempts policy.actions)

/-- The tables that decide about recoveries are the same. -/
structure SameRemedies (first second : RuntimeEngine Instance) : Prop where
  engines : ∀ name, (second.engines.get? name).isSome = (first.engines.get? name).isSome
  processes : second.processes = first.processes
  eventBus : second.recovery.eventBus = first.recovery.eventBus
  defaultMaxAttempts : second.recovery.defaultMaxAttempts = first.recovery.defaultMaxAttempts
  policies : second.recovery.policies = first.recovery.policies
  factories : second.recovery.factories = first.recovery.factories

theorem SameRemedies.refl (runtime : RuntimeEngine Instance) : SameRemedies runtime runtime :=
  ⟨fun _ => rfl, rfl, rfl, rfl, rfl, rfl⟩

theorem SameRemedies.trans {first second third : RuntimeEngine Instance}
    (left : SameRemedies first second) (right : SameRemedies second third) :
    SameRemedies first third where
  engines name := (right.engines name).trans (left.engines name)
  processes := right.processes.trans left.processes
  eventBus := right.eventBus.trans left.eventBus
  defaultMaxAttempts := right.defaultMaxAttempts.trans left.defaultMaxAttempts
  policies := right.policies.trans left.policies
  factories := right.factories.trans left.factories

section Congruence

variable {first second : RuntimeEngine Instance}

theorem policy_for_congr (same : SameRemedies first second) (component : String) :
    second.policyFor component = first.policyFor component := by
  unfold policyFor
  rw [same.policies, same.processes, same.engines component]

theorem take_action_congr (same : SameRemedies first second) (component : String)
    (attempts : Nat) (action : String) :
    (second.takeAction outside component attempts action).isSome =
      (first.takeAction outside component attempts action).isSome := by
  have restarts : (second.restart outside component attempts).isSome =
      (first.restart outside component attempts).isSome := by
    unfold restart
    rw [same.processes, same.factories, same.engines component]
    dsimp only
    split_ifs
    all_goals
      cases first.recovery.factories.get? component with
      | none => rfl
      | some factory => cases factory <;> rfl
  unfold takeAction
  rw [same.processes, same.eventBus]
  split_ifs <;> first | rfl | exact restarts

theorem taken_actions_congr (same : SameRemedies first second) (component : String)
    (attempts : Nat) (actions : List String) :
    second.takenActions outside component attempts actions =
      first.takenActions outside component attempts actions := by
  induction actions with
  | nil => rfl
  | cons action rest ih =>
    rw [takenActions, takenActions, take_action_congr outside same, ih]

theorem outcome_congr (same : SameRemedies first second) (component : String) (attempts : Nat) :
    second.outcome outside component attempts = first.outcome outside component attempts := by
  have limits : ∀ policy, second.maxAttempts policy = first.maxAttempts policy := by
    intro policy
    unfold maxAttempts
    rw [same.defaultMaxAttempts]
  unfold outcome
  rw [policy_for_congr same]
  simp only [limits, taken_actions_congr outside same]

end Congruence

section Recover

variable (runtime : RuntimeEngine Instance) (component : String) (attempts : Nat)

/-- The component is restarted through the factory of its engine. -/
def RestartsEngine : Prop :=
  component ∉ runtime.processes ∧ runtime.recovery.factories.get? component = some .engine

instance : Decidable (runtime.RestartsEngine component) :=
  inferInstanceAs (Decidable (_ ∧ _))

/-- The runtime after a restart: that of an engine sends a beat. -/
def restartedState : RuntimeEngine Instance :=
  { runtime with
    heartbeats :=
      if runtime.RestartsEngine component then
        runtime.heartbeats.beat component runtime.clock
      else runtime.heartbeats
    restarted := runtime.restarted ++ [component] }

theorem restart_some {after : RuntimeEngine Instance}
    (restarted : runtime.restart outside component attempts = some after) :
    after = runtime.restartedState component := by
  unfold restart at restarted
  unfold restartedState
  dsimp only at restarted
  split at restarted
  · next process =>
      have notEngine : ¬runtime.RestartsEngine component := fun engine => engine.1 process
      split at restarted
      · cases restarted
      · rw [← Option.some.inj restarted, if_neg notEngine]
  · next noProcess =>
      split at restarted
      · next factory =>
          have engine : runtime.RestartsEngine component := ⟨noProcess, factory⟩
          split at restarted
          · rw [← Option.some.inj restarted, if_pos engine]
            rfl
          · cases restarted
      · next factory =>
          have notEngine : ¬runtime.RestartsEngine component := by
            rintro ⟨_, engine⟩
            rw [factory] at engine
            cases engine
          split at restarted
          · cases restarted
          · rw [← Option.some.inj restarted, if_neg notEngine]
      · cases restarted

theorem take_action_some {action : String} {after : RuntimeEngine Instance}
    (other : action ≠ "restart")
    (taken : runtime.takeAction outside component attempts action = some after) :
    after = runtime := by
  unfold takeAction at taken
  rw [if_neg other] at taken
  split_ifs at taken
  · exact (Option.some.inj taken).symm
  · exact (Option.some.inj taken).symm

/-- The runtime after the actions: a restart is the one that changes it. -/
def afterActions (taken : List String) : RuntimeEngine Instance :=
  if "restart" ∈ taken then runtime.restartedState component else runtime

theorem execute_spec (actions : List String) : execute outside component attempts actions runtime =
      (runtime.afterActions component (runtime.takenActions outside component attempts actions),
        runtime.takenActions outside component attempts actions) := by
  induction actions with
  | nil => rfl
  | cons action rest ih =>
    rw [execute, takenActions]
    cases taken : runtime.takeAction outside component attempts action with
    | none =>
      simp only [Option.isSome_none, Bool.false_eq_true, if_false]
      exact ih
    | some after =>
      simp only [Option.isSome_some, if_true]
      by_cases escalates : action = "escalate"
      · have notRestart : "restart" ≠ action := by
          rw [escalates]
          decide
        have same := take_action_some outside runtime component attempts notRestart.symm taken
        simp only [ne_eq, escalates, not_true_eq_false, if_false, same, ih]
        simp only [afterActions, List.mem_cons, ← escalates, notRestart, false_or]
      · simp only [ne_eq, escalates, not_false_eq_true, if_true]
        by_cases isRestart : action = "restart"
        · rw [isRestart, takeAction, if_pos rfl] at taken
          rw [restart_some outside runtime component attempts taken, isRestart]
          simp only [afterActions, List.mem_singleton, if_true]
        · have same := take_action_some outside runtime component attempts isRestart taken
          have absent : "restart" ∉ [action] := by
            rw [List.mem_singleton]
            exact fun equal => isRestart equal.symm
          simp only [afterActions, absent, if_false, same]

theorem executed_actions (policy : RecoveryPolicy) (taken : List String) :
    (executed component policy attempts taken).actionsTaken = taken := by
  unfold executed
  split
  · rfl
  · next none => exact (not_not.mp none).symm

theorem attempt_recovery_spec : runtime.attemptRecovery outside component attempts =
      (runtime.afterActions component (runtime.outcome outside component attempts).actionsTaken,
        runtime.outcome outside component attempts) := by
  unfold attemptRecovery outcome
  cases runtime.policyFor component with
  | none => rfl
  | some policy =>
    dsimp only
    split
    · rfl
    · split
      · rfl
      · rw [execute_spec, executed_actions]

theorem count_attempt_same : SameRemedies runtime (runtime.countAttempt component attempts) :=
  ⟨fun _ => rfl, rfl, rfl, rfl, rfl, rfl⟩

/-- The result of the component's next recovery. -/
def nextOutcome : RecoveryResult :=
  runtime.outcome outside component (runtime.recovery.attempts.getD component 0 + 1)

/-- What a recovery with this result leaves behind. -/
def recoveredState (result : RecoveryResult) : RuntimeEngine Instance :=
  { runtime with
    heartbeats :=
      if "restart" ∈ result.actionsTaken ∧ runtime.RestartsEngine component then
        runtime.heartbeats.beat component runtime.clock
      else runtime.heartbeats
    recovery :=
      { runtime.recovery with
        attempts :=
          runtime.recovery.attempts.set component (runtime.recovery.attempts.getD component 0 + 1)
        results :=
          runtime.recovery.results.set component
            (runtime.recovery.results.getD component [] ++ [result]) }
    restarted :=
      if "restart" ∈ result.actionsTaken then runtime.restarted ++ [component]
      else runtime.restarted }

theorem recover_spec : runtime.recover outside component =
      (runtime.recoveredState component (runtime.nextOutcome outside component),
        runtime.nextOutcome outside component) := by
  let attempts := runtime.recovery.attempts.getD component 0 + 1
  have counted := outcome_congr outside
    (count_attempt_same runtime component attempts) component attempts
  unfold recover
  dsimp only
  rw [attempt_recovery_spec, counted]
  apply Prod.ext
  · change ((runtime.countAttempt component attempts).afterActions component
      (runtime.nextOutcome outside component).actionsTaken).fileResult component
        (runtime.nextOutcome outside component) = _
    unfold afterActions
    by_cases restarts : "restart" ∈ (runtime.nextOutcome outside component).actionsTaken
    · rw [if_pos restarts]
      unfold recoveredState
      simp only [restarts, true_and, if_true]
      rfl
    · rw [if_neg restarts]
      unfold recoveredState
      simp only [restarts, false_and, if_false]
      rfl
  · rfl

theorem on_failure_live (reason : String) (live : component ∉ runtime.isolated) :
    let result := runtime.nextOutcome outside component
    let recovered := runtime.recoveredState component result
    runtime.onFailure outside component reason =
      (if Isolates result then recovered.isolate component else recovered).onEngineFailed
        component reason result := by
  intro result recovered
  rw [onFailure, if_neg live, recover_spec]

theorem on_failure_isolated (reason : String) (isolated : component ∈ runtime.isolated) :
    runtime.onFailure outside component reason = runtime := by
  rw [onFailure, if_pos isolated]

end Recover

section Frame

variable (runtime : RuntimeEngine Instance) (component : String)

theorem mark_engines (name : String) (status : EngineStateStatus) (health : HealthStatus)
    (message : String) (other : String) :
    ((runtime.markEngineStatus name status health message).engines.get? other).isSome =
      (runtime.engines.get? other).isSome := by
  unfold markEngineStatus
  dsimp only
  rw [OrderedDict.get_modify]
  split
  · next same => rw [same, Option.isSome_map]
  · rfl

theorem on_engine_failed_frame (reason : String) (result : RecoveryResult) :
    ∃ engines, runtime.onEngineFailed component reason result =
        { runtime with engines := engines } ∧
      ∀ other, (engines.get? other).isSome = (runtime.engines.get? other).isSome := by
  unfold onEngineFailed
  dsimp only
  split
  · exact ⟨_, rfl, mark_engines runtime component _ _ _⟩
  · exact ⟨_, rfl, mark_engines runtime component _ _ _⟩

theorem on_failure_same (reason : String) :
    SameRemedies runtime (runtime.onFailure outside component reason) := by
  by_cases isolated : component ∈ runtime.isolated
  · rw [on_failure_isolated outside runtime component reason isolated]
    exact SameRemedies.refl runtime
  · rw [on_failure_live outside runtime component reason isolated]
    split
    · obtain ⟨engines, marked, kept⟩ := on_engine_failed_frame
        ((runtime.recoveredState component (runtime.nextOutcome outside component)).isolate
          component) component reason (runtime.nextOutcome outside component)
      rw [marked]
      exact ⟨kept, rfl, rfl, rfl, rfl, rfl⟩
    · obtain ⟨engines, marked, kept⟩ := on_engine_failed_frame
        (runtime.recoveredState component (runtime.nextOutcome outside component))
        component reason (runtime.nextOutcome outside component)
      rw [marked]
      exact ⟨kept, rfl, rfl, rfl, rfl, rfl⟩

end Frame

end RuntimeEngine

end AiEnterpriseOs.Runtime
