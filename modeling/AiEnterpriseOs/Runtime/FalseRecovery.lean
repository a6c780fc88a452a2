import AiEnterpriseOs.Runtime.Isolation

/-!
# False recoveries

The recovery manager reports a success when some action was taken. The engine's
status and the metrics follow that report in different ways; both are compared
with what became of the engine's own `restart()`.
-/

namespace AiEnterpriseOs.Runtime

open Library

/-- The counters of the metrics registry that recoveries touch. -/
structure RecoveryMetrics where
  recoveryAttempts : Nat := 0
  recoverySuccesses : Nat := 0
  recoveryFailures : Nat := 0
  recoveries : Nat := 0
  failures : Nat := 0

namespace RecoveryMetrics

def recordOutcome (metrics : RecoveryMetrics) (result : RecoveryResult) : RecoveryMetrics :=
  let metrics := { metrics with recoveryAttempts := metrics.recoveryAttempts + 1 }
  if result.actionsTaken.any fun action => action = "restart" ∨ action = "reload_state" then
    { metrics with recoverySuccesses := metrics.recoverySuccesses + 1 }
  else { metrics with recoveryFailures := metrics.recoveryFailures + 1 }

/-- The counting of `_on_engine_failed`. -/
def countHandled (metrics : RecoveryMetrics) (result : RecoveryResult) : RecoveryMetrics :=
  if result.success then { metrics with recoveries := metrics.recoveries + 1 }
  else { metrics with failures := metrics.failures + 1 }

/-- One of the counters of successful recoveries has grown. -/
def CountsSuccess (before after : RecoveryMetrics) : Prop :=
  before.recoverySuccesses < after.recoverySuccesses ∨ before.recoveries < after.recoveries

end RecoveryMetrics

namespace RuntimeEngine

variable {Instance : Type} (hasRestart : Instance → Bool) (outside : Outside)

section Recovery

variable (runtime : RuntimeEngine Instance) (component : String)

def nextAttempt : Nat := runtime.recovery.attempts.getD component 0 + 1

/-- The engine has no `restart()` of its own, or its factory calls it and it returns. -/
def OwnRestartReturns (engine : Instance) : Prop :=
  hasRestart engine = true → runtime.RestartsEngine component ∧
      outside.raises component (runtime.nextAttempt component) "restart" = false

/-- The recovery restarted the engine or reloaded its state. -/
def GenuinelyRecovered (engine : Instance) (result : RecoveryResult) : Prop :=
  ("restart" ∈ result.actionsTaken ∧
      runtime.OwnRestartReturns hasRestart outside component engine) ∨
    "reload_state" ∈ result.actionsTaken

/-- After the failure is handled the engine is marked running and healthy. -/
def MarkedRecovered (reason : String) : Prop :=
  ∃ entry, (runtime.onFailure outside component reason).engines.get? component = some entry ∧
    entry.state.status = .running ∧ entry.state.health = .healthy

/-- The engine is marked as recovered and the recovery is counted as a success only if
the engine was recovered. -/
def NoFalseRecovery (reason : String) (engine : Instance) : Prop :=
  let result := (runtime.recover outside component).2
  (runtime.MarkedRecovered outside component reason →
      runtime.GenuinelyRecovered hasRestart outside component engine result) ∧
    ∀ metrics : RecoveryMetrics,
      metrics.CountsSuccess ((metrics.recordOutcome result).countHandled result) →
        runtime.GenuinelyRecovered hasRestart outside component engine result

/-- The action returns in the next recovery of the component. -/
def Returns (action : String) : Prop :=
  (runtime.takeAction outside component (runtime.nextAttempt component) action).isSome = true

instance (action : String) : Decidable (runtime.Returns outside component action) :=
  inferInstanceAs (Decidable (_ = true))

/-- The first action other than an escalation that returns. -/
def firstConcrete (actions : List String) : Option String :=
  actions.find? fun action => action ≠ "escalate" ∧ runtime.Returns outside component action

/-- If an action of the list returns, then the first one that is no escalation is a
restart, in which the engine's own `restart()` returned. -/
def RestartsFirst (engine : Instance) (actions : List String) : Prop :=
  (∀ action ∈ actions, ¬runtime.Returns outside component action) ∨
    runtime.firstConcrete outside component actions = some "restart" ∧
      runtime.OwnRestartReturns hasRestart outside component engine

/-- No recovery is attempted, or its actions restart the engine first. -/
def RecoversGenuinely (engine : Instance) : Prop :=
  ∀ policy, runtime.policyFor component = some policy → policy.enabled = true →
    (runtime.nextAttempt component : Int) ≤ runtime.maxAttempts policy →
      runtime.RestartsFirst hasRestart outside component engine policy.actions

end Recovery

section Actions

variable {runtime : RuntimeEngine Instance} {component : String}

theorem taken_cons (action : String) (rest : List String) :
    runtime.takenActions outside component (runtime.nextAttempt component) (action :: rest) =
      if runtime.Returns outside component action then
        if action ≠ "escalate" then [action]
        else action :: runtime.takenActions outside component (runtime.nextAttempt component) rest
      else runtime.takenActions outside component (runtime.nextAttempt component) rest := rfl

theorem taken_nil_iff (actions : List String) :
    runtime.takenActions outside component (runtime.nextAttempt component) actions = [] ↔
      ∀ action ∈ actions, ¬runtime.Returns outside component action := by
  induction actions with
  | nil => exact iff_of_true rfl (List.forall_mem_nil _)
  | cons action rest ih =>
    rw [taken_cons, List.forall_mem_cons]
    by_cases returns : runtime.Returns outside component action
    · rw [if_pos returns]
      refine iff_of_false ?_ fun both => both.1 returns
      split_ifs
      · exact not_false
      · exact not_false
    · rw [if_neg returns, ih, and_iff_right returns]

theorem mem_taken_iff {wanted : String} (concrete : wanted ≠ "escalate") (actions : List String) :
    wanted ∈ runtime.takenActions outside component (runtime.nextAttempt component) actions ↔
      runtime.firstConcrete outside component actions = some wanted := by
  induction actions with
  | nil => exact iff_of_false List.not_mem_nil nofun
  | cons action rest ih =>
    rw [taken_cons, firstConcrete, List.find?_cons]
    by_cases returns : runtime.Returns outside component action
    · rw [if_pos returns]
      by_cases escalates : action = "escalate"
      · have passed : decide (action ≠ "escalate" ∧
            runtime.Returns outside component action) = false := by
          simp [escalates]
        rw [passed, if_neg (not_not.mpr escalates), List.mem_cons, ih,
          or_iff_right (fun same => concrete (same.trans escalates))]
        rfl
      · rw [if_pos escalates, decide_eq_true ⟨escalates, returns⟩, List.mem_singleton]
        simp [eq_comm]
    · have passed : decide (action ≠ "escalate" ∧
          runtime.Returns outside component action) = false := by
        simp [returns]
      rw [if_neg returns, passed, ih]
      rfl

theorem reload_never_returns : ¬runtime.Returns outside component "reload_state" := by
  unfold Returns takeAction
  simp

theorem mark_recovered_iff {entry : RegisteredEngine Instance}
    (registered : runtime.engines.get? component = some entry)
    (live : component ∉ runtime.isolated) (reason : String) :
    runtime.MarkedRecovered outside component reason ↔
      (runtime.nextOutcome outside component).success = true := by
  let result := runtime.nextOutcome outside component
  obtain ⟨before, handled, kept⟩ : ∃ before : RuntimeEngine Instance,
      runtime.onFailure outside component reason = before.onEngineFailed component reason result ∧
      (before.engines.get? component).isSome = true := by
    rw [on_failure_live outside runtime component reason live]
    have present : (runtime.engines.get? component).isSome = true := by
      rw [registered]
      rfl
    exact ⟨_, rfl, by split_ifs <;> exact present⟩
  rw [MarkedRecovered, handled]
  constructor
  · rintro ⟨after, found, running, _⟩
    have marked := (on_engine_failed_entry component reason result found).2.1
    by_contra failed
    rw [running, if_neg failed] at marked
    cases marked
  · intro success
    obtain ⟨engines, framed, others⟩ := on_engine_failed_frame before component reason result
    obtain ⟨after, found⟩ := Option.isSome_iff_exists.mp ((others component).trans kept)
    have here : (before.onEngineFailed component reason result).engines.get? component =
        some after := by
      rw [framed]
      exact found
    obtain ⟨_, status, health⟩ := on_engine_failed_entry component reason result here
    rw [if_pos success] at status health
    exact ⟨after, here, status, health⟩

theorem counts_success_iff (metrics : RecoveryMetrics) :
    metrics.CountsSuccess ((metrics.recordOutcome
        (runtime.nextOutcome outside component)).countHandled
          (runtime.nextOutcome outside component)) ↔
      (runtime.nextOutcome outside component).success = true := by
  have reported := @outcome_success Instance outside runtime component
    (runtime.nextAttempt component)
  change (runtime.nextOutcome outside component).success = true ↔
    (runtime.nextOutcome outside component).actionsTaken ≠ [] at reported
  unfold RecoveryMetrics.CountsSuccess RecoveryMetrics.recordOutcome RecoveryMetrics.countHandled
  by_cases success : (runtime.nextOutcome outside component).success = true
  · refine iff_of_true (.inr ?_) success
    rw [if_pos success]
    dsimp only
    split_ifs
    · exact Nat.lt_succ_self _
    · exact Nat.lt_succ_self _
  · have none : (runtime.nextOutcome outside component).actionsTaken = [] :=
      not_not.mp fun taken => success (reported.mpr taken)
    rw [if_neg success, none]
    simp [success]

theorem genuinely_recovered_iff (engine : Instance) (policy : RecoveryPolicy) :
    ((runtime.takenActions outside component (runtime.nextAttempt component) policy.actions) ≠ [] →
        runtime.GenuinelyRecovered hasRestart outside component engine
          (executed component policy (runtime.nextAttempt component)
            (runtime.takenActions outside component (runtime.nextAttempt component)
              policy.actions))) ↔
      runtime.RestartsFirst hasRestart outside component engine policy.actions := by
  have reloads : runtime.firstConcrete outside component policy.actions ≠ some "reload_state" := by
    intro first
    have found := List.find?_some first
    exact reload_never_returns outside (of_decide_eq_true found).2
  rw [GenuinelyRecovered, executed_actions, mem_taken_iff outside (by decide),
    mem_taken_iff outside (by decide), RestartsFirst, ← taken_nil_iff,
    or_iff_left reloads, imp_iff_not_or, not_not]

theorem no_false_recovery_of_outcome {entry : RegisteredEngine Instance}
    (registered : runtime.engines.get? component = some entry)
    (live : component ∉ runtime.isolated) (reason : String) :
    runtime.NoFalseRecovery hasRestart outside component reason entry.engine ↔
      ((runtime.nextOutcome outside component).success = true →
        runtime.GenuinelyRecovered hasRestart outside component entry.engine
          (runtime.nextOutcome outside component)) := by
  rw [NoFalseRecovery, recover_spec]
  dsimp only
  simp only [mark_recovered_iff outside registered live, counts_success_iff]
  exact ⟨fun both => both.1, fun genuine => ⟨genuine, fun _ => genuine⟩⟩

theorem recovers_genuinely_of_policy {policy : RecoveryPolicy}
    (found : runtime.policyFor component = some policy) (engine : Instance) :
    runtime.RecoversGenuinely hasRestart outside component engine ↔ (policy.enabled = true →
        (runtime.nextAttempt component : Int) ≤ runtime.maxAttempts policy →
          runtime.RestartsFirst hasRestart outside component engine policy.actions) := by
  constructor
  · intro genuine
    exact genuine policy found
  · intro genuine other own
    cases found.symm.trans own
    exact genuine

/-- After a failure the engine is taken for recovered only if it was exactly when no recovery
is attempted, no action returns, or the first one that returns restarts the engine. -/
theorem no_false_recovery_iff (runtime : RuntimeEngine Instance) (component reason : String)
    (entry : RegisteredEngine Instance)
    (registered : runtime.engines.get? component = some entry)
    (live : component ∉ runtime.isolated) :
    runtime.NoFalseRecovery hasRestart outside component reason entry.engine ↔
      runtime.RecoversGenuinely hasRestart outside component entry.engine := by
  have next : runtime.nextOutcome outside component =
      runtime.outcome outside component (runtime.nextAttempt component) := rfl
  rw [no_false_recovery_of_outcome hasRestart outside registered live, next, outcome]
  cases found : runtime.policyFor component with
  | none =>
    refine iff_of_true nofun ?_
    intro policy own
    cases found.symm.trans own
  | some policy =>
    rw [recovers_genuinely_of_policy hasRestart outside found]
    dsimp only
    by_cases disabled : policy.enabled = false
    · rw [if_pos disabled]
      exact iff_of_true nofun fun enabled => absurd enabled (Bool.eq_false_iff.mp disabled)
    rw [if_neg disabled, imp_iff_right (Bool.of_not_eq_false disabled)]
    by_cases exhausted : runtime.maxAttempts policy < (runtime.nextAttempt component : Int)
    · rw [if_pos exhausted]
      exact iff_of_true nofun fun left => absurd left (not_le.mpr exhausted)
    rw [if_neg exhausted, imp_iff_right (not_lt.mp exhausted),
      ← genuinely_recovered_iff hasRestart outside entry.engine policy]
    apply imp_congr_left
    unfold executed
    split
    · next taken => exact iff_of_true rfl taken
    · next none => exact iff_of_false nofun none

end Actions

/-- A runtime with an event bus and one engine, which is recovered by these actions. -/
def oneEngine (actions : List String) : RuntimeEngine Unit :=
  (created 15 3 3 true true (OrderedDict.empty.set "engine"
      { name := "engine", enabled := true, maxAttempts := some 3, actions := actions })
    ).registerEngine "memory" ()

/-- The engine's own `restart()` raises whenever it is called. -/
def Outside.failing : Outside :=
  { raises := fun _ _ _ => true, probe := fun _ => .healthy, system := .healthy }

def oneEntry : RegisteredEngine Unit where
  engine := ()
  state := { name := "memory", status := .registered, health := .healthy, message := "" }

theorem restarted_engine_recovered :
    (oneEngine ["restart", "isolate"]).NoFalseRecovery (fun _ => true) Outside.quiet "memory"
      "heartbeat_timeout" () := by
  apply (no_false_recovery_iff (fun _ => true) Outside.quiet (oneEngine ["restart", "isolate"])
    "memory" "heartbeat_timeout" oneEntry rfl (by decide)).mpr
  intro policy found _ _
  rw [← Option.some.inj found]
  refine .inr ⟨by decide +kernel, fun _ => ⟨by decide +kernel, rfl⟩⟩

/-- The engine is reported as recovered although its own `restart()` has raised, and
although all that was done is to escalate. -/
theorem failed_restart_recovered :
    ¬(oneEngine ["restart", "isolate"]).NoFalseRecovery (fun _ => true) Outside.failing "memory"
        "heartbeat_timeout" () ∧
      ¬(oneEngine ["reload_state", "escalate"]).NoFalseRecovery (fun _ => true) Outside.quiet
        "memory" "heartbeat_timeout" () := by
  have stands : ∀ actions, (oneEngine actions).engines.get? "memory" = some oneEntry := fun _ => rfl
  constructor
  · intro honest
    have marked : (oneEngine ["restart", "isolate"]).MarkedRecovered Outside.failing "memory"
        "heartbeat_timeout" :=
      (mark_recovered_iff Outside.failing (stands _) (by decide) _).mpr (by decide +kernel)
    rcases honest.1 marked with ⟨_, returns⟩ | reloaded
    · cases (returns rfl).2
    · exact absurd reloaded (by decide +kernel)
  · intro honest
    have marked : (oneEngine ["reload_state", "escalate"]).MarkedRecovered Outside.quiet "memory"
        "heartbeat_timeout" :=
      (mark_recovered_iff Outside.quiet (stands _) (by decide) _).mpr (by decide +kernel)
    rcases honest.1 marked with ⟨restarted, _⟩ | reloaded
    · exact absurd restarted (by decide +kernel)
    · exact absurd reloaded (by decide +kernel)

end RuntimeEngine

end AiEnterpriseOs.Runtime
