import AiEnterpriseOs.Runtime.Isolation

/-!
# Readmission of an isolated engine

Isolation takes an engine out of both monitors. Readmission lifts the isolation
and resets the recovery attempts; the heartbeat sender then beats for the
engine, which monitors its heartbeat again. Nothing registers it with the health
monitor.
-/

namespace AiEnterpriseOs.Runtime

open Library

variable {Instance : Type}

namespace RuntimeEngine

/-- `HeartbeatSender._send` without interruption. -/
def sendRound (runtime : RuntimeEngine Instance) : RuntimeEngine Instance :=
  runtime.engines.keys.foldl
    (fun runtime name => if name ∈ runtime.isolated then runtime else runtime.beat name) runtime

/-- Isolated, readmitted, and reached by the sender. -/
def readmitted (runtime : RuntimeEngine Instance) (name : String) : RuntimeEngine Instance :=
  ((runtime.isolate name).unisolate name).sendRound

structure Undone (before after : RuntimeEngine Instance) (name : String) : Prop where
  heartbeat : (after.heartbeats.heartbeats.get? name).isSome = true
  health : (after.healthMonitor.get? name).isSome = true
  attempts : after.recovery.attempts.getD name 0 = 0
  otherHeartbeats : ∀ other, other ≠ name →
    ((after.heartbeats.heartbeats.get? other).isSome = true ↔
      (before.heartbeats.heartbeats.get? other).isSome = true)
  otherHealth : ∀ other, other ≠ name →
    after.healthMonitor.get? other = before.healthMonitor.get? other

/-- A round of the sender changes heartbeats alone. -/
structure SentFrom (before after : RuntimeEngine Instance) : Prop where
  engines : after.engines = before.engines
  isolated : after.isolated = before.isolated
  healthMonitor : after.healthMonitor = before.healthMonitor
  recovery : after.recovery = before.recovery
  kept : ∀ name, (before.heartbeats.heartbeats.get? name).isSome = true →
    (after.heartbeats.heartbeats.get? name).isSome = true

theorem SentFrom.refl (runtime : RuntimeEngine Instance) : SentFrom runtime runtime :=
  ⟨rfl, rfl, rfl, rfl, fun _ => id⟩

theorem SentFrom.trans {first second third : RuntimeEngine Instance}
    (left : SentFrom first second) (right : SentFrom second third) : SentFrom first third :=
  ⟨right.engines.trans left.engines, right.isolated.trans left.isolated,
    right.healthMonitor.trans left.healthMonitor, right.recovery.trans left.recovery,
    fun name => right.kept name ∘ left.kept name⟩

theorem beat_sent_from (runtime : RuntimeEngine Instance) (name : String) :
    SentFrom runtime (runtime.beat name) := by
  refine ⟨rfl, rfl, rfl, rfl, ?_⟩
  intro other monitored
  by_cases same : other = name
  · obtain ⟨heartbeat, found⟩ :=
      HeartbeatManager.beat_get_self runtime.heartbeats name runtime.clock
    rw [same, beat, found]
    rfl
  · rw [beat, HeartbeatManager.beat_get_other _ _ same]
    exact monitored

theorem send_names (names : List String) (runtime : RuntimeEngine Instance) :
    let after := names.foldl
      (fun runtime name => if name ∈ runtime.isolated then runtime else runtime.beat name) runtime
    SentFrom runtime after ∧ ∀ name ∈ names, name ∉ runtime.isolated →
      (after.heartbeats.heartbeats.get? name).isSome = true := by
  induction names generalizing runtime with
  | nil => exact ⟨SentFrom.refl runtime, by simp⟩
  | cons head rest ih =>
    intro after
    by_cases skipped : head ∈ runtime.isolated
    · have rounds := ih runtime
      have step : after = rest.foldl (fun runtime name =>
          if name ∈ runtime.isolated then runtime else runtime.beat name) runtime := by
        simp only [after, List.foldl_cons, if_pos skipped]
      rw [step]
      refine ⟨rounds.1, ?_⟩
      intro name member free
      rcases List.mem_cons.mp member with rfl | later
      · exact absurd skipped free
      · exact rounds.2 name later free
    · have rounds := ih (runtime.beat head)
      have step : after = rest.foldl (fun runtime name =>
          if name ∈ runtime.isolated then runtime else runtime.beat name) (runtime.beat head) := by
        simp only [after, List.foldl_cons, if_neg skipped]
      rw [step]
      refine ⟨(beat_sent_from runtime head).trans rounds.1, ?_⟩
      intro name member free
      rcases List.mem_cons.mp member with rfl | later
      · obtain ⟨heartbeat, found⟩ :=
          HeartbeatManager.beat_get_self runtime.heartbeats name runtime.clock
        apply rounds.1.kept
        rw [beat, found]
        rfl
      · exact rounds.2 name later free

theorem send_round_sent_from (runtime : RuntimeEngine Instance) :
    SentFrom runtime runtime.sendRound :=
  (send_names runtime.engines.keys runtime).1

theorem readmitted_unprobed (runtime : RuntimeEngine Instance) (name : String) :
    (runtime.readmitted name).healthMonitor.get? name = none := by
  rw [readmitted, (send_round_sent_from _).healthMonitor]
  exact (isolate_monitors runtime name).2

/-- Whatever the state, the health monitor does not get the engine back. -/
theorem readmission_never_undoes (runtime : RuntimeEngine Instance) (name : String) :
    ¬ Undone runtime (runtime.readmitted name) name := by
  intro undone
  have health := undone.health
  rw [readmitted_unprobed] at health
  cases health

/-- The only engine that there is loses its place in the health monitor. -/
theorem readmitted_engine_unprobed :
    let runtime := (RuntimeEngine.created 15 3 3 true false shippedPolicies :
      RuntimeEngine Unit).registerEngine "memory" ()
    runtime.healthMonitor.keys = ["memory"] ∧ runtime.heartbeats.heartbeats.keys = ["memory"] ∧
      (runtime.readmitted "memory").healthMonitor.keys = [] ∧
      ¬ Undone runtime (runtime.readmitted "memory") "memory" := by
  intro runtime
  have empty : (runtime.readmitted "memory").healthMonitor.keys = [] := by decide +kernel
  refine ⟨by decide +kernel, by decide +kernel, empty, ?_⟩
  intro undone
  obtain ⟨probed, found⟩ := Option.isSome_iff_exists.mp undone.health
  have member := (OrderedDict.mem_keys_iff _ "memory").mpr ⟨probed, found⟩
  rw [empty] at member
  cases member

end RuntimeEngine

namespace SupervisedRuntime

theorem step_unprobed {state : SupervisedRuntime Instance} {name : String}
    (unprobed : state.runtime.healthMonitor.get? name = none)
    {operation : RuntimeOperation Instance}
    (other : ∀ engine, operation ≠ .registerEngine name engine) :
    (state.step operation).runtime.healthMonitor.get? name = none := by
  have erased : ∀ component, (state.runtime.healthMonitor.erase component).get? name = none := by
    intro component
    rw [OrderedDict.get_erase]
    split
    · rfl
    · exact unprobed
  cases operation with
  | isolate component => exact erased component
  | unisolate component => exact unprobed
  | beat component => exact unprobed
  | send =>
    rw [step, send]
    split
    · exact unprobed
    · exact unprobed
    · exact unprobed
    · split <;> exact unprobed
  | registerEngine component engine =>
    have different : name ≠ component := by
      intro same
      exact other engine (by rw [same])
    exact (RuntimeEngine.register_same component name engine different).health.trans unprobed
  | unregisterEngine component =>
    rw [step, RuntimeEngine.unregisterEngine]
    dsimp only
    split
    · exact unprobed
    · exact erased component
  | recoverEngine outside component =>
    rw [step, RuntimeEngine.recover_spec]
    exact unprobed
  | failure outside component reason =>
    rw [step]
    by_cases isolated : component ∈ state.runtime.isolated
    · rw [RuntimeEngine.on_failure_isolated outside state.runtime component reason isolated]
      exact unprobed
    · rw [RuntimeEngine.on_failure_live outside state.runtime component reason isolated]
      obtain ⟨engines, marked, _⟩ := RuntimeEngine.on_engine_failed_frame
        (if RuntimeEngine.Isolates (state.runtime.nextOutcome outside component) then
          (state.runtime.recoveredState component
            (state.runtime.nextOutcome outside component)).isolate component
        else
          state.runtime.recoveredState component (state.runtime.nextOutcome outside component))
        component reason (state.runtime.nextOutcome outside component)
      rw [marked]
      dsimp only
      split
      · exact erased component
      · exact unprobed
  | elapse clock => exact unprobed

theorem readmitted_unprobed_until_registered (runtime : RuntimeEngine Instance) (name : String)
    (sender : SenderPhase) (operations : List (RuntimeOperation Instance))
    (others : ∀ operation ∈ operations, ∀ engine, operation ≠ .registerEngine name engine) :
    (runInputs step { runtime := runtime.readmitted name, sender := sender }
      operations).runtime.healthMonitor.get? name = none := by
  have start := runtime.readmitted_unprobed name
  generalize runtime.readmitted name = readmitted at start
  generalize same : ({ runtime := readmitted, sender := sender } :
    SupervisedRuntime Instance) = state
  have unprobed : state.runtime.healthMonitor.get? name = none := by
    rw [← same]
    exact start
  clear same
  induction operations generalizing state with
  | nil => exact unprobed
  | cons operation rest ih =>
    apply ih
    · exact fun later member => others later (List.mem_cons_of_mem _ member)
    · exact step_unprobed unprobed (others operation List.mem_cons_self)

theorem readmitted_memory_unprobed :
    let runtime := (RuntimeEngine.created 15 3 3 true false shippedPolicies :
      RuntimeEngine Unit).registerEngine "memory" ()
    (runInputs step { runtime := runtime.readmitted "memory", sender := .idle }
      [.beat "memory", .elapse 20, .registerEngine "events" (), .unisolate "memory", .send,
        .elapse 40]).runtime.healthMonitor.get? "memory" = none := by
  intro runtime
  apply readmitted_unprobed_until_registered runtime "memory"
  intro operation member engine same
  rw [same] at member
  simp at member

end SupervisedRuntime

end AiEnterpriseOs.Runtime
