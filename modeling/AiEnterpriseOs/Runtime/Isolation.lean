import AiEnterpriseOs.Library.Runs
import AiEnterpriseOs.Runtime.RecoveryOutcome

/-!
# Isolation

An isolated engine is kept out of both monitors and is not reported as running.
The supervisor's set, the monitors and the engine table are separate; each
operation below touches them for one component.
-/

namespace AiEnterpriseOs.Runtime

open Library

/-- Where the heartbeat sender stands in `_send`. -/
inductive SenderPhase where
  | idle
  | skipping (isolated : Finset String)
  | beating (isolated : Finset String) (names : List String)

structure SupervisedRuntime (Instance : Type) where
  runtime : RuntimeEngine Instance
  sender : SenderPhase

inductive RuntimeOperation (Instance : Type) where
  | isolate (component : String)
  | unisolate (component : String)
  | beat (component : String)
  | send
  | registerEngine (name : String) (engine : Instance)
  | unregisterEngine (name : String)
  | recoverEngine (outside : Outside) (name : String)
  | failure (outside : Outside) (component reason : String)
  | elapse (clock : Int)

namespace RuntimeEngine

variable {Instance : Type}

/-- What isolation asks of one engine. -/
def RespectedAt (runtime : RuntimeEngine Instance) (name : String) : Prop :=
  ∀ entry, name ∈ runtime.isolated → runtime.engines.get? name = some entry →
    runtime.heartbeats.heartbeats.get? name = none ∧ runtime.healthMonitor.get? name = none ∧
      entry.state.status ≠ .running ∧ entry.state.health ≠ .healthy

/-- An isolated engine is monitored by neither monitor and is reported neither
running nor healthy. -/
def Respected (runtime : RuntimeEngine Instance) : Prop :=
  ∀ name, runtime.RespectedAt name

def IsolatedEngine (runtime : RuntimeEngine Instance) (name : String) : Prop :=
  name ∈ runtime.isolated ∧ (runtime.engines.get? name).isSome = true

/-- What the tables say of one component is the same. -/
structure SameAt (first second : RuntimeEngine Instance) (name : String) : Prop where
  isolated : name ∈ second.isolated ↔ name ∈ first.isolated
  engine : second.engines.get? name = first.engines.get? name
  heartbeat : second.heartbeats.heartbeats.get? name = first.heartbeats.heartbeats.get? name
  health : second.healthMonitor.get? name = first.healthMonitor.get? name

theorem SameAt.refl (runtime : RuntimeEngine Instance) (name : String) :
    SameAt runtime runtime name :=
  ⟨Iff.rfl, rfl, rfl, rfl⟩

theorem SameAt.trans {first second third : RuntimeEngine Instance} {name : String}
    (left : SameAt first second name) (right : SameAt second third name) :
    SameAt first third name :=
  ⟨right.isolated.trans left.isolated, right.engine.trans left.engine,
    right.heartbeat.trans left.heartbeat, right.health.trans left.health⟩

theorem respected_at_congr {first second : RuntimeEngine Instance} {name : String}
    (same : SameAt first second name) :
    second.RespectedAt name ↔ first.RespectedAt name := by
  unfold RespectedAt
  rw [same.isolated, same.engine, same.heartbeat, same.health]

theorem respected_iff_at {before after : RuntimeEngine Instance} (respected : Respected before)
    (name : String) (others : ∀ other, other ≠ name → SameAt before after other) :
    Respected after ↔ after.RespectedAt name := by
  constructor
  · intro kept
    exact kept name
  · intro here other
    by_cases same : other = name
    · rw [same]
      exact here
    · exact (respected_at_congr (others other same)).mpr (respected other)

section Operations

variable {runtime : RuntimeEngine Instance}

theorem isolate_same (component other : String) (different : other ≠ component) :
    SameAt runtime (runtime.isolate component) other where
  isolated := by
    change other ∈ insert component runtime.isolated ↔ _
    rw [Finset.mem_insert]
    exact or_iff_right different
  engine := rfl
  heartbeat := (HeartbeatManager.unregister_get _ _ _).trans (if_neg different)
  health := (OrderedDict.get_erase _ _ _).trans (if_neg different)

theorem isolate_monitors (runtime : RuntimeEngine Instance) (component : String) :
    (runtime.isolate component).heartbeats.heartbeats.get? component = none ∧
      (runtime.isolate component).healthMonitor.get? component = none :=
  ⟨(HeartbeatManager.unregister_get _ _ _).trans (if_pos rfl),
    (OrderedDict.get_erase _ _ _).trans (if_pos rfl)⟩

theorem isolate_respected_iff (respected : Respected runtime) (component : String) :
    Respected (runtime.isolate component) ↔ ∀ entry, runtime.engines.get? component = some entry →
        entry.state.status ≠ .running ∧ entry.state.health ≠ .healthy := by
  have monitors := isolate_monitors runtime component
  rw [respected_iff_at respected component (isolate_same component)]
  constructor
  · intro here entry found
    exact (here entry (Finset.mem_insert_self _ _) found).2.2
  · intro quiet entry _ found
    exact ⟨monitors.1, monitors.2, quiet entry found⟩

theorem unisolate_respected (respected : Respected runtime) (component : String) :
    Respected (runtime.unisolate component) := by
  intro name entry isolated found
  exact respected name entry (Finset.mem_of_mem_erase isolated) found

theorem beat_same (component other : String) (different : other ≠ component) :
    SameAt runtime (runtime.beat component) other :=
  ⟨Iff.rfl, rfl, HeartbeatManager.beat_get_other _ _ different, rfl⟩

theorem beat_respected_iff (respected : Respected runtime) (component : String) :
    Respected (runtime.beat component) ↔ ¬runtime.IsolatedEngine component := by
  rw [respected_iff_at respected component (beat_same component)]
  obtain ⟨heartbeat, monitored⟩ :=
    HeartbeatManager.beat_get_self runtime.heartbeats component runtime.clock
  constructor
  · rintro here ⟨isolated, present⟩
    obtain ⟨entry, found⟩ := Option.isSome_iff_exists.mp present
    cases monitored.symm.trans (here entry isolated found).1
  · intro free entry isolated found
    have present : (runtime.engines.get? component).isSome = true := by
      rw [show runtime.engines.get? component = some entry from found]
      rfl
    exact absurd ⟨isolated, present⟩ free

theorem unregister_same (name other : String) (different : other ≠ name) :
    SameAt runtime (runtime.unregisterEngine name) other := by
  unfold unregisterEngine
  split
  · exact SameAt.refl runtime other
  · exact ⟨Iff.rfl, (OrderedDict.get_erase _ _ _).trans (if_neg different),
      (HeartbeatManager.unregister_get _ _ _).trans (if_neg different),
      (OrderedDict.get_erase _ _ _).trans (if_neg different)⟩

theorem unregister_absent (runtime : RuntimeEngine Instance) (name : String) :
    (runtime.unregisterEngine name).engines.get? name = none ∧
      (runtime.unregisterEngine name).isolated = runtime.isolated := by
  unfold unregisterEngine
  split
  · next absent => exact ⟨absent, rfl⟩
  · exact ⟨(OrderedDict.get_erase _ _ _).trans (if_pos rfl), rfl⟩

theorem unregister_respected (respected : Respected runtime) (name : String) :
    Respected (runtime.unregisterEngine name) := by
  rw [respected_iff_at respected name (unregister_same name)]
  intro entry _ found
  cases (unregister_absent runtime name).1.symm.trans found

theorem register_same (name other : String) (engine : Instance) (different : other ≠ name) :
    SameAt runtime (runtime.registerEngine name engine) other := by
  apply (unregister_same name other different).trans
  exact ⟨Iff.rfl, OrderedDict.get_set_other _ _ different,
    HeartbeatManager.register_get_other _ _ different,
    OrderedDict.get_set_other _ _ different⟩

theorem register_respected_iff (respected : Respected runtime) (name : String) (engine : Instance) :
    Respected (runtime.registerEngine name engine) ↔ name ∉ runtime.isolated := by
  have kept : (runtime.registerEngine name engine).isolated = runtime.isolated :=
    (unregister_absent runtime name).2
  rw [respected_iff_at respected name fun other => register_same name other engine]
  constructor
  · intro here isolated
    have probed := (here _ (by rw [kept]; exact isolated) (OrderedDict.get_set_self _ _ _)).2.1
    cases (OrderedDict.get_set_self _ _ _).symm.trans probed
  · intro free entry isolated
    rw [kept] at isolated
    exact absurd isolated free

end Operations

section Recoveries

variable (outside : Outside) {runtime : RuntimeEngine Instance}

/-- The next recovery of the component restarts it through its engine factory,
which sends a beat. -/
def RecoveryBeats (runtime : RuntimeEngine Instance) (name : String) : Prop :=
  "restart" ∈ (runtime.nextOutcome outside name).actionsTaken ∧ runtime.RestartsEngine name

theorem recovered_same (result : RecoveryResult) (component other : String)
    (different : other ≠ component) :
    SameAt runtime (runtime.recoveredState component result) other := by
  refine ⟨Iff.rfl, rfl, ?_, rfl⟩
  unfold recoveredState
  dsimp only
  split
  · exact HeartbeatManager.beat_get_other _ _ different
  · rfl

theorem recover_respected_iff (respected : Respected runtime) (name : String) :
    Respected (runtime.recover outside name).1 ↔
      ¬(runtime.IsolatedEngine name ∧ runtime.RecoveryBeats outside name) := by
  rw [recover_spec, respected_iff_at respected name (recovered_same _ name)]
  by_cases beats : runtime.RecoveryBeats outside name
  · have beaten : SameAt (runtime.beat name)
        (runtime.recoveredState name (runtime.nextOutcome outside name)) name := by
      refine ⟨Iff.rfl, rfl, ?_, rfl⟩
      unfold RecoveryBeats at beats
      unfold recoveredState
      dsimp only
      rw [if_pos beats]
      rfl
    rw [respected_at_congr beaten, ← respected_iff_at respected name (beat_same name),
      beat_respected_iff respected]
    exact not_congr ⟨fun isolated => ⟨isolated, beats⟩, And.left⟩
  · have kept : SameAt runtime
        (runtime.recoveredState name (runtime.nextOutcome outside name)) name := by
      refine ⟨Iff.rfl, rfl, ?_, rfl⟩
      unfold RecoveryBeats at beats
      unfold recoveredState
      dsimp only
      rw [if_neg beats]
    refine iff_of_true ?_ fun both => beats both.2
    exact (respected_at_congr kept).mpr (respected name)

theorem outcome_success (component : String) (attempts : Nat) :
    (runtime.outcome outside component attempts).success = true ↔
      (runtime.outcome outside component attempts).actionsTaken ≠ [] := by
  have refused : ∀ message, (refusal component attempts message).success = true ↔
      (refusal component attempts message).actionsTaken ≠ [] :=
    fun message => iff_of_false nofun (not_not.mpr rfl)
  unfold outcome
  split
  · exact refused _
  · split
    · exact refused _
    · split
      · exact refused _
      · unfold executed
        split
        · next taken => exact iff_of_true rfl taken
        · exact refused _

theorem mark_get (name other : String) (status : EngineStateStatus) (health : HealthStatus)
    (message : String) (different : other ≠ name) :
    (runtime.markEngineStatus name status health message).engines.get? other =
      runtime.engines.get? other := by
  unfold markEngineStatus
  dsimp only
  rw [OrderedDict.get_modify, if_neg different]

theorem on_engine_failed_same (component reason other : String) (result : RecoveryResult)
    (different : other ≠ component) :
    SameAt runtime (runtime.onEngineFailed component reason result) other := by
  unfold onEngineFailed
  dsimp only
  split
  · exact ⟨Iff.rfl, mark_get component other _ _ _ different, rfl, rfl⟩
  · exact ⟨Iff.rfl, mark_get component other _ _ _ different, rfl, rfl⟩

theorem on_failure_same_at (component reason other : String) (different : other ≠ component) :
    SameAt runtime (runtime.onFailure outside component reason) other := by
  by_cases isolated : component ∈ runtime.isolated
  · rw [on_failure_isolated outside runtime component reason isolated]
    exact SameAt.refl runtime other
  · rw [on_failure_live outside runtime component reason isolated]
    refine SameAt.trans ?_ (on_engine_failed_same component reason other _ different)
    have recovered := @recovered_same Instance runtime (runtime.nextOutcome outside component)
      component other different
    split
    · exact recovered.trans (isolate_same component other different)
    · exact recovered

theorem on_engine_failed_entry {entry : RegisteredEngine Instance} (component reason : String)
    (result : RecoveryResult)
    (found : (runtime.onEngineFailed component reason result).engines.get? component = some entry) :
    (runtime.engines.get? component).isSome = true ∧
      entry.state.status = (if result.success then .running else .failed) ∧
      entry.state.health = (if result.success then .healthy else .unhealthy) := by
  unfold onEngineFailed markEngineStatus at found
  dsimp only at found
  split at found
  · next success =>
      dsimp only at found
      rw [OrderedDict.get_modify, if_pos rfl] at found
      obtain ⟨before, registered, rfl⟩ := Option.map_eq_some_iff.mp found
      rw [registered, if_pos success, if_pos success]
      exact ⟨rfl, rfl, rfl⟩
  · next failure =>
      dsimp only at found
      rw [OrderedDict.get_modify, if_pos rfl] at found
      obtain ⟨before, registered, rfl⟩ := Option.map_eq_some_iff.mp found
      rw [registered, if_neg failure, if_neg failure]
      exact ⟨rfl, rfl, rfl⟩

theorem on_failure_respected_iff (respected : Respected runtime) (component reason : String) :
    Respected (runtime.onFailure outside component reason) ↔
      component ∈ runtime.isolated ∨ runtime.engines.get? component = none ∨
        "isolate" ∉ (runtime.nextOutcome outside component).actionsTaken := by
  by_cases isolated : component ∈ runtime.isolated
  · rw [on_failure_isolated outside runtime component reason isolated]
    exact iff_of_true respected (.inl isolated)
  · let result := runtime.nextOutcome outside component
    let recovered := runtime.recoveredState component result
    rw [respected_iff_at respected component fun other =>
      on_failure_same_at outside component reason other,
      on_failure_live outside runtime component reason isolated]
    change ((if Isolates result then recovered.isolate component
      else recovered).onEngineFailed component reason result).RespectedAt component ↔ _
    by_cases isolates : Isolates result
    · rw [if_pos isolates]
      obtain ⟨engines, marked, kept⟩ :=
        on_engine_failed_frame (recovered.isolate component) component reason result
      have monitors := isolate_monitors recovered component
      constructor
      · intro here
        by_contra stuck
        obtain ⟨_, present, taken⟩ : component ∉ runtime.isolated ∧
            runtime.engines.get? component ≠ none ∧ "isolate" ∈ result.actionsTaken := by
          simpa only [not_or, not_not] using stuck
        have success : result.success = true :=
          (outcome_success outside component _).mpr (List.ne_nil_of_mem taken)
        have listed : (engines.get? component).isSome = true :=
          (kept component).trans (Option.isSome_iff_ne_none.mpr present)
        obtain ⟨entry, found⟩ := Option.isSome_iff_exists.mp listed
        rw [marked] at here
        have quiet := (here entry (Finset.mem_insert_self _ _) found).2.2.1
        have running := (@on_engine_failed_entry Instance (recovered.isolate component) entry
          component reason result (by rw [marked]; exact found)).2.1
        rw [if_pos success] at running
        exact quiet running
      · intro allowed entry _ found
        obtain ⟨present, status, health⟩ := on_engine_failed_entry component reason result found
        have failed : result.success ≠ true := by
          rcases allowed with hit | absent | notTaken
          · exact absurd hit isolated
          · change (runtime.engines.get? component).isSome = true at present
            rw [absent] at present
            cases present
          · rcases isolates with failure | taken
            · rw [failure]
              nofun
            · exact absurd taken notTaken
        rw [if_neg failed] at status health
        rw [marked, status, health]
        exact ⟨monitors.1, monitors.2, nofun, nofun⟩
    · rw [if_neg isolates]
      refine iff_of_true ?_ (.inr (.inr fun taken => isolates (.inr taken)))
      intro entry hit
      obtain ⟨engines, marked, _⟩ := on_engine_failed_frame recovered component reason result
      rw [marked] at hit
      exact absurd hit isolated

end Recoveries

end RuntimeEngine

namespace SupervisedRuntime

variable {Instance : Type}

/-- One step of the heartbeat sender: it reads the isolated components, then
the engines, and beats for one engine after the other. -/
def send (state : SupervisedRuntime Instance) : SupervisedRuntime Instance :=
  match state.sender with
  | .idle => { state with sender := .skipping state.runtime.isolated }
  | .skipping isolated =>
    { state with sender := .beating isolated state.runtime.engines.keys }
  | .beating _ [] => { state with sender := .idle }
  | .beating isolated (name :: rest) =>
    if name ∈ isolated then { state with sender := .beating isolated rest }
    else { runtime := state.runtime.beat name, sender := .beating isolated rest }

def step (state : SupervisedRuntime Instance) :
    RuntimeOperation Instance → SupervisedRuntime Instance
  | .isolate component => { state with runtime := state.runtime.isolate component }
  | .unisolate component => { state with runtime := state.runtime.unisolate component }
  | .beat component => { state with runtime := state.runtime.beat component }
  | .send => state.send
  | .registerEngine name engine =>
    { state with runtime := state.runtime.registerEngine name engine }
  | .unregisterEngine name => { state with runtime := state.runtime.unregisterEngine name }
  | .recoverEngine outside name =>
    { state with runtime := (state.runtime.recover outside name).1 }
  | .failure outside component reason =>
    { state with runtime := state.runtime.onFailure outside component reason }
  | .elapse clock => { state with runtime := { state.runtime with clock := clock } }

/-- A runtime in which nothing is isolated. -/
def started (runtime : RuntimeEngine Instance) : SupervisedRuntime Instance :=
  { runtime := { runtime with isolated := ∅ }, sender := .idle }

/-- The operations that leave isolation intact: only an engine that is reported
neither running nor healthy is isolated, an isolated engine is not registered
again and gets no beat, neither from a caller nor from the sender nor from a
recovery, and no recovery of an engine ends with its isolation. -/
def Permitted (state : SupervisedRuntime Instance) : RuntimeOperation Instance → Prop
  | .isolate component =>
    ∀ entry, state.runtime.engines.get? component = some entry →
      entry.state.status ≠ .running ∧ entry.state.health ≠ .healthy
  | .unisolate _ | .unregisterEngine _ | .elapse _ => True
  | .beat component => ¬state.runtime.IsolatedEngine component
  | .send =>
    ∀ isolated name rest, state.sender = .beating isolated (name :: rest) →
      name ∈ isolated ∨ ¬state.runtime.IsolatedEngine name
  | .registerEngine name _ => name ∉ state.runtime.isolated
  | .recoverEngine outside name =>
    ¬(state.runtime.IsolatedEngine name ∧ state.runtime.RecoveryBeats outside name)
  | .failure outside component _ =>
    component ∈ state.runtime.isolated ∨ state.runtime.engines.get? component = none ∨
      "isolate" ∉ (state.runtime.nextOutcome outside component).actionsTaken

theorem send_respected_iff {state : SupervisedRuntime Instance}
    (respected : state.runtime.Respected) :
    state.send.runtime.Respected ↔ state.Permitted .send := by
  unfold send Permitted
  cases state.sender with
  | idle => exact iff_of_true respected nofun
  | skipping isolated => exact iff_of_true respected nofun
  | beating isolated names =>
    cases names with
    | nil => exact iff_of_true respected nofun
    | cons name rest =>
      dsimp only
      by_cases skipped : name ∈ isolated
      · rw [if_pos skipped]
        refine iff_of_true respected ?_
        intro others next remaining same
        cases same
        exact .inl skipped
      · rw [if_neg skipped, RuntimeEngine.beat_respected_iff respected]
        constructor
        · intro free others next remaining same
          cases same
          exact .inr free
        · intro allowed
          exact (allowed isolated name rest rfl).resolve_left skipped

theorem step_respected_iff (state : SupervisedRuntime Instance)
    (operation : RuntimeOperation Instance) (respected : state.runtime.Respected) :
    (state.step operation).runtime.Respected ↔ state.Permitted operation := by
  cases operation with
  | isolate component => exact RuntimeEngine.isolate_respected_iff respected component
  | unisolate component =>
    exact iff_of_true (RuntimeEngine.unisolate_respected respected component) trivial
  | beat component => exact RuntimeEngine.beat_respected_iff respected component
  | send => exact send_respected_iff respected
  | registerEngine name engine =>
    exact RuntimeEngine.register_respected_iff respected name engine
  | unregisterEngine name =>
    exact iff_of_true (RuntimeEngine.unregister_respected respected name) trivial
  | recoverEngine outside name =>
    exact RuntimeEngine.recover_respected_iff outside respected name
  | failure outside component reason =>
    exact RuntimeEngine.on_failure_respected_iff outside respected component reason
  | elapse clock => exact iff_of_true respected trivial

/-- Isolation is respected all along a run exactly when every operation of the
run leaves it intact. -/
theorem isolation_respected_iff (runtime : RuntimeEngine Instance)
    (operations : List (RuntimeOperation Instance)) :
    (∀ early late, operations = early ++ late →
        (runInputs step (started runtime) early).runtime.Respected) ↔
      StepsMeet step Permitted (started runtime) operations := by
  apply @holds_throughout_iff _ _ step (fun state => state.runtime.Respected) Permitted
    step_respected_iff
  intro name entry isolated
  cases isolated

/-- An isolated engine is still reported healthy, and its manual recovery has it
monitored again. -/
theorem recovered_engine_is_monitored_again :
    let reached := runInputs step (started (RuntimeEngine.created 15 3 3 true false
      shippedPolicies : RuntimeEngine Unit))
    let isolated := reached [.registerEngine "memory" (), .isolate "memory"]
    let recovered := reached
      [.registerEngine "memory" (), .isolate "memory", .recoverEngine .quiet "memory"]
    ((isolated.runtime.engines.get? "memory").map fun entry => entry.state.health) = some .healthy ∧
      "memory" ∈ recovered.runtime.isolated ∧
      recovered.runtime.heartbeats.heartbeats.keys = ["memory"] ∧
      ¬isolated.runtime.Respected ∧ ¬recovered.runtime.Respected := by
  intro reached isolated recovered
  have healthy : ((isolated.runtime.engines.get? "memory").map fun entry =>
      entry.state.health) = some .healthy := by
    decide +kernel
  have monitored : (recovered.runtime.heartbeats.heartbeats.get? "memory").isSome = true := by
    decide +kernel
  refine ⟨healthy, by decide +kernel, by decide +kernel, ?_, ?_⟩
  · intro respected
    obtain ⟨entry, found, health⟩ := Option.map_eq_some_iff.mp healthy
    exact (respected "memory" entry (by decide +kernel) found).2.2.2 health
  · intro respected
    obtain ⟨entry, found⟩ : ∃ entry, recovered.runtime.engines.get? "memory" = some entry :=
      Option.isSome_iff_exists.mp (by decide +kernel)
    rw [(respected "memory" entry (by decide +kernel) found).1] at monitored
    cases monitored

end SupervisedRuntime

end AiEnterpriseOs.Runtime
