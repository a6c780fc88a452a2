import AiEnterpriseOs.Orchestration.EngineSchedule
import AiEnterpriseOs.Orchestration.EngineRecovery

/-!
# Executions of an immediate plan

An immediate plan is registered by `plan`, found due by the first tick unless
it has been run before, and run by `start` in any case.
-/

namespace AiEnterpriseOs.Orchestration

open Library OrchestrationScheduler

section Executions

/-- The calls that a list of inputs makes: an input that reaches the engine
amid a tick or a run only carries on with it. -/
def calledOps (config : EngineConfig) : Engine → List EngineInput → List EngineOp
  | _, [] => []
  | engine, input :: rest =>
    match engine.control with
    | .ready [] => input.op :: calledOps config (engine.step config input) rest
    | _ => calledOps config (engine.step config input) rest

def Engine.executions (engine : Engine) (planId : String) : Nat :=
  marks engine.scheduler.events planId

/-- Runs of the plan that the current tick still owes. -/
def Engine.owed (engine : Engine) (planId : String) : Nat :=
  (engine.control.due.map fun plan => plan.id).count planId

/-- The scheduler holds an immediate plan under the id. -/
def Engine.HoldsImmediate (engine : Engine) (planId : String) : Prop :=
  ∃ plan, engine.scheduler.plans.get? planId = some plan ∧ plan.scheduleMode = .immediate

variable (config : EngineConfig) {engine : Engine} {input : EngineInput} {planId : String}

theorem called_ops_idle {rest : List EngineInput} (idle : engine.control = .ready []) :
    calledOps config engine (input :: rest) =
      input.op :: calledOps config (engine.step config input) rest := by
  simp only [calledOps, idle]

theorem called_ops_busy {rest : List EngineInput} (busy : engine.control ≠ .ready []) :
    calledOps config engine (input :: rest) = calledOps config (engine.step config input) rest := by
  rw [calledOps]
  split
  next idle => exact absurd idle busy
  · rfl

theorem owed_idle (planId : String) (idle : engine.control = .ready []) :
    engine.owed planId = 0 := by
  unfold Engine.owed
  rw [idle]
  rfl

theorem executions_marked {after : Engine} {marked : String} {now : Time}
    (scheduler : after.scheduler = engine.scheduler.markRun marked now) :
    after.executions planId = engine.executions planId +
      if marked = planId then 1 else 0 := by
  unfold Engine.executions
  rw [scheduler, marks_mark_run]

theorem step_holds_immediate (input : EngineInput) (books : engine.Books)
    (holds : engine.HoldsImmediate planId) :
    (engine.step config input).HoldsImmediate planId := by
  have step := schedule_step_cases config engine input
  generalize engine.step config input = after at step ⊢
  obtain ⟨plan, stored, immediate⟩ := holds
  have marked : ∀ ran now, after.scheduler = engine.scheduler.markRun ran now →
      after.HoldsImmediate planId := by
    intro ran now scheduler
    unfold Engine.HoldsImmediate
    rw [scheduler, mark_run_plans, OrderedDict.get_modify]
    split
    next same =>
      rw [← same, stored]
      exact ⟨_, rfl, immediate⟩
    · exact ⟨plan, stored, immediate⟩
  cases step with
  | quiet scheduler due elapsed =>
    refine ⟨plan, ?_, immediate⟩
    rw [scheduler]
    exact stored
  | completed completedId scheduler due elapsed =>
    refine ⟨plan, ?_, immediate⟩
    rw [scheduler]
    exact stored
  | registered other idle op known scheduler due elapsed =>
    unfold Engine.HoldsImmediate
    rw [scheduler, register_plans, OrderedDict.get_set]
    split
    next same =>
      rcases known with ⟨fresh, _⟩ | member
      · rw [← same, stored] at fresh
        cases fresh
      · obtain ⟨key, found⟩ := (OrderedDict.mem_values_iff _ _).mp member
        have keyEq := books.keyed key other found
        rw [← keyEq, ← same, stored] at found
        cases found
        exact ⟨plan, rfl, immediate⟩
    · exact ⟨plan, stored, immediate⟩
  | called other idle op known scheduler due elapsed => exact marked _ _ scheduler
  | ranDue other rest waiting scheduler due elapsed => exact marked _ _ scheduler
  | ticked idle op scheduler due elapsed =>
    refine ⟨plan, ?_, immediate⟩
    rw [scheduler]
    exact stored

theorem busy_step (input : EngineInput) (planId : String) (busy : engine.control ≠ .ready []) :
    (engine.step config input).executions planId + (engine.step config input).owed planId =
      engine.executions planId + engine.owed planId := by
  have step := schedule_step_cases config engine input
  generalize engine.step config input = after at step ⊢
  cases step with
  | quiet scheduler due elapsed =>
    unfold Engine.executions Engine.owed
    rw [scheduler, due]
  | completed completedId scheduler due elapsed =>
    unfold Engine.executions Engine.owed
    rw [scheduler, due, notify_completed_events, marks_append]
    rfl
  | registered plan idle op known scheduler due elapsed => exact absurd idle busy
  | called plan idle op known scheduler due elapsed => exact absurd idle busy
  | ranDue plan rest waiting scheduler due elapsed =>
    rw [executions_marked scheduler]
    unfold Engine.owed
    rw [due, waiting]
    change _ = _ + ((plan :: rest).map fun plan => plan.id).count planId
    rw [List.map_cons, List.count_cons]
    simp only [beq_iff_eq]
    omega
  | ticked idle op scheduler due elapsed => exact absurd idle busy

theorem busy_step_owed (input : EngineInput) (planId : String) (busy : engine.control ≠ .ready []) :
    (engine.step config input).owed planId ≤ engine.owed planId := by
  have step := schedule_step_cases config engine input
  generalize engine.step config input = after at step ⊢
  unfold Engine.owed
  cases step with
  | quiet scheduler due elapsed => rw [due]
  | completed completedId scheduler due elapsed => rw [due]
  | registered plan idle op known scheduler due elapsed => exact absurd idle busy
  | called plan idle op known scheduler due elapsed => exact absurd idle busy
  | ranDue plan rest waiting scheduler due elapsed =>
    rw [due, waiting]
    change _ ≤ ((plan :: rest).map fun plan => plan.id).count planId
    rw [List.map_cons, List.count_cons]
    omega
  | ticked idle op scheduler due elapsed => exact absurd idle busy

theorem tick_step (books : engine.Books) (holds : engine.HoldsImmediate planId)
    (idle : engine.control = .ready []) (tick : input.op = .tick) :
    (engine.step config input).executions planId = engine.executions planId ∧
      (engine.step config input).owed planId =
        if engine.executions planId = 0 then 1 else 0 := by
  have stepEq : engine.step config input = Engine.call config .tick input.execution
      (engine.passTime input.elapsed) := by
    unfold Engine.step
    rw [idle, tick]
  obtain ⟨plan, stored, immediate⟩ := holds
  have keyed := books.keyed planId plan stored
  have distinct := due_plans_distinct books (engine.passTime input.elapsed).clock
  rw [stepEq]
  generalize nowEq : (engine.passTime input.elapsed).clock = now at distinct
  have dueIff : planId ∈ (engine.scheduler.duePlans now).map (fun plan => plan.id) ↔
      engine.executions planId = 0 := by
    unfold Engine.executions
    rw [← books.never_executed planId, List.mem_map]
    unfold OrchestrationScheduler.duePlans
    constructor
    · intro found
      obtain ⟨other, member, same⟩ := found
      obtain ⟨inside, isDue⟩ := List.mem_filter.mp member
      obtain ⟨key, present⟩ := (OrderedDict.mem_values_iff _ _).mp inside
      have keyEq := books.keyed key other present
      rw [← keyEq, same, stored] at present
      cases present
      simp only [OrchestrationScheduler.isDue, immediate, keyed] at isDue
      exact Option.isNone_iff_eq_none.mp isDue
    · intro unexecuted
      refine ⟨plan, List.mem_filter.mpr ⟨?_, ?_⟩, keyed⟩
      · exact (OrderedDict.mem_values_iff _ _).mpr ⟨planId, stored⟩
      · simp only [OrchestrationScheduler.isDue, immediate, keyed, unexecuted]
        rfl
  constructor
  · change marks (engine.scheduler.events ++ dueEvents (engine.scheduler.duePlans
      (engine.passTime input.elapsed).clock)
      (engine.passTime input.elapsed).clock) planId = _
    rw [marks_append, (due_events_counts _ _ _).2]
    rfl
  · change ((engine.scheduler.duePlans (engine.passTime input.elapsed).clock).map
      fun plan => plan.id).count planId = _
    rw [nowEq]
    split
    next unexecuted => exact List.count_eq_one_of_mem distinct (dueIff.mpr unexecuted)
    next executed =>
      exact List.count_eq_zero.mpr fun member => executed (dueIff.mp member)

theorem start_step (holds : engine.HoldsImmediate planId) (books : engine.Books)
    (idle : engine.control = .ready []) (start : input.op = .start planId) :
    (engine.step config input).executions planId = engine.executions planId + 1 ∧
      (engine.step config input).owed planId = 0 := by
  obtain ⟨plan, stored, immediate⟩ := holds
  have keyed := books.keyed planId plan stored
  have found : (engine.passTime input.elapsed).getPlan planId = some plan := by
    have same : (engine.passTime input.elapsed).scheduler = engine.scheduler := rfl
    unfold Engine.getPlan
    rw [same, stored]
  have stepEq : engine.step config input = Engine.run config plan none
      input.execution [] (engine.passTime input.elapsed) := by
    unfold Engine.step
    rw [idle, start]
    simp only [Engine.call, found, immediate, if_true]
  obtain ⟨scheduler, due, _⟩ := run_schedule config plan none input.execution []
    (engine.passTime input.elapsed)
  rw [stepEq]
  constructor
  · have marked : (Engine.run config plan none input.execution []
        (engine.passTime input.elapsed)).scheduler =
        engine.scheduler.markRun plan.id _ := scheduler
    rw [executions_marked marked, if_pos keyed]
  · unfold Engine.owed
    rw [due]
    rfl

theorem ticks_run_no_more (books : engine.Books)
    (holds : engine.HoldsImmediate planId) (executed : engine.executions planId ≠ 0)
    (paid : engine.owed planId = 0) (inputs : List EngineInput) (count : Nat)
    (calls : calledOps config engine inputs = List.replicate count .tick) :
    (engine.runs config inputs).executions planId = engine.executions planId := by
  induction inputs generalizing engine count with
  | nil => rfl
  | cons input rest ih =>
    have later := step_books config engine input books
    have stillHolds := step_holds_immediate config input books holds
    by_cases idle : engine.control = .ready []
    · rw [called_ops_idle config idle] at calls
      cases count with
      | zero => cases calls
      | succ count =>
        obtain ⟨tick, restCalls⟩ := List.cons.inj calls
        obtain ⟨same, owed⟩ := tick_step config books holds idle tick
        rw [if_neg executed] at owed
        rw [← same]
        apply ih later stillHolds _ owed count restCalls
        rw [same]
        exact executed
    · rw [called_ops_busy config idle] at calls
      have sum := busy_step config input planId idle
      have fewer := busy_step_owed config input planId idle
      have same : (engine.step config input).executions planId =
          engine.executions planId := by omega
      rw [← same]
      apply ih later stillHolds _ _ count calls
      · rw [same]
        exact executed
      · omega

theorem started_among_ticks (books : engine.Books) (holds : engine.HoldsImmediate planId)
    (fresh : engine.executions planId + engine.owed planId ≤ 1)
    (inputs : List EngineInput) (before after : Nat)
    (calls : calledOps config engine inputs =
      List.replicate before .tick ++ .start planId :: List.replicate after .tick) :
    (engine.runs config inputs).executions planId =
      if engine.executions planId + engine.owed planId = 0 ∧ before = 0 then 1
      else 2 := by
  induction inputs generalizing engine before with
  | nil =>
    cases before <;> cases calls
  | cons input rest ih =>
    have later := step_books config engine input books
    have stillHolds := step_holds_immediate config input books holds
    by_cases idle : engine.control = .ready []
    · rw [called_ops_idle config idle] at calls
      have paid := owed_idle planId idle
      cases before with
      | zero =>
        obtain ⟨start, restCalls⟩ := List.cons.inj calls
        obtain ⟨more, owed⟩ := start_step config holds books idle start
        have final := ticks_run_no_more config later stillHolds (by omega) owed rest after restCalls
        change (Engine.runs config (engine.step config input) rest).executions planId = _
        rw [final, more]
        split <;> omega
      | succ before =>
        obtain ⟨tick, restCalls⟩ := List.cons.inj calls
        obtain ⟨same, owed⟩ := tick_step config books holds idle tick
        have bound : (engine.step config input).executions planId +
            (engine.step config input).owed planId = 1 := by
          rw [same, owed]
          split <;> omega
        have final := ih later stillHolds (by omega) before restCalls
        change (Engine.runs config (engine.step config input) rest).executions planId = _
        rw [final, bound]
        simp
    · rw [called_ops_busy config idle] at calls
      have sum := busy_step config input planId idle
      have final := ih later stillHolds (by omega) before calls
      change (Engine.runs config (engine.step config input) rest).executions planId = _
      rw [final, sum]

end Executions

section Safety

variable (config : EngineConfig)

theorem plan_step {engine : Engine} {input : EngineInput} {plan : OrchestrationPlan}
    (books : engine.Books) (idle : engine.control = .ready [])
    (op : input.op = .plan plan)
    (fresh : engine.scheduler.plans.get? plan.id = none)
    (immediate : plan.scheduleMode = .immediate) :
    (engine.step config input).HoldsImmediate plan.id ∧
      (engine.step config input).executions plan.id = 0 ∧
      (engine.step config input).owed plan.id = 0 := by
  have same : (engine.passTime input.elapsed).scheduler = engine.scheduler := rfl
  have stepEq : engine.step config input =
      { engine.passTime input.elapsed with
        scheduler := engine.scheduler.register { plan with runCount := 0 }
          (engine.passTime input.elapsed).clock } := by
    unfold Engine.step
    rw [idle, op]
    simp only [Engine.call, same, fresh]
  rw [stepEq]
  refine ⟨⟨{ plan with runCount := 0 }, ?_, immediate⟩, ?_, owed_idle plan.id idle⟩
  · exact OrderedDict.get_set_self _ _ _
  · unfold Engine.executions
    rw [marks_register]
    exact (dues_unknown books fresh).2

/-- Over every run of the engine, recurring, scheduled and dependency plans
are found due as their modes say. An immediate plan that is started among
ticks is executed exactly once if and only if no tick precedes the start. -/
theorem scheduling_safety (hasMemory : Bool) (inputs : List EngineInput) :
    let engine := (Engine.new config hasMemory).runs config inputs
    (∀ planId plan, engine.scheduler.plans.get? planId = some plan →
      ScheduledSafely engine.scheduler plan) ∧
    ∀ plan input later before after, engine.control = .ready [] → input.op = .plan plan →
      plan.scheduleMode = .immediate →
      engine.scheduler.plans.get? plan.id = none →
      calledOps config (engine.step config input) later = List.replicate before .tick ++
          .start plan.id :: List.replicate after .tick →
      (((engine.step config input).runs config later).executions plan.id = 1 ↔ before = 0) := by
  intro engine
  have books : engine.Books := runs_books config hasMemory inputs
  constructor
  · exact books.safe
  · intro plan input later before after idle op immediate fresh calls
    obtain ⟨holds, unexecuted, unowed⟩ :=
      plan_step config books idle op fresh immediate
    have created := step_books config engine input books
    rw [started_among_ticks config created holds (by omega) later before after calls,
      unexecuted, unowed]
    simp

theorem started_plan_runs_once :
    (((Engine.new {} false).step {} (callUnder completingEnv (.plan undoablePlan))).runs
      {} [callUnder completingEnv (.start "plan-1"), callUnder completingEnv .tick,
        callUnder completingEnv .tick]).executions "plan-1" = 1 :=
  ((scheduling_safety {} false []).2 undoablePlan (callUnder completingEnv (.plan undoablePlan))
    [callUnder completingEnv (.start "plan-1"), callUnder completingEnv .tick,
      callUnder completingEnv .tick] 0 1 rfl rfl rfl rfl rfl).mpr rfl

/-- A tick between `plan` and `start` runs the plan, and the start runs it
again. -/
theorem ticked_plan_runs_twice : ¬∀ config hasMemory input later plan before after,
      input.op = .plan plan →
      plan.scheduleMode = .immediate →
      calledOps config ((Engine.new config hasMemory).step config input) later =
        List.replicate before .tick ++ .start plan.id :: List.replicate after .tick →
      (((Engine.new config hasMemory).step config input).runs config
        later).executions plan.id = 1 := by
  intro claim
  have once := claim {} false (callUnder completingEnv (.plan undoablePlan))
    [callUnder completingEnv .tick, callUnder completingEnv .tick,
      callUnder completingEnv .tick, callUnder completingEnv (.start "plan-1")]
    undoablePlan 1 0 rfl rfl rfl
  exact absurd once (by decide)

end Safety

end AiEnterpriseOs.Orchestration
