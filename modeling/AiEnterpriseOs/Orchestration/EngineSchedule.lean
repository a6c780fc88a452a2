import AiEnterpriseOs.Orchestration.Engine
import AiEnterpriseOs.Library.Runs

/-!
# Scheduling safety

What the engine's calls and ticks do to the scheduler, and from it when
recurring, scheduled and dependency plans become due, and how often an
immediate plan runs.
-/

namespace AiEnterpriseOs.Orchestration

open Library OrchestrationScheduler

/-- The plans that the current tick has still to run. -/
def EngineControl.due : EngineControl → List OrchestrationPlan
  | .ready due => due
  | .attempted _ due => due

section Steps

variable (config : EngineConfig)

/-- How a step changes the scheduler. -/
inductive ScheduleStep (engine : Engine) (input : EngineInput) (after : Engine) : Prop
  | quiet (scheduler : after.scheduler = engine.scheduler)
      (due : after.control.due = engine.control.due)
      (elapsed : engine.clock ≤ after.clock)
  | completed (planId : String)
      (scheduler : after.scheduler = engine.scheduler.notifyCompleted planId)
      (due : after.control.due = engine.control.due)
      (elapsed : engine.clock ≤ after.clock)
  | registered (plan : OrchestrationPlan) (idle : engine.control = .ready [])
      (op : input.op ≠ .tick)
      (known : engine.scheduler.plans.get? plan.id = none ∧ plan.runCount = 0 ∨
        plan ∈ engine.scheduler.plans.values)
      (scheduler : after.scheduler = engine.scheduler.register plan after.clock)
      (due : after.control.due = [])
      (elapsed : engine.clock ≤ after.clock)
  | called (plan : OrchestrationPlan) (idle : engine.control = .ready []) (op : input.op ≠ .tick)
      (known : plan ∈ engine.scheduler.plans.values)
      (scheduler : after.scheduler = engine.scheduler.markRun plan.id after.clock)
      (due : after.control.due = [])
      (elapsed : engine.clock ≤ after.clock)
  | ranDue (plan : OrchestrationPlan) (rest : List OrchestrationPlan)
      (waiting : engine.control = .ready (plan :: rest))
      (scheduler : after.scheduler = engine.scheduler.markRun plan.id after.clock)
      (due : after.control.due = rest)
      (elapsed : engine.clock ≤ after.clock)
  | ticked (idle : engine.control = .ready []) (op : input.op = .tick)
      (scheduler : after.scheduler = { engine.scheduler with
        events := engine.scheduler.events ++ (engine.scheduler.duePlans after.clock).map fun plan =>
            .due plan.id after.clock })
      (due : after.control.due = engine.scheduler.duePlans after.clock)
      (elapsed : engine.clock ≤ after.clock)

variable {config}

theorem get_plan_listed {engine : Engine} {planId : String}
    {plan : OrchestrationPlan} (found : engine.getPlan planId = some plan) :
    plan ∈ engine.scheduler.plans.values := by
  unfold Engine.getPlan at found
  split at found
  next stored present =>
    cases found
    exact (OrderedDict.mem_values_iff _ _).mpr ⟨planId, present⟩
  · exact List.mem_of_find?_eq_some found

theorem pass_time_later (engine : Engine) (elapsed : Nat) :
    engine.clock ≤ (engine.passTime elapsed).clock := by
  exact Int.le_add_of_nonneg_right (Int.natCast_nonneg elapsed)

theorem execute_schedule (config : EngineConfig) (plan : OrchestrationPlan)
    (checkpoint : Option Checkpoint) (execution : Execution) (attempts : Nat)
    (recovery : Option RecoveryResult) (due : List OrchestrationPlan)
    (engine : Engine) :
    let after := Engine.execute config plan checkpoint execution attempts recovery due engine
    after.scheduler = engine.scheduler ∧ after.control.due = due ∧ after.clock = engine.clock := by
  unfold Engine.execute
  split
  · exact ⟨rfl, rfl, rfl⟩
  · exact ⟨rfl, rfl, rfl⟩

theorem run_schedule (config : EngineConfig) (plan : OrchestrationPlan)
    (checkpoint : Option Checkpoint) (execution : Execution) (due : List OrchestrationPlan)
    (engine : Engine) :
    let after := Engine.run config plan checkpoint execution due engine
    after.scheduler = engine.scheduler.markRun plan.id after.clock ∧
      after.control.due = due ∧ engine.clock ≤ after.clock := by
  obtain ⟨scheduler, waiting, clock⟩ := execute_schedule config plan checkpoint execution 0 none due
    { engine.passTime execution.delay with
      scheduler := (engine.passTime execution.delay).scheduler.markRun plan.id
        (engine.passTime execution.delay).clock }
  have later := pass_time_later engine execution.delay
  refine ⟨?_, waiting, ?_⟩
  · change (Engine.execute _ _ _ _ _ _ _ _).scheduler = _
    rw [scheduler]
    change engine.scheduler.markRun _ _ = engine.scheduler.markRun _
      (Engine.execute _ _ _ _ _ _ _ _).clock
    rw [clock]
  · change _ ≤ (Engine.execute _ _ _ _ _ _ _ _).clock
    rw [clock]
    exact later

theorem finish_schedule (engine : Engine) (input : EngineInput)
    (attempt : Attempt) (due : List OrchestrationPlan)
    (same : engine.control.due = due) (mid : Engine)
    (scheduler : mid.scheduler = engine.scheduler) (clock : mid.clock = engine.clock) :
    ScheduleStep engine input (Engine.finishRun attempt due mid) := by
  have later : engine.clock ≤ (Engine.finishRun attempt due mid).clock :=
    le_of_eq clock.symm
  by_cases completed : attempt.state.status = .completed
  · refine ScheduleStep.completed attempt.plan.id ?_ same.symm later
    simp only [Engine.finishRun, if_pos completed, scheduler]
  · refine ScheduleStep.quiet ?_ same.symm later
    simp only [Engine.finishRun, if_neg completed, scheduler]

theorem call_schedule (engine : Engine) (input : EngineInput) (idle : engine.control = .ready []) :
    ScheduleStep engine input (Engine.call config input.op input.execution
      (engine.passTime input.elapsed)) := by
  have passed := pass_time_later engine input.elapsed
  have stillIdle : engine.control.due = [] := by
    rw [idle]
    rfl
  have quiet : ∀ after : Engine, after.scheduler = engine.scheduler →
      after.control = engine.control →
      after.clock = (engine.passTime input.elapsed).clock →
      ScheduleStep engine input after := by
    intro after scheduler control clock
    refine ScheduleStep.quiet scheduler ?_ ?_
    · rw [control]
    · rw [clock]
      exact passed
  have ran : ∀ plan checkpoint (mid : Engine), mid.scheduler = engine.scheduler →
      mid.clock = (engine.passTime input.elapsed).clock →
      plan ∈ engine.scheduler.plans.values → input.op ≠ .tick →
      ScheduleStep engine input (Engine.run config plan checkpoint input.execution [] mid) := by
    intro plan checkpoint mid scheduler clock listed other
    obtain ⟨marked, due, later⟩ := run_schedule config plan checkpoint input.execution [] mid
    rw [scheduler] at marked
    rw [clock] at later
    exact ScheduleStep.called plan idle other listed marked due (le_trans passed later)
  unfold Engine.call
  split
  next plan op =>
    split
    · exact quiet _ rfl rfl rfl
    next fresh =>
      refine ScheduleStep.registered { plan with runCount := 0 } idle ?_
        (Or.inl ⟨fresh, rfl⟩) rfl stillIdle passed
      rw [op]
      intro same
      cases same
  next planId op =>
    split
    · exact quiet _ rfl rfl rfl
    next plan known =>
      split
      · refine ran plan none _ rfl rfl (get_plan_listed known) ?_
        rw [op]
        intro same
        cases same
      · refine ScheduleStep.registered plan idle ?_ (Or.inr (get_plan_listed known))
          rfl stillIdle passed
        rw [op]
        intro same
        cases same
  next planId checkpointId op =>
    split
    · exact quiet _ rfl rfl rfl
    next plan known =>
      split
      next shared absent => exact quiet _ rfl rfl rfl
      next shared checkpoint found =>
        refine ran plan (some checkpoint) _ rfl rfl (get_plan_listed known) ?_
        rw [op]
        intro same
        cases same
  next planId op =>
    split
    · exact quiet _ rfl rfl rfl
    next plan known =>
      refine ran plan none _ rfl rfl (get_plan_listed known) ?_
      rw [op]
      intro same
      cases same
  next planId reason op =>
    split
    · exact quiet _ rfl rfl rfl
    · split
      · exact quiet _ rfl rfl rfl
      · exact quiet _ rfl rfl rfl
  next op => exact ScheduleStep.ticked idle op rfl rfl passed
  next planId op =>
    split
    · exact quiet _ rfl rfl rfl
    next plan known =>
      refine ScheduleStep.called plan idle ?_ (get_plan_listed known) rfl stillIdle passed
      rw [op]
      intro same
      cases same
  next planId op => exact ScheduleStep.completed planId rfl rfl passed

theorem schedule_step_cases (config : EngineConfig) (engine : Engine) (input : EngineInput) :
    ScheduleStep engine input (engine.step config input) := by
  unfold Engine.step
  split
  next idle => exact call_schedule engine input idle
  next plan due waiting =>
    obtain ⟨marked, rest, later⟩ := run_schedule config plan none input.execution due engine
    exact ScheduleStep.ranDue plan due waiting marked rest later
  next attempt due attempted =>
    have same : engine.control.due = due := by
      rw [attempted]
      rfl
    split
    · unfold Engine.recoverRun
      split
      · exact finish_schedule engine input attempt due same _ rfl rfl
      next progress prepared =>
        simp only
        split
        · obtain ⟨scheduler, waiting, clock⟩ := execute_schedule config
            attempt.plan progress.checkpoint input.execution (attempt.attempts + 1)
            (some progress.result) due { engine with shared := progress.shared }
          exact ScheduleStep.quiet scheduler (waiting.trans same.symm) (le_of_eq clock.symm)
        · exact finish_schedule engine input _ due same _ rfl rfl
    · exact finish_schedule engine input attempt due same _ rfl rfl

end Steps

section Books

def ScheduleEvent.isDueOf (planId : String) : ScheduleEvent → Bool
  | .due other _ => decide (other = planId)
  | _ => false

def ScheduleEvent.isMarkOf (planId : String) : ScheduleEvent → Bool
  | .marked other _ => decide (other = planId)
  | _ => false

/-- How often ticks found the plan due. -/
def dues (events : List ScheduleEvent) (planId : String) : Nat :=
  events.countP (ScheduleEvent.isDueOf planId)

/-- How often the plan was executed. -/
def marks (events : List ScheduleEvent) (planId : String) : Nat :=
  events.countP (ScheduleEvent.isMarkOf planId)

/-- What the earlier events have to say about an event of the plan: a tick
finds it due by the rule of its mode, and no run precedes the tick that found
it due. -/
def Triggered (interval : Time) (plan : OrchestrationPlan)
    (early : List ScheduleEvent) : ScheduleEvent → Prop
  | .due planId now => planId = plan.id →
      match plan.scheduleMode with
      | .immediate => True
      | .scheduled => ∀ registered, .registered planId registered ∈ early →
          plan.scheduledAt.getD registered ≤ now
      | .recurring => ∀ last, .marked planId last ∈ early → last + interval ≤ now
      | .dependency => ∀ dep ∈ plan.dependsOn, .completed dep ∈ early
  | .marked planId now => planId = plan.id → ∀ earlier, .due planId earlier ∈ early → earlier ≤ now
  | .registered _ _ | .completed _ => True

structure ScheduledSafely (scheduler : OrchestrationScheduler)
    (plan : OrchestrationPlan) : Prop where
  triggered : EachJustified (Triggered (scheduler.intervalOf plan) plan) scheduler.events
  limited : plan.scheduleMode = .recurring → plan.maxRuns ≠ 0 →
    (dues scheduler.events plan.id : Int) ≤ max 0 plan.maxRuns
  once : plan.scheduleMode = .scheduled ∨ plan.scheduleMode = .dependency →
    dues scheduler.events plan.id ≤ 1

/-- What the scheduler still knows about an event. -/
def Recorded (scheduler : OrchestrationScheduler) (clock : Time) : ScheduleEvent → Prop
  | .registered planId time => time ≤ clock ∧
      ∀ plan trigger, scheduler.plans.get? planId = some plan → plan.scheduleMode = .scheduled →
        scheduler.scheduledAt.get? planId = some trigger →
        plan.scheduledAt.getD time ≤ trigger
  | .due planId time => time ≤ clock ∧ (scheduler.plans.get? planId).isSome
  | .marked planId time => time ≤ clock ∧ (scheduler.plans.get? planId).isSome ∧
      ∃ last, scheduler.lastRun.get? planId = some last ∧ time ≤ last
  | .completed _ => True

/-- The bookkeeping agrees with the events: what `due` still has to run makes
up the difference between the plans found due and the plans executed. -/
structure ScheduleBooks (scheduler : OrchestrationScheduler) (clock : Time)
    (due : List OrchestrationPlan) : Prop where
  keyed : ∀ planId plan, scheduler.plans.get? planId = some plan → plan.id = planId
  recorded : ∀ event ∈ scheduler.events, Recorded scheduler clock event
  known : ∀ plan ∈ due, (scheduler.plans.get? plan.id).isSome
  counted : ∀ planId plan, scheduler.plans.get? planId = some plan →
    plan.runCount = marks scheduler.events planId
  executed : ∀ planId last, scheduler.lastRun.get? planId = some last →
    .marked planId last ∈ scheduler.events
  upstream : ∀ dep ∈ scheduler.completed, .completed dep ∈ scheduler.events
  waiting : ∀ planId, dues scheduler.events planId ≤ marks scheduler.events planId +
      (due.map fun plan => plan.id).count planId
  safe : ∀ planId plan, scheduler.plans.get? planId = some plan → ScheduledSafely scheduler plan

variable {scheduler : OrchestrationScheduler} {clock : Time} {due : List OrchestrationPlan}

theorem Recorded.later {event : ScheduleEvent}
    (recorded : Recorded scheduler clock event) {now : Time} (elapsed : clock ≤ now) :
    Recorded scheduler now event := by
  cases event with
  | registered planId time => exact ⟨le_trans recorded.1 elapsed, recorded.2⟩
  | due planId time => exact ⟨le_trans recorded.1 elapsed, recorded.2⟩
  | marked planId time => exact ⟨le_trans recorded.1 elapsed, recorded.2⟩
  | completed planId => trivial

theorem ScheduleBooks.later (books : ScheduleBooks scheduler clock due)
    {now : Time} (elapsed : clock ≤ now) : ScheduleBooks scheduler now due :=
  { books with
    recorded := fun event member => (books.recorded event member).later elapsed }

theorem dues_append (events more : List ScheduleEvent) (planId : String) :
    dues (events ++ more) planId = dues events planId + dues more planId :=
  List.countP_append

theorem marks_append (events more : List ScheduleEvent) (planId : String) :
    marks (events ++ more) planId = marks events planId + marks more planId :=
  List.countP_append

theorem dues_unknown (books : ScheduleBooks scheduler clock due) {planId : String}
    (unknown : scheduler.plans.get? planId = none) :
    dues scheduler.events planId = 0 ∧ marks scheduler.events planId = 0 := by
  constructor
  · apply List.countP_eq_zero.mpr
    intro event member isDue
    have recorded := books.recorded event member
    cases event with
    | due other time =>
      have same : other = planId := by simpa [ScheduleEvent.isDueOf] using isDue
      rw [same, Recorded, unknown] at recorded
      cases recorded.2
    | registered other time => cases isDue
    | marked other time => cases isDue
    | completed other => cases isDue
  · apply List.countP_eq_zero.mpr
    intro event member isMark
    have recorded := books.recorded event member
    cases event with
    | marked other time =>
      have same : other = planId := by simpa [ScheduleEvent.isMarkOf] using isMark
      rw [same, Recorded, unknown] at recorded
      cases recorded.2.1
    | registered other time => cases isMark
    | due other time => cases isMark
    | completed other => cases isMark

theorem ScheduledSafely.extend {after : OrchestrationScheduler}
    {plan : OrchestrationPlan} {event : ScheduleEvent}
    (safe : ScheduledSafely scheduler plan)
    (events : after.events = scheduler.events ++ [event])
    (interval : after.defaultInterval = scheduler.defaultInterval)
    (triggered : Triggered (scheduler.intervalOf plan) plan scheduler.events event)
    (quiet : dues [event] plan.id = 0) : ScheduledSafely after plan := by
  have sameInterval : after.intervalOf plan = scheduler.intervalOf plan := by
    unfold OrchestrationScheduler.intervalOf
    rw [interval]
  constructor
  · rw [sameInterval, events]
    exact (each_justified_single _ _ _).mpr ⟨safe.triggered, triggered⟩
  · intro recurring limited
    rw [events, dues_append, quiet]
    exact safe.limited recurring limited
  · intro mode
    rw [events, dues_append, quiet]
    exact safe.once mode

theorem ScheduleBooks.notifyCompleted (books : ScheduleBooks scheduler clock due)
    (planId : String) :
    ScheduleBooks (scheduler.notifyCompleted planId) clock due := by
  constructor
  · exact books.keyed
  · intro event member
    rcases List.mem_append.mp member with old | new
    · exact books.recorded event old
    · rw [List.mem_singleton.mp new]
      trivial
  · exact books.known
  · intro other plan found
    rw [notify_completed_events, marks_append]
    exact books.counted other plan found
  · intro other last ran
    exact List.mem_append_left _ (books.executed other last ran)
  · intro dep member
    have origin : dep ∈ scheduler.completed ∨ dep = planId := by
      rw [notify_completed_completed] at member
      split at member
      · exact Or.inl member
      · rcases List.mem_append.mp member with old | new
        · exact Or.inl old
        · exact Or.inr (List.mem_singleton.mp new)
    rcases origin with old | new
    · exact List.mem_append_left _ (books.upstream dep old)
    · rw [new]
      exact List.mem_append_right _ List.mem_cons_self
  · intro other
    rw [notify_completed_events, dues_append, marks_append]
    exact books.waiting other
  · intro other plan found
    exact (books.safe other plan found).extend rfl rfl trivial rfl

theorem mark_run_plan {planId other : String} {now : Time} {plan : OrchestrationPlan}
    (found : (scheduler.markRun planId now).plans.get? other = some plan) :
    ∃ old, scheduler.plans.get? other = some old ∧
      plan = { old with runCount := old.runCount + if planId = other then 1 else 0 } := by
  rw [mark_run_plans, OrderedDict.get_modify] at found
  split at found
  next same =>
    obtain ⟨old, stored, changed⟩ := Option.map_eq_some_iff.mp found
    refine ⟨old, by rw [same, stored], ?_⟩
    rw [← changed, same]
    simp
  next different =>
    refine ⟨plan, found, ?_⟩
    rw [if_neg fun same => different same.symm]
    simp

theorem mark_run_present {planId other : String} (now : Time)
    (found : (scheduler.plans.get? other).isSome) :
    ((scheduler.markRun planId now).plans.get? other).isSome := by
  rw [mark_run_plans, OrderedDict.get_modify]
  split
  next same =>
    rw [Option.isSome_map, ← same]
    exact found
  · exact found

theorem marks_mark_run (scheduler : OrchestrationScheduler) (planId : String) (now : Time)
    (other : String) :
    marks (scheduler.markRun planId now).events other =
      marks scheduler.events other + if planId = other then 1 else 0 := by
  rw [mark_run_events, marks_append]
  simp [marks, ScheduleEvent.isMarkOf, List.countP_singleton]

theorem dues_mark_run (scheduler : OrchestrationScheduler) (planId : String) (now : Time)
    (other : String) :
    dues (scheduler.markRun planId now).events other = dues scheduler.events other := by
  rw [mark_run_events, dues_append]
  rfl

theorem Recorded.mark_run {event : ScheduleEvent}
    (recorded : Recorded scheduler clock event) (planId : String) :
    Recorded (scheduler.markRun planId clock) clock event := by
  cases event with
  | registered other time =>
    refine ⟨recorded.1, ?_⟩
    intro plan trigger found mode stored
    obtain ⟨earlier, present, same⟩ := mark_run_plan found
    rw [same] at mode ⊢
    exact recorded.2 earlier trigger present mode stored
  | due other time => exact ⟨recorded.1, mark_run_present clock recorded.2⟩
  | marked other time =>
    obtain ⟨past, present, last, stored, within⟩ := recorded
    refine ⟨past, mark_run_present clock present, ?_⟩
    rw [mark_run_last_run, OrderedDict.get_set]
    split
    · exact ⟨clock, rfl, past⟩
    · exact ⟨last, stored, within⟩
  | completed other => trivial

theorem ScheduleBooks.markRun (books : ScheduleBooks scheduler clock due)
    {planId : String} {rest : List OrchestrationPlan}
    (present : (scheduler.plans.get? planId).isSome)
    (fewer : ∀ plan ∈ rest, plan ∈ due)
    (popped : ∀ other, (due.map fun plan => plan.id).count other ≤
      (rest.map fun plan => plan.id).count other +
        if planId = other then 1 else 0) :
    ScheduleBooks (scheduler.markRun planId clock) clock rest := by
  constructor
  · intro other plan found
    obtain ⟨old, stored, same⟩ := mark_run_plan found
    rw [same]
    exact books.keyed other old stored
  · intro event member
    rcases List.mem_append.mp member with old | new
    · exact (books.recorded event old).mark_run planId
    · rw [List.mem_singleton.mp new]
      refine ⟨le_refl _, mark_run_present clock present, clock, ?_, le_refl _⟩
      exact OrderedDict.get_set_self _ _ _
  · intro plan member
    exact mark_run_present clock (books.known plan (fewer plan member))
  · intro other plan found
    obtain ⟨old, stored, same⟩ := mark_run_plan found
    rw [marks_mark_run, same]
    have counted := books.counted other old stored
    simp only
    split <;> omega
  · intro other last ran
    rw [mark_run_last_run, OrderedDict.get_set] at ran
    split at ran
    next same =>
      cases ran
      rw [same]
      exact List.mem_append_right _ List.mem_cons_self
    · exact List.mem_append_left _ (books.executed other last ran)
  · intro dep member
    exact List.mem_append_left _ (books.upstream dep member)
  · intro other
    rw [dues_mark_run, marks_mark_run]
    have waiting := books.waiting other
    have fewer := popped other
    omega
  · intro other plan found
    obtain ⟨old, stored, same⟩ := mark_run_plan found
    have safe : ScheduledSafely (scheduler.markRun planId clock) old := by
      refine (books.safe other old stored).extend rfl rfl ?_ rfl
      intro _ earlier member
      exact (books.recorded _ member).1
    rw [same]
    exact ⟨safe.triggered, safe.limited, safe.once⟩

theorem unknown_safe (books : ScheduleBooks scheduler clock due) {plan : OrchestrationPlan}
    (unknown : scheduler.plans.get? plan.id = none) :
    ScheduledSafely scheduler plan := by
  have none := (dues_unknown books unknown).1
  constructor
  · intro early event late split
    have member : event ∈ scheduler.events := by
      rw [split]
      exact List.mem_append_right _ List.mem_cons_self
    have recorded := books.recorded event member
    cases event with
    | registered planId time => trivial
    | completed planId => trivial
    | due planId time =>
      intro same
      rw [same, Recorded, unknown] at recorded
      cases recorded.2
    | marked planId time =>
      intro same
      rw [same, Recorded, unknown] at recorded
      cases recorded.2.1
  · intro recurring limited
    rw [none]
    exact le_max_left _ _
  · intro mode
    rw [none]
    exact Nat.zero_le _

theorem registered_trigger (scheduler : OrchestrationScheduler)
    (plan : OrchestrationPlan) (now : Time) (planId : String) :
    (planId ≠ plan.id → (scheduler.register plan now).scheduledAt.get? planId =
      scheduler.scheduledAt.get? planId) ∧
    (plan.scheduleMode = .scheduled → (scheduler.register plan now).scheduledAt.get? plan.id =
        some (plan.scheduledAt.getD now)) := by
  constructor
  · intro other
    unfold OrchestrationScheduler.register
    simp only
    split
    · exact OrderedDict.get_set_other _ _ other
    · exact OrderedDict.get_set_other _ _ other
    · exact OrderedDict.get_set_other _ _ other
    · rw [OrderedDict.get_erase, if_neg other]
  · intro mode
    unfold OrchestrationScheduler.register
    simp only [mode]
    exact OrderedDict.get_set_self _ _ _

theorem register_plan {plan found : OrchestrationPlan} {now : Time} {planId : String}
    (present : (scheduler.register plan now).plans.get? planId = some found) :
    planId = plan.id ∧ found = plan ∨
      planId ≠ plan.id ∧ scheduler.plans.get? planId = some found := by
  rw [register_plans, OrderedDict.get_set] at present
  split at present
  next same => exact Or.inl ⟨same, (Option.some.inj present).symm⟩
  next other => exact Or.inr ⟨other, present⟩

theorem register_present {planId : String} (plan : OrchestrationPlan) (now : Time)
    (found : (scheduler.plans.get? planId).isSome) :
    ((scheduler.register plan now).plans.get? planId).isSome := by
  rw [register_plans, OrderedDict.get_set]
  split
  · rfl
  · exact found

theorem marks_register (scheduler : OrchestrationScheduler) (plan : OrchestrationPlan)
    (now : Time) (planId : String) :
    marks (scheduler.register plan now).events planId = marks scheduler.events planId := by
  rw [register_events, marks_append]
  rfl

theorem dues_register (scheduler : OrchestrationScheduler) (plan : OrchestrationPlan)
    (now : Time) (planId : String) :
    dues (scheduler.register plan now).events planId = dues scheduler.events planId := by
  rw [register_events, dues_append]
  rfl

theorem registered_recorded (plan : OrchestrationPlan) {planId : String} {time : Time}
    (past : time ≤ clock)
    (earlier : Recorded scheduler clock (.registered planId time) ∨ planId = plan.id) :
    Recorded (scheduler.register plan clock) clock (.registered planId time) := by
  refine ⟨past, ?_⟩
  intro found trigger present mode stored
  rcases register_plan present with ⟨same, isPlan⟩ | ⟨other, old⟩
  · rw [same, (registered_trigger scheduler plan clock planId).2 (isPlan ▸ mode)] at stored
    cases stored
    rw [isPlan]
    cases plan.scheduledAt with
    | none => exact past
    | some at_ => exact le_refl _
  · rw [(registered_trigger scheduler plan clock planId).1 other] at stored
    rcases earlier with recorded | same
    · exact recorded.2 found trigger old mode stored
    · exact absurd same other

theorem Recorded.register {event : ScheduleEvent}
    (recorded : Recorded scheduler clock event) (plan : OrchestrationPlan) :
    Recorded (scheduler.register plan clock) clock event := by
  cases event with
  | registered planId time => exact registered_recorded plan recorded.1 (Or.inl recorded)
  | due planId time => exact ⟨recorded.1, register_present plan clock recorded.2⟩
  | marked planId time =>
    exact ⟨recorded.1, register_present plan clock recorded.2.1, recorded.2.2⟩
  | completed planId => trivial

theorem ScheduleBooks.register (books : ScheduleBooks scheduler clock due)
    {plan : OrchestrationPlan}
    (known : scheduler.plans.get? plan.id = none ∧ plan.runCount = 0 ∨
      scheduler.plans.get? plan.id = some plan) :
    ScheduleBooks (scheduler.register plan clock) clock due := by
  constructor
  · intro planId found present
    rcases register_plan present with ⟨same, isPlan⟩ | ⟨other, old⟩
    · rw [same, isPlan]
    · exact books.keyed planId found old
  · intro event member
    rcases List.mem_append.mp member with old | new
    · exact (books.recorded event old).register plan
    · rw [List.mem_singleton.mp new]
      exact registered_recorded plan (le_refl _) (Or.inr rfl)
  · intro other member
    exact register_present plan clock (books.known other member)
  · intro planId found present
    rw [marks_register]
    rcases register_plan present with ⟨same, isPlan⟩ | ⟨other, old⟩
    · rw [same, isPlan]
      rcases known with ⟨fresh, unrun⟩ | stored
      · rw [unrun, (dues_unknown books fresh).2]
        rfl
      · exact books.counted plan.id plan stored
    · exact books.counted planId found old
  · intro planId last ran
    exact List.mem_append_left _ (books.executed planId last ran)
  · intro dep member
    exact List.mem_append_left _ (books.upstream dep member)
  · intro planId
    rw [marks_register, dues_register]
    exact books.waiting planId
  · intro planId found present
    have safe : ScheduledSafely scheduler found := by
      rcases register_plan present with ⟨same, isPlan⟩ | ⟨other, old⟩
      · rw [isPlan]
        rcases known with ⟨fresh, unrun⟩ | stored
        · exact unknown_safe books fresh
        · exact books.safe plan.id plan stored
      · exact books.safe planId found old
    exact safe.extend rfl rfl trivial rfl

theorem due_plans_distinct (books : ScheduleBooks scheduler clock due) (now : Time) :
    ((scheduler.duePlans now).map fun plan => plan.id).Nodup := by
  have keys : scheduler.plans.values.map (fun plan => plan.id) =
      scheduler.plans.keys := by
    unfold OrderedDict.values OrderedDict.keys
    rw [List.map_map]
    apply List.map_congr_left
    intro entry member
    exact books.keyed entry.1 entry.2 ((OrderedDict.get_eq_some_iff _ _ _).mpr member)
  have sub : ((scheduler.duePlans now).map fun plan => plan.id).Sublist
      (scheduler.plans.values.map fun plan => plan.id) :=
    List.filter_sublist.map _
  rw [keys] at sub
  exact scheduler.plans.distinct.sublist sub

theorem ScheduleBooks.never_executed (books : ScheduleBooks scheduler clock due) (planId : String) :
    scheduler.lastRun.get? planId = none ↔ marks scheduler.events planId = 0 := by
  unfold marks
  rw [List.countP_eq_zero]
  constructor
  · intro never event member isMark
    have recorded := books.recorded event member
    cases event with
    | marked other time =>
      have same : other = planId := by simpa [ScheduleEvent.isMarkOf] using isMark
      obtain ⟨_, _, last, present, _⟩ := recorded
      rw [same, never] at present
      cases present
    | registered other time => cases isMark
    | due other time => cases isMark
    | completed other => cases isMark
  · intro unmarked
    cases ran : scheduler.lastRun.get? planId with
    | none => rfl
    | some last =>
      have absurdity := unmarked _ (books.executed planId last ran)
      simp [ScheduleEvent.isMarkOf] at absurdity

theorem undue_of_never (books : ScheduleBooks scheduler clock []) {planId : String}
    (never : scheduler.lastRun.get? planId = none) : dues scheduler.events planId = 0 := by
  have waiting := books.waiting planId
  rw [(books.never_executed planId).mp never] at waiting
  exact Nat.le_zero.mp waiting

section Due

variable {plan : OrchestrationPlan} (stored : scheduler.plans.get? plan.id = some plan)
  (isDue : scheduler.isDue plan clock = true)

include stored isDue

theorem scheduled_due (books : ScheduleBooks scheduler clock [])
    (mode : plan.scheduleMode = .scheduled) :
    (∀ registered, .registered plan.id registered ∈ scheduler.events →
      plan.scheduledAt.getD registered ≤ clock) ∧
      dues scheduler.events plan.id = 0 := by
  simp only [OrchestrationScheduler.isDue, mode] at isDue
  split at isDue
  · cases isDue
  next never =>
    split at isDue
    · cases isDue
    next trigger present =>
      have reached : trigger ≤ clock := of_decide_eq_true isDue
      constructor
      · intro registered member
        have recorded := books.recorded _ member
        exact le_trans (recorded.2 plan trigger stored mode present) reached
      · exact undue_of_never books (Option.not_isSome_iff_eq_none.mp never)

theorem recurring_due (books : ScheduleBooks scheduler clock [])
    (mode : plan.scheduleMode = .recurring) :
    (∀ last, .marked plan.id last ∈ scheduler.events → last + scheduler.intervalOf plan ≤ clock) ∧
      (plan.maxRuns ≠ 0 → (dues scheduler.events plan.id : Int) < plan.maxRuns) := by
  simp only [OrchestrationScheduler.isDue, mode] at isDue
  split at isDue
  · cases isDue
  next within =>
    constructor
    · intro time member
      obtain ⟨_, _, last, present, bound⟩ := books.recorded _ member
      rw [present] at isDue
      have apart : last + scheduler.intervalOf plan ≤ clock := of_decide_eq_true isDue
      exact le_trans (Int.add_le_add_right bound _) apart
    · intro limited
      have below : plan.runCount < plan.maxRuns := by
        by_contra reached
        exact within ⟨limited, not_lt.mp reached⟩
      have counted := books.counted plan.id plan stored
      have waiting := books.waiting plan.id
      simp only [List.map_nil, List.count_nil] at waiting
      omega

omit stored in
theorem dependency_due (books : ScheduleBooks scheduler clock [])
    (mode : plan.scheduleMode = .dependency) :
    (∀ dep ∈ plan.dependsOn, .completed dep ∈ scheduler.events) ∧
      dues scheduler.events plan.id = 0 := by
  simp only [OrchestrationScheduler.isDue, mode] at isDue
  split at isDue
  · cases isDue
  next satisfied =>
    constructor
    · intro dep member
      apply books.upstream
      by_contra missing
      apply satisfied
      exact List.any_eq_true.mpr ⟨dep, member, decide_eq_true missing⟩
    · exact undue_of_never books (Option.isNone_iff_eq_none.mp isDue)

theorem due_triggered (books : ScheduleBooks scheduler clock []) :
    Triggered (scheduler.intervalOf plan) plan scheduler.events (.due plan.id clock) ∧
      (plan.scheduleMode = .recurring → plan.maxRuns ≠ 0 →
        (dues scheduler.events plan.id : Int) < plan.maxRuns) ∧
      (plan.scheduleMode = .scheduled ∨ plan.scheduleMode = .dependency →
        dues scheduler.events plan.id = 0) := by
  cases mode : plan.scheduleMode with
  | immediate =>
    simp only [Triggered, mode]
    refine ⟨fun _ => trivial, ?_, ?_⟩
    · intro impossible
      cases impossible
    · intro impossible
      rcases impossible with impossible | impossible <;> cases impossible
  | scheduled =>
    obtain ⟨reached, never⟩ := scheduled_due stored isDue books mode
    simp only [Triggered, mode]
    refine ⟨fun _ => reached, ?_, fun _ => never⟩
    intro impossible
    cases impossible
  | recurring =>
    obtain ⟨apart, limited⟩ := recurring_due stored isDue books mode
    simp only [Triggered, mode]
    refine ⟨fun _ => apart, fun _ => limited, ?_⟩
    intro impossible
    rcases impossible with impossible | impossible <;> cases impossible
  | dependency =>
    obtain ⟨satisfied, never⟩ := dependency_due isDue books mode
    simp only [Triggered, mode]
    refine ⟨fun _ => satisfied, ?_, fun _ => never⟩
    intro impossible
    cases impossible

end Due

/-- The events by which a tick records what it found due. -/
def dueEvents (found : List OrchestrationPlan) (now : Time) : List ScheduleEvent :=
  found.map fun plan => .due plan.id now

theorem due_events_counts (found : List OrchestrationPlan) (now : Time) (planId : String) :
    dues (dueEvents found now) planId = (found.map fun plan => plan.id).count planId ∧
      marks (dueEvents found now) planId = 0 := by
  induction found with
  | nil => exact ⟨rfl, rfl⟩
  | cons plan rest ih =>
    constructor
    · change dues ([.due plan.id now] ++ dueEvents rest now) planId = _
      rw [dues_append, ih.1, List.map_cons, List.count_cons, Nat.add_comm]
      simp [dues, ScheduleEvent.isDueOf, List.countP_singleton]
    · change marks ([.due plan.id now] ++ dueEvents rest now) planId = _
      rw [marks_append, ih.2]
      rfl

theorem mem_due_events {found : List OrchestrationPlan} {now : Time}
    {event : ScheduleEvent} (member : event ∈ dueEvents found now) :
    ∃ plan ∈ found, event = .due plan.id now := by
  obtain ⟨plan, listed, same⟩ := List.mem_map.mp member
  exact ⟨plan, listed, same.symm⟩

theorem Triggered.among_due {interval : Time} {plan : OrchestrationPlan}
    {events early : List ScheduleEvent} {now : Time}
    (triggered : Triggered interval plan events (.due plan.id now))
    (onlyDue : ∀ event ∈ early, ∃ planId time, event = .due planId time) :
    Triggered interval plan (events ++ early) (.due plan.id now) := by
  have old : ∀ event, (∀ planId time, event ≠ .due planId time) →
      event ∈ events ++ early → event ∈ events := by
    intro event other member
    rcases List.mem_append.mp member with earlier | here
    · exact earlier
    · obtain ⟨planId, time, same⟩ := onlyDue event here
      exact absurd same (other planId time)
  intro same
  have rule := triggered same
  cases mode : plan.scheduleMode with
  | immediate => trivial
  | scheduled =>
    simp only [mode] at rule ⊢
    intro registered member
    apply rule registered (old _ _ member)
    intro planId time impossible
    cases impossible
  | recurring =>
    simp only [mode] at rule ⊢
    intro last member
    apply rule last (old _ _ member)
    intro planId time impossible
    cases impossible
  | dependency =>
    simp only [mode] at rule ⊢
    intro dep member
    exact List.mem_append_left _ (rule dep member)

theorem due_listed (books : ScheduleBooks scheduler clock due) {now : Time}
    {plan : OrchestrationPlan} (member : plan ∈ scheduler.duePlans now) :
    scheduler.plans.get? plan.id = some plan ∧ scheduler.isDue plan now = true := by
  obtain ⟨stored, isDue⟩ := List.mem_filter.mp member
  obtain ⟨planId, found⟩ := (OrderedDict.mem_values_iff _ _).mp stored
  rw [books.keyed planId plan found]
  exact ⟨found, isDue⟩

theorem due_of_same_id (books : ScheduleBooks scheduler clock due) {now : Time}
    {plan other : OrchestrationPlan} (stored : scheduler.plans.get? plan.id = some plan)
    (member : other ∈ scheduler.duePlans now) (same : other.id = plan.id) : other = plan := by
  have found := (due_listed books member).1
  rw [same, stored] at found
  exact (Option.some.inj found).symm

theorem tick_counts (found : List OrchestrationPlan) (now : Time) (events : List ScheduleEvent)
    (planId : String) :
    dues (events ++ dueEvents found now) planId =
        dues events planId + (found.map fun plan => plan.id).count planId ∧
      marks (events ++ dueEvents found now) planId = marks events planId := by
  obtain ⟨duesEq, marksEq⟩ := due_events_counts found now planId
  rw [dues_append, marks_append, duesEq, marksEq]
  exact ⟨rfl, rfl⟩

theorem due_events_triggered (books : ScheduleBooks scheduler clock [])
    {plan : OrchestrationPlan} (stored : scheduler.plans.get? plan.id = some plan)
    {early late : List ScheduleEvent} {event : ScheduleEvent}
    (split : dueEvents (scheduler.duePlans clock) clock = early ++ event :: late) :
    Triggered (scheduler.intervalOf plan) plan (scheduler.events ++ early) event := by
  have member : event ∈ dueEvents (scheduler.duePlans clock) clock := by
    rw [split]
    exact List.mem_append_right _ List.mem_cons_self
  obtain ⟨other, found, isDue⟩ := mem_due_events member
  rw [isDue]
  by_cases same : other.id = plan.id
  · have isPlan := due_of_same_id books stored found same
    rw [isPlan] at found ⊢
    apply (due_triggered stored (due_listed books found).2 books).1.among_due
    intro earlier earlierMember
    have inside : earlier ∈ dueEvents (scheduler.duePlans clock) clock := by
      rw [split]
      exact List.mem_append_left _ earlierMember
    obtain ⟨due, _, shape⟩ := mem_due_events inside
    exact ⟨due.id, clock, shape⟩
  · intro again
    exact absurd again same

theorem tick_safe (books : ScheduleBooks scheduler clock []) {plan : OrchestrationPlan}
    (stored : scheduler.plans.get? plan.id = some plan) :
    ScheduledSafely { scheduler with
      events := scheduler.events ++ dueEvents (scheduler.duePlans clock) clock } plan := by
  have safe := books.safe plan.id plan stored
  have distinct := List.nodup_iff_count_le_one.mp (due_plans_distinct books clock) plan.id
  have counts := (tick_counts (scheduler.duePlans clock) clock scheduler.events plan.id).1
  have found : plan ∈ scheduler.duePlans clock ∨
      ((scheduler.duePlans clock).map fun plan => plan.id).count plan.id = 0 := by
    by_cases member : plan.id ∈ (scheduler.duePlans clock).map fun plan => plan.id
    · obtain ⟨other, otherFound, same⟩ := List.mem_map.mp member
      rw [← due_of_same_id books stored otherFound same]
      exact Or.inl otherFound
    · exact Or.inr (List.count_eq_zero.mpr member)
  constructor
  · refine (each_justified_append _ _ _).mpr ⟨safe.triggered, ?_⟩
    intro early event late split
    exact due_events_triggered books stored split
  · intro recurring limited
    rw [counts]
    rcases found with member | none
    · have below := (due_triggered stored (due_listed books member).2 books).2.1 recurring limited
      have bound : (0 : Int) ≤ plan.maxRuns := by omega
      rw [max_eq_right bound]
      push_cast
      omega
    · rw [none]
      exact safe.limited recurring limited
  · intro mode
    rw [counts]
    rcases found with member | none
    · rw [(due_triggered stored (due_listed books member).2 books).2.2 mode]
      omega
    · rw [none]
      exact safe.once mode

theorem ScheduleBooks.tick (books : ScheduleBooks scheduler clock []) :
    ScheduleBooks { scheduler with
        events := scheduler.events ++ dueEvents (scheduler.duePlans clock) clock }
      clock (scheduler.duePlans clock) := by
  have counts := tick_counts (scheduler.duePlans clock) clock scheduler.events
  constructor
  · exact books.keyed
  · intro event member
    rcases List.mem_append.mp member with old | new
    · exact books.recorded event old
    · obtain ⟨plan, found, same⟩ := mem_due_events new
      rw [same]
      refine ⟨le_refl _, ?_⟩
      change (scheduler.plans.get? plan.id).isSome
      rw [(due_listed books found).1]
      rfl
  · intro plan member
    change (scheduler.plans.get? plan.id).isSome
    rw [(due_listed books member).1]
    rfl
  · intro planId plan found
    rw [(counts planId).2]
    exact books.counted planId plan found
  · intro planId last ran
    exact List.mem_append_left _ (books.executed planId last ran)
  · intro dep member
    exact List.mem_append_left _ (books.upstream dep member)
  · intro planId
    rw [(counts planId).1, (counts planId).2]
    have waiting := books.waiting planId
    simp only [List.map_nil, List.count_nil] at waiting
    omega
  · intro planId plan stored
    have same := books.keyed planId plan stored
    rw [← same] at stored
    exact tick_safe books stored

end Books

section Safety

def Engine.Books (engine : Engine) : Prop :=
  ScheduleBooks engine.scheduler engine.clock engine.control.due

theorem step_books (config : EngineConfig) (engine : Engine) (input : EngineInput)
    (books : engine.Books) : (engine.step config input).Books := by
  unfold Engine.Books at books ⊢
  have step := schedule_step_cases config engine input
  generalize engine.step config input = after at step ⊢
  have idleDue : engine.control = .ready [] → engine.control.due = [] := by
    intro idle
    rw [idle]
    rfl
  have listed : ∀ plan, plan ∈ engine.scheduler.plans.values →
      engine.scheduler.plans.get? plan.id = some plan := by
    intro plan member
    obtain ⟨planId, found⟩ := (OrderedDict.mem_values_iff _ _).mp member
    rw [books.keyed planId plan found]
    exact found
  cases step with
  | quiet scheduler due elapsed =>
    rw [scheduler, due]
    exact books.later elapsed
  | completed planId scheduler due elapsed =>
    rw [scheduler, due]
    exact (books.later elapsed).notifyCompleted planId
  | registered plan idle op known scheduler due elapsed =>
    rw [idleDue idle] at books
    rw [scheduler, due]
    apply (books.later elapsed).register
    rcases known with fresh | member
    · exact Or.inl fresh
    · exact Or.inr (listed plan member)
  | called plan idle op known scheduler due elapsed =>
    rw [idleDue idle] at books
    rw [scheduler, due]
    apply (books.later elapsed).markRun
    · rw [listed plan known]
      rfl
    · exact fun other member => member
    · intro other
      exact Nat.le_add_right _ _
  | ranDue plan rest waiting scheduler due elapsed =>
    have control : engine.control.due = plan :: rest := by
      rw [waiting]
      rfl
    rw [control] at books
    rw [scheduler, due]
    apply (books.later elapsed).markRun
    · exact books.known plan List.mem_cons_self
    · exact fun other member => List.mem_cons_of_mem _ member
    · intro other
      rw [List.map_cons, List.count_cons]
      simp
  | ticked idle op scheduler due elapsed =>
    rw [idleDue idle] at books
    rw [scheduler, due]
    exact (books.later elapsed).tick

theorem new_books (config : EngineConfig) (hasMemory : Bool) :
    (Engine.new config hasMemory).Books := by
  constructor
  · intro planId plan found
    cases found
  · intro event member
    cases member
  · intro plan member
    cases member
  · intro planId plan found
    cases found
  · intro planId last ran
    cases ran
  · intro dep member
    cases member
  · intro planId
    exact Nat.le_refl _
  · intro planId plan found
    cases found

theorem runs_books (config : EngineConfig) (hasMemory : Bool) (inputs : List EngineInput) :
    ((Engine.new config hasMemory).runs config inputs).Books :=
  invariant_of_steps (Engine.step config) (step_books config) _ inputs (new_books config hasMemory)

end Safety

end AiEnterpriseOs.Orchestration
