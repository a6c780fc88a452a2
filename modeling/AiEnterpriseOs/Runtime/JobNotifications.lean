import AiEnterpriseOs.Runtime.JobLimits

/-!
# Notifications of jobs

A registration leaves a subscription on the bus that nothing takes back. A
notification delivers to its subscribers one after the other, so a name that is
subscribed twice is delivered to twice.
-/

namespace AiEnterpriseOs.Runtime

open Library

variable {Handler : Type}

namespace Thread

variable (croniter : Croniter) (now : Int) (scheduler : JobScheduler Handler)
  (outcome : HandlerOutcome)

/-- The names to which a notification may still deliver a run. -/
def remaining : Thread Handler → List String
  | notifying pending => pending
  | calling name (.notification pending) => name :: pending
  | running name _ .found (.notification pending) => name :: pending
  | running name _ .admitted (.notification pending) => name :: pending
  | running _ _ _ (.notification pending) => pending
  | _ => []

/-- What a step of a thread delivers. -/
inductive DeliveryStep (index : Nat) (thread next : Thread Handler)
    (delivered : List Delivery) : Prop where
  | quiet (fewer : next.remaining.Sublist thread.remaining) (failures : ∀ delivery ∈ delivered,
        delivery.failed = true ∧ delivery.notification = index)
  | attempted (delivery : Delivery) (only : delivered = [delivery])
      (here : delivery.notification = index)
      (taken : thread.remaining = delivery.name :: next.remaining)

namespace DeliveryStep

variable {index : Nat} {thread next : Thread Handler} {delivered : List Delivery}

theorem fewer (delivers : DeliveryStep index thread next delivered) :
    next.remaining.Sublist thread.remaining := by
  cases delivers with
  | quiet fewer _ => exact fewer
  | attempted delivery _ _ taken =>
    rw [taken]
    exact List.sublist_cons_self _ _

theorem own (delivers : DeliveryStep index thread next delivered) :
    ∀ delivery ∈ delivered, delivery.notification = index := by
  intro delivery member
  cases delivers with
  | quiet _ failures => exact (failures delivery member).2
  | attempted only same here _ =>
    rw [same] at member
    rw [List.mem_singleton.mp member]
    exact here

end DeliveryStep

theorem returned_remaining (caller : Caller) (completed : Bool) (name : String) (job : Nat) :
    (caller.returned completed : Thread Handler).remaining =
      (running name job (.settled completed) caller : Thread Handler).remaining := by
  cases caller <;> rfl

theorem settled_fewer (name : String) (job : Nat) (completed : Bool) (caller : Caller)
    (phase : RunPhase Handler) :
    (running name job (.settled completed) caller : Thread Handler).remaining.Sublist
      (running name job phase caller).remaining := by
  cases caller with
  | notification pending =>
    cases phase with
    | found => exact List.sublist_cons_self name pending
    | admitted => exact List.sublist_cons_self name pending
    | handling handler => exact List.Sublist.refl pending
    | settled ended => exact List.Sublist.refl pending
  | direct => cases phase <;> exact List.nil_sublist _
  | tick other due executed => cases phase <;> exact List.nil_sublist _

theorem calling_deliveries (index : Nat) (name : String) (caller : Caller) :
    ∀ delivery ∈ (calling name caller : Thread Handler).deliveries scheduler outcome index,
      delivery.failed = true ∧ delivery.notification = index := by
  intro delivery member
  cases caller with
  | notification pending =>
    rw [deliveries] at member
    split at member
    · rw [List.mem_singleton.mp member]
      exact ⟨rfl, rfl⟩
    · cases member
  | _ => cases member

theorem next_delivery_step (index : Nat) (thread : Thread Handler) :
    DeliveryStep index thread (thread.next croniter now scheduler outcome).1
      (thread.deliveries scheduler outcome index) := by
  have step := next_cases croniter now scheduler outcome thread
  generalize (thread.next croniter now scheduler outcome).1 = next at step ⊢
  generalize (thread.next croniter now scheduler outcome).2 = after at step
  cases step with
  | missing name caller gone =>
    refine .quiet ?_ (calling_deliveries scheduler outcome index name caller)
    cases caller with
    | notification pending => exact List.sublist_cons_self name pending
    | _ => exact List.Sublist.refl _
  | disabled name caller job registered =>
    refine .quiet ?_ (calling_deliveries scheduler outcome index name caller)
    rw [returned_remaining caller false name job]
    cases caller with
    | notification pending => exact List.sublist_cons_self name pending
    | _ => exact List.Sublist.refl _
  | found name caller job registered =>
    refine .quiet ?_ (calling_deliveries scheduler outcome index name caller)
    cases caller <;> exact List.Sublist.refl _
  | refused name job caller taken =>
    refine .quiet ?_ (by cases caller <;> nofun)
    rw [returned_remaining caller false name job]
    exact settled_fewer name job false caller .found
  | admitted name job caller free =>
    refine .quiet ?_ (by cases caller <;> nofun)
    cases caller <;> exact List.Sublist.refl _
  | unhandled name job caller gone =>
    cases caller with
    | notification pending => exact .attempted _ rfl rfl rfl
    | _ => exact .quiet (List.Sublist.refl _) nofun
  | begun name job caller handler registered =>
    cases caller with
    | notification pending => exact .attempted _ rfl rfl rfl
    | _ => exact .quiet (List.Sublist.refl _) nofun
  | settled name job caller handler =>
    refine .quiet (settled_fewer name job _ caller (.handling handler)) ?_
    intro delivery member
    cases caller with
    | notification pending =>
      rw [deliveries] at member
      split at member
      · rw [List.mem_singleton.mp member]
        exact ⟨rfl, rfl⟩
      · cases member
    | _ => cases member
  | released name job caller completed =>
    refine .quiet ?_ (by cases caller <;> nofun)
    rw [returned_remaining caller completed name job]
  | _ => exact .quiet (List.Sublist.refl _) nofun

theorem next_remaining (index : Nat) (thread : Thread Handler) (name : String)
    (later : name ∈ (thread.next croniter now scheduler outcome).1.remaining) :
    name ∈ thread.remaining :=
  (thread.next_delivery_step croniter now scheduler outcome index).fewer.subset later

/-- A notification has found the job and is not done with its run. -/
def delivering (name : String) (job : Nat) : Thread Handler → Prop
  | running _ _ (.settled _) (.notification _) => False
  | running other object _ (.notification _) => other = name ∧ object = job
  | _ => False

theorem next_delivering (thread : Thread Handler) (name : String) (job : Nat)
    (later : (thread.next croniter now scheduler outcome).1.delivering name job) :
    thread.delivering name job ∨ scheduler.jobs.get? name = some job := by
  have step := next_cases croniter now scheduler outcome thread
  generalize (thread.next croniter now scheduler outcome).1 = next at step later
  generalize (thread.next croniter now scheduler outcome).2 = after at step
  cases step with
  | found called caller object registered =>
    cases caller with
    | notification pending =>
      obtain ⟨sameName, sameJob⟩ := later
      rw [← sameName, ← sameJob]
      exact .inr registered
    | _ => cases later
  | admitted called object caller free =>
    cases caller with
    | notification pending => exact .inl later
    | _ => cases later
  | begun called object caller handler registered =>
    cases caller with
    | notification pending => exact .inl later
    | _ => cases later
  | missing called caller gone => cases caller <;> cases later
  | disabled called caller object registered => cases caller <;> cases later
  | refused called object caller taken => cases caller <;> cases later
  | unhandled called object caller gone => cases caller <;> cases later
  | settled called object caller handler => cases caller <;> cases later
  | released called object caller completed => cases caller <;> cases later
  | _ => cases later

/-- The jobs to which a notification still has to deliver are registered. -/
structure Live (jobs : OrderedDict String Nat) (thread : Thread Handler) : Prop where
  remaining : ∀ name ∈ thread.remaining, (jobs.get? name).isSome = true
  delivering : ∀ name job, thread.delivering name job → jobs.get? name = some job

theorem next_live {thread : Thread Handler} (live : thread.Live scheduler.jobs) :
    (thread.next croniter now scheduler outcome).1.Live scheduler.jobs where
  remaining := fun name later =>
    live.remaining name (thread.next_remaining croniter now scheduler outcome 0 name later)
  delivering := fun name job later =>
    (thread.next_delivering croniter now scheduler outcome name job later).elim
      (live.delivering name job) id

theorem live_deliveries (index : Nat) {thread : Thread Handler}
    (live : thread.Live scheduler.jobs) :
    ∀ delivery ∈ thread.deliveries scheduler outcome index, delivery.registered = true := by
  intro delivery member
  cases thread with
  | calling name caller =>
    cases caller with
    | notification pending =>
      rw [deliveries] at member
      split at member
      next missing =>
        have present := live.remaining name List.mem_cons_self
        rw [Option.isNone_iff_eq_none] at missing
        rw [missing] at present
        cases present
      next => cases member
    | _ => cases member
  | running name job phase caller =>
    cases caller with
    | notification pending =>
      cases phase with
      | admitted =>
        rw [deliveries] at member
        rw [List.mem_singleton.mp member]
        exact decide_eq_true (live.delivering name job ⟨rfl, rfl⟩)
      | handling handler =>
        rw [deliveries] at member
        split at member
        · rw [List.mem_singleton.mp member]
          exact decide_eq_true (live.delivering name job ⟨rfl, rfl⟩)
        · cases member
      | _ => cases member
    | _ => cases phase <;> cases member
  | _ => cases member

end Thread

namespace SchedulerWorld

variable (croniter : Croniter)

def triggers (notification : Nat) (name : String) (delivery : Delivery) : Bool :=
  decide (delivery.notification = notification ∧ delivery.name = name ∧ delivery.failed = false)

/-- Every notification triggers at most one run of a job. -/
def OncePerNotification (world : SchedulerWorld Handler) : Prop :=
  ∀ notification name, world.deliveries.countP (triggers notification name) ≤ 1

/-- A notification runs a job, or reports a failure for it, only while the job is
registered. -/
def OnlyRegistered (world : SchedulerWorld Handler) : Prop :=
  ∀ delivery ∈ world.deliveries, delivery.registered = true

structure Once (world : SchedulerWorld Handler) : Prop where
  earlier : ∀ delivery ∈ world.deliveries, delivery.notification < world.threads.length
  distinct : ∀ thread ∈ world.threads, thread.remaining.Nodup
  unserved : ∀ (index : Nat) (thread : Thread Handler), world.threads[index]? = some thread →
    ∀ name ∈ thread.remaining, world.deliveries.countP (triggers index name) = 0
  single : world.OncePerNotification

theorem delivered_at_most_once {index : Nat} {thread next : Thread Handler}
    {delivered : List Delivery} (delivers : thread.DeliveryStep index next delivered)
    (notification : Nat) (name : String) :
    delivered.countP (triggers notification name) ≤ 1 := by
  cases delivers with
  | quiet _ failures =>
    rw [List.countP_eq_zero.mpr]
    · exact Nat.zero_le 1
    · intro delivery member triggered
      rw [triggers, decide_eq_true_eq, (failures delivery member).1] at triggered
      cases triggered.2.2
  | attempted only same _ _ =>
    rw [same]
    exact List.countP_le_length

theorem delivered_awaited {index : Nat} {thread next : Thread Handler}
    {delivered : List Delivery} (delivers : thread.DeliveryStep index next delivered)
    (distinct : thread.remaining.Nodup) {notification : Nat} {name : String}
    (apart : notification ≠ index ∨ name ∈ next.remaining ∨ name ∉ thread.remaining) :
    delivered.countP (triggers notification name) = 0 := by
  rw [List.countP_eq_zero]
  intro delivery member triggered
  rw [triggers, decide_eq_true_eq] at triggered
  have own := delivers.own delivery member
  cases delivers with
  | quiet _ failures =>
    rw [(failures delivery member).1] at triggered
    cases triggered.2.2
  | attempted only same _ taken =>
    rw [same] at member
    rw [taken, List.nodup_cons] at distinct
    rw [List.mem_singleton.mp member] at triggered own
    rcases apart with elsewhere | later | never
    · exact elsewhere (triggered.1.symm.trans own)
    · rw [triggered.2.1] at distinct
      exact distinct.1 later
    · rw [taken, triggered.2.1] at never
      exact never List.mem_cons_self

theorem started_once (intervalSeconds : Int) (defaultHandler : Handler) (eventBus : Bool)
    (clock : Int) : (started intervalSeconds defaultHandler eventBus clock).Once where
  earlier := nofun
  distinct := nofun
  unserved := nofun
  single := fun _ _ => Nat.zero_le 1

theorem spawn_once {world : SchedulerWorld Handler} (once : world.Once)
    (thread : Thread Handler) (distinct : thread.remaining.Nodup) : (world.spawn thread).Once := by
  refine ⟨?_, ?_, ?_, once.single⟩
  · intro delivery member
    have below := once.earlier delivery member
    rw [spawn, List.length_append]
    omega
  · intro other member
    rcases List.mem_append.mp member with old | new
    · exact once.distinct other old
    · rw [List.mem_singleton.mp new]
      exact distinct
  · intro index other found name member
    by_cases before : index < world.threads.length
    · rw [spawn, List.getElem?_append_left before] at found
      exact once.unserved index other found name member
    · -- no delivery has been made by the new thread
      change world.deliveries.countP (triggers index name) = 0
      rw [List.countP_eq_zero]
      intro delivery made triggered
      have below := once.earlier delivery made
      rw [triggers, decide_eq_true_eq] at triggered
      omega

theorem advance_once {world : SchedulerWorld Handler} (once : world.Once) (index : Nat)
    (outcome : HandlerOutcome) : (world.advance croniter index outcome).Once := by
  unfold advance
  split
  · exact once
  next thread found =>
    dsimp only
    have delivered :=
      thread.next_delivery_step croniter world.clock world.scheduler outcome index
    have inside : index < world.threads.length := (List.getElem?_eq_some_iff.mp found).1
    have was := List.mem_of_getElem? found
    generalize thread.deliveries world.scheduler outcome index = deliveries at *
    generalize thread.next croniter world.clock world.scheduler outcome = result at *
    obtain ⟨next, scheduler⟩ := result
    dsimp only at delivered ⊢
    have distinct := once.distinct thread was
    refine ⟨?_, ?_, ?_, ?_⟩
    · intro delivery member
      rw [List.length_set]
      rcases List.mem_append.mp member with old | new
      · exact once.earlier delivery old
      · rw [delivered.own delivery new]
        exact inside
    · intro other member
      rcases List.mem_or_eq_of_mem_set member with old | new
      · exact once.distinct other old
      · rw [new]
        exact distinct.sublist delivered.fewer
    · intro other reached present name member
      dsimp only at present ⊢
      rw [List.countP_append]
      by_cases same : other = index
      · subst same
        rw [List.getElem?_set_self inside] at present
        cases present
        rw [once.unserved other thread found name (delivered.fewer.subset member),
          delivered_awaited delivered distinct (.inr (.inl member))]
      · rw [List.getElem?_set_ne fun equal => same equal.symm] at present
        rw [once.unserved other reached present name member,
          delivered_awaited delivered distinct (.inl same)]
    · intro other name
      dsimp only
      rw [List.countP_append]
      by_cases awaited : other = index ∧ name ∈ thread.remaining
      · have before := once.unserved other thread (by rw [awaited.1, found]) name awaited.2
        have now := delivered_at_most_once delivered other name
        omega
      · have none : deliveries.countP (triggers other name) = 0 := by
          apply delivered_awaited delivered distinct
          by_cases same : other = index
          · exact .inr (.inr fun member => awaited ⟨same, member⟩)
          · exact .inl same
        have before := once.single other name
        omega

structure LiveWorld (world : SchedulerWorld Handler) : Prop where
  live : ∀ thread ∈ world.threads, thread.Live world.scheduler.jobs
  registered : world.OnlyRegistered

theorem started_live (intervalSeconds : Int) (defaultHandler : Handler) (eventBus : Bool)
    (clock : Int) : (started intervalSeconds defaultHandler eventBus clock).LiveWorld where
  live := nofun
  registered := nofun

theorem spawn_live {world : SchedulerWorld Handler} (live : world.LiveWorld)
    (thread : Thread Handler) (new : thread.Live world.scheduler.jobs) :
    (world.spawn thread).LiveWorld := by
  refine ⟨?_, live.registered⟩
  intro other member
  rcases List.mem_append.mp member with old | last
  · exact live.live other old
  · rw [List.mem_singleton.mp last]
    exact new

theorem advance_live {world : SchedulerWorld Handler} (live : world.LiveWorld) (index : Nat)
    (outcome : HandlerOutcome) : (world.advance croniter index outcome).LiveWorld := by
  unfold advance
  split
  · exact live
  next thread found =>
    have here := live.live thread (List.mem_of_getElem? found)
    have jobs := (thread.next_registry croniter world.clock world.scheduler outcome).jobs
    refine ⟨?_, ?_⟩
    · intro other member
      dsimp only at member ⊢
      rw [jobs]
      rcases List.mem_or_eq_of_mem_set member with old | new
      · exact live.live other old
      · rw [new]
        exact Thread.next_live croniter world.clock world.scheduler outcome here
    · intro delivery member
      rcases List.mem_append.mp member with old | new
      · exact live.registered delivery old
      · exact Thread.live_deliveries world.scheduler outcome index here delivery new

theorem register_live {world : SchedulerWorld Handler} (live : world.LiveWorld)
    (spec : JobSpec) (handler : Option Handler) :
    (world.step croniter (.register spec handler)).LiveWorld := by
  rw [step]
  split
  · exact live
  next after registered =>
    obtain ⟨free, chosen, table, same⟩ :=
      JobScheduler.register_frame croniter world.clock registered
    rw [same]
    refine ⟨?_, live.registered⟩
    intro thread member
    have before := live.live thread member
    refine ⟨?_, ?_⟩
    · intro name later
      dsimp only
      rw [OrderedDict.get_set]
      split
      · rfl
      · exact before.remaining name later
    · intro name job delivering
      have found := before.delivering name job delivering
      dsimp only
      rw [OrderedDict.get_set, if_neg]
      · exact found
      · intro equal
        rw [equal, free] at found
        cases found

/-- No notification has still to deliver to a job of that name. -/
def Undelivered (world : SchedulerWorld Handler) (name : String) : Prop :=
  ∀ thread ∈ world.threads, name ∉ thread.remaining ∧ ∀ job, ¬thread.delivering name job

theorem unregister_live {world : SchedulerWorld Handler} (live : world.LiveWorld)
    (removed : String) (undelivered : world.Undelivered removed) :
    (world.step croniter (.unregister removed)).LiveWorld := by
  refine ⟨?_, live.registered⟩
  intro thread member
  have before := live.live thread member
  obtain ⟨none, idle⟩ := undelivered thread member
  rw [step, JobScheduler.unregister]
  refine ⟨?_, ?_⟩
  · intro name later
    dsimp only
    rw [OrderedDict.get_erase, if_neg]
    · exact before.remaining name later
    · intro equal
      exact none (equal ▸ later)
  · intro name job delivering
    dsimp only
    rw [OrderedDict.get_erase, if_neg]
    · exact before.delivering name job delivering
    · intro equal
      exact idle job (equal ▸ delivering)

/-- The calls that keep the limits: a run is admitted only where its job has room,
an event is notified only where its subscribers are registered jobs, each
subscribed once, and a job is not unregistered under a notification. -/
def KeepsLimits (world : SchedulerWorld Handler) : SchedulerCall Handler → Prop
  | .advance index _ => world.AdmitsWithin index
  | .notify eventType =>
    (world.subscribed eventType).Nodup ∧ ∀ name ∈ world.subscribed eventType,
      (world.scheduler.jobs.get? name).isSome = true
  | .unregister name => world.Undelivered name
  | .register _ _ | .runNow _ | .tick | .elapse _ => True

structure Kept (world : SchedulerWorld Handler) : Prop where
  limited : world.Limited
  once : world.Once
  live : world.LiveWorld

theorem register_once {world : SchedulerWorld Handler} (once : world.Once) (spec : JobSpec)
    (handler : Option Handler) : (world.step croniter (.register spec handler)).Once := by
  rw [step]
  split
  · exact once
  · exact ⟨once.earlier, once.distinct, once.unserved, once.single⟩

theorem step_kept (world : SchedulerWorld Handler) (call : SchedulerCall Handler)
    (kept : world.Kept) (keeps : world.KeepsLimits call) : (world.step croniter call).Kept := by
  obtain ⟨limited, once, live⟩ := kept
  cases call with
  | register spec handler =>
    exact ⟨register_limited croniter limited spec handler,
      register_once croniter once spec handler, register_live croniter live spec handler⟩
  | unregister name =>
    exact ⟨unregister_limited croniter limited name,
      ⟨once.earlier, once.distinct, once.unserved, once.single⟩,
      unregister_live croniter live name keeps⟩
  | runNow name =>
    exact ⟨spawn_limited limited _ fun _ => id, spawn_once once _ List.nodup_nil,
      spawn_live live _ ⟨nofun, nofun⟩⟩
  | tick =>
    exact ⟨spawn_limited limited _ fun _ => id, spawn_once once _ List.nodup_nil,
      spawn_live live _ ⟨nofun, nofun⟩⟩
  | notify eventType =>
    exact ⟨spawn_limited limited _ fun _ => id, spawn_once once _ keeps.1,
      spawn_live live _ ⟨keeps.2, nofun⟩⟩
  | advance index outcome =>
    exact ⟨advance_limited croniter limited index outcome keeps,
      advance_once croniter once index outcome, advance_live croniter live index outcome⟩
  | elapse clock =>
    exact ⟨⟨limited.bounded, limited.known, limited.within⟩,
      ⟨once.earlier, once.distinct, once.unserved, once.single⟩,
      ⟨live.live, live.registered⟩⟩

/-- A run whose calls keep the limits stays within them, and its notifications
reach registered jobs only, each of them once. -/
theorem limits_kept (intervalSeconds : Int) (defaultHandler : Handler) (eventBus : Bool)
    (clock : Int) (calls : List (SchedulerCall Handler))
    (keeps : StepsMeet (step croniter) KeepsLimits
      (started intervalSeconds defaultHandler eventBus clock) calls) :
    let world := runInputs (step croniter)
      (started intervalSeconds defaultHandler eventBus clock) calls
    world.WithinLimits ∧ world.OncePerNotification ∧ world.OnlyRegistered := by
  intro world
  have initial : (started intervalSeconds defaultHandler eventBus clock).Kept :=
    ⟨started_limited intervalSeconds defaultHandler eventBus clock,
      started_once intervalSeconds defaultHandler eventBus clock,
      started_live intervalSeconds defaultHandler eventBus clock⟩
  have kept := invariant_of_steps_meet (step croniter) (step_kept croniter) _ calls initial keeps
  refine ⟨?_, kept.once.single, kept.live.registered⟩
  intro job
  exact (kept.limited.within job).imp_right fun within => (Nat.le_add_right _ _).trans within

theorem admits_of_thread {world : SchedulerWorld Handler} {index : Nat}
    (thread : Thread Handler) (found : world.threads[index]? = some thread)
    (room : ∀ name job caller, thread = .running name job .found caller → world.HasRoom job) :
    world.AdmitsWithin index := by
  intro name job caller here _
  rw [found] at here
  exact room name job caller (Option.some.inj here)

/-- A job that an event runs, once at most. -/
def reportJob : JobSpec :=
  { JobSpec.named "report" .event with eventType := some "order.placed", maxRuns := 1 }

/-- The first notification of the event runs the job. -/
theorem first_notification_keeps_limits :
    let world := runInputs (step .missing) (started 1000000 () true 0)
      [.register reportJob none, .notify "order.placed", .advance 0 .returns,
        .advance 0 .returns, .advance 0 .returns, .advance 0 .returns, .advance 0 .returns]
    world.WithinLimits ∧ world.OncePerNotification ∧ world.OnlyRegistered := by
  apply limits_kept
  refine ⟨trivial, ⟨by decide +kernel, by decide +kernel⟩, ?_, ?_, ?_, ?_, ?_, trivial⟩
  · exact admits_of_thread (.notifying ["report"]) (by decide +kernel)
      (fun _ _ _ same => by cases same)
  · exact admits_of_thread (.calling "report" (.notification [])) (by decide +kernel)
      (fun _ _ _ same => by cases same)
  · apply admits_of_thread (.running "report" 0 .found (.notification [])) (by decide +kernel)
    intro name job caller same
    cases same
    exact .inr (by decide +kernel)
  · exact admits_of_thread (.running "report" 0 .admitted (.notification [])) (by decide +kernel)
      (fun _ _ _ same => by cases same)
  · exact admits_of_thread (.running "report" 0 (.handling ()) (.notification []))
      (by decide +kernel) (fun _ _ _ same => by cases same)

/-- A second notification exceeds the limit; a subscription that outlived its job
doubles the runs of the job registered after it, and fails while none is. -/
theorem notifications_break_limits :
    let deliver : Nat → List (SchedulerCall Unit) :=
      fun notification => List.replicate 12 (.advance notification .returns)
    let reached : List (SchedulerCall Unit) → SchedulerWorld Unit :=
      runInputs (step .missing) (started 1000000 () true 0)
    let exceeded := reached ([.register reportJob none, .notify "order.placed"] ++ deliver 0 ++
      [.notify "order.placed"] ++ deliver 1)
    let doubled := reached ([.register reportJob none, .unregister "report",
      .register reportJob none, .notify "order.placed"] ++ deliver 0)
    let orphaned := reached ([.register reportJob none, .unregister "report",
      .notify "order.placed"] ++ deliver 0)
    (exceeded.scheduler.tasks 0).runCount = 2 ∧
      doubled.deliveries.countP (triggers 0 "report") = 2 ∧
      orphaned.deliveries =
        [{ notification := 0, name := "report", failed := true, registered := false }] ∧
      ¬exceeded.WithinLimits ∧ ¬doubled.OncePerNotification ∧ ¬orphaned.OnlyRegistered := by
  intro deliver reached exceeded doubled orphaned
  have counted : (exceeded.scheduler.tasks 0).runCount = 2 := by decide +kernel
  have limit : (exceeded.scheduler.tasks 0).maxRuns = 1 := by decide +kernel
  have twice : doubled.deliveries.countP (triggers 0 "report") = 2 := by decide +kernel
  have failure : orphaned.deliveries =
      [{ notification := 0, name := "report", failed := true, registered := false }] := by
    decide +kernel
  refine ⟨counted, twice, failure, ?_, ?_, ?_⟩
  · intro within
    have bound := within 0
    omega
  · intro once
    have bound := once 0 "report"
    omega
  · intro only
    rw [OnlyRegistered, failure] at only
    cases only _ (List.mem_singleton_self _)

end SchedulerWorld

end AiEnterpriseOs.Runtime
