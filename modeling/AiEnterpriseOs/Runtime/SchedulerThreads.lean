import AiEnterpriseOs.Library.Runs
import AiEnterpriseOs.Runtime.JobScheduler

/-!
# The threads of the job scheduler

Callers of `run_now`, ticks and event notifications interleave with the
registrations. A step is what one thread does without giving way: the lock
covers an admission, a registration and the evaluation of a tick, and nothing
covers a handler.
-/

namespace AiEnterpriseOs.Runtime

open Library

/-- A handler that the scheduler left on the event bus. -/
structure Subscription where
  name : String
  eventType : String
  deriving DecidableEq

/-- Who called `run_now`, and what is left to do after it. -/
inductive Caller where
  | direct
  | tick (job : Nat) (due : List String) (executed : Nat)
  | notification (pending : List String)
  deriving DecidableEq

inductive RunPhase (Handler : Type) where
  | found
  | admitted
  | handling (handler : Handler)
  | settled (completed : Bool)
  deriving DecidableEq

inductive Thread (Handler : Type) where
  | ticking (due : List String) (executed : Nat)
  | notifying (pending : List String)
  | calling (name : String) (caller : Caller)
  | running (name : String) (job : Nat) (phase : RunPhase Handler) (caller : Caller)
  | marking (job : Nat) (due : List String) (executed : Nat)
  | finished
  deriving DecidableEq

/-- What a notification did to a job: it ran the job or reported a failure for it.
`registered` tells whether the job was registered at that time. -/
structure Delivery where
  notification : Nat
  name : String
  failed : Bool
  registered : Bool
  deriving DecidableEq

structure SchedulerWorld (Handler : Type) where
  scheduler : JobScheduler Handler
  eventBus : Option (List Subscription)
  clock : Int
  threads : List (Thread Handler)
  deliveries : List Delivery

inductive SchedulerCall (Handler : Type) where
  | register (spec : JobSpec) (handler : Option Handler)
  | unregister (name : String)
  | runNow (name : String)
  | tick
  | notify (eventType : String)
  | advance (thread : Nat) (outcome : HandlerOutcome)
  | elapse (clock : Int)

variable {Handler : Type}

namespace Caller

/-- `run_now` returned. -/
def returned (completed : Bool) : Caller → Thread Handler
  | direct => .finished
  | tick job due executed => .marking job due (if completed then executed + 1 else executed)
  | notification pending => .notifying pending

/-- `run_now` raised: the tick ends, and the bus goes on. -/
def raised : Caller → Thread Handler
  | direct => .finished
  | tick _ _ _ => .finished
  | notification pending => .notifying pending

end Caller

/-- What a registration fixes. -/
structure SameRegistry (before after : JobScheduler Handler) : Prop where
  jobs : after.jobs = before.jobs
  handlers : after.handlers = before.handlers
  created : after.created = before.created
  limits : ∀ job, (after.tasks job).maxRuns = (before.tasks job).maxRuns

namespace SameRegistry

variable {first second third : JobScheduler Handler}

theorem refl (scheduler : JobScheduler Handler) : SameRegistry scheduler scheduler :=
  ⟨rfl, rfl, rfl, fun _ => rfl⟩

theorem trans (early : SameRegistry first second) (late : SameRegistry second third) :
    SameRegistry first third where
  jobs := late.jobs.trans early.jobs
  handlers := late.handlers.trans early.handlers
  created := late.created.trans early.created
  limits := fun job => (late.limits job).trans (early.limits job)

end SameRegistry

theorem mark_running_registry (scheduler : JobScheduler Handler) (job : Nat) :
    SameRegistry scheduler (scheduler.markRunning job) where
  jobs := rfl
  handlers := rfl
  created := rfl
  limits := fun other => task_update RuntimeTask.maxRuns scheduler.tasks job other _ rfl

theorem settle_registry (now : Int) (scheduler : JobScheduler Handler) (job : Nat)
    (outcome : HandlerOutcome) :
    SameRegistry scheduler (scheduler.settle now job outcome) := by
  obtain ⟨status, executed, failed, ended⟩ := scheduler.settle_frame now job outcome
  rw [ended]
  refine ⟨rfl, rfl, rfl, ?_⟩
  intro other
  exact task_update RuntimeTask.maxRuns scheduler.tasks job other _ rfl

namespace Thread

variable (croniter : Croniter) (now : Int) (scheduler : JobScheduler Handler)
  (outcome : HandlerOutcome)

def next : Thread Handler → Thread Handler × JobScheduler Handler
  | ticking [] _ => (finished, scheduler)
  | ticking (name :: due) executed =>
    match scheduler.jobs.get? name with
    | none => (ticking due executed, scheduler)
    | some job => (calling name (.tick job due executed), scheduler)
  | notifying [] => (finished, scheduler)
  | notifying (name :: pending) => (calling name (.notification pending), scheduler)
  | calling name caller =>
    match scheduler.jobs.get? name with
    | none => (caller.raised, scheduler)
    | some job =>
      if (scheduler.tasks job).enabled = false then (caller.returned false, scheduler)
      else (running name job .found caller, scheduler)
  | running name job .found caller =>
    match scheduler.addRunning name with
    | none => (caller.returned false, scheduler)
    | some scheduler => (running name job .admitted caller, scheduler)
  | running name job .admitted caller =>
    let scheduler := scheduler.markRunning job
    match scheduler.handlers.get? name with
    | none => (running name job (.settled false) caller, scheduler.fail now job)
    | some handler => (running name job (.handling handler) caller, scheduler)
  | running name job (.handling _) caller =>
    (running name job (.settled (outcome = .returns)) caller, scheduler.settle now job outcome)
  | running name _ (.settled completed) caller =>
    (caller.returned completed, scheduler.release name)
  | marking job due executed =>
    match scheduler.markRun croniter now job with
    | none => (marking job due executed, scheduler)
    | some scheduler => (ticking due executed, scheduler)
  | finished => (finished, scheduler)

/-- What the step does for the notification that the thread delivers. -/
def deliveries (index : Nat) : Thread Handler → List Delivery
  | calling name (.notification _) =>
    if (scheduler.jobs.get? name).isNone then
      [{ notification := index, name := name, failed := true, registered := false }]
    else []
  | running name job .admitted (.notification _) =>
    [{ notification := index
       name := name
       failed := (scheduler.handlers.get? name).isNone
       registered := decide (scheduler.jobs.get? name = some job) }]
  | running name job (.handling _) (.notification _) =>
    if outcome = .raises then
      [{ notification := index
         name := name
         failed := true
         registered := decide (scheduler.jobs.get? name = some job) }]
    else []
  | _ => []

/-- The steps of a thread that nothing interrupts. -/
def alone : Nat → Thread Handler × JobScheduler Handler → Thread Handler × JobScheduler Handler
  | 0, state => state
  | steps + 1, state => alone steps (state.1.next croniter now state.2 outcome)

/-- What a step of a thread can do, case by case. -/
inductive NextStep : Thread Handler → Thread Handler → JobScheduler Handler → Prop
  | tickEnded (executed : Nat) : NextStep (ticking [] executed) finished scheduler
  | tickSkipped (name : String) (due : List String) (executed : Nat)
      (gone : scheduler.jobs.get? name = none) :
      NextStep (ticking (name :: due) executed) (ticking due executed) scheduler
  | tickCalls (name : String) (due : List String) (executed job : Nat)
      (registered : scheduler.jobs.get? name = some job) :
      NextStep (ticking (name :: due) executed) (calling name (.tick job due executed)) scheduler
  | notified : NextStep (notifying []) finished scheduler
  | notifies (name : String) (pending : List String) :
      NextStep (notifying (name :: pending)) (calling name (.notification pending)) scheduler
  | missing (name : String) (caller : Caller) (gone : scheduler.jobs.get? name = none) :
      NextStep (calling name caller) caller.raised scheduler
  | disabled (name : String) (caller : Caller) (job : Nat)
      (registered : scheduler.jobs.get? name = some job) :
      NextStep (calling name caller) (caller.returned false) scheduler
  | found (name : String) (caller : Caller) (job : Nat)
      (registered : scheduler.jobs.get? name = some job) :
      NextStep (calling name caller) (running name job .found caller) scheduler
  | refused (name : String) (job : Nat) (caller : Caller) (taken : name ∈ scheduler.running) :
      NextStep (running name job .found caller) (caller.returned false) scheduler
  | admitted (name : String) (job : Nat) (caller : Caller) (free : name ∉ scheduler.running) :
      NextStep (running name job .found caller) (running name job .admitted caller)
        { scheduler with running := insert name scheduler.running }
  | unhandled (name : String) (job : Nat) (caller : Caller)
      (gone : scheduler.handlers.get? name = none) :
      NextStep (running name job .admitted caller) (running name job (.settled false) caller)
        ((scheduler.markRunning job).settle now job .raises)
  | begun (name : String) (job : Nat) (caller : Caller) (handler : Handler)
      (registered : scheduler.handlers.get? name = some handler) :
      NextStep (running name job .admitted caller) (running name job (.handling handler) caller)
        (scheduler.markRunning job)
  | settled (name : String) (job : Nat) (caller : Caller) (handler : Handler) :
      NextStep (running name job (.handling handler) caller)
        (running name job (.settled (outcome = .returns)) caller)
        (scheduler.settle now job outcome)
  | released (name : String) (job : Nat) (caller : Caller) (completed : Bool) :
      NextStep (running name job (.settled completed) caller) (caller.returned completed)
        (scheduler.release name)
  | unmarked (job : Nat) (due : List String) (executed : Nat) :
      NextStep (marking job due executed) (marking job due executed) scheduler
  | marked (job : Nat) (due : List String) (executed : Nat) (after : JobScheduler Handler)
      (recorded : scheduler.markRun croniter now job = some after) :
      NextStep (marking job due executed) (ticking due executed) after
  | over : NextStep finished finished scheduler

theorem next_cases (thread : Thread Handler) : NextStep croniter now scheduler outcome thread
      (thread.next croniter now scheduler outcome).1
      (thread.next croniter now scheduler outcome).2 := by
  cases thread with
  | ticking due executed =>
    cases due with
    | nil => exact .tickEnded executed
    | cons name due =>
      rw [next]
      split
      next gone => exact .tickSkipped name due executed gone
      next job registered => exact .tickCalls name due executed job registered
  | notifying pending =>
    cases pending with
    | nil => exact .notified
    | cons name pending => exact .notifies name pending
  | calling name caller =>
    rw [next]
    split
    next gone => exact .missing name caller gone
    next job registered =>
      split
      · exact .disabled name caller job registered
      · exact .found name caller job registered
  | running name job phase caller =>
    cases phase with
    | found =>
      rw [next, JobScheduler.addRunning]
      by_cases taken : name ∈ scheduler.running
      · rw [if_pos taken]
        exact .refused name job caller taken
      · rw [if_neg taken]
        exact .admitted name job caller taken
    | admitted =>
      rw [next]
      split
      next gone => exact .unhandled name job caller gone
      next handler registered => exact .begun name job caller handler registered
    | handling handler => exact .settled name job caller handler
    | settled completed => exact .released name job caller completed
  | marking job due executed =>
    rw [next]
    split
    · exact .unmarked job due executed
    next after recorded => exact .marked job due executed after recorded
  | finished => exact .over

theorem next_registry (thread : Thread Handler) :
    SameRegistry scheduler (thread.next croniter now scheduler outcome).2 := by
  have step := next_cases croniter now scheduler outcome thread
  generalize (thread.next croniter now scheduler outcome).1 = next at step
  generalize (thread.next croniter now scheduler outcome).2 = after at step ⊢
  cases step with
  | admitted name job caller free => exact ⟨rfl, rfl, rfl, fun _ => rfl⟩
  | unhandled name job caller gone =>
    exact (mark_running_registry scheduler job).trans
      (settle_registry now (scheduler.markRunning job) job .raises)
  | begun name job caller handler registered => exact mark_running_registry scheduler job
  | settled name job caller handler => exact settle_registry now scheduler job outcome
  | released name job caller completed => exact ⟨rfl, rfl, rfl, fun _ => rfl⟩
  | marked job due executed after recorded =>
    obtain ⟨table, start, _, same⟩ := JobScheduler.mark_run_frame croniter now recorded
    rw [same]
    refine ⟨rfl, rfl, rfl, ?_⟩
    intro other
    exact task_update RuntimeTask.maxRuns scheduler.tasks job other _ rfl
  | _ => exact .refl scheduler

end Thread

theorem count_set {threads : List (Thread Handler)} {index : Nat} {thread : Thread Handler}
    (found : threads[index]? = some thread) (next : Thread Handler)
    (counts : Thread Handler → Bool) :
    (threads.set index next).countP counts + (if counts thread then 1 else 0) =
      threads.countP counts + if counts next then 1 else 0 := by
  obtain ⟨inside, here⟩ := List.getElem?_eq_some_iff.mp found
  rw [List.countP_set inside, here]
  have positive : counts thread = true → 0 < threads.countP counts := by
    intro counted
    exact List.countP_pos_iff.mpr ⟨thread, List.mem_of_getElem? found, counted⟩
  split
  next counted =>
    have := positive counted
    omega
  next => omega

namespace SchedulerWorld

variable (croniter : Croniter)

def subscribe (world : SchedulerWorld Handler) (spec : JobSpec) : Option (List Subscription) :=
  match spec.eventType with
  | none => world.eventBus
  | some eventType =>
    if eventType = "" then world.eventBus
    else
      world.eventBus.map fun subscriptions =>
        subscriptions ++ [{ name := spec.name, eventType := eventType }]

/-- The names of the jobs that an event reaches, once for each subscription. -/
def subscribed (world : SchedulerWorld Handler) (eventType : String) : List String :=
  ((world.eventBus.getD []).filter fun subscription =>
    subscription.eventType = eventType).map Subscription.name

def spawn (world : SchedulerWorld Handler) (thread : Thread Handler) :
    SchedulerWorld Handler :=
  { world with threads := world.threads ++ [thread] }

def advance (world : SchedulerWorld Handler) (index : Nat) (outcome : HandlerOutcome) :
    SchedulerWorld Handler :=
  match world.threads[index]? with
  | none => world
  | some thread =>
    let (thread', scheduler) := thread.next croniter world.clock world.scheduler outcome
    { world with
      scheduler := scheduler
      threads := world.threads.set index thread'
      deliveries :=
        world.deliveries ++ thread.deliveries world.scheduler outcome index }

def step (world : SchedulerWorld Handler) : SchedulerCall Handler → SchedulerWorld Handler
  | .register spec handler =>
    match world.scheduler.register croniter world.clock spec handler with
    | none => world
    | some scheduler =>
      { world with scheduler := scheduler, eventBus := world.subscribe spec }
  | .unregister name => { world with scheduler := world.scheduler.unregister name }
  | .runNow name => world.spawn (.calling name .direct)
  | .tick => world.spawn (.ticking (world.scheduler.dueNames world.clock) 0)
  | .notify eventType => world.spawn (.notifying (world.subscribed eventType))
  | .advance index outcome => world.advance croniter index outcome
  | .elapse clock => { world with clock := clock }

/-- A scheduler without jobs. -/
def started (intervalSeconds : Int) (defaultHandler : Handler) (eventBus : Bool) (clock : Int) :
    SchedulerWorld Handler :=
  { scheduler := JobScheduler.empty intervalSeconds defaultHandler
    eventBus := if eventBus then some [] else none
    clock := clock
    threads := []
    deliveries := [] }

end SchedulerWorld

end AiEnterpriseOs.Runtime
