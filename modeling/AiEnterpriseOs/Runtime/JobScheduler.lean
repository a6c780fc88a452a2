import AiEnterpriseOs.Library.OrderedDict
import Mathlib.Data.Finset.Erase
import Mathlib.Data.Finset.Insert
import Mathlib.Logic.Function.Basic

/-!
# The job scheduler

Jobs are objects that a run keeps hold of after their name is unregistered. The
set of running names is apart from the registry. Times are whole microseconds.
-/

namespace AiEnterpriseOs.Runtime

open Library

inductive JobKind where
  | oneTime
  | recurring
  | cron
  | dependency
  | event
  deriving DecidableEq

inductive JobStatus where
  | pending
  | running
  | completed
  | failed
  | skipped
  deriving DecidableEq

structure RuntimeTask where
  name : String
  kind : JobKind
  scheduledAt : Option Int
  intervalSeconds : Option Int
  cron : Option String
  dependsOn : List String
  eventType : Option String
  enabled : Bool
  status : JobStatus
  lastRun : Option Int
  nextRun : Option Int
  runCount : Nat
  maxRuns : Nat

instance : Inhabited RuntimeTask :=
  ⟨{ name := ""
     kind := .oneTime
     scheduledAt := none
     intervalSeconds := none
     cron := none
     dependsOn := []
     eventType := none
     enabled := true
     status := .pending
     lastRun := none
     nextRun := none
     runCount := 0
     maxRuns := 0 }⟩

theorem task_update {Value : Type} (field : RuntimeTask → Value) (tasks : Nat → RuntimeTask)
    (job other : Nat) (task : RuntimeTask) (same : field task = field (tasks job)) :
    field (Function.update tasks job task other) = field (tasks other) := by
  by_cases here : other = job
  · rw [here, Function.update_self, same]
  · rw [Function.update_of_ne here]

/-- The arguments of `register`. -/
structure JobSpec where
  name : String
  kind : JobKind
  scheduledAt : Option Int
  intervalSeconds : Option Int
  cron : Option String
  dependsOn : List String
  eventType : Option String
  maxRuns : Nat
  enabled : Bool

/-- The defaults of `register`. -/
def JobSpec.named (name : String) (kind : JobKind) : JobSpec :=
  { name := name
    kind := kind
    scheduledAt := none
    intervalSeconds := none
    cron := none
    dependsOn := []
    eventType := none
    maxRuns := 0
    enabled := true }

/-- The optional package; `getNext` is `none` where it raises. -/
structure Croniter where
  installed : Bool
  getNext : String → Int → Option Int

def Croniter.missing : Croniter :=
  { installed := false, getNext := fun _ _ => none }

inductive HandlerOutcome where
  | returns
  | raises
  deriving DecidableEq

structure JobScheduler (Handler : Type) where
  intervalSeconds : Int
  defaultHandler : Handler
  jobs : OrderedDict String Nat
  handlers : OrderedDict String Handler
  nextRun : OrderedDict String Int
  running : Finset String
  /-- The job objects, by the order of their creation. -/
  tasks : Nat → RuntimeTask
  created : Nat
  executed : Nat
  failed : Nat

namespace JobScheduler

variable {Handler : Type} (croniter : Croniter) (now : Int)

section Registry

def empty (intervalSeconds : Int) (defaultHandler : Handler) : JobScheduler Handler :=
  { intervalSeconds := intervalSeconds
    defaultHandler := defaultHandler
    jobs := OrderedDict.empty
    handlers := OrderedDict.empty
    nextRun := OrderedDict.empty
    running := ∅
    tasks := fun _ => default
    created := 0
    executed := 0
    failed := 0 }

/-- The time that `_schedule_initial` sets. -/
def initialRun (spec : JobSpec) : Option Int :=
  match spec.scheduledAt with
  | some start => some start
  | none => if spec.kind = .event then none else some now

def createTask (spec : JobSpec) : RuntimeTask :=
  { name := spec.name
    kind := spec.kind
    scheduledAt := spec.scheduledAt
    intervalSeconds := spec.intervalSeconds
    cron := spec.cron
    dependsOn := spec.dependsOn
    eventType := spec.eventType
    enabled := spec.enabled
    status := .pending
    lastRun := none
    nextRun := initialRun now spec
    runCount := 0
    maxRuns := spec.maxRuns }

/-- `none` where the registration raises. -/
def register (scheduler : JobScheduler Handler) (spec : JobSpec) (handler : Option Handler) :
    Option (JobScheduler Handler) :=
  if (scheduler.jobs.get? spec.name).isSome then none
  else if spec.kind = .cron ∧ croniter.installed = false then none
  else
    some
      { scheduler with
        jobs := scheduler.jobs.set spec.name scheduler.created
        handlers := scheduler.handlers.set spec.name (handler.getD scheduler.defaultHandler)
        nextRun :=
          match initialRun now spec with
          | some start => scheduler.nextRun.set spec.name start
          | none => scheduler.nextRun
        tasks := Function.update scheduler.tasks scheduler.created (createTask now spec)
        created := scheduler.created + 1 }

def unregister (scheduler : JobScheduler Handler) (name : String) : JobScheduler Handler :=
  { scheduler with
    jobs := scheduler.jobs.erase name
    handlers := scheduler.handlers.erase name
    nextRun := scheduler.nextRun.erase name
    running := scheduler.running.erase name }

end Registry

section Execution

def setTask (scheduler : JobScheduler Handler) (job : Nat) (task : RuntimeTask) :
    JobScheduler Handler :=
  { scheduler with tasks := Function.update scheduler.tasks job task }

/-- The block of `run_now` under the lock; `none` where the job is skipped. -/
def addRunning (scheduler : JobScheduler Handler) (name : String) : Option (JobScheduler Handler) :=
  if name ∈ scheduler.running then none
  else some { scheduler with running := insert name scheduler.running }

def markRunning (scheduler : JobScheduler Handler) (job : Nat) : JobScheduler Handler :=
  scheduler.setTask job { scheduler.tasks job with status := .running }

def complete (scheduler : JobScheduler Handler) (job : Nat) : JobScheduler Handler :=
  { scheduler.setTask job
      { scheduler.tasks job with
        status := .completed
        lastRun := some now
        runCount := (scheduler.tasks job).runCount + 1 } with
    executed := scheduler.executed + 1 }

def fail (scheduler : JobScheduler Handler) (job : Nat) : JobScheduler Handler :=
  { scheduler.setTask job
      { scheduler.tasks job with
        status := .failed
        lastRun := some now
        runCount := (scheduler.tasks job).runCount + 1 } with
    failed := scheduler.failed + 1 }

/-- The end of the `try` block, by the handler's outcome. -/
def settle (scheduler : JobScheduler Handler) (job : Nat) : HandlerOutcome → JobScheduler Handler
  | .returns => scheduler.complete now job
  | .raises => scheduler.fail now job

def release (scheduler : JobScheduler Handler) (name : String) : JobScheduler Handler :=
  { scheduler with running := scheduler.running.erase name }

/-- `run_now` without an interruption; `none` where it raises. -/
def runNow (scheduler : JobScheduler Handler) (name : String) (outcome : HandlerOutcome) :
    Option (JobScheduler Handler × Bool) :=
  match scheduler.jobs.get? name with
  | none => none
  | some job =>
    if (scheduler.tasks job).enabled = false then some (scheduler, false)
    else
      match scheduler.addRunning name with
      | none => some (scheduler, false)
      | some scheduler =>
        let scheduler := scheduler.markRunning job
        match scheduler.handlers.get? name with
        | none => some ((scheduler.fail now job).release name, false)
        | some _ =>
          some ((scheduler.settle now job outcome).release name,
            decide (outcome = .returns))

end Execution

section Scheduling

def due (scheduler : JobScheduler Handler) (task : RuntimeTask) : Bool :=
  if task.enabled = false then false
  else if 0 < task.maxRuns ∧ task.maxRuns ≤ task.runCount then false
  else if task.kind = .dependency then
    task.dependsOn.all fun dep =>
      match scheduler.jobs.get? dep with
      | none => false
      | some job => decide ((scheduler.tasks job).status = .completed)
  else
    match scheduler.nextRun.get? task.name with
    | none => false
    | some next => decide (next ≤ now)

/-- `while next_run <= now: next_run += interval`; `none` where the loop does not
get past the present. -/
def catchUp (interval next : Int) : Option Int :=
  if now < next then some next
  else if 0 < interval then some (next + interval * ((now - next) / interval + 1))
  else none

def setNextRun (scheduler : JobScheduler Handler) (job : Nat) (next : Int) :
    JobScheduler Handler :=
  let task := scheduler.tasks job
  { scheduler.setTask job { task with nextRun := some next } with
    nextRun := scheduler.nextRun.set task.name next }

/-- `_mark_run`; `none` where it does not return. -/
def markRun (scheduler : JobScheduler Handler) (job : Nat) : Option (JobScheduler Handler) :=
  let task := scheduler.tasks job
  let soon := now + scheduler.intervalSeconds
  match task.kind with
  | .recurring =>
    (catchUp now (task.intervalSeconds.getD 0) (scheduler.nextRun.getD task.name now)).map
      (scheduler.setNextRun job)
  | .cron =>
    match task.cron with
    | some expression =>
      if croniter.installed ∧ expression ≠ "" then
        some (scheduler.setNextRun job ((croniter.getNext expression now).getD soon))
      else some (scheduler.setNextRun job soon)
    | none => some (scheduler.setNextRun job soon)
  | .dependency | .oneTime | .event =>
    some
      { scheduler.setTask job { task with nextRun := none } with
        nextRun := scheduler.nextRun.erase task.name }

/-- Whether `run_now` enters the handler of the job. -/
def starts (scheduler : JobScheduler Handler) (name : String) (job : Nat) : Bool :=
  (scheduler.tasks job).enabled && decide (name ∉ scheduler.running) &&
    (scheduler.handlers.get? name).isSome

/-- The loop of `tick` without an interruption, with the names whose handlers it
enters. `handling` tells how and when a handler ends. -/
def tickLoop (handling : String → HandlerOutcome × Int) :
    List String → JobScheduler Handler → JobScheduler Handler × List String
  | [], scheduler => (scheduler, [])
  | name :: rest, scheduler =>
    match scheduler.jobs.get? name with
    | none => tickLoop handling rest scheduler
    | some job =>
      let ran := if scheduler.starts name job then [name] else []
      match scheduler.runNow (handling name).2 name (handling name).1 with
      | none => (scheduler, ran)
      | some (scheduler, _) =>
        match scheduler.markRun croniter (handling name).2 job with
        | none => (scheduler, ran)
        | some scheduler =>
          let (scheduler, later) := tickLoop handling rest scheduler
          (scheduler, ran ++ later)

def dueNames (scheduler : JobScheduler Handler) : List String :=
  scheduler.jobs.keys.filter fun name =>
    match scheduler.jobs.get? name with
    | none => false
    | some job =>
      decide ((scheduler.tasks job).kind ≠ .event) && scheduler.due now (scheduler.tasks job)

def tick (scheduler : JobScheduler Handler) (handling : String → HandlerOutcome × Int) :
    JobScheduler Handler × List String :=
  tickLoop croniter handling (scheduler.dueNames now) scheduler

end Scheduling

theorem register_frame {scheduler after : JobScheduler Handler} {spec : JobSpec}
    {handler : Option Handler}
    (registered : scheduler.register croniter now spec handler = some after) :
    scheduler.jobs.get? spec.name = none ∧ ∃ chosen table, after =
      { scheduler with
        jobs := scheduler.jobs.set spec.name scheduler.created
        handlers := scheduler.handlers.set spec.name chosen
        nextRun := table
        tasks := Function.update scheduler.tasks scheduler.created (createTask now spec)
        created := scheduler.created + 1 } := by
  unfold register at registered
  split at registered
  · cases registered
  next free =>
    split at registered
    · cases registered
    · refine ⟨Option.not_isSome_iff_eq_none.mp free, ?_⟩
      exact ⟨_, _, (Option.some.inj registered).symm⟩

theorem set_next_run_frame (scheduler : JobScheduler Handler) (job : Nat) (start : Int) :
    ∃ table next, (∀ name, name ≠ (scheduler.tasks job).name →
        table.get? name = scheduler.nextRun.get? name) ∧
      scheduler.setNextRun job start =
        { scheduler.setTask job { scheduler.tasks job with nextRun := next } with
          nextRun := table } :=
  ⟨_, _, fun _ other => OrderedDict.get_set_other _ _ other, rfl⟩

theorem mark_run_frame {scheduler after : JobScheduler Handler} {job : Nat}
    (marked : scheduler.markRun croniter now job = some after) :
    ∃ table next, (∀ name, name ≠ (scheduler.tasks job).name →
        table.get? name = scheduler.nextRun.get? name) ∧
      after =
        { scheduler.setTask job { scheduler.tasks job with nextRun := next } with
          nextRun := table } := by
  unfold markRun at marked
  dsimp only at marked
  split at marked
  · obtain ⟨next, _, same⟩ := Option.map_eq_some_iff.mp marked
    rw [← same]
    exact set_next_run_frame scheduler job next
  · split at marked
    · split at marked
      all_goals
        rw [← Option.some.inj marked]
        exact set_next_run_frame scheduler job _
    · rw [← Option.some.inj marked]
      exact set_next_run_frame scheduler job _
  all_goals
    refine ⟨_, _, ?_, (Option.some.inj marked).symm⟩
    intro name other
    rw [OrderedDict.get_erase, if_neg other]

/-- A run that ends is counted, however it ends. -/
theorem settle_frame (scheduler : JobScheduler Handler) (job : Nat) (outcome : HandlerOutcome) :
    ∃ status executed failed, scheduler.settle now job outcome =
      { scheduler.setTask job
          { scheduler.tasks job with
            status := status
            lastRun := some now
            runCount := (scheduler.tasks job).runCount + 1 } with
        executed := executed
        failed := failed } := by
  cases outcome <;> exact ⟨_, _, _, rfl⟩

theorem catch_up_unfold (interval next : Int) : catchUp now interval next =
      if now < next then some next else catchUp now interval (next + interval) := by
  by_cases past : now < next
  · rw [catchUp, if_pos past, if_pos past]
  · rw [if_neg past, catchUp, if_neg past]
    by_cases positive : 0 < interval
    · rw [if_pos positive, catchUp]
      by_cases done : now < next + interval
      · have small : (now - next) / interval = 0 :=
          Int.ediv_eq_zero_of_lt (by omega) (by omega)
        rw [if_pos done, small, Int.zero_add, Int.mul_one]
      · have later : now - next = now - (next + interval) + 1 * interval := by omega
        rw [if_neg done, if_pos positive, later, Int.add_mul_ediv_right _ _ positive.ne']
        congr 1
        rw [Int.mul_add interval (_ + 1) 1]
        omega
    · rw [if_neg positive, catchUp, if_neg (by omega), if_neg positive]

theorem catch_up_ahead (interval next after : Int)
    (ends : catchUp now interval next = some after) : now < after := by
  unfold catchUp at ends
  split at ends
  next ahead =>
    cases ends
    exact ahead
  next =>
    split at ends
    next positive =>
      cases ends
      have bound := Int.lt_ediv_add_one_mul_self (now - next) positive
      rw [Int.mul_comm] at bound
      omega
    next => cases ends

end JobScheduler

end AiEnterpriseOs.Runtime
