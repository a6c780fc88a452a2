import AiEnterpriseOs.Runtime.SchedulerThreads

/-!
# Limits of jobs

A tick looks at the limit of a job; `run_now`, which also serves the
notifications, does not. The runs that are under way and those that are counted
stay within a limit if every admission leaves room for the run.
-/

namespace AiEnterpriseOs.Runtime

open Library

variable {Handler : Type}

namespace Thread

/-- A run of the job that is under way and not yet counted. -/
def runs (job : Nat) : Thread Handler → Bool
  | running _ other .admitted _ => decide (other = job)
  | running _ other (.handling _) _ => decide (other = job)
  | _ => false

/-- The job objects that a thread has taken from the registry to run. -/
def refersTo (job : Nat) : Thread Handler → Prop
  | running _ other _ _ => other = job
  | _ => False

/-- What a step of a thread does to the runs of one job. -/
inductive CountStep (job : Nat) (before after : JobScheduler Handler)
    (thread next : Thread Handler) : Prop where
  | same (going : next.runs job = thread.runs job)
      (count : (after.tasks job).runCount = (before.tasks job).runCount)
  | admitted (name : String) (caller : Caller) (was : thread = .running name job .found caller)
      (free : name ∉ before.running) (going : next.runs job = true)
      (count : (after.tasks job).runCount = (before.tasks job).runCount)
  | counted (went : thread.runs job = true) (ended : next.runs job = false)
      (count : (after.tasks job).runCount = (before.tasks job).runCount + 1)

@[simp] theorem returned_runs (job : Nat) (caller : Caller) (completed : Bool) :
    (caller.returned completed : Thread Handler).runs job = false := by
  cases caller <;> rfl

@[simp] theorem raised_runs (job : Nat) (caller : Caller) :
    (caller.raised : Thread Handler).runs job = false := by
  cases caller <;> rfl

variable (croniter : Croniter) (now : Int) (scheduler : JobScheduler Handler)
  (outcome : HandlerOutcome)

theorem settle_count (job other : Nat) : ((scheduler.settle now other outcome).tasks job).runCount =
      (scheduler.tasks job).runCount + if other = job then 1 else 0 := by
  obtain ⟨status, executed, failed, ended⟩ := scheduler.settle_frame now other outcome
  rw [ended, JobScheduler.setTask]
  by_cases here : other = job
  · subst here
    simp
  · rw [if_neg here, Nat.add_zero]
    exact congrArg RuntimeTask.runCount (Function.update_of_ne (fun equal => here equal.symm) _ _)

theorem mark_running_count (job other : Nat) :
    ((scheduler.markRunning other).tasks job).runCount = (scheduler.tasks job).runCount :=
  task_update RuntimeTask.runCount scheduler.tasks other job _ rfl

theorem next_count_step (job : Nat) (thread : Thread Handler) :
    CountStep job scheduler (thread.next croniter now scheduler outcome).2 thread
      (thread.next croniter now scheduler outcome).1 := by
  have step := next_cases croniter now scheduler outcome thread
  generalize (thread.next croniter now scheduler outcome).1 = next at step ⊢
  generalize (thread.next croniter now scheduler outcome).2 = after at step ⊢
  cases step with
  | missing name caller gone => exact .same (raised_runs job caller) rfl
  | disabled name caller other registered => exact .same (returned_runs job caller false) rfl
  | refused name other caller taken => exact .same (returned_runs job caller false) rfl
  | admitted name other caller free =>
    by_cases here : other = job
    · subst here
      exact .admitted name caller rfl free (by simp [runs]) rfl
    · exact .same (by simp [runs, here]) rfl
  | unhandled name other caller gone =>
    have failed := settle_count now (scheduler.markRunning other) .raises job other
    rw [mark_running_count scheduler job other] at failed
    by_cases here : other = job
    · rw [if_pos here] at failed
      exact .counted (by simp [runs, here]) rfl failed
    · rw [if_neg here] at failed
      exact .same (by simp [runs, here]) failed
  | begun name other caller handler registered =>
    exact .same rfl (mark_running_count scheduler job other)
  | settled name other caller handler =>
    have counted := settle_count now scheduler outcome job other
    by_cases here : other = job
    · rw [if_pos here] at counted
      exact .counted (by simp [runs, here]) rfl counted
    · rw [if_neg here] at counted
      exact .same (by simp [runs, here]) counted
  | released name other caller completed => exact .same (returned_runs job caller completed) rfl
  | marked other due executed after recorded =>
    obtain ⟨table, start, _, same⟩ := JobScheduler.mark_run_frame croniter now recorded
    rw [same]
    exact .same rfl (task_update RuntimeTask.runCount scheduler.tasks other job _ rfl)
  | _ => exact .same rfl rfl

theorem next_refers (job : Nat) (thread : Thread Handler)
    (refers : (thread.next croniter now scheduler outcome).1.refersTo job) :
    thread.refersTo job ∨ ∃ name, scheduler.jobs.get? name = some job := by
  have step := next_cases croniter now scheduler outcome thread
  generalize (thread.next croniter now scheduler outcome).1 = next at step refers
  generalize (thread.next croniter now scheduler outcome).2 = after at step
  cases step with
  | found name caller other registered =>
    cases refers
    exact .inr ⟨name, registered⟩
  | admitted name other caller free => exact .inl refers
  | unhandled name other caller gone => exact .inl refers
  | begun name other caller handler registered => exact .inl refers
  | settled name other caller handler => exact .inl refers
  | missing name caller gone => cases caller <;> cases refers
  | disabled name caller other registered => cases caller <;> cases refers
  | refused name other caller taken => cases caller <;> cases refers
  | released name other caller completed => cases caller <;> cases refers
  | _ => cases refers

theorem refers_of_runs {job : Nat} {thread : Thread Handler} (going : thread.runs job = true) :
    thread.refersTo job := by
  cases thread with
  | running name other phase caller =>
    cases phase with
    | admitted => simpa [runs, refersTo] using going
    | handling handler => simpa [runs, refersTo] using going
    | _ => cases going
  | _ => cases going

end Thread

namespace SchedulerWorld

variable (croniter : Croniter)

/-- The runs of a job that are under way and not yet counted. -/
def inFlight (world : SchedulerWorld Handler) (job : Nat) : Nat :=
  world.threads.countP (Thread.runs job)

/-- No job has run more often than its limit; zero is no limit. -/
def WithinLimits (world : SchedulerWorld Handler) : Prop :=
  ∀ job, (world.scheduler.tasks job).maxRuns = 0 ∨
    (world.scheduler.tasks job).runCount ≤ (world.scheduler.tasks job).maxRuns

def HasRoom (world : SchedulerWorld Handler) (job : Nat) : Prop :=
  (world.scheduler.tasks job).maxRuns = 0 ∨
    (world.scheduler.tasks job).runCount + world.inFlight job < (world.scheduler.tasks job).maxRuns

/-- A step of the thread admits only a run for which there is room. -/
def AdmitsWithin (world : SchedulerWorld Handler) (index : Nat) : Prop :=
  ∀ name job caller, world.threads[index]? = some (.running name job .found caller) →
    name ∉ world.scheduler.running → world.HasRoom job

structure Limited (world : SchedulerWorld Handler) : Prop where
  bounded : ∀ thread ∈ world.threads, ∀ job, thread.refersTo job → job < world.scheduler.created
  known : ∀ name job, world.scheduler.jobs.get? name = some job → job < world.scheduler.created
  within : ∀ job, (world.scheduler.tasks job).maxRuns = 0 ∨
    (world.scheduler.tasks job).runCount + world.inFlight job ≤ (world.scheduler.tasks job).maxRuns

theorem started_limited (intervalSeconds : Int) (defaultHandler : Handler) (eventBus : Bool)
    (clock : Int) : (started intervalSeconds defaultHandler eventBus clock).Limited where
  bounded := nofun
  known := nofun
  within := fun _ => .inl rfl

theorem spawn_limited {world : SchedulerWorld Handler} (limited : world.Limited)
    (thread : Thread Handler) (idle : ∀ job, ¬thread.refersTo job) :
    (world.spawn thread).Limited := by
  have none : ∀ job, thread.runs job = false := by
    intro job
    rw [Bool.eq_false_iff]
    exact fun going => idle job (Thread.refers_of_runs going)
  refine ⟨?_, limited.known, ?_⟩
  · intro other member job refers
    rcases List.mem_append.mp member with old | new
    · exact limited.bounded other old job refers
    · rw [List.mem_singleton.mp new] at refers
      exact absurd refers (idle job)
  · intro job
    have count : (world.spawn thread).inFlight job = world.inFlight job := by
      simp [inFlight, spawn, none]
    rw [count]
    exact limited.within job

theorem advance_limited {world : SchedulerWorld Handler} (limited : world.Limited)
    (index : Nat) (outcome : HandlerOutcome) (room : world.AdmitsWithin index) :
    (world.advance croniter index outcome).Limited := by
  unfold advance
  split
  · exact limited
  next thread found =>
    dsimp only
    have registry := thread.next_registry croniter world.clock world.scheduler outcome
    have counted := fun job =>
      thread.next_count_step croniter world.clock world.scheduler outcome job
    have refers := fun job =>
      thread.next_refers croniter world.clock world.scheduler outcome job
    generalize thread.next croniter world.clock world.scheduler outcome = result at *
    obtain ⟨next, scheduler⟩ := result
    dsimp only at registry counted refers ⊢
    refine ⟨?_, ?_, ?_⟩
    · intro other member job taken
      dsimp only
      rw [registry.created]
      rcases List.mem_or_eq_of_mem_set member with old | new
      · exact limited.bounded other old job taken
      · rw [new] at taken
        rcases refers job taken with before | ⟨name, registered⟩
        · exact limited.bounded thread (List.mem_of_getElem? found) job before
        · exact limited.known name job registered
    · intro name job registered
      dsimp only at registered ⊢
      rw [registry.jobs] at registered
      rw [registry.created]
      exact limited.known name job registered
    · intro job
      have before := limited.within job
      have going := count_set found next (Thread.runs job)
      change (scheduler.tasks job).maxRuns = 0 ∨
        (scheduler.tasks job).runCount + (world.threads.set index next).countP (Thread.runs job) ≤
          (scheduler.tasks job).maxRuns
      rw [inFlight] at before
      rw [registry.limits job]
      cases counted job with
      | same unchanged count =>
        rw [unchanged] at going
        omega
      | admitted name caller was free started count =>
        have spare := room name job caller (by rw [found, was]) free
        rw [HasRoom, inFlight] at spare
        rw [was, started] at going
        simp only [Thread.runs, if_true, if_false, Bool.false_eq_true] at going
        omega
      | counted went ended count =>
        rw [went, ended] at going
        simp only [if_true, if_false, Bool.false_eq_true] at going
        omega

theorem register_limited {world : SchedulerWorld Handler} (limited : world.Limited)
    (spec : JobSpec) (handler : Option Handler) :
    (world.step croniter (.register spec handler)).Limited := by
  rw [step]
  split
  · exact limited
  next after registered =>
    obtain ⟨_, chosen, table, same⟩ := JobScheduler.register_frame croniter world.clock registered
    rw [same]
    refine ⟨?_, ?_, ?_⟩
    · intro thread member job refers
      exact (limited.bounded thread member job refers).trans (Nat.lt_succ_self _)
    · apply OrderedDict.forall_set
      · exact Nat.lt_succ_self _
      · intro name job found
        exact (limited.known name job found).trans (Nat.lt_succ_self _)
    · intro job
      dsimp only
      by_cases fresh : job = world.scheduler.created
      · -- no thread has seen the new object
        have unused : world.threads.countP (Thread.runs job) = 0 := by
          rw [List.countP_eq_zero]
          intro thread member going
          have below := limited.bounded thread member job (Thread.refers_of_runs going)
          omega
        rw [fresh] at unused ⊢
        right
        change _ + world.threads.countP _ ≤ _
        rw [unused, Function.update_self]
        exact Nat.zero_le _
      · rw [Function.update_of_ne fresh]
        exact limited.within job

theorem unregister_limited {world : SchedulerWorld Handler} (limited : world.Limited)
    (removed : String) : (world.step croniter (.unregister removed)).Limited := by
  refine ⟨limited.bounded, ?_, limited.within⟩
  exact OrderedDict.forall_erase removed limited.known

end SchedulerWorld

end AiEnterpriseOs.Runtime
