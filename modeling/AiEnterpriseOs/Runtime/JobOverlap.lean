import AiEnterpriseOs.Runtime.SchedulerThreads

/-!
# Overlapping executions of a job

The set of running names guards a job as long as every run under its name is in
the set. An unregistration takes the name out of the set and leaves the run, so
what matters is which runs are under way when a name is registered again.
-/

namespace AiEnterpriseOs.Runtime

open Library

variable {Handler : Type}

namespace Thread

/-- The handler of a job of that name is in progress. -/
def handles (name : String) : Thread Handler → Bool
  | running other _ (.handling _) _ => decide (other = name)
  | _ => false

/-- A run under that name is past its admission and not yet released. -/
def holds (name : String) : Thread Handler → Bool
  | running _ _ .found _ => false
  | running other _ _ _ => decide (other = name)
  | _ => false

/-- What a step of a thread does to the runs under one name. -/
inductive RunStep (name : String) (before after : JobScheduler Handler)
    (thread next : Thread Handler) : Prop where
  | other (handling : next.handles name = thread.handles name)
      (holding : next.holds name = thread.holds name)
      (marked : name ∈ after.running ↔ name ∈ before.running)
  | admitted (idle : thread.holds name = false) (holding : next.holds name = true)
      (quiet : thread.handles name = false) (unstarted : next.handles name = false)
      (free : name ∉ before.running) (marked : name ∈ after.running)
  | begun (held : thread.holds name = true) (holding : next.holds name = true)
      (registered : (before.handlers.get? name).isSome)
      (unmarked : name ∈ after.running ↔ name ∈ before.running)
  | settled (held : thread.holds name = true) (holding : next.holds name = true)
      (ended : next.handles name = false)
      (unmarked : name ∈ after.running ↔ name ∈ before.running)
  | released (held : thread.holds name = true) (dropped : next.holds name = false)
      (ended : next.handles name = false)

@[simp] theorem returned_handles (name : String) (caller : Caller) (completed : Bool) :
    (caller.returned completed : Thread Handler).handles name = false := by
  cases caller <;> rfl

@[simp] theorem returned_holds (name : String) (caller : Caller) (completed : Bool) :
    (caller.returned completed : Thread Handler).holds name = false := by
  cases caller <;> rfl

@[simp] theorem raised_handles (name : String) (caller : Caller) :
    (caller.raised : Thread Handler).handles name = false := by
  cases caller <;> rfl

@[simp] theorem raised_holds (name : String) (caller : Caller) :
    (caller.raised : Thread Handler).holds name = false := by
  cases caller <;> rfl

variable (croniter : Croniter) (now : Int) (scheduler : JobScheduler Handler)
  (outcome : HandlerOutcome)

theorem next_run_step (name : String) (thread : Thread Handler) :
    RunStep name scheduler (thread.next croniter now scheduler outcome).2 thread
      (thread.next croniter now scheduler outcome).1 := by
  have step := next_cases croniter now scheduler outcome thread
  generalize (thread.next croniter now scheduler outcome).1 = next at step ⊢
  generalize (thread.next croniter now scheduler outcome).2 = after at step ⊢
  cases step with
  | missing called caller gone =>
    exact .other (raised_handles name caller) (raised_holds name caller) Iff.rfl
  | disabled called caller job registered =>
    exact .other (returned_handles name caller false) (returned_holds name caller false) Iff.rfl
  | refused called job caller taken =>
    exact .other (returned_handles name caller false) (returned_holds name caller false) Iff.rfl
  | admitted called job caller free =>
    by_cases same : called = name
    · subst same
      exact .admitted rfl (by simp [holds]) rfl rfl free (Finset.mem_insert_self _ _)
    · refine .other rfl (by simp [holds, same]) ?_
      exact Finset.mem_insert.trans (or_iff_right fun equal => same equal.symm)
  | unhandled called job caller gone =>
    by_cases same : called = name
    · subst same
      exact .settled (by simp [holds]) (by simp [holds]) rfl Iff.rfl
    · exact .other rfl (by simp [holds, same]) Iff.rfl
  | begun called job caller handler registered =>
    by_cases same : called = name
    · subst same
      exact .begun (by simp [holds]) (by simp [holds]) (Option.isSome_of_eq_some registered) Iff.rfl
    · exact .other (by simp [handles, same]) (by simp [holds, same]) Iff.rfl
  | settled called job caller handler =>
    obtain ⟨status, executed, failed, ended⟩ := scheduler.settle_frame now job outcome
    rw [ended]
    by_cases same : called = name
    · subst same
      exact .settled (by simp [holds]) (by simp [holds]) rfl Iff.rfl
    · exact .other (by simp [handles, same]) (by simp [holds, same]) Iff.rfl
  | released called job caller completed =>
    by_cases same : called = name
    · subst same
      exact .released (by simp [holds]) (returned_holds called caller completed)
        (returned_handles called caller completed)
    · refine .other (returned_handles name caller completed) ?_ ?_
      · rw [returned_holds]
        simp [holds, same]
      · exact Finset.mem_erase.trans (and_iff_right fun equal => same equal.symm)
  | marked job due executed after recorded =>
    obtain ⟨table, start, _, same⟩ := JobScheduler.mark_run_frame croniter now recorded
    rw [same]
    exact .other rfl rfl Iff.rfl
  | _ => exact .other rfl rfl Iff.rfl

end Thread

namespace SchedulerWorld

variable (croniter : Croniter)

def Registered (world : SchedulerWorld Handler) (name : String) : Prop :=
  (world.scheduler.jobs.get? name).isSome = true

/-- The executions of the handler of a job that are in progress. -/
def executions (world : SchedulerWorld Handler) (name : String) : Nat :=
  world.threads.countP (Thread.handles name)

/-- The runs under a name that are past their admission and not yet released. -/
def admissions (world : SchedulerWorld Handler) (name : String) : Nat :=
  world.threads.countP (Thread.holds name)

/-- At most one run is under way, and it is marked. -/
def Guarded (world : SchedulerWorld Handler) (name : String) : Prop :=
  world.admissions name ≤ 1 ∧ (0 < world.admissions name → name ∈ world.scheduler.running)

/-- A job is registered only under a guarded name. -/
def Permitted (world : SchedulerWorld Handler) : SchedulerCall Handler → Prop
  | .register spec _ => world.Guarded spec.name
  | .unregister _ | .runNow _ | .tick | .notify _ | .advance _ _ | .elapse _ => True

structure Exclusive (world : SchedulerWorld Handler) : Prop where
  handlers : ∀ name, (world.scheduler.handlers.get? name).isSome = true → world.Registered name
  single : ∀ name, world.executions name ≤ 1
  guarded : ∀ name, world.Registered name → world.Guarded name

theorem executions_le_admissions (threads : List (Thread Handler)) (name : String) :
    threads.countP (Thread.handles name) ≤ threads.countP (Thread.holds name) := by
  apply List.countP_mono_left
  intro thread _ handling
  cases thread with
  | running other job phase caller =>
    cases phase with
    | handling handler => exact handling
    | _ => cases handling
  | _ => cases handling

theorem started_exclusive (intervalSeconds : Int) (defaultHandler : Handler) (eventBus : Bool)
    (clock : Int) : (started intervalSeconds defaultHandler eventBus clock).Exclusive where
  handlers := nofun
  single := fun _ => Nat.zero_le 1
  guarded := nofun

theorem spawn_exclusive {world : SchedulerWorld Handler} (exclusive : world.Exclusive)
    (thread : Thread Handler) (quiet : ∀ name, thread.handles name = false)
    (idle : ∀ name, thread.holds name = false) : (world.spawn thread).Exclusive := by
  have executions : ∀ name, (world.spawn thread).executions name = world.executions name := by
    intro name
    simp [SchedulerWorld.executions, spawn, quiet]
  have admissions : ∀ name, (world.spawn thread).admissions name = world.admissions name := by
    intro name
    simp [SchedulerWorld.admissions, spawn, idle]
  refine ⟨exclusive.handlers, ?_, ?_⟩
  · intro name
    rw [executions]
    exact exclusive.single name
  · intro name registered
    rw [Guarded, admissions]
    exact exclusive.guarded name registered

section Advance

variable {world : SchedulerWorld Handler} {index : Nat} {thread next : Thread Handler}
  {after : JobScheduler Handler} {name : String}

theorem step_single (exclusive : world.Exclusive) (found : world.threads[index]? = some thread)
    (run : Thread.RunStep name world.scheduler after thread next) :
    (world.threads.set index next).countP (Thread.handles name) ≤ 1 := by
  have before := exclusive.single name
  have below := executions_le_admissions (world.threads.set index next) name
  have handled := count_set found next (Thread.handles name)
  have held := count_set found next (Thread.holds name)
  rw [executions] at before
  cases run with
  | other same _ _ =>
    rw [same] at handled
    omega
  | admitted _ _ quiet unstarted _ _ =>
    rw [quiet, unstarted] at handled
    omega
  | begun was holds registered _ =>
    have guarded := (exclusive.guarded name (exclusive.handlers name registered)).1
    rw [admissions] at guarded
    rw [was, holds] at held
    omega
  | settled _ _ ended _ =>
    rw [ended, if_neg Bool.false_ne_true] at handled
    omega
  | released _ _ ended =>
    rw [ended, if_neg Bool.false_ne_true] at handled
    omega

theorem step_guarded (guarded : world.Guarded name) (found : world.threads[index]? = some thread)
    (run : Thread.RunStep name world.scheduler after thread next) :
    (world.threads.set index next).countP (Thread.holds name) ≤ 1 ∧
      (0 < (world.threads.set index next).countP (Thread.holds name) → name ∈ after.running) := by
  have held := count_set found next (Thread.holds name)
  rw [Guarded, admissions] at guarded
  cases run with
  | other _ same marked =>
    rw [same] at held
    refine ⟨by omega, ?_⟩
    intro positive
    exact marked.mpr (guarded.2 (by omega))
  | admitted idle holds _ _ free marked =>
    have none : world.threads.countP (Thread.holds name) = 0 :=
      Nat.eq_zero_of_not_pos fun positive => free (guarded.2 positive)
    rw [idle, holds, none] at held
    refine ⟨?_, fun _ => marked⟩
    simp only [if_true, if_false, Bool.false_eq_true] at held
    omega
  | begun was holds _ marked =>
    rw [was, holds] at held
    refine ⟨by omega, ?_⟩
    intro positive
    exact marked.mpr (guarded.2 (by omega))
  | settled was holds _ marked =>
    rw [was, holds] at held
    refine ⟨by omega, ?_⟩
    intro positive
    exact marked.mpr (guarded.2 (by omega))
  | released was dropped _ =>
    rw [was, dropped, if_pos rfl, if_neg Bool.false_ne_true] at held
    refine ⟨by omega, ?_⟩
    intro positive
    omega

end Advance

theorem advance_exclusive {world : SchedulerWorld Handler} (exclusive : world.Exclusive)
    (index : Nat) (outcome : HandlerOutcome) :
    (world.advance croniter index outcome).Exclusive := by
  unfold advance
  split
  · exact exclusive
  next thread found =>
    dsimp only
    have registry := thread.next_registry croniter world.clock world.scheduler outcome
    have run := fun name =>
      thread.next_run_step croniter world.clock world.scheduler outcome name
    generalize thread.next croniter world.clock world.scheduler outcome = result at *
    obtain ⟨next, scheduler⟩ := result
    dsimp only at registry run ⊢
    constructor
    · intro name present
      rw [Registered, registry.jobs]
      rw [registry.handlers] at present
      exact exclusive.handlers name present
    · intro name
      exact step_single exclusive found (run name)
    · intro name registered
      have registeredBefore : world.Registered name := by
        rw [Registered, ← registry.jobs]
        exact registered
      exact step_guarded (exclusive.guarded name registeredBefore) found (run name)

theorem register_exclusive {world : SchedulerWorld Handler} (exclusive : world.Exclusive)
    (spec : JobSpec) (handler : Option Handler) (guarded : world.Guarded spec.name) :
    (world.step croniter (.register spec handler)).Exclusive := by
  rw [step]
  split
  · exact exclusive
  next after registered =>
    obtain ⟨_, chosen, table, same⟩ := JobScheduler.register_frame croniter world.clock registered
    rw [same]
    refine ⟨?_, exclusive.single, ?_⟩
    · intro name present
      rw [Registered]
      dsimp only at present ⊢
      rw [OrderedDict.get_set] at present ⊢
      by_cases here : name = spec.name
      · rw [if_pos here]
        rfl
      · rw [if_neg here] at present ⊢
        exact exclusive.handlers name present
    · intro name present
      by_cases here : name = spec.name
      · rw [here]
        exact guarded
      · rw [Registered] at present
        dsimp only at present
        rw [OrderedDict.get_set, if_neg here] at present
        exact exclusive.guarded name present

theorem unregister_exclusive {world : SchedulerWorld Handler} (exclusive : world.Exclusive)
    (removed : String) : (world.step croniter (.unregister removed)).Exclusive := by
  have still : ∀ name, (world.step croniter (.unregister removed)).Registered name →
      name ≠ removed ∧ world.Registered name := by
    intro name present
    rw [Registered, step, JobScheduler.unregister] at present
    dsimp only at present
    rw [OrderedDict.get_erase] at present
    by_cases here : name = removed
    · rw [if_pos here] at present
      cases present
    · rw [if_neg here] at present
      exact ⟨here, present⟩
  refine ⟨?_, exclusive.single, ?_⟩
  · intro name present
    rw [step, JobScheduler.unregister] at present
    rw [Registered, step, JobScheduler.unregister]
    dsimp only at present ⊢
    rw [OrderedDict.get_erase] at present ⊢
    by_cases here : name = removed
    · rw [if_pos here] at present
      cases present
    · rw [if_neg here] at present ⊢
      exact exclusive.handlers name present
  · intro name present
    obtain ⟨other, before⟩ := still name present
    have guarded := exclusive.guarded name before
    refine ⟨guarded.1, ?_⟩
    intro positive
    exact Finset.mem_erase_of_ne_of_mem other (guarded.2 positive)

theorem step_exclusive (world : SchedulerWorld Handler) (call : SchedulerCall Handler)
    (exclusive : world.Exclusive) (permitted : world.Permitted call) :
    (world.step croniter call).Exclusive := by
  cases call with
  | register spec handler => exact register_exclusive croniter exclusive spec handler permitted
  | unregister name => exact unregister_exclusive croniter exclusive name
  | runNow name => exact spawn_exclusive exclusive _ (fun _ => rfl) fun _ => rfl
  | tick => exact spawn_exclusive exclusive _ (fun _ => rfl) fun _ => rfl
  | notify eventType => exact spawn_exclusive exclusive _ (fun _ => rfl) fun _ => rfl
  | advance index outcome => exact advance_exclusive croniter exclusive index outcome
  | elapse clock => exact ⟨exclusive.handlers, exclusive.single, exclusive.guarded⟩

/-- At most one execution of a job's handler is in progress in every run that
registers jobs under guarded names only. -/
theorem one_execution_at_a_time (intervalSeconds : Int) (defaultHandler : Handler)
    (eventBus : Bool) (clock : Int) (calls : List (SchedulerCall Handler))
    (permitted : StepsMeet (step croniter) Permitted
      (started intervalSeconds defaultHandler eventBus clock) calls) (name : String) :
    (runInputs (step croniter) (started intervalSeconds defaultHandler eventBus clock)
      calls).executions name ≤ 1 := by
  have exclusive := invariant_of_steps_meet (step croniter) (step_exclusive croniter) _ calls
    (started_exclusive intervalSeconds defaultHandler eventBus clock) permitted
  exact exclusive.single name

/-- The second caller finds the job running. -/
theorem second_caller_is_skipped :
    let slow := JobSpec.named "slow" .oneTime
    let calls : List (SchedulerCall Unit) :=
      [.register slow none, .runNow "slow", .advance 0 .returns, .advance 0 .returns,
        .advance 0 .returns, .runNow "slow", .advance 1 .returns, .advance 1 .returns]
    (runInputs (step .missing) (started 1000000 () true 0) calls).executions "slow" ≤ 1 := by
  intro slow calls
  apply one_execution_at_a_time
  exact ⟨⟨Nat.zero_le 1, nofun⟩, trivial, trivial, trivial, trivial, trivial, trivial, trivial,
    trivial⟩

/-- The job is unregistered and registered again while its handler runs: the
name is no longer marked, and the handler is entered a second time. -/
theorem registered_again_runs_twice :
    let slow := JobSpec.named "slow" .oneTime
    let start : List (SchedulerCall Unit) :=
      [.register slow none, .runNow "slow", .advance 0 .returns, .advance 0 .returns,
        .advance 0 .returns]
    let again : List (SchedulerCall Unit) :=
      [.unregister "slow", .register slow none, .runNow "slow", .advance 1 .returns,
        .advance 1 .returns, .advance 1 .returns]
    let world := runInputs (step .missing) (started 1000000 () true 0) (start ++ again)
    world.executions "slow" = 2 ∧ ¬world.executions "slow" ≤ 1 := by
  intro slow start again world
  have twice : world.executions "slow" = 2 := by decide +kernel
  exact ⟨twice, by rw [twice]; decide⟩

end SchedulerWorld

end AiEnterpriseOs.Runtime
