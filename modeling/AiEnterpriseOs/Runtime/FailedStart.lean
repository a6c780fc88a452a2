import AiEnterpriseOs.Runtime.Boot

/-!
# What a failed start leaves running

A start that fails moves the phase and nothing else, and a runtime whose phase
is failed is not stopped. So the workers that the steps before the failure
started keep running.
-/

namespace AiEnterpriseOs.Runtime

/-- The parts of `start_workers` up to the start of the first worker. -/
def beforeWorkers : List WorkerPart := [.eventBus, .engines, .worker .heartbeatSender]

abbrev startRuntime : String := "start_runtime"

/-- No step before the failing one is a `start_runtime` step, and if the failing one
is, it fails before a worker runs. -/
def FailsBeforeWorkers (steps : List StartupStep) (failed : Nat) : Prop :=
  (∀ step ∈ steps.take failed, step.definition.target ≠ some startRuntime) ∧
    ∀ step, steps[failed]? = some step → step.definition.target = some startRuntime →
      ∃ part ∈ beforeWorkers, step.course.failingPart = some part

namespace BootRuntime

theorem start_part_running {failing : Option WorkerPart} {runtime after : BootRuntime}
    {part : WorkerPart} (started : runtime.startPart failing part = some after) :
    runtime.running ⊆ after.running := by
  unfold startPart at started
  split at started
  · split_ifs at started
    · rw [← Option.some.inj started]
    · rw [← Option.some.inj started]
    · rw [← Option.some.inj started]
      exact Finset.subset_insert _ _
  · split_ifs at started
    rw [← Option.some.inj started]

theorem start_parts_running (failing : Option WorkerPart) (parts : List WorkerPart)
    (runtime : BootRuntime) :
    runtime.running ⊆ (startParts failing parts runtime).1.running := by
  induction parts generalizing runtime with
  | nil => exact Finset.Subset.refl _
  | cons part rest ih =>
    rw [startParts]
    cases started : runtime.startPart failing part with
    | none => exact Finset.Subset.refl _
    | some after => exact (start_part_running started).trans (ih after)

theorem start_workers_early {runtime : BootRuntime} (idle : runtime.running = ∅)
    {part : WorkerPart} (early : part ∈ beforeWorkers) :
    runtime.startWorkers (some part) = (runtime, false) := by
  have absent : Worker.heartbeatSender ∉ runtime.running := by simp [idle]
  simp only [beforeWorkers, List.mem_cons, List.not_mem_nil, or_false] at early
  rcases early with rfl | rfl | rfl
  · simp [startWorkers, workerParts, startParts, startPart]
  · simp [startWorkers, workerParts, startParts, startPart]
  · simp [startWorkers, workerParts, workers, startParts, startPart, absent]

theorem start_workers_late {runtime : BootRuntime} {failing : Option WorkerPart}
    (late : ∀ part ∈ beforeWorkers, failing ≠ some part) :
    Worker.heartbeatSender ∈ (runtime.startWorkers failing).1.running := by
  have bus := late .eventBus (by simp [beforeWorkers])
  have engines := late .engines (by simp [beforeWorkers])
  have sender := late (.worker .heartbeatSender) (by simp [beforeWorkers])
  let parts : List WorkerPart :=
    [.worker .scheduler, .worker .watchdog, .worker .supervisor, .configJobs]
  have begun : ∃ after : BootRuntime, Worker.heartbeatSender ∈ after.running ∧
      runtime.startWorkers failing = startParts failing parts after := by
    by_cases running : Worker.heartbeatSender ∈ runtime.running
    · refine ⟨runtime, running, ?_⟩
      simp [startWorkers, workerParts, workers, startParts, startPart, bus, engines, running, parts]
    · refine ⟨{ runtime with running := insert .heartbeatSender runtime.running },
        Finset.mem_insert_self _ _, ?_⟩
      simp [startWorkers, workerParts, workers, startParts, startPart, bus, engines, sender,
        running, parts]
  obtain ⟨after, running, same⟩ := begun
  rw [same]
  exact start_parts_running failing parts after running

/-- Without workers before, none runs after `start_workers` exactly when it fails before
the first of them. -/
theorem start_workers_idle_iff {runtime : BootRuntime} (idle : runtime.running = ∅)
    (failing : Option WorkerPart) :
    (runtime.startWorkers failing).1.running = ∅ ↔ ∃ part ∈ beforeWorkers, failing = some part := by
  constructor
  · intro none
    by_contra late
    have running := @start_workers_late runtime failing fun part member same =>
      late ⟨part, member, same⟩
    rw [none] at running
    exact absurd running (Finset.notMem_empty _)
  · rintro ⟨part, early, rfl⟩
    rw [start_workers_early idle early]
    exact idle

theorem run_class_step_running (runtime : BootRuntime) (definition : StepDefinition)
    (course : StepCourse) :
    (runtime.runClassStep definition course).1.running = runtime.running := by
  unfold runClassStep
  dsimp only
  split_ifs
  · rfl
  · rfl
  · rfl
  · rfl

theorem run_step_other {runtime : BootRuntime} {step : StartupStep}
    (other : step.definition.target ≠ some startRuntime) :
    (runtime.runStep step).1.running = runtime.running := by
  unfold runStep
  split
  · next target named =>
      have different : target ≠ startRuntime := fun same => other (named.trans (by rw [same]))
      split_ifs
      · rw [runInternal, if_neg different]
        split_ifs
        · rfl
        · rfl
      · exact run_class_step_running _ _ _
  · exact run_class_step_running _ _ _

theorem run_step_start {runtime : BootRuntime} {step : StartupStep}
    (starts : step.definition.target = some startRuntime) :
    runtime.runStep step = runtime.startWorkers step.course.failingPart := by
  have listed : startRuntime ∈ internalTargets := by decide
  rw [runStep, starts]
  dsimp only
  rw [if_pos listed, runInternal, if_pos rfl]

theorem run_step_running (runtime : BootRuntime) (step : StartupStep) :
    runtime.running ⊆ (runtime.runStep step).1.running := by
  by_cases starts : step.definition.target = some startRuntime
  · rw [run_step_start starts]
    exact start_parts_running _ _ _
  · rw [run_step_other starts]

theorem run_steps_cons (step : StartupStep) (rest : List StartupStep) (runtime : BootRuntime) :
    runSteps (step :: rest) runtime =
      if (runtime.runStep step).2 then
        ((runSteps rest (runtime.runStep step).1).1,
          (runSteps rest (runtime.runStep step).1).2.map (· + 1))
      else ((runtime.runStep step).1, some 0) := rfl

theorem run_steps_running (steps : List StartupStep) (runtime : BootRuntime) :
    runtime.running ⊆ (runSteps steps runtime).1.running := by
  induction steps generalizing runtime with
  | nil => exact Finset.Subset.refl _
  | cons step rest ih =>
    rw [run_steps_cons]
    split_ifs
    · exact (run_step_running runtime step).trans (ih _)
    · exact run_step_running runtime step

theorem completed_step_idle_iff {runtime : BootRuntime} {step : StartupStep}
    (idle : runtime.running = ∅) (completed : (runtime.runStep step).2 = true) :
    (runtime.runStep step).1.running = ∅ ↔ step.definition.target ≠ some startRuntime := by
  constructor
  · intro none starts
    rw [run_step_start starts] at none completed
    obtain ⟨part, early, same⟩ := (start_workers_idle_iff idle _).mp none
    rw [same, start_workers_early idle early] at completed
    cases completed
  · intro other
    rw [run_step_other other]
    exact idle

theorem failed_step_idle_iff {runtime : BootRuntime} {step : StartupStep}
    (idle : runtime.running = ∅) :
    (runtime.runStep step).1.running = ∅ ↔ (step.definition.target = some startRuntime →
        ∃ part ∈ beforeWorkers, step.course.failingPart = some part) := by
  by_cases starts : step.definition.target = some startRuntime
  · rw [run_step_start starts, start_workers_idle_iff idle]
    exact ⟨fun early _ => early, fun early => early starts⟩
  · rw [run_step_other starts]
    exact iff_of_true idle fun same => absurd same starts

theorem fails_before_workers_zero (step : StartupStep) (rest : List StartupStep) :
    FailsBeforeWorkers (step :: rest) 0 ↔ (step.definition.target = some startRuntime →
        ∃ part ∈ beforeWorkers, step.course.failingPart = some part) := by
  simp [FailsBeforeWorkers]

theorem fails_before_workers_succ (step : StartupStep) (rest : List StartupStep) (failed : Nat) :
    FailsBeforeWorkers (step :: rest) (failed + 1) ↔
      step.definition.target ≠ some startRuntime ∧ FailsBeforeWorkers rest failed := by
  simp only [FailsBeforeWorkers, List.take_succ_cons, List.forall_mem_cons,
    List.getElem?_cons_succ, and_assoc]

theorem run_steps_idle_iff {steps : List StartupStep} {runtime : BootRuntime} {failed : Nat}
    (fails : (runSteps steps runtime).2 = some failed) :
    (runSteps steps runtime).1.running = ∅ ↔
      runtime.running = ∅ ∧ FailsBeforeWorkers steps failed := by
  have before : (runSteps steps runtime).1.running = ∅ → runtime.running = ∅ :=
    fun none => Finset.subset_empty.mp (none ▸ run_steps_running steps runtime)
  by_cases idle : runtime.running = ∅
  · rw [and_iff_right idle]
    clear before
    induction steps generalizing runtime failed with
    | nil => cases fails
    | cons step rest ih =>
      rw [run_steps_cons] at fails ⊢
      by_cases completed : (runtime.runStep step).2 = true
      · simp only [if_pos completed] at fails ⊢
        obtain ⟨later, restFails, rfl⟩ := Option.map_eq_some_iff.mp fails
        rw [fails_before_workers_succ, ← completed_step_idle_iff idle completed]
        by_cases still : (runtime.runStep step).1.running = ∅
        · rw [and_iff_right still]
          exact ih restFails still
        · refine iff_of_false (fun none => still ?_) fun both => still both.1
          exact Finset.subset_empty.mp (none ▸ run_steps_running rest _)
      · simp only [if_neg completed, Option.some.injEq] at fails ⊢
        rw [← fails, fails_before_workers_zero]
        exact failed_step_idle_iff idle
  · exact iff_of_false (fun none => idle (before none)) fun both => idle both.1

theorem transition_some {phase newPhase after : RuntimePhase}
    (moved : phase.transition newPhase = some after) : after = newPhase := by
  unfold RuntimePhase.transition at moved
  split_ifs at moved with same
  · rw [← Option.some.inj moved, same]
  · exact (Option.some.inj moved).symm

theorem start_fails {runtime : BootRuntime} {steps : List StartupStep} {failed : Nat}
    (fails : (runtime.start steps).2 = .startupError failed) :
    ∃ phase, (runSteps steps { runtime with phase := phase }).2 = some failed ∧
      (runtime.start steps).1 =
        { (runSteps steps { runtime with phase := phase }).1 with phase := .failed } := by
  unfold start at fails ⊢
  split_ifs at fails ⊢
  cases moved : runtime.phase.transition .starting with
  | none =>
    rw [moved] at fails
    cases fails
  | some phase =>
    rw [moved] at fails
    dsimp only at fails ⊢
    refine ⟨phase, ?_⟩
    cases ran : runSteps steps { runtime with phase := phase } with
    | mk final stopped =>
      rw [ran] at fails
      cases stopped with
      | none => cases fails
      | some index =>
        dsimp only at fails ⊢
        cases moved : final.phase.transition .failed with
        | none =>
          rw [moved] at fails
          cases fails
        | some last =>
          rw [moved] at fails
          cases fails
          rw [transition_some moved]
          exact ⟨rfl, rfl⟩

theorem stop_failed {runtime : BootRuntime} (failed : runtime.phase = .failed)
    (course : StopCourse) : (runtime.stop course).1 = runtime := by
  have inactive : runtime.phase.isActive = false := by
    rw [failed]
    rfl
  rw [stop, if_pos inactive]

/-- After a start that raised `StartupError`, and a stop that follows it, no worker runs
exactly when none ran before and the failing step comes before the first worker is started. -/
theorem failed_start_clean_iff (runtime : BootRuntime) (steps : List StartupStep)
    (failed : Nat) (course : StopCourse)
    (fails : (runtime.start steps).2 = .startupError failed) :
    ((runtime.start steps).1.running = ∅ ∨ ((runtime.start steps).1.stop course).1.running = ∅) ↔
      runtime.running = ∅ ∧ FailsBeforeWorkers steps failed := by
  obtain ⟨phase, stopped, final⟩ := start_fails fails
  have inFailed : (runtime.start steps).1.phase = .failed := by rw [final]
  rw [stop_failed inFailed, or_self, final]
  exact run_steps_idle_iff stopped

/-- A stopped runtime without engines. -/
def resting : BootRuntime where
  phase := .stopped
  engines := []
  running := ∅
  watchdogEnabled := true

def startRuntimeStep : StartupStep where
  definition := { name := "start_runtime", target := some "start_runtime" }
  course := {}

/-- A class step whose module cannot be imported. -/
def missingModuleStep : StartupStep where
  definition :=
    { name := "initialize_reports"
      moduleName := some "ai_company.reports"
      className := some "Reports" }
  course := { raises := true }

theorem early_failure_leaves_nothing :
    (resting.start [missingModuleStep, startRuntimeStep]).1.running = ∅ ∨
      ((resting.start [missingModuleStep, startRuntimeStep]).1.stop {}).1.running = ∅ := by
  apply (failed_start_clean_iff resting _ 0 {} (by decide)).mpr
  refine ⟨rfl, List.forall_mem_nil _, ?_⟩
  intro step first starts
  rw [← Option.some.inj first] at starts
  cases starts

theorem late_failure_leaves_workers :
    let steps := [startRuntimeStep, missingModuleStep]
    let reached := (resting.start steps).1
    (resting.start steps).2 = .startupError 1 ∧
      reached.running = {.heartbeatSender, .scheduler, .watchdog, .supervisor} ∧
      (reached.stop {}).2 = .notActive ∧ (reached.stop {}).1.running = reached.running := by
  decide +kernel

end BootRuntime

end AiEnterpriseOs.Runtime
