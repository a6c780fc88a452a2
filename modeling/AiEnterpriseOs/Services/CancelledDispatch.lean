import AiEnterpriseOs.Services.TerminalStatus

/-!
# Child processes after a cancel

The worker looks at the status before and after the dispatch, not within it. A
cancelled run therefore goes on to the next child process from every phase in
which one is still to come.
-/

namespace AiEnterpriseOs.Services

open Library

/-- A primary left like this is followed by the fallback. -/
def ProcessEnd.fails : ProcessEnd → Bool
  | .exited code => code ≠ 0
  | .osError _ => true
  | .raised _ => false

/-- A child process may still be started from this phase of the dispatch. -/
def DispatchPhase.mayStart (config : FallbackConfig) : DispatchPhase → Bool
  | .looking _ _ | .spawning _ _ => true
  | .registering provider _ _ | .running provider _ => provider = .opencode && config.enabled
  | .unregistering provider _ left => provider = .opencode && config.enabled && left.fails

/-- The worker may start a child process without looking at the status again. -/
def WorkerPhase.mayStart (config : FallbackConfig) : WorkerPhase → Bool
  | .startChecked => true
  | .dispatching phase => phase.mayStart config
  | _ => false

namespace RunnerState

variable (config : FallbackConfig) (model : String)

/-- A cancel call that has written its status returns. -/
def CancelReturns (state : RunnerState) (action : RunnerAction) : Prop :=
  ∃ call alive proc, action = .cancel call (.terminate alive) ∧
    state.cancels call = .terminating proc

/-- Somewhere in the run a cancel call has been accepted and has returned. -/
def CancelAccepted (start : RunnerState) (actions : List RunnerAction) : Prop :=
  ∃ early action late, actions = early ++ action :: late ∧
    (runInputs (step config model) start early).CancelReturns action

section Accepted

theorem worker_cancels (state : RunnerState) (event : WorkerEvent) :
    (state.workerStep config model event).cancels = state.cancels := by
  have enter : ∀ checked, (state.enterUnlessCancelled checked).cancels = state.cancels := by
    intro checked
    rw [enterUnlessCancelled]
    split
    · rfl
    · split <;> rfl
  unfold workerStep
  split
  · rfl
  · rfl
  · exact enter .startChecked
  · rfl
  · next phase here => exact (dispatch_frame config model state phase _ here).cancels
  · next result here => exact enter (.finishChecked result)
  · rfl
  · rfl

theorem terminating_step {state : RunnerState} {call : Nat} {event : CancelEvent} {other : Nat}
    {proc : Option Nat} (known : ∀ other proc, state.cancels other = .terminating proc →
      state.run.status = .cancelled)
    (after : (state.cancelStep call event).cancels other = .terminating proc) :
    (state.cancelStep call event).run.status = .cancelled := by
  have moves : ∀ phase, (∀ proc, phase ≠ .terminating proc) →
      (state.setCancel call phase).cancels other = .terminating proc →
      state.run.status = .cancelled := by
    intro phase quiet same
    simp only [setCancel] at same
    split at same
    · exact absurd same (quiet proc)
    · exact known other proc same
  revert after
  unfold cancelStep
  split
  · split
    · exact known other proc
    · exact moves _ (by simp)
  · split
    · exact moves _ (by simp)
    · exact moves _ (by simp)
  · split
    · exact known other proc
    · exact moves _ (by simp)
  · exact fun _ => rfl
  · split
    · split
      · exact moves _ (by simp)
      · exact moves _ (by simp)
    · exact moves _ (by simp)
  · exact known other proc

/-- The phases of the threads agree with the lock and the status, and a call
about to return has cancelled the run. -/
structure Acknowledged (state : RunnerState) : Prop where
  guarded : Guarded state
  terminating : ∀ call proc, state.cancels call = .terminating proc → state.run.status = .cancelled

theorem acknowledged_step (state : RunnerState) (action : RunnerAction)
    (known : Acknowledged state) : Acknowledged (state.step config model action) := by
  have moved := step_moved config model state action
  refine ⟨moved_guarded known.guarded moved, ?_⟩
  intro other proc after
  cases action with
  | worker event =>
    rw [step, worker_cancels] at after
    exact moved_cancelled known.guarded moved (known.terminating other proc after)
  | cancel call event => exact terminating_step known.terminating after

theorem queued_acknowledged (runId target logPath : String) :
    Acknowledged (queued runId target logPath) :=
  ⟨queued_guarded runId target logPath, nofun⟩

theorem cancelled_of_accepted {start : RunnerState} {actions : List RunnerAction}
    (known : Acknowledged start) (accepted : CancelAccepted config model start actions) :
    Acknowledged (runInputs (step config model) start actions) ∧
      (runInputs (step config model) start actions).run.status = .cancelled := by
  obtain ⟨early, action, late, split, call, alive, proc, _, terminating⟩ := accepted
  have reached := invariant_of_steps (step config model) (acknowledged_step config model) start
    early known
  rw [split, run_inputs_append]
  apply @invariant_of_steps RunnerState RunnerAction (step config model)
    (fun state => Acknowledged state ∧ state.run.status = .cancelled)
  · intro state action holds
    exact ⟨acknowledged_step config model state action holds.1,
      moved_cancelled holds.1.guarded (step_moved config model state action) holds.2⟩
  · exact ⟨reached, reached.terminating call proc terminating⟩

end Accepted

section Quiet

theorem cancel_worker (state : RunnerState) (call : Nat) (event : CancelEvent) :
    (state.cancelStep call event).worker = state.worker ∧
      (state.cancelStep call event).spawned = state.spawned := by
  unfold cancelStep
  split
  · split <;> exact ⟨rfl, rfl⟩
  · split <;> exact ⟨rfl, rfl⟩
  · split <;> exact ⟨rfl, rfl⟩
  · exact ⟨rfl, rfl⟩
  · split
    · split <;> exact ⟨rfl, rfl⟩
    · exact ⟨rfl, rfl⟩
  · exact ⟨rfl, rfl⟩

theorem attempted_last (state : RunnerState) (provider : Provider)
    (attempts : List DispatchAttempt) (exitCode : Option Int) (error : String)
    (last : provider = .opencode → config.enabled = true → exitCode = some 0) :
    (state.attempted config model provider attempts exitCode error).worker.mayStart config =
      false := by
  rw [attempted]
  cases provider with
  | ollama => rfl
  | opencode =>
    by_cases enabled : config.enabled = true
    · simp only [nextProvider, last rfl enabled, if_true]
      rfl
    · have none : ∀ attempt, nextProvider config .opencode attempt = none := by
        intro attempt
        simp [nextProvider, enabled]
      simp only [none]
      rfl

theorem unregistering_quiet {provider : Provider} {attempts : List DispatchAttempt}
    (ended : (DispatchPhase.running provider attempts).mayStart config = false)
    (left : ProcessEnd) :
    (DispatchPhase.unregistering provider attempts left).mayStart config = false := by
  have noNext : (provider = .opencode && config.enabled) = false := ended
  rw [DispatchPhase.mayStart, noNext, Bool.false_and]

theorem dispatch_quiet (state : RunnerState) (phase : DispatchPhase) (event : WorkerEvent)
    (here : state.worker = .dispatching phase) (ended : phase.mayStart config = false) :
    (state.dispatchStep config model phase event).spawned = state.spawned ∧
      (state.dispatchStep config model phase event).worker.mayStart config = false := by
  have stays : state.worker.mayStart config = false := by
    rw [here]
    exact ended
  unfold dispatchStep
  split
  · cases ended
  · cases ended
  · cases ended
  · cases ended
  · split
    · exact ⟨rfl, stays⟩
    · exact ⟨rfl, ended⟩
  · exact ⟨rfl, unregistering_quiet config ended _⟩
  · exact ⟨rfl, unregistering_quiet config ended _⟩
  · exact ⟨rfl, unregistering_quiet config ended _⟩
  · rename_i provider attempts left
    split
    · exact ⟨rfl, stays⟩
    · have last : left.fails = true → provider = .opencode → config.enabled ≠ true := by
        intro fails isPrimary enabled
        simp [DispatchPhase.mayStart, fails, isPrimary, enabled] at ended
      cases left with
      | exited code =>
        refine ⟨rfl, attempted_last config model _ _ _ _ _ fun isPrimary enabled => ?_⟩
        by_cases success : code = 0
        · rw [success]
        · exact absurd enabled (last (by simpa [ProcessEnd.fails] using success) isPrimary)
      | osError error =>
        refine ⟨rfl, attempted_last config model _ _ _ _ _ fun isPrimary enabled => ?_⟩
        exact absurd enabled (last rfl isPrimary)
      | raised error => exact ⟨rfl, rfl⟩
  · cases ended
  · cases ended
  · exact ⟨rfl, stays⟩

theorem quiet_step (state : RunnerState) (action : RunnerAction)
    (cancelled : state.run.status = .cancelled) (ended : state.worker.mayStart config = false) :
    (state.step config model action).spawned = state.spawned ∧
      (state.step config model action).worker.mayStart config = false := by
  have enters : ∀ checked, (state.enterUnlessCancelled checked).spawned = state.spawned ∧
      (state.enterUnlessCancelled checked).worker.mayStart config = false := by
    intro checked
    rw [enterUnlessCancelled, if_pos cancelled]
    split
    · exact ⟨rfl, ended⟩
    · exact ⟨rfl, rfl⟩
  cases action with
  | worker event =>
    change (state.workerStep config model event).spawned = state.spawned ∧
      (state.workerStep config model event).worker.mayStart config = false
    unfold workerStep
    split
    · exact ⟨rfl, rfl⟩
    · exact ⟨rfl, rfl⟩
    · exact enters .startChecked
    · next here => cases (congrArg (WorkerPhase.mayStart config) here).symm.trans ended
    · next phase here =>
        apply dispatch_quiet config model state phase _ here
        rwa [here] at ended
    · next result here => exact enters (.finishChecked result)
    · exact ⟨rfl, rfl⟩
    · exact ⟨rfl, ended⟩
  | cancel call event =>
    obtain ⟨worker, spawned⟩ := cancel_worker state call event
    exact ⟨spawned, by rw [step, worker]; exact ended⟩

end Quiet

section Continues

/-- The lock is held only by a thread within its section. -/
structure Held (state : RunnerState) : Prop where
  worker : state.lock = some .worker → state.worker.stage = .inside
  cancel : ∀ call, state.lock = some (.cancel call) → ∃ proc, state.cancels call = .holding proc

theorem queued_held (runId target logPath : String) : Held (queued runId target logPath) :=
  ⟨nofun, nofun⟩

theorem enter_held {state : RunnerState} {checked : WorkerPhase}
    (inside : checked.stage = .inside) (held : Held state) :
    Held (state.enterUnlessCancelled checked) := by
  rw [enterUnlessCancelled]
  split
  · exact held
  · next busy =>
      have free : state.lock = none := by simpa using busy
      split
      · constructor
        · intro locked
          cases free.symm.trans locked
        · intro call locked
          cases free.symm.trans locked
      · exact ⟨fun _ => inside, nofun⟩

theorem worker_held {state : RunnerState} (event : WorkerEvent) (held : Held state) :
    Held (state.workerStep config model event) := by
  have outside : ∀ phase, state.worker = phase → phase.stage = .outside →
      ∀ call, state.lock = some call → call ≠ .worker := by
    intro phase here out holder locked same
    rw [same] at locked
    rw [← here, held.worker locked] at out
    cases out
  have moves : ∀ phase next, state.worker = phase → phase.stage = .outside →
      next.lock = state.lock → next.cancels = state.cancels → Held next := by
    intro phase next here out lock cancels
    constructor
    · intro locked
      exact absurd rfl (outside phase here out .worker (by rw [← lock, locked]))
    · intro call locked
      rw [cancels]
      exact held.cancel call (by rw [← lock, locked])
  unfold workerStep
  split
  · next here => exact moves _ _ here rfl rfl rfl
  · next here => exact moves _ _ here rfl rfl rfl
  · exact enter_held rfl held
  · exact ⟨nofun, nofun⟩
  · next phase here =>
      exact moves _ _ here rfl (dispatch_frame config model state phase _ here).lock
        (dispatch_frame config model state phase _ here).cancels
  · exact enter_held rfl held
  · exact ⟨nofun, nofun⟩
  · exact held

theorem cancel_held {state : RunnerState} (call : Nat) (event : CancelEvent)
    (held : Held state) : Held (state.cancelStep call event) := by
  have moves : ∀ phase after, (∀ proc, state.cancels call ≠ .holding proc) →
      after.lock = state.lock → after.worker = state.worker →
      after.cancels = (state.setCancel call phase).cancels → Held after := by
    intro phase after notHolding lock worker cancels
    constructor
    · intro locked
      rw [worker]
      exact held.worker (by rw [← lock, locked])
    · intro other locked
      obtain ⟨proc, holding⟩ := held.cancel other (by rw [← lock, locked])
      have another : other ≠ call := by
        intro same
        exact notHolding proc (by rw [← same, holding])
      refine ⟨proc, ?_⟩
      rw [cancels]
      simpa only [setCancel, if_neg another] using holding
  unfold cancelStep
  split
  · next here =>
      split
      · exact held
      · exact moves _ _ (by simp [here]) rfl rfl rfl
  · next here =>
      split
      · exact moves _ _ (by simp [here]) rfl rfl rfl
      · exact moves _ _ (by simp [here]) rfl rfl rfl
  · split
    · exact held
    · next proc here busy =>
        constructor
        · intro locked
          cases locked
        · intro other locked
          cases locked
          exact ⟨proc, by simp only [setCancel, if_true]⟩
  · constructor
    · intro locked
      cases locked
    · intro other locked
      cases locked
  · next here =>
      split
      · split
        · exact moves _ _ (by simp [here]) rfl rfl rfl
        · exact moves _ _ (by simp [here]) rfl rfl rfl
      · exact moves _ _ (by simp [here]) rfl rfl rfl
  · exact held

theorem step_held (state : RunnerState) (action : RunnerAction) (held : Held state) :
    Held (state.step config model action) := by
  cases action with
  | worker event => exact worker_held config model event held
  | cancel call event => exact cancel_held call event held

theorem held_throughout {state : RunnerState} (actions : List RunnerAction)
    (held : Held state) : Held (runInputs (step config model) state actions) :=
  invariant_of_steps (step config model) (step_held config model) state actions held

/-- Some continuation of the run starts a child process. -/
def SpawnsMore (state : RunnerState) : Prop :=
  ∃ more, (runInputs (step config model) state more).spawned ≠ state.spawned

theorem SpawnsMore.after {state : RunnerState} (actions : List RunnerAction)
    (same : (runInputs (step config model) state actions).spawned = state.spawned)
    (spawns : SpawnsMore config model (runInputs (step config model) state actions)) :
    SpawnsMore config model state := by
  obtain ⟨more, grown⟩ := spawns
  refine ⟨actions ++ more, ?_⟩
  rwa [run_inputs_append, ← same]

theorem lock_released {state : RunnerState} (held : Held state)
    (outside : state.worker.stage = .outside) :
    ∃ actions, let after := runInputs (step config model) state actions
      after.lock = none ∧ after.worker = state.worker ∧ after.spawned = state.spawned := by
  cases locked : state.lock with
  | none => exact ⟨[], locked, rfl, rfl⟩
  | some holder =>
    cases holder with
    | worker => cases outside.symm.trans (held.worker locked)
    | cancel call =>
      obtain ⟨proc, holding⟩ := held.cancel call locked
      refine ⟨[.cancel call (.write 0)], ?_⟩
      simp [step, cancelStep, holding, appendHistory, setCancel]

theorem spawning_spawns {state : RunnerState} {provider : Provider}
    {attempts : List DispatchAttempt}
    (here : state.worker = .dispatching (.spawning provider attempts)) :
    SpawnsMore config model state :=
  ⟨[.worker .spawned], by simp [step, workerStep, dispatchStep, here]⟩

theorem looking_spawns {state : RunnerState} {provider : Provider} {attempts : List DispatchAttempt}
    (here : state.worker = .dispatching (.looking provider attempts)) :
    SpawnsMore config model state := by
  have found : (state.step config model (.worker .found)).worker =
      .dispatching (.spawning provider attempts) := by
    simp [step, workerStep, dispatchStep, here]
  apply SpawnsMore.after config model [.worker .found]
  · simp [step, workerStep, dispatchStep, here]
  · exact spawning_spawns config model found

theorem failed_attempt_spawns {state : RunnerState} {attempts : List DispatchAttempt}
    {exitCode : Option Int} {error : String} (enabled : config.enabled = true)
    (failed : exitCode ≠ some 0) :
    SpawnsMore config model (state.attempted config model .opencode attempts exitCode error) := by
  apply looking_spawns
  rw [attempted]
  simp only [nextProvider, failed, enabled, if_true, if_false]
  rfl

theorem unregistering_spawns {state : RunnerState} {attempts : List DispatchAttempt}
    {left : ProcessEnd} (enabled : config.enabled = true) (fails : left.fails = true)
    (held : Held state)
    (here : state.worker = .dispatching (.unregistering .opencode attempts left)) :
    SpawnsMore config model state := by
  obtain ⟨actions, free, worker, spawned⟩ :=
    lock_released config model held (by rw [here]; rfl)
  apply SpawnsMore.after config model actions spawned
  rw [here] at worker
  apply SpawnsMore.after config model [.worker .acquire]
  · cases left <;> simp [step, workerStep, dispatchStep, worker, free, attempted]
  · cases left with
    | exited code =>
      have failed : some code ≠ some 0 := by simpa [ProcessEnd.fails] using fails
      simp only [run_inputs_cons, run_inputs_nil, step, workerStep, dispatchStep, worker, free]
      exact failed_attempt_spawns config model enabled failed
    | osError error =>
      simp only [run_inputs_cons, run_inputs_nil, step, workerStep, dispatchStep, worker, free]
      exact failed_attempt_spawns config model enabled (by simp)
    | raised error => cases fails

theorem running_spawns {state : RunnerState} {attempts : List DispatchAttempt}
    (enabled : config.enabled = true) (held : Held state)
    (here : state.worker = .dispatching (.running .opencode attempts)) :
    SpawnsMore config model state := by
  have exited : (state.step config model (.worker (.exited 1))).worker =
      .dispatching (.unregistering .opencode attempts (.exited 1)) := by
    simp [step, workerStep, dispatchStep, here]
  apply SpawnsMore.after config model [.worker (.exited 1)]
  · simp [step, workerStep, dispatchStep, here]
  · exact unregistering_spawns config model enabled rfl
      (held_throughout config model [_] held) exited

theorem registering_spawns {state : RunnerState} {attempts : List DispatchAttempt}
    {proc : Nat} (enabled : config.enabled = true) (held : Held state)
    (here : state.worker = .dispatching (.registering .opencode attempts proc)) :
    SpawnsMore config model state := by
  obtain ⟨actions, free, worker, spawned⟩ :=
    lock_released config model held (by rw [here]; rfl)
  apply SpawnsMore.after config model actions spawned
  have kept := held_throughout config model actions held
  rw [here] at worker
  apply SpawnsMore.after config model [.worker .acquire]
  · simp [step, workerStep, dispatchStep, worker, free]
  · have running : ((runInputs (step config model) state actions).step config model
        (.worker .acquire)).worker = .dispatching (.running .opencode attempts) := by
      simp [step, workerStep, dispatchStep, worker, free]
    exact running_spawns config model enabled (held_throughout config model [_] kept) running

theorem may_start_spawns {state : RunnerState} (held : Held state) (guarded : Guarded state)
    (cancelled : state.run.status = .cancelled) (may : state.worker.mayStart config = true) :
    SpawnsMore config model state := by
  cases here : state.worker with
  | dispatching phase =>
    rw [here] at may
    cases phase with
    | looking provider attempts => exact looking_spawns config model here
    | spawning provider attempts => exact spawning_spawns config model here
    | registering provider attempts proc =>
      obtain ⟨rfl, enabled⟩ : provider = .opencode ∧ config.enabled = true := by
        simpa [WorkerPhase.mayStart, DispatchPhase.mayStart] using may
      exact registering_spawns config model enabled held here
    | running provider attempts =>
      obtain ⟨rfl, enabled⟩ : provider = .opencode ∧ config.enabled = true := by
        simpa [WorkerPhase.mayStart, DispatchPhase.mayStart] using may
      exact running_spawns config model enabled held here
    | unregistering provider attempts left =>
      obtain ⟨⟨rfl, enabled⟩, fails⟩ :
          (provider = .opencode ∧ config.enabled = true) ∧ left.fails = true := by
        simpa [WorkerPhase.mayStart, DispatchPhase.mayStart] using may
      exact unregistering_spawns config model enabled fails held here
  | startChecked =>
    have isOpen := guarded.open_status (by rw [here]; rfl)
    rw [cancelled] at isOpen
    exact absurd trivial isOpen
  | _ =>
    rw [here] at may
    cases may

end Continues

/-- Once a cancel call has been accepted and has returned, the run starts no
further child process exactly when the worker is past its last one. -/
theorem cancelled_run_starts_nothing_iff (runId target logPath : String)
    (actions : List RunnerAction)
    (accepted : CancelAccepted config model (queued runId target logPath) actions) :
    let reached := runInputs (step config model) (queued runId target logPath)
    (∀ more, (reached (actions ++ more)).spawned = (reached actions).spawned) ↔
      (reached actions).worker.mayStart config = false := by
  intro reached
  have known : Acknowledged (reached actions) ∧ (reached actions).run.status = .cancelled :=
    cancelled_of_accepted config model (queued_acknowledged runId target logPath) accepted
  have held : Held (reached actions) :=
    held_throughout config model actions (queued_held runId target logPath)
  constructor
  · intro quiet
    by_contra may
    obtain ⟨more, grown⟩ := may_start_spawns config model held known.1.guarded known.2
      (by simpa using may)
    apply grown
    rw [← run_inputs_append]
    exact quiet more
  · intro ended more
    have quiet := @invariant_of_steps RunnerState RunnerAction (step config model)
      (fun state => (Guarded state ∧ state.run.status = .cancelled) ∧
        (state.spawned = (reached actions).spawned ∧ state.worker.mayStart config = false))
    rw [show reached (actions ++ more) = runInputs (step config model) (reached actions) more
      from run_inputs_append _ _ _ _]
    refine (quiet ?_ (reached actions) more ⟨⟨known.1.guarded, known.2⟩, rfl, ended⟩).2.1
    intro state action ⟨⟨guarded, cancelled⟩, same, past⟩
    have moved := step_moved config model state action
    have stepped := quiet_step config model state action cancelled past
    exact ⟨⟨moved_guarded guarded moved, moved_cancelled guarded moved cancelled⟩,
      stepped.1.trans same, stepped.2⟩

/-- The call is accepted while the fallback runs. -/
theorem cancel_during_fallback_is_last :
    let config : FallbackConfig := { enabled := true, model := "llama3.1:8b" }
    let reached := runInputs (step config "north")
      (queued "g1-1" "registry" "runtime/generate_logs/g1-1.log")
    let cancelling : List RunnerAction :=
      [.worker .rendered, .worker .acquire, .worker (.write 1), .worker .notFound,
        .worker .found, .worker .spawned, .worker .acquire, .cancel 0 .lookUp,
        .cancel 0 .check, .cancel 0 .acquire, .cancel 0 (.write 2), .cancel 0 (.terminate true)]
    ∀ more, (reached (cancelling ++ more)).spawned = (reached cancelling).spawned :=
  (cancelled_run_starts_nothing_iff { enabled := true, model := "llama3.1:8b" } "north" "g1-1"
    "registry" "runtime/generate_logs/g1-1.log"
    [.worker .rendered, .worker .acquire, .worker (.write 1), .worker .notFound,
      .worker .found, .worker .spawned, .worker .acquire, .cancel 0 .lookUp,
      .cancel 0 .check, .cancel 0 .acquire, .cancel 0 (.write 2), .cancel 0 (.terminate true)]
    ⟨[.worker .rendered, .worker .acquire, .worker (.write 1), .worker .notFound,
        .worker .found, .worker .spawned, .worker .acquire, .cancel 0 .lookUp,
        .cancel 0 .check, .cancel 0 .acquire, .cancel 0 (.write 2)],
      .cancel 0 (.terminate true), [], rfl, 0, true, some 0, rfl, rfl⟩).mpr rfl

/-- The primary dies of the signal the accepted call has sent it, and the
fallback is started. -/
theorem cancelled_primary_is_followed_by_fallback :
    let config : FallbackConfig := { enabled := true, model := "llama3.1:8b" }
    let reached := runInputs (step config "north")
      (queued "g1-1" "registry" "runtime/generate_logs/g1-1.log")
    let cancelling : List RunnerAction :=
      [.worker .rendered, .worker .acquire, .worker (.write 1), .worker .found,
        .worker .spawned, .worker .acquire, .cancel 0 .lookUp, .cancel 0 .check,
        .cancel 0 .acquire, .cancel 0 (.write 2)]
    let returning : List RunnerAction := cancelling ++ [.cancel 0 (.terminate true)]
    let following : List RunnerAction :=
      [.worker (.exited (-15)), .worker .acquire, .worker .found, .worker .spawned]
    ((reached cancelling).CancelReturns (.cancel 0 (.terminate true)) ∧
      (reached returning).terminated = [0] ∧ (reached returning).spawned = 1) ∧
      (reached (returning ++ following)).spawned = 2 :=
  ⟨⟨⟨0, true, some 0, rfl, rfl⟩, by decide +kernel⟩, by decide +kernel⟩

end RunnerState

end AiEnterpriseOs.Services
