import AiEnterpriseOs.Services.GenerateRunner

/-!
# The terminal status of a generate run

The worker reads and writes the status under the lock. A cancel call reads it
before it takes the lock, so its write may come after the worker's last one.
-/

namespace AiEnterpriseOs.Services

open Library

/-- What the lock and the status have to say about the worker's phase. -/
inductive WorkerStage where
  | outside
  | inside
  | recorded
  deriving DecidableEq

def WorkerPhase.stage : WorkerPhase → WorkerStage
  | .startChecked | .finishChecked _ => .inside
  | .ended true => .recorded
  | _ => .outside

theorem stage_recorded_iff (phase : WorkerPhase) :
    phase.stage = .recorded ↔ phase = .ended true := by
  cases phase with
  | ended recorded => cases recorded <;> simp [WorkerPhase.stage]
  | _ => simp [WorkerPhase.stage]

namespace RunnerState

/-- A cancel call is about to write its status. -/
def CancelWrites (state : RunnerState) (action : RunnerAction) : Prop :=
  ∃ call now proc, action = .cancel call (.write now) ∧ state.cancels call = .holding proc

/-- A cancel call writes its status only while the worker has recorded none. -/
def CancelsInTime (state : RunnerState) (action : RunnerAction) : Prop :=
  state.CancelWrites action → state.worker ≠ .ended true

/-- What a step does to the status, the lock and the phases around them. -/
inductive Moved (before : RunnerState) (action : RunnerAction) (after : RunnerState) : Prop where
  | quiet (noWrite : ¬before.CancelWrites action) (status : after.run.status = before.run.status)
      (lock : after.lock = before.lock)
      (stage : after.worker.stage = before.worker.stage)
      (holders : ∀ call proc, after.cancels call = .holding proc →
        before.cancels call = .holding proc)
  | workerEnters (noWrite : ¬before.CancelWrites action)
      (status : after.run.status = before.run.status)
      (live : before.run.status ≠ .cancelled)
      (free : before.lock = none)
      (lock : after.lock = some .worker)
      (outside : before.worker.stage = .outside)
      (stage : after.worker.stage = .inside)
      (holders : after.cancels = before.cancels)
  | workerStarts (noWrite : ¬before.CancelWrites action) (status : after.run.status = .running)
      (lock : after.lock = none)
      (inside : before.worker.stage = .inside)
      (stage : after.worker.stage = .outside)
      (holders : after.cancels = before.cancels)
  | workerRecords (noWrite : ¬before.CancelWrites action)
      (status : after.run.status = .succeeded ∨ after.run.status = .failed)
      (lock : after.lock = none)
      (inside : before.worker.stage = .inside)
      (stage : after.worker.stage = .recorded)
      (holders : after.cancels = before.cancels)
  | cancelEnters (call : Nat) (noWrite : ¬before.CancelWrites action)
      (status : after.run.status = before.run.status)
      (free : before.lock = none)
      (lock : after.lock = some (.cancel call))
      (stage : after.worker.stage = before.worker.stage)
      (holders : ∀ other proc, after.cancels other = .holding proc →
        other = call ∨ before.cancels other = .holding proc)
  | cancelWrites (call : Nat) (writes : before.CancelWrites action)
      (status : after.run.status = .cancelled)
      (holding : ∃ proc, before.cancels call = .holding proc)
      (lock : after.lock = none)
      (stage : after.worker.stage = before.worker.stage)
      (holders : ∀ other proc, after.cancels other = .holding proc →
        other ≠ call ∧ before.cancels other = .holding proc)

section Steps

variable (config : FallbackConfig) (model : String)

theorem worker_writes_nothing (state : RunnerState) (event : WorkerEvent) :
    ¬state.CancelWrites (.worker event) := by
  rintro ⟨call, now, proc, same, holding⟩
  cases same

/-- What a step of the dispatch does. -/
structure Dispatches (before after : RunnerState) : Prop where
  run : after.run = before.run
  lock : after.lock = before.lock
  cancels : after.cancels = before.cancels
  history : after.history = before.history
  worker : (∃ phase, after.worker = .dispatching phase) ∨ ∃ result, after.worker = .finishing result

theorem Dispatches.stage {before after : RunnerState} (dispatches : Dispatches before after) :
    after.worker.stage = .outside := by
  cases dispatches.worker with
  | inl goesOn =>
    obtain ⟨phase, same⟩ := goesOn
    rw [same]
    rfl
  | inr ends =>
    obtain ⟨result, same⟩ := ends
    rw [same]
    rfl

theorem attempted_worker (state : RunnerState) (provider : Provider)
    (attempts : List DispatchAttempt) (exitCode : Option Int) (error : String) :
    let after := state.attempted config model provider attempts exitCode error
    (∃ phase, after.worker = .dispatching phase) ∨ ∃ result, after.worker = .finishing result := by
  rw [attempted]
  dsimp only
  split
  · exact .inl ⟨_, rfl⟩
  · exact .inr ⟨_, rfl⟩

theorem dispatch_frame (state : RunnerState) (phase : DispatchPhase) (event : WorkerEvent)
    (here : state.worker = .dispatching phase) :
    Dispatches state (state.dispatchStep config model phase event) := by
  have stays : Dispatches state state := ⟨rfl, rfl, rfl, rfl, .inl ⟨phase, here⟩⟩
  unfold dispatchStep
  split
  case h_9 provider attempts left =>
      split
      · exact stays
      · cases left with
        | exited code => exact ⟨rfl, rfl, rfl, rfl, attempted_worker config model _ _ _ _ _⟩
        | osError error => exact ⟨rfl, rfl, rfl, rfl, attempted_worker config model _ _ _ _ _⟩
        | raised error => exact ⟨rfl, rfl, rfl, rfl, .inr ⟨_, rfl⟩⟩
  all_goals first
    | exact stays
    | exact ⟨rfl, rfl, rfl, rfl, .inl ⟨_, rfl⟩⟩
    | exact ⟨rfl, rfl, rfl, rfl, .inr ⟨_, rfl⟩⟩
    | exact ⟨rfl, rfl, rfl, rfl, attempted_worker config model _ _ _ _ _⟩
    | (split; exacts [stays, ⟨rfl, rfl, rfl, rfl, .inl ⟨_, rfl⟩⟩])

theorem dispatches_moved {before after : RunnerState} {action : RunnerAction}
    (noWrite : ¬before.CancelWrites action) (outside : before.worker.stage = .outside)
    (dispatches : Dispatches before after) : Moved before action after := by
  apply Moved.quiet noWrite (by rw [dispatches.run]) dispatches.lock
  · rw [dispatches.stage, outside]
  · intro call proc holding
    rwa [dispatches.cancels] at holding

theorem enter_moved (state : RunnerState) (event : WorkerEvent) (checked : WorkerPhase)
    (outside : state.worker.stage = .outside) (inside : checked.stage = .inside) :
    Moved state (.worker event) (state.enterUnlessCancelled checked) := by
  have noWrite := worker_writes_nothing state event
  unfold enterUnlessCancelled
  split
  · exact .quiet noWrite rfl rfl rfl fun _ _ holding => holding
  · next busy =>
      have free : state.lock = none := by simpa using busy
      split
      · exact .quiet noWrite rfl rfl outside.symm fun _ _ holding => holding
      · next live => exact .workerEnters noWrite rfl live free rfl outside inside rfl

theorem finish_status (run : GenerateRun) (result : Except String DispatchOutcome) (now : Int) :
    (finish run result now).status = .succeeded ∨ (finish run result now).status = .failed := by
  cases result with
  | error error => exact .inr rfl
  | ok outcome =>
    rw [finish]
    dsimp only
    split
    · exact .inl rfl
    · exact .inr rfl

theorem worker_moved (state : RunnerState) (event : WorkerEvent) :
    Moved state (.worker event) (state.workerStep config model event) := by
  have noWrite := worker_writes_nothing state event
  unfold workerStep
  split
  · next here =>
      exact .quiet noWrite rfl rfl (by rw [here]; rfl) fun _ _ holding => holding
  · next here =>
      exact .quiet noWrite rfl rfl (by rw [here]; rfl) fun _ _ holding => holding
  · next here => exact enter_moved state _ _ (by rw [here]; rfl) rfl
  · next here => exact .workerStarts noWrite rfl rfl (by rw [here]; rfl) rfl rfl
  · next phase here =>
      exact dispatches_moved noWrite (by rw [here]; rfl)
        (dispatch_frame config model state phase _ here)
  · next here => exact enter_moved state _ _ (by rw [here]; rfl) rfl
  · next result now here =>
      exact .workerRecords noWrite (finish_status state.run result now) rfl
        (by rw [here]; rfl) rfl rfl
  · exact .quiet noWrite rfl rfl rfl fun _ _ holding => holding

theorem set_cancel_holders {state : RunnerState} {call : Nat} {phase : CancelPhase}
    (released : ∀ proc, phase ≠ .holding proc) (other : Nat) (proc : Option Nat)
    (holding : (state.setCancel call phase).cancels other = .holding proc) :
    other ≠ call ∧ state.cancels other = .holding proc := by
  simp only [setCancel] at holding
  split at holding
  · exact absurd holding (released proc)
  · next another => exact ⟨another, holding⟩

theorem cancel_moved (state : RunnerState) (call : Nat) (event : CancelEvent) :
    Moved state (.cancel call event) (state.cancelStep call event) := by
  have noWrite : (∀ proc, state.cancels call ≠ .holding proc) →
      ¬state.CancelWrites (.cancel call event) := by
    rintro released ⟨other, now, proc, same, holding⟩
    cases same
    exact released proc holding
  have moves : ∀ phase after, (∀ proc, state.cancels call ≠ .holding proc) →
      (∀ proc, phase ≠ .holding proc) → after.run = state.run → after.lock = state.lock →
      after.worker = state.worker → after.cancels = (state.setCancel call phase).cancels →
      Moved state (.cancel call event) after := by
    intro phase after notHolding released run lock worker cancels
    refine .quiet (noWrite notHolding) (by rw [run]) lock (by rw [worker]) ?_
    intro other proc holding
    rw [cancels] at holding
    exact (set_cancel_holders released other proc holding).2
  have stays : ¬state.CancelWrites (.cancel call event) → Moved state (.cancel call event) state :=
    fun idle => .quiet idle rfl rfl rfl fun _ _ holding => holding
  unfold cancelStep
  split
  · next here =>
      have notHolding : ∀ proc, state.cancels call ≠ .holding proc := by
        rw [here]
        nofun
      split
      · exact stays (noWrite notHolding)
      · exact moves (.found state.proc) _ notHolding nofun rfl rfl rfl rfl
  · next proc here =>
      have notHolding : ∀ proc, state.cancels call ≠ .holding proc := by
        rw [here]
        nofun
      split
      · exact moves (.approved proc) _ notHolding nofun rfl rfl rfl rfl
      · exact moves .returned _ notHolding nofun rfl rfl rfl rfl
  · next proc here =>
      have notHolding : ∀ proc, state.cancels call ≠ .holding proc := by
        rw [here]
        nofun
      split
      · exact stays (noWrite notHolding)
      · next busy =>
          have free : state.lock = none := by simpa using busy
          refine .cancelEnters call (noWrite notHolding) rfl free rfl rfl ?_
          intro other held holding
          by_cases same : other = call
          · exact .inl same
          · refine .inr ?_
            simpa only [setCancel, if_neg same] using holding
  · next proc now here =>
      exact .cancelWrites call ⟨call, now, proc, rfl, here⟩ rfl ⟨proc, here⟩ rfl rfl
        (set_cancel_holders nofun)
  · next proc alive here =>
      have notHolding : ∀ proc, state.cancels call ≠ .holding proc := by
        rw [here]
        nofun
      split
      · split
        · exact moves .returned _ notHolding nofun rfl rfl rfl rfl
        · exact moves .returned _ notHolding nofun rfl rfl rfl rfl
      · exact moves .returned _ notHolding nofun rfl rfl rfl rfl
  · next other _ =>
      apply stays
      rintro ⟨same, now, proc, isWrite, holding⟩
      cases isWrite
      exact other proc now holding rfl

theorem step_moved (state : RunnerState) (action : RunnerAction) :
    Moved state action (state.step config model action) := by
  cases action with
  | worker event => exact worker_moved config model state event
  | cancel call event => exact cancel_moved state call event

end Steps

section Invariant

/-- The lock and the status agree with the phases of the threads. -/
structure Guarded (state : RunnerState) : Prop where
  workerLock : state.worker.stage = .inside → state.lock = some .worker
  cancelLock : ∀ call proc, state.cancels call = .holding proc → state.lock = some (.cancel call)
  open_status : state.worker.stage = .inside → ¬state.run.status.Terminal
  unrecorded : state.worker.stage ≠ .recorded →
    state.run.status ≠ .succeeded ∧ state.run.status ≠ .failed

/-- What the worker has recorded is still there. -/
structure Coherent (state : RunnerState) : Prop extends Guarded state where
  recorded : state.worker.stage = .recorded →
    state.run.status = .succeeded ∨ state.run.status = .failed

theorem queued_guarded (runId target logPath : String) : Guarded (queued runId target logPath) where
  workerLock := nofun
  cancelLock := nofun
  open_status := nofun
  unrecorded _ := ⟨nofun, nofun⟩

theorem queued_coherent (runId target logPath : String) :
    Coherent (queued runId target logPath) where
  toGuarded := queued_guarded runId target logPath
  recorded := nofun

theorem Guarded.cancelled {state : RunnerState} (guarded : Guarded state)
    (early : state.worker.stage ≠ .recorded) (settled : state.run.status.Terminal) :
    state.run.status = .cancelled := by
  obtain ⟨notSucceeded, notFailed⟩ := guarded.unrecorded early
  cases known : state.run.status with
  | queued => rw [known] at settled; exact settled.elim
  | running => rw [known] at settled; exact settled.elim
  | succeeded => exact absurd known notSucceeded
  | failed => exact absurd known notFailed
  | cancelled => rfl

theorem moved_keeps_settled {before after : RunnerState} {action : RunnerAction}
    (coherent : Coherent before) (moved : Moved before action after) :
    (before.run.status.Terminal → after.run.status = before.run.status) ↔
      before.CancelsInTime action := by
  cases moved with
  | quiet noWrite status _ _ _ =>
    exact iff_of_true (fun _ => status) fun writes => absurd writes noWrite
  | workerEnters noWrite status _ _ _ _ _ _ =>
    exact iff_of_true (fun _ => status) fun writes => absurd writes noWrite
  | workerStarts noWrite _ _ inside _ _ =>
    exact iff_of_true (fun settled => absurd settled (coherent.open_status inside))
      fun writes => absurd writes noWrite
  | workerRecords noWrite _ _ inside _ _ =>
    exact iff_of_true (fun settled => absurd settled (coherent.open_status inside))
      fun writes => absurd writes noWrite
  | cancelEnters call noWrite status _ _ _ _ =>
    exact iff_of_true (fun _ => status) fun writes => absurd writes noWrite
  | cancelWrites call writes status _ _ _ _ =>
    constructor
    · intro keeps _ late
      rcases coherent.recorded ((stage_recorded_iff _).mpr late) with done | done
      · rw [done, status] at keeps
        cases keeps trivial
      · rw [done, status] at keeps
        cases keeps trivial
    · intro inTime settled
      have early : before.worker.stage ≠ .recorded :=
        fun late => inTime writes ((stage_recorded_iff _).mp late)
      rw [status, coherent.toGuarded.cancelled early settled]

theorem Guarded.outside_of_free {state : RunnerState} (guarded : Guarded state)
    (free : state.lock = none) : state.worker.stage ≠ .inside := by
  intro inside
  cases free.symm.trans (guarded.workerLock inside)

theorem Guarded.outside_of_cancel {state : RunnerState} (guarded : Guarded state) {call : Nat}
    (held : state.lock = some (.cancel call)) : state.worker.stage ≠ .inside := by
  intro inside
  cases held.symm.trans (guarded.workerLock inside)

theorem Guarded.none_holding {state : RunnerState} (guarded : Guarded state)
    (inside : state.worker.stage = .inside) (call : Nat) (proc : Option Nat) :
    state.cancels call ≠ .holding proc := by
  intro holding
  exact guarded.outside_of_cancel (guarded.cancelLock call proc holding) inside

theorem moved_guarded {before after : RunnerState} {action : RunnerAction}
    (guarded : Guarded before) (moved : Moved before action after) : Guarded after := by
  cases moved with
  | quiet _ status lock stage holders =>
    constructor
    · rw [stage, lock]
      exact guarded.workerLock
    · intro call proc holding
      rw [lock]
      exact guarded.cancelLock call proc (holders call proc holding)
    · rw [stage, status]
      exact guarded.open_status
    · rw [stage, status]
      exact guarded.unrecorded
  | workerEnters _ status live free lock outside stage holders =>
    have early : before.worker.stage ≠ .recorded := by
      rw [outside]
      nofun
    constructor
    · intro _
      exact lock
    · intro call proc holding
      rw [holders] at holding
      cases free.symm.trans (guarded.cancelLock call proc holding)
    · intro _ settled
      rw [status] at settled
      exact live (guarded.cancelled early settled)
    · intro _
      rw [status]
      exact guarded.unrecorded early
  | workerStarts _ status lock inside stage holders =>
    constructor
    · rw [stage]
      nofun
    · intro call proc holding
      rw [holders] at holding
      exact absurd holding (guarded.none_holding inside call proc)
    · rw [stage]
      nofun
    · intro _
      rw [status]
      exact ⟨nofun, nofun⟩
  | workerRecords _ status lock inside stage holders =>
    constructor
    · rw [stage]
      nofun
    · intro call proc holding
      rw [holders] at holding
      exact absurd holding (guarded.none_holding inside call proc)
    · rw [stage]
      nofun
    · intro notRecorded
      exact absurd stage notRecorded
  | cancelEnters call _ status free lock stage holders =>
    have outside := guarded.outside_of_free free
    constructor
    · rw [stage]
      intro inside
      exact absurd inside outside
    · intro other proc holding
      rcases holders other proc holding with same | held
      · rw [same]
        exact lock
      · cases free.symm.trans (guarded.cancelLock other proc held)
    · rw [stage]
      intro inside
      exact absurd inside outside
    · rw [stage, status]
      exact guarded.unrecorded
  | cancelWrites call writes status holding lock stage holders =>
    obtain ⟨held, isHolding⟩ := holding
    have mine := guarded.cancelLock call held isHolding
    have outside := guarded.outside_of_cancel mine
    constructor
    · rw [stage]
      intro inside
      exact absurd inside outside
    · intro other proc otherHolds
      obtain ⟨another, before⟩ := holders other proc otherHolds
      cases mine.symm.trans (guarded.cancelLock other proc before)
      exact absurd rfl another
    · rw [stage]
      intro inside
      exact absurd inside outside
    · intro _
      rw [status]
      exact ⟨nofun, nofun⟩

theorem moved_coherent {before after : RunnerState} {action : RunnerAction}
    (coherent : Coherent before) (moved : Moved before action after)
    (inTime : before.CancelsInTime action) : Coherent after := by
  have guarded := moved_guarded coherent.toGuarded moved
  refine { toGuarded := guarded, recorded := ?_ }
  cases moved with
  | quiet _ status _ stage _ =>
    rw [stage, status]
    exact coherent.recorded
  | workerEnters _ _ _ _ _ _ stage _ =>
    rw [stage]
    nofun
  | workerStarts _ _ _ _ stage _ =>
    rw [stage]
    nofun
  | workerRecords _ status _ _ _ _ =>
    intro _
    exact status
  | cancelEnters _ _ status _ _ stage _ =>
    rw [stage, status]
    exact coherent.recorded
  | cancelWrites _ writes _ _ _ stage _ =>
    rw [stage]
    intro late
    exact absurd ((stage_recorded_iff _).mp late) (inTime writes)

theorem moved_cancelled {before after : RunnerState} {action : RunnerAction}
    (guarded : Guarded before) (moved : Moved before action after)
    (cancelled : before.run.status = .cancelled) : after.run.status = .cancelled := by
  have settled : before.run.status.Terminal := by
    rw [cancelled]
    trivial
  cases moved with
  | quiet _ status _ _ _ => exact status.trans cancelled
  | workerEnters _ status _ _ _ _ _ _ => exact status.trans cancelled
  | workerStarts _ _ _ inside _ _ => exact absurd settled (guarded.open_status inside)
  | workerRecords _ _ _ inside _ _ => exact absurd settled (guarded.open_status inside)
  | cancelEnters _ _ status _ _ _ _ => exact status.trans cancelled
  | cancelWrites _ _ status _ _ _ _ => exact status

end Invariant

/-- The terminal status of a run is final exactly when every cancel call that
writes its status does so before the worker records an outcome. -/
theorem terminal_status_final_iff (config : FallbackConfig) (model : String)
    (runId target logPath : String) (actions : List RunnerAction) :
    let reached := runInputs (step config model) (queued runId target logPath)
    (∀ early middle late, actions = early ++ (middle ++ late) →
        (reached early).run.status.Terminal →
        (reached (early ++ middle)).run.status = (reached early).run.status) ↔
      StepsMeet (step config model) CancelsInTime (queued runId target logPath) actions := by
  intro reached
  have kept : ∀ state action, Coherent state →
      (KeepsSettled (step config model) (fun state => state.run.status) RunStatus.Terminal state
        action ↔ state.CancelsInTime action) := by
    intro state action coherent
    exact moved_keeps_settled coherent (step_moved config model state action)
  apply (settled_throughout_iff (step config model) (fun state => state.run.status)
    RunStatus.Terminal (queued runId target logPath) actions).trans
  apply steps_meet_congr_of_meets (step config model) Coherent ?_ kept _ _
    (queued_coherent runId target logPath)
  intro state action coherent settled
  exact moved_coherent coherent (step_moved config model state action)
    ((kept state action coherent).mp settled)

/-- The run has succeeded when the call takes the lock, and is cancelled. -/
theorem late_cancel_overwrites_success :
    let state := queued "g1-1" "registry" "runtime/generate_logs/g1-1.log"
    let reached := runInputs (step { enabled := true, model := "llama3.1:8b" } "north") state
    let finished : List RunnerAction :=
      [.worker .rendered, .worker .acquire, .worker (.write 1), .cancel 0 .lookUp,
        .cancel 0 .check, .worker .found, .worker .spawned, .worker .acquire,
        .worker (.exited 0), .worker .acquire, .worker .acquire, .worker (.write 2)]
    (reached finished).run.status = .succeeded ∧
      (reached (finished ++ [.cancel 0 .acquire, .cancel 0 (.write 3)])).run.status =
        .cancelled := by
  decide +kernel

end RunnerState

end AiEnterpriseOs.Services
