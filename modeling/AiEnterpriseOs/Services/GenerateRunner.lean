import AiEnterpriseOs.Library.Runs
import Mathlib.Data.List.Basic
import Mathlib.Tactic.SplitIfs

/-!
# Generate runs

One run with its worker thread and the calls that cancel it. Sections under the
lock are taken apart where another thread can see the difference; the status is
read outside the lock as well, and each section writes it once.
-/

/-!
## Generate dispatch

The attempts of one dispatch, first `opencode`, then the local model, and the
outcome that is picked from them.
-/

namespace AiEnterpriseOs.Services

structure FallbackConfig where
  enabled : Bool
  model : String

inductive Provider where
  | opencode
  | ollama
  deriving DecidableEq

def Provider.name : Provider → String
  | opencode => "opencode"
  | ollama => "local"

structure DispatchAttempt where
  provider : String
  model : String
  exitCode : Option Int
  error : String
  deriving DecidableEq

structure DispatchOutcome where
  provider : String
  model : String
  exitCode : Option Int
  attempts : List DispatchAttempt
  deriving DecidableEq

namespace Provider

def notFound : Provider → String
  | opencode => "opencode not found on PATH"
  | ollama => "fallback unavailable: 'ollama' not found on PATH"

def failedToStart (error : String) : Provider → String
  | opencode => "failed to start opencode: " ++ error
  | ollama => "failed to start ollama: " ++ error

def exitedWith (code : Int) : Provider → String
  | opencode => "opencode exited with code " ++ toString code
  | ollama => "local model exited with code " ++ toString code

/-- The model named in an attempt of the provider. -/
def model (config : FallbackConfig) (primary : String) : Provider → String
  | opencode => primary
  | ollama => config.model

end Provider

/-- `_outcome` of the attempts, of which the last is given apart. -/
def outcome (earlier : List DispatchAttempt) (last : DispatchAttempt) : DispatchOutcome :=
  let attempts := earlier ++ [last]
  if last.exitCode = some 0 then
    { provider := last.provider, model := last.model, exitCode := some 0, attempts := attempts }
  else
    match (attempts.filter fun attempt => attempt.exitCode.isSome).getLast? with
    | some ran =>
      { provider := ran.provider
        model := ran.model
        exitCode := ran.exitCode
        attempts := attempts }
    | none =>
      { provider := last.provider, model := last.model, exitCode := none, attempts := attempts }

def attemptErrors (outcome : DispatchOutcome) : String :=
  let reasons := (outcome.attempts.map DispatchAttempt.error).filter fun error => error ≠ ""
  if reasons.isEmpty then outcome.provider ++ " failed" else "; ".intercalate reasons

/-- Whether `dispatch_generate` goes on to the next provider after an attempt. -/
def nextProvider (config : FallbackConfig) (provider : Provider) (attempt : DispatchAttempt) :
    Option Provider :=
  match provider with
  | .opencode =>
    if attempt.exitCode = some 0 then none
    else if config.enabled then some .ollama
    else none
  | .ollama => none

end AiEnterpriseOs.Services

namespace AiEnterpriseOs.Services

open Library

inductive RunStatus where
  | queued
  | running
  | succeeded
  | failed
  | cancelled
  deriving DecidableEq

def RunStatus.Terminal : RunStatus → Prop
  | queued | running => False
  | succeeded | failed | cancelled => True

instance (status : RunStatus) : Decidable status.Terminal := by
  cases status <;> unfold RunStatus.Terminal <;> infer_instance

structure GenerateRun where
  runId : String
  target : String
  status : RunStatus
  startedAt : Option Int
  finishedAt : Option Int
  exitCode : Option Int
  error : String
  logPath : String
  outputDir : String
  provider : String
  model : String

/-- How a child process is left. -/
inductive ProcessEnd where
  | exited (code : Int)
  | osError (error : String)
  | raised (error : String)

/-- Where the worker stands in `dispatch_generate`, with the attempts so far. -/
inductive DispatchPhase where
  | looking (provider : Provider) (attempts : List DispatchAttempt)
  | spawning (provider : Provider) (attempts : List DispatchAttempt)
  | registering (provider : Provider) (attempts : List DispatchAttempt) (proc : Nat)
  | running (provider : Provider) (attempts : List DispatchAttempt)
  | unregistering (provider : Provider) (attempts : List DispatchAttempt) (left : ProcessEnd)

/-- Where the worker stands in `_execute`; in the checked phases it holds the
lock and has found the run not cancelled. -/
inductive WorkerPhase where
  | rendering
  | starting
  | startChecked
  | dispatching (phase : DispatchPhase)
  | finishing (result : Except String DispatchOutcome)
  | finishChecked (result : Except String DispatchOutcome)
  | ended (recorded : Bool)
  | died

/-- Where a call of `cancel` stands, with the process it has looked up. -/
inductive CancelPhase where
  | called
  | found (proc : Option Nat)
  | approved (proc : Option Nat)
  | holding (proc : Option Nat)
  | terminating (proc : Option Nat)
  | returned

inductive LockHolder where
  | worker
  | cancel (call : Nat)

structure RunnerState where
  run : GenerateRun
  /-- The records appended to the history file. -/
  history : List GenerateRun
  lock : Option LockHolder
  worker : WorkerPhase
  cancels : Nat → CancelPhase
  /-- The child process in the table of the runner. -/
  proc : Option Nat
  /-- How many child processes were started. -/
  spawned : Nat
  /-- The child processes that were sent a signal to end. -/
  terminated : List Nat

inductive WorkerEvent where
  | rendered
  | renderRaised
  | acquire
  | write (now : Int)
  | notFound
  | found
  | spawned
  | exited (code : Int)
  | osError (error : String)
  | raised (error : String)

inductive CancelEvent where
  | lookUp
  | check
  | acquire
  | write (now : Int)
  | terminate (alive : Bool)

/-- A step of one of the threads. A step that its thread is not about to take,
or that waits for the lock, does nothing. -/
inductive RunnerAction where
  | worker (event : WorkerEvent)
  | cancel (call : Nat) (event : CancelEvent)

namespace RunnerState

/-- The runner when `start` has queued the run. -/
def queued (runId target logPath : String) : RunnerState :=
  let run : GenerateRun :=
    { runId := runId
      target := target
      status := .queued
      startedAt := none
      finishedAt := none
      exitCode := none
      error := ""
      logPath := logPath
      outputDir := "generated"
      provider := ""
      model := "" }
  { run := run
    history := [run]
    lock := none
    worker := .rendering
    cancels := fun _ => .called
    proc := none
    spawned := 0
    terminated := [] }

def appendHistory (state : RunnerState) : RunnerState :=
  { state with history := state.history ++ [state.run] }

variable (config : FallbackConfig) (model : String)

/-- An attempt is over: the next provider, or the outcome. -/
def attempted (state : RunnerState) (provider : Provider) (attempts : List DispatchAttempt)
    (exitCode : Option Int) (error : String) : RunnerState :=
  let attempt : DispatchAttempt :=
    { provider := provider.name
      model := provider.model config model
      exitCode := exitCode
      error := error }
  { state with
    worker :=
      match nextProvider config provider attempt with
      | some next => .dispatching (.looking next (attempts ++ [attempt]))
      | none => .finishing (.ok (outcome attempts attempt)) }

def dispatchStep (state : RunnerState) : DispatchPhase → WorkerEvent → RunnerState
  | .looking provider attempts, .notFound =>
    state.attempted config model provider attempts none provider.notFound
  | .looking provider attempts, .found =>
    { state with worker := .dispatching (.spawning provider attempts) }
  | .spawning provider attempts, .spawned =>
    { state with
      worker := .dispatching (.registering provider attempts state.spawned)
      spawned := state.spawned + 1 }
  | .spawning provider attempts, .osError error =>
    state.attempted config model provider attempts none (provider.failedToStart error)
  | .registering provider attempts proc, .acquire =>
    if state.lock.isSome then state
    else { state with worker := .dispatching (.running provider attempts), proc := some proc }
  | .running provider attempts, .exited code =>
    { state with worker := .dispatching (.unregistering provider attempts (.exited code)) }
  | .running provider attempts, .osError error =>
    { state with worker := .dispatching (.unregistering provider attempts (.osError error)) }
  | .running provider attempts, .raised error =>
    { state with worker := .dispatching (.unregistering provider attempts (.raised error)) }
  | .unregistering provider attempts left, .acquire =>
    if state.lock.isSome then state
    else
      let state := { state with proc := none }
      match left with
      | .exited code =>
        state.attempted config model provider attempts (some code)
          (if code = 0 then "" else provider.exitedWith code)
      | .osError error =>
        state.attempted config model provider attempts none (provider.failedToStart error)
      | .raised error => { state with worker := .finishing (.error error) }
  | .looking _ _, .raised error | .spawning _ _, .raised error =>
    { state with worker := .finishing (.error error) }
  | _, _ => state

/-- What the worker writes at the end of the dispatch. -/
def finish (run : GenerateRun) (result : Except String DispatchOutcome) (now : Int) :
    GenerateRun :=
  match result with
  | .error error =>
    { run with
      status := .failed
      finishedAt := some now
      error := "generate dispatch failed: " ++ error
      exitCode := none }
  | .ok outcome =>
    { run with
      provider := outcome.provider
      model := outcome.model
      exitCode := outcome.exitCode
      finishedAt := some now
      status := if outcome.exitCode = some 0 then .succeeded else .failed
      error := if outcome.exitCode = some 0 then "" else attemptErrors outcome }

/-- `with self._lock: if run.status == "cancelled": return`. -/
def enterUnlessCancelled (state : RunnerState) (checked : WorkerPhase) : RunnerState :=
  if state.lock.isSome then state
  else if state.run.status = .cancelled then { state with worker := .ended false }
  else { state with lock := some .worker, worker := checked }

def workerStep (state : RunnerState) (event : WorkerEvent) : RunnerState :=
  match state.worker, event with
  | .rendering, .rendered => { state with worker := .starting }
  | .rendering, .renderRaised => { state with worker := .died }
  | .starting, .acquire => state.enterUnlessCancelled .startChecked
  | .startChecked, .write now =>
    appendHistory
      { state with
        run := { state.run with status := .running, startedAt := some now }
        lock := none
        worker := .dispatching (.looking .opencode []) }
  | .dispatching phase, event => state.dispatchStep config model phase event
  | .finishing result, .acquire => state.enterUnlessCancelled (.finishChecked result)
  | .finishChecked result, .write now =>
    appendHistory
      { state with
        run := finish state.run result now
        lock := none
        worker := .ended true }
  | _, _ => state

def setCancel (state : RunnerState) (call : Nat) (phase : CancelPhase) : RunnerState :=
  { state with cancels := fun other => if other = call then phase else state.cancels other }

def cancelStep (state : RunnerState) (call : Nat) (event : CancelEvent) : RunnerState :=
  match state.cancels call, event with
  | .called, .lookUp =>
    if state.lock.isSome then state else state.setCancel call (.found state.proc)
  | .found proc, .check =>
    if state.run.status = .queued ∨ state.run.status = .running then
      state.setCancel call (.approved proc)
    else state.setCancel call .returned
  | .approved proc, .acquire =>
    if state.lock.isSome then state
    else { state.setCancel call (.holding proc) with lock := some (.cancel call) }
  | .holding proc, .write now =>
    appendHistory
      { state.setCancel call (.terminating proc) with
        run :=
          { state.run with
            status := .cancelled
            finishedAt := some now
            error := "cancelled by operator" }
        lock := none }
  | .terminating proc, .terminate alive =>
    match proc with
    | some proc =>
      if alive then
        { state.setCancel call .returned with terminated := state.terminated ++ [proc] }
      else state.setCancel call .returned
    | none => state.setCancel call .returned
  | _, _ => state

def step (state : RunnerState) : RunnerAction → RunnerState
  | .worker event => state.workerStep config model event
  | .cancel call event => state.cancelStep call event

end RunnerState

end AiEnterpriseOs.Services
