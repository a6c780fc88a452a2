import AiEnterpriseOs.Orchestration.ConfiguredRetries
import AiEnterpriseOs.Runtime.CatchUp
import Mathlib.Tactic.Positivity

/-!
# Retries with their pauses

Between two attempts the executor sleeps for a pause that it computes in the handler
of the failure: an exception of the pause leaves `execute_task`. Numbers up to the
largest float are computed exactly.
-/

namespace AiEnterpriseOs.Orchestration

open Library
open Runtime (PyFloat)

def largestFloat : Rat := (2 ^ 53 - 1) * 2 ^ 971

/-- A result that is not negative as a float. -/
def floatOf (value : Rat) : PyFloat :=
  if value ≤ largestFloat then .finite value else .inf false

/-- `base ** exponent`, `none` where it raises `OverflowError`. -/
def floatPower (base : PyFloat) (exponent : Nat) : Option PyFloat :=
  match base, exponent with
  | _, 0 => some (.finite 1)
  | .finite base, exponent =>
    if base ^ exponent ≤ largestFloat then some (.finite (base ^ exponent)) else none
  | base, _ => some base

/-- `left * right` of numbers that are not negative. -/
def floatProduct : PyFloat → PyFloat → PyFloat
  | .finite left, .finite right => floatOf (left * right)
  | .finite left, .inf _ => if left = 0 then .nan else .inf false
  | .inf _, .finite right => if right = 0 then .nan else .inf false
  | .inf _, .inf _ => .inf false
  | _, _ => .nan

/-- `left + right` of numbers that are not negative. -/
def floatSum : PyFloat → PyFloat → PyFloat
  | .finite left, .finite right => floatOf (left + right)
  | .nan, _ => .nan
  | _, .nan => .nan
  | _, _ => .inf false

/-- `left < right` of numbers that are not negative. -/
def floatLess : PyFloat → PyFloat → Bool
  | .finite left, .finite right => decide (left < right)
  | .finite _, .inf _ => true
  | _, _ => false

structure PausedPolicy extends RetryPolicy where
  backoffBaseSeconds : PyFloat := .finite 1
  backoffMultiplier : PyFloat := .finite 2
  maxBackoffSeconds : PyFloat := .finite 60
  baseRange : floatLess (.finite 0) backoffBaseSeconds ∨ backoffBaseSeconds = .finite 0 := by
    decide
  multiplierRange : floatLess (.finite 1) backoffMultiplier ∨ backoffMultiplier = .finite 1 := by
    decide
  longestRange : floatLess (.finite 0) maxBackoffSeconds ∨ maxBackoffSeconds = .finite 0 := by
    decide

/-- `_backoff`; `random` is what the generator behind `random.uniform` draws. -/
def backoff (retry : PausedPolicy) (random : Rat) (attempt : Nat) : Option PyFloat := do
  let power ← floatPower retry.backoffMultiplier attempt
  let delay := floatProduct retry.backoffBaseSeconds power
  let delay := if floatLess retry.maxBackoffSeconds delay then retry.maxBackoffSeconds else delay
  let delay :=
    if floatLess (.finite 0) retry.backoffBaseSeconds then
      let jitter := floatProduct (floatProduct retry.backoffBaseSeconds (.finite (1 / 10)))
        (.finite random)
      floatSum delay jitter
    else delay
  return if floatLess (.finite 0) delay then delay else .finite 0

/-- `time.sleep` of a pause returns if its nanoseconds fit into 63 bits. -/
def sleeps : PyFloat → Bool
  | .finite seconds => decide (seconds * 10 ^ 9 < 2 ^ 63)
  | _ => false

/-- The pause after an attempt is computed and slept without an exception. -/
def pauses (retry : PausedPolicy) (random : Nat → Rat) (attempt : Nat) : Bool :=
  (backoff retry (random attempt) attempt).any sleeps

structure PausingExecutor extends Dispatcher where
  defaultRetry : PausedPolicy

/-- A task with a policy of its own or none. -/
structure PausedTask extends DispatchedTask where
  pausedRetry : Option PausedPolicy := none

namespace PausingExecutor

variable (executor : PausingExecutor) (task : PausedTask) (random : Nat → Rat)

/-- `retry`. -/
def policy : PausedPolicy := task.pausedRetry.getD executor.defaultRetry

def lastAttempt : Nat := (max 0 (executor.policy task).maxRetries).toNat

/-- The attempts that remain of the range, `none` where an exception leaves the loop. -/
def attemptsFrom (maxRetries : Nat) (lastError : Option String) (attempt : Nat) :
    Nat → Option TaskResult × List DispatchOutcome
  | 0 =>
    (some
      { status := .failed
        error := lastError
        attempts := attempt
        retried := decide (1 < attempt) }, [])
  | remaining + 1 =>
    let retry := executor.policy task
    let attempts := attempt + 1
    match executor.dispatch task.toDispatchedTask attempt with
    | .completed output =>
      (some
        { status := .completed
          output := output
          attempts := attempts
          retried := decide (1 < attempts) }, [.completed output])
    | .raised errorType message =>
      let lastError := errorType ++ ": " ++ message
      if maxRetries ≤ attempt ∨ retryable retry.retryableErrors errorType = false then
        (some
          { status := .failed
            error := some lastError
            attempts := attempts
            retried := decide (1 < attempts) }, [.raised errorType message])
      else if pauses retry random attempt then
        let (result, dispatched) := attemptsFrom maxRetries (some lastError) attempts remaining
        (result, .raised errorType message :: dispatched)
      else (none, [.raised errorType message])

/-- `execute_task` with the outcomes of its dispatches, `none` where it raises. -/
def executeTask : Option TaskResult × List DispatchOutcome :=
  let maxRetries := executor.lastAttempt task
  executor.attemptsFrom task random maxRetries none 0 (maxRetries + 1)

end PausingExecutor

/-- The call returns after the first success, the first error that may not be retried or
the last retry, and its result counts the dispatches and says how the last one ended. -/
def ReportsDispatches (retry : RetryPolicy) (outcomes : Nat → DispatchOutcome)
    (run : Option TaskResult × List DispatchOutcome) : Prop :=
  ∃ result last, run = (some result, (List.range (last + 1)).map outcomes) ∧
    EndsAfter (DispatchOutcome.Final retry.retryableErrors) (retry.maxRetries + 1) outcomes
      (last + 1) ∧
    (result.status = .completed ↔ ∃ output, outcomes last = .completed output) ∧
    result.attempts = last + 1 ∧ (result.retried = true ↔ 1 < result.attempts)

/-- Every failure before the last retry, after errors only that may be retried, is
followed by a pause that raises nothing. -/
def PausesTaken (retry : PausedPolicy) (random : Nat → Rat) (outcomes : Nat → DispatchOutcome) :
    Prop :=
  ∀ attempt : Nat, (attempt : Int) < retry.maxRetries →
    (∀ earlier ≤ attempt, ¬(outcomes earlier).Final retry.retryableErrors) →
    pauses retry random attempt = true

namespace PausingExecutor

variable {executor : PausingExecutor} {task : PausedTask} {random : Nat → Rat} {maxRetries : Nat}

/-- What the attempts from one on report, up to the last one. -/
structure Reported (executor : PausingExecutor) (task : PausedTask) (maxRetries attempt last : Nat)
    (result : TaskResult) (dispatched : List DispatchOutcome) : Prop where
  started : attempt ≤ last
  within : last ≤ maxRetries
  outcomes : dispatched =
    (List.range' attempt (last + 1 - attempt)).map (executor.dispatch task.toDispatchedTask)
  stopped : last = maxRetries ∨ (executor.dispatch task.toDispatchedTask last).Final
    (executor.policy task).retryableErrors
  completed : result.status = .completed ↔
    ∃ output, executor.dispatch task.toDispatchedTask last = .completed output
  attempts : result.attempts = last + 1
  retried : result.retried = true ↔ 1 < result.attempts

/-- The attempt fails with an error that may be retried. -/
def GoesOn (executor : PausingExecutor) (task : PausedTask) (attempt : Nat) : Prop :=
  ¬(executor.dispatch task.toDispatchedTask attempt).Final (executor.policy task).retryableErrors

theorem attempts_from_cases (executor : PausingExecutor) (task : PausedTask) (random : Nat → Rat)
    (remaining : Nat) {attempt : Nat}
    (total : attempt + remaining = maxRetries) (lastError : Option String) :
    ∃ last,
      (∀ earlier, attempt ≤ earlier → earlier < last →
        executor.GoesOn task earlier ∧ pauses (executor.policy task) random earlier = true) ∧
      ((∃ result dispatched, Reported executor task maxRetries attempt last result dispatched ∧
        executor.attemptsFrom task random maxRetries lastError attempt (remaining + 1) =
          (some result, dispatched)) ∨
      (last < maxRetries ∧ executor.GoesOn task last ∧
        pauses (executor.policy task) random last = false ∧
        (executor.attemptsFrom task random maxRetries lastError attempt (remaining + 1)).1 =
          none)) := by
  induction remaining generalizing attempt lastError with
  | zero =>
    refine ⟨attempt, fun earlier started less => by omega, Or.inl ?_⟩
    rw [attemptsFrom]
    cases outcome : executor.dispatch task.toDispatchedTask attempt with
    | completed output =>
      exact ⟨_, _, ⟨le_rfl, by omega, by simp [outcome], Or.inl total, by simp [outcome], rfl,
        by simp⟩, rfl⟩
    | raised errorType message =>
      dsimp only
      rw [if_pos (Or.inl (by omega))]
      exact ⟨_, _, ⟨le_rfl, by omega, by simp [outcome], Or.inl total, by simp [outcome], rfl,
        by simp⟩, rfl⟩
  | succ remaining ih =>
    have here : ∀ earlier, attempt ≤ earlier → ¬earlier < attempt := fun _ started =>
      Nat.not_lt.mpr started
    rw [attemptsFrom]
    cases outcome : executor.dispatch task.toDispatchedTask attempt with
    | completed output =>
      refine ⟨attempt, fun earlier started less => absurd less (here earlier started), Or.inl ?_⟩
      exact ⟨_, _, ⟨le_rfl, by omega, by simp [outcome], Or.inr (by rw [outcome]; trivial),
        by simp [outcome], rfl, by simp⟩, rfl⟩
    | raised errorType message =>
      dsimp only
      by_cases again : retryable (executor.policy task).retryableErrors errorType = true
      · have goesOn : executor.GoesOn task attempt := by
          rw [GoesOn, outcome, DispatchOutcome.Final, again]
          exact Bool.false_ne_true.symm
        rw [if_neg (by simp [again]; omega)]
        by_cases paused : pauses (executor.policy task) random attempt = true
        · rw [if_pos paused]
          obtain ⟨last, before, ended⟩ := ih (by omega : attempt + 1 + remaining = _)
            (some (errorType ++ ": " ++ message))
          refine ⟨last, ?_, ?_⟩
          · intro earlier started less
            cases Nat.eq_or_lt_of_le started with
            | inl same => exact same ▸ ⟨goesOn, paused⟩
            | inr later => exact before earlier later less
          · refine ended.imp ?_ id
            rintro ⟨result, dispatched, reported, same⟩
            have started := reported.started
            refine ⟨result, _, ?_, by rw [same]⟩
            refine { reported with started := by omega, outcomes := ?_ }
            rw [reported.outcomes, ← outcome, ← List.map_cons, ← List.range'_succ]
            congr 2
            omega
        · rw [if_neg paused]
          exact ⟨attempt, fun earlier started less => absurd less (here earlier started),
            Or.inr ⟨by omega, goesOn, Bool.eq_false_iff.mpr paused, rfl⟩⟩
      · have refused := Bool.eq_false_iff.mpr again
        refine ⟨attempt, fun earlier started less => absurd less (here earlier started), Or.inl ?_⟩
        rw [if_pos (Or.inr refused)]
        exact ⟨_, _, ⟨le_rfl, by omega, by simp [outcome],
          Or.inr (by rw [outcome]; exact refused), by simp [outcome], rfl, by simp⟩, rfl⟩

theorem pauses_taken_of_returned {result : TaskResult} {dispatched : List DispatchOutcome}
    (returned : executor.executeTask task random = (some result, dispatched)) :
    PausesTaken (executor.policy task) random (executor.dispatch task.toDispatchedTask) := by
  have nonnegative := (executor.policy task).nonnegative
  have total : (executor.lastAttempt task : Int) = _ := Int.toNat_of_nonneg (le_max_left 0 _)
  obtain ⟨last, before, ended⟩ := attempts_from_cases executor task random
    (executor.lastAttempt task) (Nat.zero_add _) none
  rw [executeTask] at returned
  rw [returned] at ended
  cases ended with
  | inl reports =>
    obtain ⟨_, _, reported, _⟩ := reports
    intro attempt less goesOn
    have earlier : attempt < last := by
      by_contra later
      cases reported.stopped with
      | inl full => omega
      | inr final => exact goesOn last (by omega) final
    exact (before attempt (Nat.zero_le _) earlier).2
  | inr raises => exact absurd raises.2.2.2 (Option.some_ne_none result)

end PausingExecutor

/-- A call of the executor does what it reports, whatever its dispatches come to,
exactly if it takes its pauses. -/
theorem execute_task_right_iff (executor : PausingExecutor) (task : PausedTask)
    (random : Nat → Rat) :
    ReportsDispatches (executor.policy task).toRetryPolicy
        (executor.dispatch task.toDispatchedTask) (executor.executeTask task random) ↔
      PausesTaken (executor.policy task) random (executor.dispatch task.toDispatchedTask) := by
  have nonnegative := (executor.policy task).nonnegative
  constructor
  · intro right
    obtain ⟨result, last, returned, _⟩ := right
    exact PausingExecutor.pauses_taken_of_returned returned
  · intro taken
    have total : (executor.lastAttempt task : Int) = _ := Int.toNat_of_nonneg (le_max_left 0 _)
    obtain ⟨last, before, ended⟩ := PausingExecutor.attempts_from_cases executor task random
      (executor.lastAttempt task) (Nat.zero_add _) none
    cases ended with
    | inl reports =>
      obtain ⟨result, dispatched, reported, returned⟩ := reports
      have within := reported.within
      refine ⟨result, last, ?_, ?_, reported.completed, reported.attempts, reported.retried⟩
      · rw [PausingExecutor.executeTask, returned, reported.outcomes, List.range_eq_range']
        rfl
      · apply (ends_after_iff nonnegative).mpr
        exact ⟨last, rfl, by omega, fun earlier less => (before earlier (Nat.zero_le _) less).1,
          reported.stopped.imp_left (by omega)⟩
    | inr raises =>
      obtain ⟨less, goesOn, unpaused, _⟩ := raises
      have paused := taken last (by omega) fun earlier within => by
        cases Nat.eq_or_lt_of_le within with
        | inl same => exact same ▸ goesOn
        | inr sooner => exact (before earlier (Nat.zero_le _) sooner).1
      exact absurd (unpaused.symm.trans paused) Bool.false_ne_true

/-! ## A long outage -/

/-- The default pauses with more than a thousand retries. -/
def patientPolicy : PausedPolicy where
  maxRetries := 1025
  retryableErrors := []
  nonnegative := by decide

/-- The power of the pause after attempt 1025 exceeds every float. -/
theorem long_outage_raises :
    ¬ReportsDispatches patientPolicy.toRetryPolicy (fun _ => .raised "ConnectionError" "refused")
      (PausingExecutor.executeTask
        { coordinator := some fun _ => .raised "ConnectionError" "refused"
          dryRun := false
          defaultRetry := patientPolicy }
        { id := "t", taskType := "generate" } fun _ => 0) := by
  intro right
  obtain ⟨result, last, returned, _⟩ := right
  have taken := PausingExecutor.pauses_taken_of_returned returned
  have paused := taken 1024 (by decide) fun _ _ => (by decide : ¬retryable [] _ = false)
  have exceeds : largestFloat < 2 ^ 1024 := by
    rw [largestFloat, show (1024 : Nat) = 53 + 971 from rfl, pow_add]
    exact mul_lt_mul_of_pos_right (sub_one_lt _) (by positivity)
  have power : floatPower (.finite 2) 1024 = none := if_neg (not_le.mpr exceeds)
  have unpaused : pauses patientPolicy (fun _ => 0) 1024 = false := by
    rw [pauses, backoff, show patientPolicy.backoffMultiplier = .finite 2 from rfl, power]
    rfl
  exact Bool.false_ne_true (unpaused.symm.trans paused)

end AiEnterpriseOs.Orchestration
