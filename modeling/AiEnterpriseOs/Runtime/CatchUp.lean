import AiEnterpriseOs.Runtime.JobScheduler
import Mathlib.Data.Rat.Floor
import Mathlib.Order.Bounds.Basic

/-!
# The catch-up of a recurring job

The interval of a job is a float. The loop of `_mark_run` adds it until the next run
lies ahead; an interval that does not round to a positive time never gets there.
-/

namespace AiEnterpriseOs.Runtime

open Library

inductive PyFloat where
  | finite (value : Rat)
  | inf (negative : Bool)
  | nan
  deriving DecidableEq

/-- To the nearest whole number, and to the even one between two. -/
def roundHalfEven (value : Rat) : Int :=
  let low := value.floor
  let rest := value - low
  if rest < 1 / 2 then low
  else if 1 / 2 < rest then low + 1
  else if low % 2 = 0 then low
  else low + 1

def microsecondsPerDay : Int := 86400000000

/-- `timedelta(seconds=...)` in microseconds; `none` where it raises. -/
def timedelta : PyFloat → Option Int
  | .finite seconds =>
    let total := roundHalfEven (seconds * 1000000)
    if -999999999 * microsecondsPerDay ≤ total ∧ total < 1000000000 * microsecondsPerDay then
      some total
    else none
  | .inf _ => none
  | .nan => none

/-- `datetime.min` and `datetime.max` in microseconds of the epoch. -/
def datetimeMin : Int := -62135596800000000

def datetimeMax : Int := 253402300799999999

/-- The loop of `_mark_run`, from its variable `next_run`. -/
inductive CatchUp where
  | running (nextRun : Int)
  | returned (nextRun : Int)
  | raised
  deriving DecidableEq

def CatchUp.step (now : Int) (interval : PyFloat) : CatchUp → CatchUp
  | .running nextRun =>
    if now < nextRun then .returned nextRun
    else
      match timedelta interval with
      | none => .raised
      | some delta =>
        if datetimeMin ≤ nextRun + delta ∧ nextRun + delta ≤ datetimeMax then
          .running (nextRun + delta)
        else .raised
  | ended => ended

/-- The instants that the schedule names from the second one on and that lie ahead. -/
def aheadOf (now scheduled delta : Int) : Set Int :=
  { instant | ∃ periods : Nat, 1 ≤ periods ∧ instant = scheduled + periods * delta ∧
    now < instant }

section Loop

variable {now : Int} {interval : PyFloat}

theorem returned_fixed (rounds : Nat) (next : Int) :
    (CatchUp.step now interval)^[rounds] (.returned next) = .returned next :=
  Function.iterate_fixed rfl rounds

theorem raised_fixed (rounds : Nat) : (CatchUp.step now interval)^[rounds] .raised = .raised :=
  Function.iterate_fixed rfl rounds

theorem step_ahead {next : Int} (ahead : now < next) :
    CatchUp.step now interval (.running next) = .returned next := by
  rw [CatchUp.step, if_pos ahead]

theorem step_behind {next delta : Int} (behind : ¬now < next)
    (length : timedelta interval = some delta) :
    CatchUp.step now interval (.running next) =
      if datetimeMin ≤ next + delta ∧ next + delta ≤ datetimeMax then .running (next + delta)
      else .raised := by
  rw [CatchUp.step, if_neg behind, length]

/-- What the loop returns, by induction on its rounds. -/
theorem catch_up_of_returned {delta : Int} (length : timedelta interval = some delta)
    (rounds : Nat) (next after : Int)
    (returned : (CatchUp.step now interval)^[rounds] (.running next) = .returned after) :
    JobScheduler.catchUp now delta next = some after ∧ (next ≤ now → after ≤ datetimeMax) := by
  induction rounds generalizing next with
  | zero => cases returned
  | succ rounds ih =>
    rw [Function.iterate_succ_apply] at returned
    rw [JobScheduler.catch_up_unfold]
    by_cases ahead : now < next
    · rw [step_ahead ahead, returned_fixed] at returned
      rw [if_pos ahead]
      cases returned
      exact ⟨rfl, fun behind => by omega⟩
    · rw [step_behind ahead length] at returned
      rw [if_neg ahead]
      by_cases dated : datetimeMin ≤ next + delta ∧ next + delta ≤ datetimeMax
      · rw [if_pos dated] at returned
        obtain ⟨found, bounded⟩ := ih (next + delta) returned
        refine ⟨found, fun _ => ?_⟩
        by_cases done : next + delta ≤ now
        · exact bounded done
        · rw [JobScheduler.catchUp, if_pos (by omega)] at found
          rw [← Option.some.inj found]
          exact dated.2
      · rw [if_neg dated, raised_fixed] at returned
        cases returned

/-- The loop gets to the present, by induction on the time that is left. -/
theorem returned_of_catch_up {delta : Int} (length : timedelta interval = some delta)
    (left : Nat) (next after : Int) (dated : datetimeMin ≤ next)
    (distance : (now + 1 - next).toNat ≤ left)
    (found : JobScheduler.catchUp now delta next = some after)
    (bounded : next ≤ now → after ≤ datetimeMax) :
    ∃ rounds, (CatchUp.step now interval)^[rounds] (.running next) = .returned after := by
  induction left generalizing next with
  | zero =>
    have ahead : now < next := by omega
    rw [JobScheduler.catchUp, if_pos ahead] at found
    exact ⟨1, by rw [Function.iterate_one, step_ahead ahead, Option.some.inj found]⟩
  | succ left ih =>
    by_cases ahead : now < next
    · rw [JobScheduler.catchUp, if_pos ahead] at found
      exact ⟨1, by rw [Function.iterate_one, step_ahead ahead, Option.some.inj found]⟩
    · have positive : 0 < delta := by
        rw [JobScheduler.catchUp, if_neg ahead] at found
        by_contra none_left
        rw [if_neg none_left] at found
        cases found
      rw [JobScheduler.catch_up_unfold, if_neg ahead] at found
      have limit := bounded (by omega)
      have below : next + delta ≤ after := by
        rw [JobScheduler.catchUp] at found
        split at found
        · exact (Option.some.inj found).le
        · have quotient : 0 ≤ (now - (next + delta)) / delta :=
            Int.ediv_nonneg (by omega) positive.le
          have product : 0 ≤ delta * ((now - (next + delta)) / delta + 1) :=
            Int.mul_nonneg positive.le (by omega)
          have same := Option.some.inj found
          omega
      obtain ⟨rounds, returned⟩ := ih (next + delta) (by omega) (by omega) found (fun _ => limit)
      refine ⟨rounds + 1, ?_⟩
      rw [Function.iterate_succ_apply, step_behind ahead length,
        if_pos ⟨by omega, by omega⟩, returned]

theorem catch_up_least {scheduled delta after : Int} (behind : scheduled ≤ now)
    (found : JobScheduler.catchUp now delta scheduled = some after) :
    IsLeast (aheadOf now scheduled delta) after := by
  have ahead := JobScheduler.catch_up_ahead now delta scheduled after found
  rw [JobScheduler.catchUp, if_neg (by omega)] at found
  split at found
  next positive =>
    have quotient : 0 ≤ (now - scheduled) / delta := Int.ediv_nonneg (by omega) positive.le
    have same := Option.some.inj found
    constructor
    · refine ⟨((now - scheduled) / delta + 1).toNat, by omega, ?_, ahead⟩
      rw [Int.toNat_of_nonneg (by omega), ← same, Int.mul_comm]
    · intro instant member
      obtain ⟨periods, _, named, later⟩ := member
      have passed : (now - scheduled) / delta < periods :=
        Int.ediv_lt_of_lt_mul positive (by omega)
      have more : delta * ((now - scheduled) / delta + 1) ≤ delta * periods :=
        Int.mul_le_mul_of_nonneg_left (by omega) positive.le
      rw [named, ← same, Int.mul_comm (periods : Int)]
      omega
  next => cases found

end Loop

namespace JobScheduler

variable {Handler : Type}

/-- `_mark_run` of a recurring job with its `interval_seconds`, if its loop returns within
the rounds. -/
def marked (scheduler : JobScheduler Handler) (job : Nat) (intervalSeconds : Option PyFloat)
    (now : Int) (rounds : Nat) : Option (JobScheduler Handler) :=
  let interval := intervalSeconds.getD (.finite 0)
  let nextRun := scheduler.nextRun.getD (scheduler.tasks job).name now
  match (CatchUp.step now interval)^[rounds] (.running nextRun) with
  | .returned nextRun => some (scheduler.setNextRun job nextRun)
  | _ => none

/-- The bookkeeping ends, and the next run of the job is the first one ahead. -/
def CatchesUp (scheduler : JobScheduler Handler) (job : Nat) (intervalSeconds : Option PyFloat)
    (now scheduled : Int) : Prop :=
  ∃ rounds after delta next, scheduler.marked job intervalSeconds now rounds = some after ∧
      timedelta (intervalSeconds.getD (.finite 0)) = some delta ∧
      after.nextRun.get? (scheduler.tasks job).name = some next ∧
      (after.tasks job).nextRun = some next ∧ IsLeast (aheadOf now scheduled delta) next

variable {scheduler : JobScheduler Handler} {job : Nat} {now scheduled : Int}

theorem marked_iff (intervalSeconds : Option PyFloat) (rounds : Nat) (after : JobScheduler Handler)
    (recorded : scheduler.nextRun.get? (scheduler.tasks job).name = some scheduled) :
    scheduler.marked job intervalSeconds now rounds = some after ↔ ∃ next,
        (CatchUp.step now (intervalSeconds.getD (.finite 0)))^[rounds] (.running scheduled) =
          .returned next ∧ scheduler.setNextRun job next = after := by
  rw [marked, OrderedDict.getD, recorded, Option.getD_some]
  cases (CatchUp.step now (intervalSeconds.getD (.finite 0)))^[rounds] (.running scheduled) with
  | returned next => simp
  | running next => simp
  | raised => simp

theorem set_next_run_next (next : Int) :
    (scheduler.setNextRun job next).nextRun.get? (scheduler.tasks job).name = some next ∧
      ((scheduler.setNextRun job next).tasks job).nextRun = some next := by
  constructor
  · exact OrderedDict.get_set_self _ _ _
  · simp [setNextRun, setTask]

/-- Whole microseconds decide the bookkeeping, as long as the calendar does not end. -/
theorem marked_iff_mark_run (croniter : Croniter) (intervalSeconds : Option PyFloat)
    (after : JobScheduler Handler) (recurring : (scheduler.tasks job).kind = .recurring)
    (length : timedelta (intervalSeconds.getD (.finite 0)) =
      some ((scheduler.tasks job).intervalSeconds.getD 0))
    (recorded : scheduler.nextRun.get? (scheduler.tasks job).name = some scheduled)
    (dated : datetimeMin ≤ scheduled) :
    (∃ rounds, scheduler.marked job intervalSeconds now rounds = some after) ↔
      scheduler.markRun croniter now job = some after ∧
        ∀ next, catchUp now ((scheduler.tasks job).intervalSeconds.getD 0) scheduled = some next →
          scheduled ≤ now → next ≤ datetimeMax := by
  simp only [marked_iff intervalSeconds _ after recorded]
  have runs : scheduler.markRun croniter now job =
      (catchUp now ((scheduler.tasks job).intervalSeconds.getD 0) scheduled).map
        (scheduler.setNextRun job) := by
    simp only [markRun, recurring, OrderedDict.getD, recorded, Option.getD_some]
  rw [runs]
  constructor
  · intro returns
    obtain ⟨rounds, next, returned, same⟩ := returns
    obtain ⟨found, bounded⟩ := catch_up_of_returned length rounds scheduled next returned
    rw [found, Option.map_some, same]
    refine ⟨rfl, fun other equal => ?_⟩
    rw [← Option.some.inj equal]
    exact bounded
  · intro returns
    obtain ⟨maps, bounded⟩ := returns
    obtain ⟨next, found, same⟩ := Option.map_eq_some_iff.mp maps
    obtain ⟨rounds, returned⟩ := returned_of_catch_up length (now + 1 - scheduled).toNat scheduled
      next dated le_rfl found (bounded next found)
    exact ⟨rounds, next, returned, same⟩

theorem due_recorded (recurring : (scheduler.tasks job).kind = .recurring)
    (due : scheduler.due now (scheduler.tasks job) = true) :
    ∃ next, scheduler.nextRun.get? (scheduler.tasks job).name = some next ∧ next ≤ now := by
  rw [JobScheduler.due, recurring] at due
  split at due
  · cases due
  · split at due
    · cases due
    · rw [if_neg nofun] at due
      cases recorded : scheduler.nextRun.get? (scheduler.tasks job).name with
      | none =>
        rw [recorded] at due
        cases due
      | some next =>
        rw [recorded] at due
        exact ⟨next, rfl, of_decide_eq_true due⟩

/-- The bookkeeping of a due recurring job ends with the first run ahead exactly if the
interval comes to a positive time and this run is in the calendar. -/
theorem recurring_job_catches_up_iff (scheduler : JobScheduler Handler) (job : Nat)
    (intervalSeconds : Option PyFloat) (found now scheduled : Int)
    (recurring : (scheduler.tasks job).kind = .recurring)
    (recorded : scheduler.nextRun.get? (scheduler.tasks job).name = some scheduled)
    (dated : datetimeMin ≤ scheduled)
    (due : scheduler.due found (scheduler.tasks job) = true) (later : found ≤ now) :
    scheduler.CatchesUp job intervalSeconds now scheduled ↔
      ∃ delta, timedelta (intervalSeconds.getD (.finite 0)) = some delta ∧ 0 < delta ∧
        ∃ periods : Nat, now < scheduled + periods * delta ∧
          scheduled + periods * delta ≤ datetimeMax := by
  obtain ⟨next, again, past⟩ := due_recorded recurring due
  rw [recorded] at again
  have behind : scheduled ≤ now := by
    rw [Option.some.inj again]
    omega
  constructor
  · intro catches
    obtain ⟨rounds, after, delta, next, ended, length, stored, _, least⟩ := catches
    obtain ⟨same, returned, set⟩ := (marked_iff intervalSeconds rounds after recorded).mp ended
    rw [← set, (set_next_run_next same).1] at stored
    rw [Option.some.inj stored] at returned
    obtain ⟨caught, bounded⟩ := catch_up_of_returned length rounds scheduled next returned
    refine ⟨delta, length, ?_, ?_⟩
    · rw [catchUp, if_neg (by omega)] at caught
      by_contra stuck
      rw [if_neg stuck] at caught
      cases caught
    · obtain ⟨periods, _, named, ahead⟩ := least.1
      refine ⟨periods, ?_, ?_⟩
      · rw [← named]
        exact ahead
      · rw [← named]
        exact bounded behind
  · intro condition
    obtain ⟨delta, length, positive, periods, ahead, bounded⟩ := condition
    have caught : ∃ next, catchUp now delta scheduled = some next := by
      rw [catchUp, if_neg (by omega), if_pos positive]
      exact ⟨_, rfl⟩
    obtain ⟨next, caught⟩ := caught
    have least := catch_up_least behind caught
    have some_periods : 1 ≤ periods := by
      by_contra zero
      have none_left : periods = 0 := by omega
      rw [none_left] at ahead
      omega
    have first : next ≤ scheduled + periods * delta :=
      least.2 ⟨periods, some_periods, rfl, ahead⟩
    obtain ⟨rounds, returned⟩ := returned_of_catch_up length (now + 1 - scheduled).toNat scheduled
      next dated le_rfl caught (fun _ => first.trans bounded)
    refine ⟨rounds, scheduler.setNextRun job next, delta, next, ?_, length,
      (set_next_run_next next).1, (set_next_run_next next).2, least⟩
    exact (marked_iff intervalSeconds rounds _ recorded).mpr ⟨next, returned, rfl⟩

/-- A job of every minute that starts at the epoch. -/
def everyMinute : JobSpec :=
  { JobSpec.named "poll" .recurring with
    scheduledAt := some 0
    intervalSeconds := some 60000000 }

/-- The scheduler that has only this job. -/
def scheduling (spec : JobSpec) : JobScheduler Unit :=
  ((empty 1000000 ()).register Croniter.missing 0 spec none).getD (empty 1000000 ())

theorem every_minute_catches_up :
    (scheduling everyMinute).CatchesUp 0 (some (.finite 60)) 150000000 0 :=
  (recurring_job_catches_up_iff (scheduling everyMinute) 0 (some (.finite 60)) 150000000
    150000000 0 (by decide +kernel) (by decide +kernel) (by decide +kernel) (by decide +kernel)
    le_rfl).mpr ⟨60000000, by decide +kernel, by decide, 3, by decide, by decide⟩

theorem every_minute_marked : ∃ rounds,
    (scheduling everyMinute).marked 0 (some (.finite 60)) 150000000 rounds =
      some ((scheduling everyMinute).setNextRun 0 180000000) := by
  apply (marked_iff_mark_run Croniter.missing _ _ (by decide +kernel) (by decide +kernel)
    (show _ = some 0 by decide +kernel) (by decide +kernel)).mpr
  refine ⟨by rfl, ?_⟩
  intro next caught _
  have same : next = 180000000 := by
    have found : catchUp 150000000 60000000 0 = some 180000000 := by decide +kernel
    exact Option.some.inj (caught.symm.trans found)
  rw [same]
  decide

/-- A recurring job without an interval is registered and found due, and the loop stays
where it is. -/
theorem no_interval_never_catches_up :
    let scheduler := scheduling (JobSpec.named "poll" .recurring)
    (empty 1000000 ()).register Croniter.missing 0 (JobSpec.named "poll" .recurring) none =
        some scheduler ∧
      (scheduler.tasks 0).kind = .recurring ∧ scheduler.due 0 (scheduler.tasks 0) = true ∧
      (∀ rounds, (CatchUp.step 0 (.finite 0))^[rounds] (.running 0) = .running 0) ∧
      ¬scheduler.CatchesUp 0 none 0 0 := by
  intro scheduler
  have stays : CatchUp.step 0 (.finite 0) (.running 0) = .running 0 := by decide +kernel
  have stuck : ∀ rounds, (CatchUp.step 0 (.finite 0))^[rounds] (.running 0) = .running 0 :=
    Function.iterate_fixed stays
  have recorded : scheduler.nextRun.get? (scheduler.tasks 0).name = some 0 := by decide +kernel
  refine ⟨rfl, by decide +kernel, by decide +kernel, stuck, ?_⟩
  intro catches
  obtain ⟨rounds, after, _, _, ended, _⟩ := catches
  obtain ⟨next, returned, _⟩ := (marked_iff none rounds after recorded).mp ended
  rw [Option.getD_none, stuck] at returned
  cases returned

end JobScheduler

end AiEnterpriseOs.Runtime
