import AiEnterpriseOs.Library.Runs
import AiEnterpriseOs.Runtime.JobScheduler
import Mathlib.Data.Finset.Basic

/-!
# Rounds of a dependency job

A tick runs a dependency job whenever its upstream jobs are completed, and a
completed job stays so until it runs again. The executions by ticks and the
completions are kept as a history.
-/

namespace AiEnterpriseOs.Runtime

open Library

inductive Happening where
  | executed (name : String) (dependsOn : List String)
  | completed (name : String)
  deriving DecidableEq

/-- The upstream job has completed since every execution of the job so far. -/
def CompletedSince (history : List Happening) (name upstream : String) : Prop :=
  ∀ early dependsOn middle, history = early ++ .executed name dependsOn :: middle →
    .completed upstream ∈ middle

/-- A dependency job is executed only after a completion of each upstream job. -/
def RoundFinished (history : List Happening) : Happening → Prop
  | .executed name dependsOn => ∀ upstream ∈ dependsOn, CompletedSince history name upstream
  | .completed _ => True

/-- Between two executions of a dependency job each upstream job completes. -/
def RoundsRespected (history : List Happening) : Prop :=
  EachJustified RoundFinished history

theorem completed_since_append {history more : List Happening} {name : String}
    (apart : ∀ dependsOn, .executed name dependsOn ∉ more) (upstream : String) :
    CompletedSince (history ++ more) name upstream ↔
      CompletedSince history name upstream ∨ .completed upstream ∈ more := by
  constructor
  · intro since
    by_cases now : .completed upstream ∈ more
    · exact .inr now
    · left
      intro early dependsOn middle split
      have later := since early dependsOn (middle ++ more) (by rw [split]; simp)
      exact (List.mem_append.mp later).resolve_right now
  · intro either early dependsOn middle split
    rcases List.append_eq_append_iff.mp split with ⟨gap, left, right⟩ | ⟨gap, left, right⟩
    · -- the execution would be one of the new entries
      refine absurd ?_ (apart dependsOn)
      rw [right]
      exact List.mem_append_right _ List.mem_cons_self
    · cases gap with
      | nil =>
        refine absurd ?_ (apart dependsOn)
        rw [← List.nil_append more, ← right]
        exact List.mem_cons_self
      | cons head gap =>
        obtain ⟨same, rest⟩ := List.cons.inj right
        have joined : middle = gap ++ more := rest
        rw [joined, List.mem_append]
        apply either.imp_left
        intro since
        apply since early dependsOn gap
        rw [left, same]

namespace JobScheduler

variable {Handler : Type} (croniter : Croniter)

/-- The registry as `register` leaves it. -/
structure Sound (scheduler : JobScheduler Handler) : Prop where
  named : ∀ name job, scheduler.jobs.get? name = some job → (scheduler.tasks job).name = name
  handled : ∀ name job, scheduler.jobs.get? name = some job →
    (scheduler.handlers.get? name).isSome = true
  known : ∀ name job, scheduler.jobs.get? name = some job → job < scheduler.created

/-- What a step leaves as it is: the registry, the running names, what a
registration fixed for each job, and the next runs of the given names. -/
structure Frame (names : List String) (before after : JobScheduler Handler) : Prop where
  jobs : after.jobs = before.jobs
  handlers : after.handlers = before.handlers
  created : after.created = before.created
  running : after.running = before.running
  name : ∀ job, (after.tasks job).name = (before.tasks job).name
  kind : ∀ job, (after.tasks job).kind = (before.tasks job).kind
  enabled : ∀ job, (after.tasks job).enabled = (before.tasks job).enabled
  interval : ∀ job, (after.tasks job).intervalSeconds = (before.tasks job).intervalSeconds
  dependsOn : ∀ job, (after.tasks job).dependsOn = (before.tasks job).dependsOn
  nextRun : ∀ name ∈ names, after.nextRun.get? name = before.nextRun.get? name

theorem Frame.refl (names : List String) (scheduler : JobScheduler Handler) :
    Frame names scheduler scheduler :=
  ⟨rfl, rfl, rfl, rfl, fun _ => rfl, fun _ => rfl, fun _ => rfl, fun _ => rfl, fun _ => rfl,
    fun _ _ => rfl⟩

theorem Frame.trans {names : List String} {first second third : JobScheduler Handler}
    (early : Frame names first second) (late : Frame names second third) :
    Frame names first third where
  jobs := late.jobs.trans early.jobs
  handlers := late.handlers.trans early.handlers
  created := late.created.trans early.created
  running := late.running.trans early.running
  name := fun job => (late.name job).trans (early.name job)
  kind := fun job => (late.kind job).trans (early.kind job)
  enabled := fun job => (late.enabled job).trans (early.enabled job)
  interval := fun job => (late.interval job).trans (early.interval job)
  dependsOn := fun job => (late.dependsOn job).trans (early.dependsOn job)
  nextRun := fun name member => (late.nextRun name member).trans (early.nextRun name member)

theorem Frame.sound {names : List String} {before after : JobScheduler Handler}
    (frame : Frame names before after) (sound : before.Sound) : after.Sound where
  named := by
    intro name job found
    rw [frame.jobs] at found
    rw [frame.name]
    exact sound.named name job found
  handled := by
    intro name job found
    rw [frame.jobs] at found
    rw [frame.handlers]
    exact sound.handled name job found
  known := by
    intro name job found
    rw [frame.jobs] at found
    rw [frame.created]
    exact sound.known name job found

theorem frame_of_update (names : List String) (scheduler : JobScheduler Handler) (job : Nat)
    (task : RuntimeTask) (executed failed : Nat) (table : OrderedDict String Int)
    (name : task.name = (scheduler.tasks job).name)
    (kind : task.kind = (scheduler.tasks job).kind)
    (enabled : task.enabled = (scheduler.tasks job).enabled)
    (interval : task.intervalSeconds = (scheduler.tasks job).intervalSeconds)
    (dependsOn : task.dependsOn = (scheduler.tasks job).dependsOn)
    (nextRun : ∀ name ∈ names, table.get? name = scheduler.nextRun.get? name) :
    Frame names scheduler
      { scheduler with
        tasks := Function.update scheduler.tasks job task
        executed := executed
        failed := failed
        nextRun := table } :=
  ⟨rfl, rfl, rfl, rfl,
    fun other => task_update RuntimeTask.name scheduler.tasks job other task name,
    fun other => task_update RuntimeTask.kind scheduler.tasks job other task kind,
    fun other => task_update RuntimeTask.enabled scheduler.tasks job other task enabled,
    fun other => task_update RuntimeTask.intervalSeconds scheduler.tasks job other task interval,
    fun other => task_update RuntimeTask.dependsOn scheduler.tasks job other task dependsOn,
    nextRun⟩

theorem mark_running_frame (names : List String) (scheduler : JobScheduler Handler) (job : Nat) :
    Frame names scheduler (scheduler.markRunning job) :=
  frame_of_update names scheduler job { scheduler.tasks job with status := .running }
    scheduler.executed scheduler.failed scheduler.nextRun rfl rfl rfl rfl rfl fun _ _ => rfl

theorem settle_keeps (names : List String) (scheduler : JobScheduler Handler) (now : Int)
    (job : Nat) (outcome : HandlerOutcome) :
    Frame names scheduler (scheduler.settle now job outcome) := by
  obtain ⟨status, executed, failed, ended⟩ := scheduler.settle_frame now job outcome
  rw [ended]
  exact frame_of_update names scheduler job _ executed failed scheduler.nextRun rfl rfl rfl rfl
    rfl fun _ _ => rfl

theorem run_now_frame (names : List String) {scheduler : JobScheduler Handler} {name : String}
    {job : Nat} (found : scheduler.jobs.get? name = some job)
    (handled : (scheduler.handlers.get? name).isSome = true) (now : Int)
    (outcome : HandlerOutcome) :
    ∃ after completed, scheduler.runNow now name outcome = some (after, completed) ∧
      Frame names scheduler after := by
  rw [runNow, found]
  dsimp only
  by_cases disabled : (scheduler.tasks job).enabled = false
  · rw [if_pos disabled]
    exact ⟨scheduler, false, rfl, Frame.refl names scheduler⟩
  · rw [if_neg disabled, addRunning]
    by_cases taken : name ∈ scheduler.running
    · rw [if_pos taken]
      exact ⟨scheduler, false, rfl, Frame.refl names scheduler⟩
    · obtain ⟨handler, registered⟩ := Option.isSome_iff_exists.mp handled
      rw [if_neg taken]
      dsimp only
      have here : (markRunning { scheduler with running := insert name scheduler.running }
          job).handlers.get? name = some handler := registered
      rw [here]
      refine ⟨_, _, rfl, ?_⟩
      let admitted : JobScheduler Handler :=
        { scheduler with running := insert name scheduler.running }
      have settled : Frame names admitted ((admitted.markRunning job).settle now job outcome) :=
        (mark_running_frame names admitted job).trans
          (settle_keeps names (admitted.markRunning job) now job outcome)
      refine ⟨settled.jobs, settled.handlers, settled.created, ?_, settled.name, settled.kind,
        settled.enabled, settled.interval, settled.dependsOn, settled.nextRun⟩
      have marked := congrArg (fun names => Finset.erase names name) settled.running
      exact marked.trans (Finset.erase_insert taken)

/-- `_mark_run` does not return for the job. -/
def loops (scheduler : JobScheduler Handler) (later : Int) (task : RuntimeTask) : Bool :=
  decide (task.kind = .recurring) && (catchUp later (task.intervalSeconds.getD 0)
      (scheduler.nextRun.getD task.name later)).isNone

theorem mark_run_none_iff (scheduler : JobScheduler Handler) (later : Int) (job : Nat) :
    scheduler.markRun croniter later job = none ↔
      scheduler.loops later (scheduler.tasks job) = true := by
  rw [markRun, loops]
  dsimp only
  split
  next recurring => simp [recurring]
  next cron =>
    rw [cron]
    split
    · split <;> simp
    · simp
  next other => simp [other]
  next other => simp [other]
  next other => simp [other]

theorem mark_run_keeps (names : List String) {scheduler after : JobScheduler Handler}
    {later : Int} {job : Nat} (other : (scheduler.tasks job).name ∉ names)
    (marked : scheduler.markRun croniter later job = some after) :
    Frame names scheduler after := by
  obtain ⟨table, next, untouched, same⟩ := mark_run_frame croniter later marked
  rw [same]
  refine frame_of_update names scheduler job _ scheduler.executed scheduler.failed table rfl rfl
    rfl rfl rfl ?_
  intro name member
  apply untouched
  intro equal
  exact other (equal ▸ member)

theorem Frame.weaken {names fewer : List String} {before after : JobScheduler Handler}
    (frame : Frame names before after) (subset : ∀ name ∈ fewer, name ∈ names) :
    Frame fewer before after :=
  { frame with nextRun := fun name member => frame.nextRun name (subset name member) }

variable (handling : String → HandlerOutcome × Int)

/-- The names that the loop of a tick gets to: none after a job that `_mark_run` does
not return from. -/
def reached (scheduler : JobScheduler Handler) : List String → List String
  | [] => []
  | name :: rest =>
    if (scheduler.jobs.get? name).any fun job =>
        scheduler.loops (handling name).2 (scheduler.tasks job) then [name]
    else name :: reached scheduler rest

/-- The names whose handlers a tick enters, in order. -/
def tickRuns (scheduler : JobScheduler Handler) (now : Int) : List String :=
  (scheduler.reached handling (scheduler.dueNames now)).filter fun name =>
    name ∉ scheduler.running

theorem reached_sublist (scheduler : JobScheduler Handler) (names : List String) :
    (scheduler.reached handling names).Sublist names := by
  induction names with
  | nil => exact List.Sublist.refl []
  | cons name rest ih =>
    rw [reached]
    split
    · exact List.singleton_sublist.mpr List.mem_cons_self
    · exact ih.cons_cons name

theorem loops_frame {names : List String} {before after : JobScheduler Handler}
    (sound : before.Sound) (frame : Frame names before after) {name : String}
    (member : name ∈ names) {job : Nat} (found : before.jobs.get? name = some job)
    (later : Int) :
    after.loops later (after.tasks job) = before.loops later (before.tasks job) := by
  have named := sound.named name job found
  rw [loops, loops, frame.kind, frame.interval, frame.name, named, OrderedDict.getD,
    OrderedDict.getD, frame.nextRun name member]

theorem reached_frame {names : List String} {before after : JobScheduler Handler}
    (sound : before.Sound) (frame : Frame names before after) :
    after.reached handling names = before.reached handling names := by
  induction names with
  | nil => rfl
  | cons name rest ih =>
    have below := ih (frame.weaken fun other member => List.mem_cons_of_mem _ member)
    have here : ((after.jobs.get? name).any fun job =>
          after.loops (handling name).2 (after.tasks job)) =
        (before.jobs.get? name).any fun job =>
          before.loops (handling name).2 (before.tasks job) := by
      rw [frame.jobs]
      cases found : before.jobs.get? name with
      | none => rfl
      | some job => exact loops_frame sound frame List.mem_cons_self found _
    rw [reached, reached, here, below]

theorem tick_loop_runs {scheduler : JobScheduler Handler} (sound : scheduler.Sound)
    (names : List String) (distinct : names.Nodup)
    (enabled : ∀ name ∈ names, ∃ job, scheduler.jobs.get? name = some job ∧
      (scheduler.tasks job).enabled = true) :
    (tickLoop croniter handling names scheduler).2 =
        (scheduler.reached handling names).filter (fun name => name ∉ scheduler.running) ∧
      Frame [] scheduler (tickLoop croniter handling names scheduler).1 := by
  induction names generalizing scheduler with
  | nil => exact ⟨rfl, Frame.refl [] scheduler⟩
  | cons name rest ih =>
    obtain ⟨job, found, on⟩ := enabled name List.mem_cons_self
    obtain ⟨fresh, restDistinct⟩ := List.nodup_cons.mp distinct
    have handled := sound.handled name job found
    obtain ⟨ran, completed, run, ranFrame⟩ := run_now_frame (name :: rest) found handled
      (handling name).2 (handling name).1
    have starts : scheduler.starts name job = decide (name ∉ scheduler.running) := by
      rw [starts, on, handled, Bool.true_and, Bool.and_true]
    have loopsSame : ran.loops (handling name).2 (ran.tasks job) =
        scheduler.loops (handling name).2 (scheduler.tasks job) :=
      loops_frame sound ranFrame List.mem_cons_self found _
    rw [tickLoop, found]
    dsimp only
    rw [run, starts, reached, found, Option.any_some]
    dsimp only
    cases marked : ran.markRun croniter (handling name).2 job with
    | none =>
      have looping := (mark_run_none_iff croniter ran _ job).mp marked
      rw [loopsSame] at looping
      rw [if_pos looping]
      refine ⟨?_, ranFrame.weaken nofun⟩
      by_cases taken : name ∈ scheduler.running <;> simp [taken]
    | some after =>
      have quiet : ¬scheduler.loops (handling name).2 (scheduler.tasks job) = true := by
        rw [← loopsSame, ← mark_run_none_iff croniter, marked]
        nofun
      have name_eq : (ran.tasks job).name = name := by
        rw [ranFrame.name]
        exact sound.named name job found
      have afterFrame : Frame rest scheduler after :=
        (ranFrame.weaken fun other member => List.mem_cons_of_mem _ member).trans
          (mark_run_keeps croniter rest (by rw [name_eq]; exact fresh) marked)
      obtain ⟨later, lastFrame⟩ := ih (afterFrame.sound sound) restDistinct (by
        intro other member
        obtain ⟨object, present, active⟩ := enabled other (List.mem_cons_of_mem _ member)
        refine ⟨object, ?_, ?_⟩
        · rw [afterFrame.jobs]
          exact present
        · rw [afterFrame.enabled]
          exact active)
      have kept : Frame [] scheduler after := afterFrame.weaken nofun
      rw [if_neg quiet]
      refine ⟨?_, kept.trans lastFrame⟩
      dsimp only
      rw [later, reached_frame handling sound afterFrame, afterFrame.running]
      by_cases taken : name ∈ scheduler.running <;> simp [taken]

theorem due_names_distinct (scheduler : JobScheduler Handler) (now : Int) :
    (scheduler.dueNames now).Nodup :=
  scheduler.jobs.distinct.filter _

theorem enabled_of_due (scheduler : JobScheduler Handler) (now : Int) :
    ∀ name ∈ scheduler.dueNames now, ∃ job, scheduler.jobs.get? name = some job ∧
      (scheduler.tasks job).enabled = true := by
  intro name member
  have due := (List.mem_filter.mp member).2
  cases found : scheduler.jobs.get? name with
  | none =>
    rw [found] at due
    cases due
  | some job =>
    rw [found] at due
    refine ⟨job, rfl, ?_⟩
    by_contra disabled
    have off : (scheduler.tasks job).enabled = false := Bool.eq_false_iff.mpr disabled
    simp [JobScheduler.due, off] at due

theorem tick_runs {scheduler : JobScheduler Handler} (sound : scheduler.Sound) (now : Int) :
    (scheduler.tick croniter now handling).2 = scheduler.tickRuns handling now ∧
      Frame [] scheduler (scheduler.tick croniter now handling).1 :=
  tick_loop_runs croniter handling sound _ (due_names_distinct scheduler now)
    (enabled_of_due scheduler now)

theorem tick_runs_distinct (scheduler : JobScheduler Handler) (now : Int) :
    (scheduler.tickRuns handling now).Nodup :=
  ((due_names_distinct scheduler now).sublist (reached_sublist handling scheduler _)).filter _

end JobScheduler

/-- A scheduler with the executions by its ticks and the completions of its jobs. -/
structure RoundWorld (Handler : Type) where
  scheduler : JobScheduler Handler
  history : List Happening

/-- `start` and `finish` are a run of a job that another thread asked for. -/
inductive RoundCall (Handler : Type) where
  | register (now : Int) (spec : JobSpec) (handler : Option Handler)
  | tick (now : Int) (handling : String → HandlerOutcome × Int)
  | start (name : String)
  | finish (name : String) (outcome : HandlerOutcome) (now : Int)

namespace RoundWorld

variable {Handler : Type} (croniter : Croniter)

/-- What a run of the job by a tick adds to the history. -/
def happenings (scheduler : JobScheduler Handler) (handling : String → HandlerOutcome × Int)
    (name : String) : List Happening :=
  let execution :=
    match scheduler.jobs.get? name with
    | none => []
    | some job =>
      if (scheduler.tasks job).kind = .dependency then
        [.executed name (scheduler.tasks job).dependsOn]
      else []
  execution ++ if (handling name).1 = .returns then [.completed name] else []

def step (world : RoundWorld Handler) : RoundCall Handler → RoundWorld Handler
  | .register now spec handler =>
    match world.scheduler.register croniter now spec handler with
    | none => world
    | some scheduler => { world with scheduler := scheduler }
  | .tick now handling =>
    let (scheduler, runs) := world.scheduler.tick croniter now handling
    { scheduler := scheduler
      history := world.history ++ runs.flatMap (happenings world.scheduler handling) }
  | .start name =>
    match world.scheduler.jobs.get? name, world.scheduler.addRunning name with
    | some job, some scheduler =>
      if (world.scheduler.tasks job).enabled then
        { world with scheduler := scheduler.markRunning job }
      else world
    | _, _ => world
  | .finish name outcome now =>
    match world.scheduler.jobs.get? name with
    | none => world
    | some job =>
      if name ∈ world.scheduler.running then
        { scheduler := (world.scheduler.settle now job outcome).release name
          history :=
            world.history ++ if outcome = .returns then [.completed name] else [] }
      else world

/-- A scheduler without jobs. -/
def started (intervalSeconds : Int) (defaultHandler : Handler) : RoundWorld Handler :=
  { scheduler := JobScheduler.empty intervalSeconds defaultHandler, history := [] }

/-- A tick runs a dependency job only if each upstream job has completed since the
job was executed, or runs before it in the same tick and completes. -/
def Permitted (world : RoundWorld Handler) : RoundCall Handler → Prop
  | .tick now handling =>
    ∀ before name after job, world.scheduler.tickRuns handling now = before ++ name :: after →
      world.scheduler.jobs.get? name = some job →
      (world.scheduler.tasks job).kind = .dependency →
      ∀ upstream ∈ (world.scheduler.tasks job).dependsOn,
        CompletedSince world.history name upstream ∨
          upstream ∈ before ∧ (handling upstream).1 = .returns
  | .register _ _ _ | .start _ | .finish _ _ _ => True

theorem completed_mem_happenings (scheduler : JobScheduler Handler)
    (handling : String → HandlerOutcome × Int) (name upstream : String) :
    .completed upstream ∈ happenings scheduler handling name ↔
      upstream = name ∧ (handling name).1 = .returns := by
  rw [happenings, List.mem_append]
  constructor
  · rintro (execution | completion)
    · split at execution
      · cases execution
      · split at execution
        · cases List.mem_singleton.mp execution
        · cases execution
    · split at completion
      next returned =>
        cases List.mem_singleton.mp completion
        exact ⟨rfl, returned⟩
      next => cases completion
  · rintro ⟨same, returned⟩
    rw [if_pos returned, same]
    exact .inr (List.mem_singleton_self _)

theorem executed_mem_happenings {scheduler : JobScheduler Handler}
    {handling : String → HandlerOutcome × Int} {name other : String} {dependsOn : List String}
    (member : .executed other dependsOn ∈ happenings scheduler handling name) : other = name := by
  rcases List.mem_append.mp member with execution | completion
  · split at execution
    · cases execution
    · split at execution
      · cases List.mem_singleton.mp execution
        rfl
      · cases execution
  · split at completion
    · cases List.mem_singleton.mp completion
    · cases completion

theorem rounds_of_completion (history : List Happening) (name : String) (returned : Prop)
    [Decidable returned] :
    RoundsRespected (history ++ if returned then [.completed name] else []) ↔
      RoundsRespected history := by
  by_cases done : returned
  · rw [if_pos done, RoundsRespected, each_justified_single]
    exact and_iff_left trivial
  · rw [if_neg done, List.append_nil]

theorem rounds_of_run (history : List Happening) (scheduler : JobScheduler Handler)
    (handling : String → HandlerOutcome × Int) (name : String) :
    RoundsRespected (history ++ happenings scheduler handling name) ↔
      RoundsRespected history ∧ ∀ job, scheduler.jobs.get? name = some job →
        (scheduler.tasks job).kind = .dependency →
        ∀ upstream ∈ (scheduler.tasks job).dependsOn,
          CompletedSince history name upstream := by
  rw [happenings, ← List.append_assoc, rounds_of_completion]
  cases found : scheduler.jobs.get? name with
  | none =>
    rw [List.append_nil]
    exact (and_iff_left nofun).symm
  | some job =>
    dsimp only
    by_cases dependency : (scheduler.tasks job).kind = .dependency
    · rw [if_pos dependency, RoundsRespected, each_justified_single]
      apply and_congr_right
      intro _
      constructor
      · intro finished other same _
        cases same
        exact finished
      · intro finished
        exact finished job rfl dependency
    · rw [if_neg dependency, List.append_nil]
      refine (and_iff_left ?_).symm
      intro other same kind
      cases same
      exact absurd kind dependency

theorem rounds_of_runs (history : List Happening) (scheduler : JobScheduler Handler)
    (handling : String → HandlerOutcome × Int) (names : List String) (distinct : names.Nodup) :
    RoundsRespected (history ++ names.flatMap (happenings scheduler handling)) ↔
      RoundsRespected history ∧ ∀ before name after job, names = before ++ name :: after →
        scheduler.jobs.get? name = some job → (scheduler.tasks job).kind = .dependency →
        ∀ upstream ∈ (scheduler.tasks job).dependsOn, CompletedSince history name upstream ∨
            upstream ∈ before ∧ (handling upstream).1 = .returns := by
  induction names generalizing history with
  | nil =>
    rw [List.flatMap_nil, List.append_nil]
    refine (and_iff_left ?_).symm
    intro before name after job split
    cases before <;> cases split
  | cons head rest ih =>
    obtain ⟨fresh, restDistinct⟩ := List.nodup_cons.mp distinct
    rw [List.flatMap_cons, ← List.append_assoc, ih _ restDistinct, rounds_of_run, and_assoc]
    apply and_congr_right
    intro _
    -- a later name sees the run of the head as a completion, if it was one
    have later : ∀ name ∈ rest, ∀ upstream,
        CompletedSince (history ++ happenings scheduler handling head) name upstream ↔
          CompletedSince history name upstream ∨
            upstream = head ∧ (handling head).1 = .returns := by
      intro name member upstream
      rw [completed_since_append, completed_mem_happenings]
      intro dependsOn executed
      rw [executed_mem_happenings executed] at member
      exact fresh member
    constructor
    · rintro ⟨first, others⟩ before name after job split found kind upstream depends
      cases before with
      | nil =>
        cases split
        exact .inl (first job found kind upstream depends)
      | cons other before =>
        obtain ⟨same, remaining⟩ := List.cons.inj split
        have member : name ∈ rest := by
          rw [remaining]
          exact List.mem_append_right _ List.mem_cons_self
        rcases others before name after job remaining found kind upstream depends with
          since | ⟨earlier, returned⟩
        · rcases (later name member upstream).mp since with old | ⟨here, returned⟩
          · exact .inl old
          · refine .inr ⟨?_, ?_⟩
            · rw [here, same]
              exact List.mem_cons_self
            · rw [here]
              exact returned
        · exact .inr ⟨List.mem_cons_of_mem _ earlier, returned⟩
    · intro all
      constructor
      · intro job found kind upstream depends
        rcases all [] head rest job rfl found kind upstream depends with since | ⟨none, _⟩
        · exact since
        · cases none
      · intro before name after job split found kind upstream depends
        have member : name ∈ rest := by
          rw [split]
          exact List.mem_append_right _ List.mem_cons_self
        rcases all (head :: before) name after job (by rw [split]; rfl) found kind upstream
          depends with since | ⟨earlier, returned⟩
        · exact .inl ((later name member upstream).mpr (.inl since))
        · rcases List.mem_cons.mp earlier with here | before
          · left
            apply (later name member upstream).mpr
            rw [here] at returned
            exact .inr ⟨here, returned⟩
          · exact .inr ⟨before, returned⟩

theorem register_sound {scheduler after : JobScheduler Handler} (sound : scheduler.Sound)
    {now : Int} {spec : JobSpec} {handler : Option Handler}
    (registered : scheduler.register croniter now spec handler = some after) : after.Sound := by
  obtain ⟨_, chosen, table, same⟩ := JobScheduler.register_frame croniter now registered
  rw [same]
  have entry : ∀ name job, (scheduler.jobs.set spec.name scheduler.created).get? name = some job →
      name = spec.name ∧ job = scheduler.created ∨
        name ≠ spec.name ∧ scheduler.jobs.get? name = some job := by
    intro name job found
    rw [OrderedDict.get_set] at found
    by_cases here : name = spec.name
    · rw [if_pos here] at found
      cases found
      exact .inl ⟨here, rfl⟩
    · rw [if_neg here] at found
      exact .inr ⟨here, found⟩
  refine ⟨?_, ?_, ?_⟩
  · intro name job found
    dsimp only
    rcases entry name job found with ⟨here, object⟩ | ⟨_, old⟩
    · rw [object, Function.update_self, here]
      rfl
    · have below := sound.known name job old
      rw [Function.update_of_ne (by omega)]
      exact sound.named name job old
  · intro name job found
    dsimp only
    rw [OrderedDict.get_set]
    rcases entry name job found with ⟨here, _⟩ | ⟨other, old⟩
    · rw [if_pos here]
      rfl
    · rw [if_neg other]
      exact sound.handled name job old
  · intro name job found
    dsimp only
    rcases entry name job found with ⟨_, object⟩ | ⟨_, old⟩
    · omega
    · have below := sound.known name job old
      omega

theorem step_sound (world : RoundWorld Handler) (call : RoundCall Handler)
    (sound : world.scheduler.Sound) : (world.step croniter call).scheduler.Sound := by
  cases call with
  | register now spec handler =>
    rw [step]
    split
    · exact sound
    next after registered => exact register_sound croniter sound registered
  | tick now handling =>
    exact (JobScheduler.tick_runs croniter handling sound now).2.sound sound
  | start name =>
    rw [step]
    split
    next job after found admitted =>
      split
      · have same : { world.scheduler with
            running := insert name world.scheduler.running } = after := by
          rw [JobScheduler.addRunning] at admitted
          split at admitted
          · cases admitted
          · exact Option.some.inj admitted
        rw [← same]
        apply (JobScheduler.mark_running_frame [] _ job).sound
        exact ⟨sound.named, sound.handled, sound.known⟩
      · exact sound
    next => exact sound
  | finish name outcome now =>
    rw [step]
    split
    · exact sound
    next job found =>
      split
      · have settled := (JobScheduler.settle_keeps [] world.scheduler now job outcome).sound sound
        exact ⟨settled.named, settled.handled, settled.known⟩
      · exact sound

theorem step_rounds_iff (world : RoundWorld Handler) (call : RoundCall Handler)
    (sound : world.scheduler.Sound) (respected : RoundsRespected world.history) :
    RoundsRespected (world.step croniter call).history ↔ world.Permitted call := by
  cases call with
  | register now spec handler =>
    refine iff_of_true ?_ trivial
    rw [step]
    split <;> exact respected
  | tick now handling =>
    rw [step]
    dsimp only
    rw [(JobScheduler.tick_runs croniter handling sound now).1,
      rounds_of_runs _ _ _ _ (JobScheduler.tick_runs_distinct handling world.scheduler now)]
    exact and_iff_right respected
  | start name =>
    refine iff_of_true ?_ trivial
    rw [step]
    split
    · split <;> exact respected
    · exact respected
  | finish name outcome now =>
    refine iff_of_true ?_ trivial
    rw [step]
    split
    · exact respected
    · split
      · exact (rounds_of_completion world.history name _).mpr respected
      · exact respected

end RoundWorld

end AiEnterpriseOs.Runtime
