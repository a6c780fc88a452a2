import AiEnterpriseOs.Runtime.ProcessManager

/-!
# One live thread a process

As long as the manager knows every live thread, a process has one at most, and
none once it is stopped. Only a wait that runs out before the thread has ended
makes the manager lose a live thread.
-/

namespace AiEnterpriseOs.Runtime

open Library

namespace ProcessManager

variable {Target : Type}

section Properties

variable (manager : ProcessManager Target)

/-- The thread was started for the process and is alive. -/
def LiveFor (name : String) (index : Nat) : Prop :=
  ∃ thread, manager.started[index]? = some thread ∧ thread.name = name ∧ thread.alive = true

/-- At most one thread started for a process is alive. -/
def Exclusive : Prop :=
  ∀ name first second, manager.LiveFor name first → manager.LiveFor name second →
    first = second

/-- A process whose status is stopped has no live thread. -/
def StoppedIdle : Prop :=
  ∀ name, manager.status name = some .stopped → ∀ index, ¬manager.LiveFor name index

/-- Every live thread started for the process ends while the call waits. -/
def EndsInTime (name : String) (join : Join) : Prop :=
  (manager.processes.get? name).isSome = true →
    ∀ index, manager.LiveFor name index → index ∈ join.ended

def AllEndInTime (joins : String → Join) : List String → ProcessManager Target → Prop
  | [], _ => True
  | name :: rest, manager =>
    manager.EndsInTime name (joins name) ∧ AllEndInTime joins rest (manager.stop name (joins name))

/-- Every thread that the call waits for ends before the wait runs out. -/
def JoinsInTime : ProcessCall Target → Prop
  | .unregister name join => manager.EndsInTime name join
  | .stop name join => manager.EndsInTime name join
  | .restart name join _ => manager.EndsInTime name join
  | .stopAll joins => AllEndInTime joins manager.processes.keys manager
  | _ => True

/-- The manager knows every live thread, and knows under a name only threads that
were started for it. -/
structure Tracked : Prop where
  live : ∀ name index, manager.LiveFor name index → manager.threads.get? name = some index
  own : ∀ name index, manager.threads.get? name = some index →
    ∃ thread, manager.started[index]? = some thread ∧ thread.name = name

end Properties

section Threads

variable {manager : ProcessManager Target}

theorem Tracked.exclusive (tracked : manager.Tracked) : manager.Exclusive := by
  intro name first second firstLive secondLive
  have one := tracked.live name first firstLive
  have other := tracked.live name second secondLive
  exact Option.some.inj (one.symm.trans other)

theorem Tracked.alive_iff (tracked : manager.Tracked) (name : String) :
    manager.isAlive name = true ↔ ∃ index, manager.LiveFor name index := by
  unfold isAlive
  constructor
  · intro alive
    cases known : manager.threads.get? name with
    | none => simp [known] at alive
    | some index =>
      obtain ⟨thread, started, named⟩ := tracked.own name index known
      simp only [known, threadAlive, started] at alive
      exact ⟨index, thread, started, named, alive⟩
  · rintro ⟨index, live⟩
    have known := tracked.live name index live
    obtain ⟨thread, started, _, alive⟩ := live
    simp only [known, threadAlive, started, alive]

theorem Tracked.stopped_idle (tracked : manager.Tracked) : manager.StoppedIdle := by
  intro name stopped index live
  have alive := (tracked.alive_iff name).mpr ⟨index, live⟩
  obtain ⟨process, _, status⟩ := Option.map_eq_some_iff.mp stopped
  rw [if_pos alive] at status
  cases status

theorem live_for_congr {other : ProcessManager Target}
    (same : other.started = manager.started) (name : String) (index : Nat) :
    other.LiveFor name index ↔ manager.LiveFor name index := by
  unfold LiveFor
  rw [same]

theorem Tracked.congr {other : ProcessManager Target} (tracked : manager.Tracked)
    (started : other.started = manager.started) (threads : other.threads = manager.threads) :
    other.Tracked where
  live name index live := by
    rw [threads]
    exact tracked.live name index ((live_for_congr started name index).mp live)
  own name index known := by
    rw [started]
    rw [threads] at known
    exact tracked.own name index known

/-! ## What the calls do to the threads -/

theorem end_threads_live (ended : List Nat) (name : String) (index : Nat) :
    (manager.endThreads ended).LiveFor name index ↔ manager.LiveFor name index ∧ index ∉ ended := by
  unfold LiveFor endThreads
  simp only [List.getElem?_mapIdx, Option.map_eq_some_iff]
  constructor
  · rintro ⟨_, ⟨thread, started, rfl⟩, named, alive⟩
    simp only [Bool.and_eq_true, decide_eq_true_eq] at alive
    exact ⟨⟨thread, started, named, alive.1⟩, alive.2⟩
  · rintro ⟨⟨thread, started, named, alive⟩, running⟩
    exact ⟨_, ⟨thread, started, rfl⟩, named, by simp [alive, running]⟩

theorem end_threads_named (ended : List Nat) {name : String} {index : Nat}
    (known : ∃ thread, manager.started[index]? = some thread ∧ thread.name = name) :
    ∃ thread, (manager.endThreads ended).started[index]? = some thread ∧ thread.name = name := by
  obtain ⟨thread, started, named⟩ := known
  unfold endThreads
  simp only [List.getElem?_mapIdx, started]
  exact ⟨_, rfl, named⟩

theorem Tracked.end_threads (tracked : manager.Tracked) (ended : List Nat) :
    (manager.endThreads ended).Tracked where
  live name index live := tracked.live name index ((end_threads_live ended name index).mp live).1
  own name index known := end_threads_named ended (tracked.own name index known)

theorem stop_live (name : String) (join : Join) (other : String) (index : Nat)
    (registered : (manager.processes.get? name).isSome = true) :
    (manager.stop name join).LiveFor other index ↔
      manager.LiveFor other index ∧ index ∉ join.ended := by
  obtain ⟨process, found⟩ := Option.isSome_iff_exists.mp registered
  rw [← end_threads_live]
  apply live_for_congr
  simp only [stop, found]
  split
  · rfl
  · rfl

theorem end_threads_alive (ended : List Nat) (name : String) (idle : manager.isAlive name = false) :
    (manager.endThreads ended).isAlive name = false := by
  simp only [isAlive, endThreads, threadAlive, List.getElem?_mapIdx] at idle ⊢
  cases known : manager.threads.get? name with
  | none => rfl
  | some index =>
    simp only [known] at idle ⊢
    cases started : manager.started[index]? with
    | none => rfl
    | some thread =>
      simp only [started] at idle
      simp [idle]

theorem stop_status (name : String) (join : Join)
    (registered : (manager.processes.get? name).isSome = true) :
    (manager.stop name join).status name = some .stopped := by
  obtain ⟨process, found⟩ := Option.isSome_iff_exists.mp registered
  have record : ((manager.stop name join).processes.get? name).map (·.status) = some .stopped := by
    simp only [stop, found]
    split
    · simp [endThreads]
    · simp [endThreads]
  have idle : (manager.stop name join).isAlive name = false := by
    simp only [stop, found]
    by_cases alive : manager.isAlive name = true
    · rw [if_pos alive]
      simp [isAlive, endThreads, OrderedDict.get_erase]
    · rw [if_neg alive]
      exact end_threads_alive join.ended name (Bool.eq_false_iff.mpr alive)
  obtain ⟨stopped, kept, status⟩ := Option.map_eq_some_iff.mp record
  rw [ProcessManager.status, kept, Option.map_some, idle, ← status]
  rfl

theorem Tracked.stop (tracked : manager.Tracked) {name : String} {join : Join}
    (inTime : manager.EndsInTime name join) : (manager.stop name join).Tracked := by
  cases found : manager.processes.get? name with
  | none =>
    apply tracked.congr
    · simp only [ProcessManager.stop, found]
    · simp only [ProcessManager.stop, found]
  | some process =>
    have registered : (manager.processes.get? name).isSome = true := by
      rw [found]
      rfl
    have threads : ∀ other, (manager.stop name join).threads.get? other =
        if manager.isAlive name = true ∧ other = name then none
        else manager.threads.get? other := by
      intro other
      simp only [ProcessManager.stop, found]
      by_cases alive : manager.isAlive name = true
      · simp [alive, endThreads, OrderedDict.get_erase]
      · simp [alive, endThreads]
    constructor
    · intro other index live
      obtain ⟨before, running⟩ := (stop_live name join other index registered).mp live
      have apart : other ≠ name := by
        rintro rfl
        exact running (inTime registered index before)
      rw [threads, if_neg fun both => apart both.2]
      exact tracked.live other index before
    · intro other index known
      rw [threads] at known
      split at known
      · cases known
      · have named := end_threads_named join.ended (tracked.own other index known)
        have same : (manager.stop name join).started = (manager.endThreads join.ended).started := by
          simp only [ProcessManager.stop, found]
          split
          · rfl
          · rfl
        rw [same]
        exact named

theorem ends_in_time_of_idle {name : String} {join : Join}
    (idle : (manager.stop name join).StoppedIdle) : manager.EndsInTime name join := by
  intro registered index live
  by_contra running
  exact idle name (stop_status name join registered) index
    ((stop_live name join name index registered).mpr ⟨live, running⟩)

theorem Tracked.register (tracked : manager.Tracked) (id name : String)
    (target : Option Target) (pid : Option Int) (metadata : OrderedDict String PyValue) :
    (manager.register id name target pid metadata).Tracked := by
  apply tracked.congr
  · unfold ProcessManager.register
    dsimp only
    split
    · rfl
    · split_ifs <;> rfl
  · unfold ProcessManager.register
    dsimp only
    split
    · rfl
    · split_ifs <;> rfl

theorem Tracked.start (tracked : manager.Tracked) (name : String) (now : Int) :
    (manager.start name now).Tracked := by
  unfold ProcessManager.start
  split
  · exact tracked
  next process found =>
    by_cases alive : manager.isAlive name = true
    · rw [if_pos alive]
      exact tracked
    rw [if_neg alive]
    have idle : ∀ index, ¬manager.LiveFor name index := by
      intro index live
      exact alive ((tracked.alive_iff name).mpr ⟨index, live⟩)
    constructor
    · rintro other index ⟨thread, found, named, running⟩
      dsimp only at found ⊢
      by_cases old : index < manager.started.length
      · rw [List.getElem?_append_left old] at found
        have live : manager.LiveFor other index := ⟨thread, found, named, running⟩
        have apart : other ≠ name := by
          rintro rfl
          exact idle index live
        rw [OrderedDict.get_set, if_neg apart]
        exact tracked.live other index live
      · obtain ⟨bound, _⟩ := List.getElem?_eq_some_iff.mp found
        have last : index = manager.started.length := by
          rw [List.length_append, List.length_singleton] at bound
          omega
        rw [last, List.getElem?_concat_length] at found
        rw [← named, ← Option.some.inj found, last, OrderedDict.get_set_self]
    · apply OrderedDict.forall_set
      · dsimp only
        rw [List.getElem?_concat_length]
        exact ⟨_, rfl, rfl⟩
      · intro other index known
        obtain ⟨thread, found, named⟩ := tracked.own other index known
        have bound := (List.getElem?_eq_some_iff.mp found).1
        exact ⟨thread, (List.getElem?_append_left bound).trans found, named⟩

theorem Tracked.forget (tracked : manager.Tracked) {name : String}
    (idle : ∀ index, ¬manager.LiveFor name index) : (manager.forget name).Tracked where
  live other index live := by
    have before : manager.LiveFor other index := live
    have apart : other ≠ name := by
      rintro rfl
      exact idle index before
    exact (OrderedDict.get_erase _ _ _).trans
      ((if_neg apart).trans (tracked.live other index before))
  own := OrderedDict.forall_erase name tracked.own

/-! ## Calls and runs -/

/-- Nothing is lost in the states that a call leads through. -/
def Orderly (states : List (ProcessManager Target)) : Prop :=
  ∀ state ∈ states, state.Exclusive ∧ state.StoppedIdle

theorem all_end_in_time_of_orderly (joins : String → Join) (names : List String)
    (orderly : Orderly (stopEach joins names manager)) : AllEndInTime joins names manager := by
  induction names generalizing manager with
  | nil => trivial
  | cons name rest ih =>
    obtain ⟨first, later⟩ := List.forall_mem_cons.mp orderly
    exact ⟨ends_in_time_of_idle first.2, ih later⟩

theorem stop_each_tracked (joins : String → Join) (names : List String)
    (tracked : manager.Tracked) (inTime : AllEndInTime joins names manager) :
    ∀ state ∈ stopEach joins names manager, state.Tracked := by
  induction names generalizing manager with
  | nil => exact List.forall_mem_nil _
  | cons name rest ih =>
    have stopped := tracked.stop inTime.1
    unfold stopEach
    exact List.forall_mem_cons.mpr ⟨stopped, ih stopped inTime.2⟩

theorem stopped_idle_in_time {name : String} {join : Join}
    (registered : (manager.processes.get? name).isSome = true)
    (inTime : manager.EndsInTime name join) (index : Nat) :
    ¬(manager.stop name join).LiveFor name index := by
  intro live
  obtain ⟨before, running⟩ := (stop_live name join name index registered).mp live
  exact running (inTime registered index before)

theorem joins_in_time_of_orderly (tracked : manager.Tracked) (call : ProcessCall Target)
    (orderly : Orderly (manager.course call)) : manager.JoinsInTime call := by
  cases call with
  | unregister name join =>
    intro registered
    apply ends_in_time_of_idle _ registered
    obtain ⟨process, found⟩ := Option.isSome_iff_exists.mp registered
    simp only [course, found] at orderly
    exact (orderly _ List.mem_cons_self).2
  | stop name join =>
    apply ends_in_time_of_idle
    exact (orderly _ List.mem_cons_self).2
  | restart name join now =>
    intro registered
    obtain ⟨process, found⟩ := Option.isSome_iff_exists.mp registered
    simp only [course, found] at orderly
    have first := (orderly _ List.mem_cons_self).2
    by_cases alive : manager.isAlive name = true
    · rw [if_pos alive] at first
      exact ends_in_time_of_idle first registered
    · intro index live
      exact absurd ((tracked.alive_iff name).mpr ⟨index, live⟩) alive
  | stopAll joins => exact all_end_in_time_of_orderly joins _ orderly
  | register id name target pid metadata => trivial
  | start name now => trivial
  | finish ended => trivial

theorem course_tracked (tracked : manager.Tracked) (call : ProcessCall Target)
    (inTime : manager.JoinsInTime call) : ∀ state ∈ manager.course call, state.Tracked := by
  cases call with
  | register id name target pid metadata =>
    exact List.forall_mem_singleton.mpr (tracked.register id name target pid metadata)
  | unregister name join =>
    unfold course
    dsimp only
    split
    · exact List.forall_mem_nil _
    next process found =>
      have registered : (manager.processes.get? name).isSome = true := by
        rw [found]
        rfl
      have stopped := tracked.stop inTime
      have forgotten := stopped.forget (stopped_idle_in_time registered inTime)
      exact List.forall_mem_cons.mpr ⟨stopped, List.forall_mem_singleton.mpr forgotten⟩
  | start name now => exact List.forall_mem_singleton.mpr (tracked.start name now)
  | stop name join => exact List.forall_mem_singleton.mpr (tracked.stop inTime)
  | restart name join now =>
    unfold course
    dsimp only
    split
    · exact List.forall_mem_nil _
    · have stopped : (if manager.isAlive name then manager.stop name join
          else manager).Tracked := by
        split_ifs
        · exact tracked.stop inTime
        · exact tracked
      have counted : ((if manager.isAlive name then manager.stop name join
          else manager).countRestart name).Tracked := stopped.congr rfl rfl
      exact List.forall_mem_cons.mpr
        ⟨stopped, List.forall_mem_singleton.mpr (counted.start name now)⟩
  | stopAll joins => exact stop_each_tracked joins _ tracked inTime
  | finish ended => exact List.forall_mem_singleton.mpr (tracked.end_threads ended)

theorem Tracked.step {call : ProcessCall Target} (tracked : manager.Tracked)
    (inTime : manager.JoinsInTime call) : (manager.step call).Tracked := by
  unfold ProcessManager.step
  rw [List.getLastD_eq_getLast?]
  cases last : (manager.course call).getLast? with
  | none => exact tracked
  | some state => exact course_tracked tracked call inTime state (List.mem_of_getLast? last)

end Threads

theorem new_tracked : ({} : ProcessManager Target).Tracked where
  live name index live := by
    obtain ⟨thread, found, _⟩ := live
    cases found
  own name index known := by cases known

/-- At any time at most one thread of a process is alive, and none of a stopped one,
exactly if every thread that a call waits for ends before the wait runs out. -/
theorem one_live_thread_iff (calls : List (ProcessCall Target)) :
    (∀ early call late, calls = early ++ call :: late →
        ∀ state ∈ (runs early).course call, state.Exclusive ∧ state.StoppedIdle) ↔
      StepsMeet step JoinsInTime {} calls := by
  have throughout := steps_meet_iff step
    (fun manager call => Orderly (manager.course call)) ({} : ProcessManager Target) calls
  rw [← steps_meet_congr_of_meets step Tracked (fun manager call tracked orderly =>
    tracked.step (joins_in_time_of_orderly tracked call orderly)) ?_ {} calls new_tracked]
  · exact throughout.symm
  · intro manager call tracked
    constructor
    · exact joins_in_time_of_orderly tracked call
    · intro inTime state member
      have after := course_tracked tracked call inTime state member
      exact ⟨after.exclusive, after.stopped_idle⟩

/-- A process that is stopped, with the wait for its thread running out, and started again. -/
def lateCalls : List (ProcessCall Unit) :=
  [.register "proc_1" "worker" (some ()) none OrderedDict.empty, .start "worker" 0,
    .stop "worker" { now := 5, ended := [] }, .start "worker" 6]

theorem slow_thread_doubled :
    ¬(runs (lateCalls.take 3)).StoppedIdle ∧ ¬(runs lateCalls).Exclusive := by
  constructor
  · intro idle
    exact idle "worker" rfl 0 ⟨_, rfl, rfl, rfl⟩
  · intro exclusive
    have same := exclusive "worker" 0 1 ⟨_, rfl, rfl, rfl⟩ ⟨_, rfl, rfl, rfl⟩
    cases same

end ProcessManager

end AiEnterpriseOs.Runtime
