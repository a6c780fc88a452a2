import AiEnterpriseOs.Library.MissDetection
import AiEnterpriseOs.Library.Runs
import AiEnterpriseOs.Runtime.Heartbeat

/-!
# Failure detection by heartbeats

`check` runs over the names that were monitored at its start. The callback it
calls for a failed component may beat or unregister components, and `check`
writes to the counters again after it. A log beside the manager says what the
counters are to count.
-/

namespace AiEnterpriseOs.Runtime

open Library
open Library.MissDetection

/-- What the failure callback does to the manager. -/
inductive CallbackAction where
  | beat (component : String) (now : Int)
  | unregister (component : String)

namespace HeartbeatManager

/-- `interval_seconds or self.interval_seconds`. -/
def intervalOr (manager : HeartbeatManager) : Option Int → Int
  | none => manager.intervalSeconds
  | some interval => if interval = 0 then manager.intervalSeconds else interval

/-- `register`, with an interval of the component's own or without. -/
def registerWith (manager : HeartbeatManager) (component : String) (interval : Option Int)
    (now : Int) : HeartbeatManager :=
  let interval := manager.intervalOr interval
  match manager.heartbeats.get? component with
  | some existing =>
    { manager with
      heartbeats := manager.heartbeats.set component { existing with intervalSeconds := interval } }
  | none =>
    { manager with
      heartbeats := manager.heartbeats.set component
        { receivedAt := now, seq := 0, intervalSeconds := interval }
      consecutiveMisses := manager.consecutiveMisses.set component 0 }

def act (manager : HeartbeatManager) : CallbackAction → HeartbeatManager
  | .beat component now => manager.beat component now
  | .unregister component => manager.unregister component

variable (now : Int) (respond : String → List CallbackAction)

/-- The body of the loop of `check`; `respond` is what the callback does for a component. -/
def checkComponent : HeartbeatManager × List (String × String) → String →
    HeartbeatManager × List (String × String)
  | (manager, failures), component =>
    if manager.isStale component now then
      let misses := manager.consecutiveMisses.getD component 0 + 1
      let manager := manager.setMisses component misses
      if manager.missedThreshold ≤ (misses : Int) then
        let reason := "heartbeat_timeout"
        let failures := failures ++ [(component, reason)]
        let manager :=
          if manager.onFailure then (respond component).foldl act manager else manager
        (manager.setMisses component 0, failures)
      else (manager, failures)
    else (manager.setMisses component 0, failures)

def check (manager : HeartbeatManager) : HeartbeatManager × List (String × String) :=
  manager.heartbeats.keys.foldl (checkComponent now respond) (manager, [])

/-- The pass reports the component. -/
def reports (manager : HeartbeatManager) (component : String) : Bool :=
  manager.isStale component now &&
    manager.missedThreshold ≤ ((manager.consecutiveMisses.getD component 0 + 1 : Nat) : Int)

/-- The callback's actions, where there is a callback. -/
def response (manager : HeartbeatManager) (component : String) : List CallbackAction :=
  if manager.onFailure then respond component else []

/-- The manager after the body of the loop. -/
def visited (manager : HeartbeatManager) (component : String) : HeartbeatManager :=
  let counted :=
    manager.setMisses component (manager.consecutiveMisses.getD component 0 + 1)
  if manager.reports now component then
    ((manager.response respond component).foldl act counted).setMisses component 0
  else if manager.isStale component now then counted
  else manager.setMisses component 0

@[simp] theorem set_misses_threshold (manager : HeartbeatManager) (component : String)
    (misses : Nat) :
    (manager.setMisses component misses).missedThreshold = manager.missedThreshold := rfl

@[simp] theorem set_misses_on_failure (manager : HeartbeatManager) (component : String)
    (misses : Nat) : (manager.setMisses component misses).onFailure = manager.onFailure := rfl

theorem check_component_eq (manager : HeartbeatManager) (component : String)
    (failures : List (String × String)) :
    checkComponent now respond (manager, failures) component =
      (manager.visited now respond component,
        if manager.reports now component then failures ++ [(component, "heartbeat_timeout")]
        else failures) := by
  unfold checkComponent visited reports response
  by_cases stale : manager.isStale component now = true
  · by_cases reached : manager.missedThreshold ≤
        ((manager.consecutiveMisses.getD component 0 + 1 : Nat) : Int)
    · cases called : manager.onFailure <;> simp only [stale, reached, called, if_true,
        set_misses_threshold, set_misses_on_failure, decide_true, Bool.and_self, Bool.false_eq_true,
        if_false, List.foldl_nil]
    · simp only [stale, reached, if_true, set_misses_threshold, decide_false, Bool.and_false,
        Bool.false_eq_true, if_false]
  · simp only [stale, if_false, Bool.false_and, Bool.false_eq_true]

end HeartbeatManager

inductive HeartbeatOperation where
  | register (component : String) (interval : Option Int) (now : Int)
  | unregister (component : String)
  | beat (component : String) (now : Int)
  | check (now : Int) (respond : String → List CallbackAction)

/-- A manager with the log of what happened to it, the latest first. -/
structure Watched where
  manager : HeartbeatManager
  log : List (Event String)

namespace Watched

def actionEvent : CallbackAction → Event String
  | .beat component now => .seen component now
  | .unregister component => .stopped component

def act (world : Watched) (action : CallbackAction) : Watched where
  manager := world.manager.act action
  log := actionEvent action :: world.log

/-- Registering a component again is no new registration. -/
def register (world : Watched) (component : String) (interval : Option Int) (now : Int) :
    Watched where
  manager := world.manager.registerWith component interval now
  log :=
    if (world.manager.heartbeats.get? component).isSome then world.log
    else .seen component now :: world.log

variable (now : Int) (respond : String → List CallbackAction)

def visit (world : Watched) (component : String) : Watched where
  manager := world.manager.visited now respond component
  log :=
    let checked := .checked component now :: world.log
    if world.manager.reports now component then
      (world.manager.response respond component).foldl
        (fun log action => actionEvent action :: log) (.reported component :: checked)
    else checked

/-- The components that a pass reaches, each with the world in which it does. -/
def reached : List String → Watched → List (String × Watched)
  | [], _ => []
  | component :: rest, world =>
    (component, world) :: reached rest (world.visit now respond component)

def step (world : Watched) : HeartbeatOperation → Watched
  | .register component interval now => world.register component interval now
  | .unregister component => world.act (.unregister component)
  | .beat component now => world.act (.beat component now)
  | .check now respond => world.manager.heartbeats.keys.foldl (visit now respond) world

def fresh (intervalSeconds timeoutSeconds missedThreshold : Int) (onFailure : Bool) : Watched where
  manager :=
    { intervalSeconds := intervalSeconds
      timeoutSeconds := timeoutSeconds
      missedThreshold := missedThreshold
      onFailure := onFailure
      heartbeats := .empty
      consecutiveMisses := .empty }
  log := []

/-- What the counters and the reports of an operation owe to the log: a check
reports what it reaches while it is watched and has been silent in so many
checks, this one included, and the counters are those of the monitored
components. -/
structure Detects (world : Watched) (operation : HeartbeatOperation) : Prop where
  tables : ∀ component, component ∈ (world.step operation).manager.consecutiveMisses.keys ↔
      component ∈ (world.step operation).manager.heartbeats.keys
  reports : ∀ now respond, operation = .check now respond → ∀ component,
    (component, "heartbeat_timeout") ∈ (world.manager.check now respond).2 ↔
      ∃ before, (component, before) ∈ reached now respond world.manager.heartbeats.keys world ∧
        (lastSeen component before.log).isSome = true ∧
        world.manager.missedThreshold ≤
          (streak world.manager.timeoutSeconds component (.checked component now :: before.log) :
            Int)

/-- A pass reaches only what is monitored, and no callback that it calls leaves
its own component unmonitored. -/
def Undisturbed : List String → HeartbeatManager → Prop
  | [], _ => True
  | component :: rest, manager =>
    component ∈ manager.heartbeats.keys ∧ (manager.reports now component = true →
        component ∈ ((manager.response respond component).foldl HeartbeatManager.act
          manager).heartbeats.keys) ∧
      Undisturbed rest (manager.visited now respond component)

def Tame (world : Watched) : HeartbeatOperation → Prop
  | .check now respond =>
    Undisturbed now respond world.manager.heartbeats.keys world.manager
  | _ => True

end Watched

section Managers

/-- The component has been seen now and its counter is at zero. -/
def SeenNow (component : String) (now : Int) (manager next : HeartbeatManager) : Prop :=
  ∃ heartbeat : Heartbeat, heartbeat.receivedAt = now ∧
    next =
      { manager with
        heartbeats := manager.heartbeats.set component heartbeat
        consecutiveMisses := manager.consecutiveMisses.set component 0 }

theorem beat_seen_now (manager : HeartbeatManager) (component : String) (now : Int) :
    SeenNow component now manager (manager.beat component now) := by
  unfold HeartbeatManager.beat HeartbeatManager.register
  cases manager.heartbeats.get? component with
  | some previous =>
    exact ⟨{ receivedAt := now
             seq := previous.seq + 1
             intervalSeconds := previous.intervalSeconds }, rfl, rfl⟩
  | none =>
    refine ⟨{ receivedAt := now, seq := 1, intervalSeconds := manager.intervalSeconds }, rfl, ?_⟩
    dsimp only
    rw [OrderedDict.set_set, OrderedDict.set_set]

theorem register_with_seen_now {manager : HeartbeatManager} {component : String}
    (unknown : manager.heartbeats.get? component = none) (interval : Option Int) (now : Int) :
    SeenNow component now manager (manager.registerWith component interval now) := by
  unfold HeartbeatManager.registerWith
  rw [unknown]
  exact ⟨{ receivedAt := now
           seq := 0
           intervalSeconds := manager.intervalOr interval }, rfl, rfl⟩

end Managers

namespace Watched

/-- The log and the tables agree; some counters may be exempt. -/
structure Tracks (timeout threshold : Int) (exempt : String → Prop) (world : Watched) : Prop where
  timeout_eq : world.manager.timeoutSeconds = timeout
  threshold_eq : world.manager.missedThreshold = threshold
  seen : ∀ component, lastSeen component world.log =
    (world.manager.heartbeats.get? component).map Heartbeat.receivedAt
  misses : ∀ component, ¬ exempt component → world.manager.consecutiveMisses.get? component =
      (lastSeen component world.log).map fun _ => streak timeout component world.log

section Steps

variable {timeout threshold : Int} {exempt : String → Prop} {world : Watched}

theorem tracks_seen (tracks : Tracks timeout threshold exempt world) {component : String}
    {now : Int} {next : HeartbeatManager} (seen : SeenNow component now world.manager next) :
    Tracks timeout threshold exempt
      { manager := next, log := .seen component now :: world.log } := by
  obtain ⟨heartbeat, received, rfl⟩ := seen
  constructor
  · exact tracks.timeout_eq
  · exact tracks.threshold_eq
  · intro other
    rw [OrderedDict.get_set]
    by_cases same : other = component
    · rw [if_pos same, same, Option.map_some, received, last_seen_seen]
    · rw [if_neg same, last_seen_other (Ne.symm same)]
      exact tracks.seen other
  · intro other counted
    rw [OrderedDict.get_set]
    by_cases same : other = component
    · rw [if_pos same, same, last_seen_seen, streak_seen, Option.map_some]
    · rw [if_neg same, last_seen_other (Ne.symm same), streak_other _ (Ne.symm same)]
      exact tracks.misses other counted

theorem tracks_unregister (tracks : Tracks timeout threshold exempt world) (component : String) :
    Tracks timeout threshold exempt (world.act (.unregister component)) := by
  constructor
  · exact tracks.timeout_eq
  · exact tracks.threshold_eq
  · intro other
    simp only [act, HeartbeatManager.act, HeartbeatManager.unregister, OrderedDict.get_erase]
    by_cases same : other = component
    · rw [if_pos same, same]
      exact last_seen_stopped _ _
    · rw [if_neg same, last_seen_other (Ne.symm same)]
      exact tracks.seen other
  · intro other counted
    simp only [act, HeartbeatManager.act, HeartbeatManager.unregister, OrderedDict.get_erase]
    by_cases same : other = component
    · rw [if_pos same, same, actionEvent, last_seen_stopped, Option.map_none]
    · rw [if_neg same, last_seen_other (Ne.symm same), streak_other _ (Ne.symm same)]
      exact tracks.misses other counted

theorem tracks_act (tracks : Tracks timeout threshold exempt world) (action : CallbackAction) :
    Tracks timeout threshold exempt (world.act action) := by
  cases action with
  | beat component now => exact tracks_seen tracks (beat_seen_now world.manager component now)
  | unregister component => exact tracks_unregister tracks component

theorem tracks_acts (tracks : Tracks timeout threshold exempt world)
    (actions : List CallbackAction) :
    Tracks timeout threshold exempt (actions.foldl act world) := by
  induction actions generalizing world with
  | nil => exact tracks
  | cons action rest ih => exact ih (tracks_act tracks action)

theorem tracks_register (tracks : Tracks timeout threshold exempt world) (component : String)
    (interval : Option Int) (now : Int) :
    Tracks timeout threshold exempt (world.register component interval now) := by
  unfold register
  cases known : world.manager.heartbeats.get? component with
  | none => exact tracks_seen tracks (register_with_seen_now known interval now)
  | some existing =>
    rw [HeartbeatManager.registerWith.eq_def, known]
    constructor
    · exact tracks.timeout_eq
    · exact tracks.threshold_eq
    · intro other
      dsimp only
      rw [OrderedDict.get_set]
      by_cases same : other = component
      · rw [if_pos same, same, Option.isSome_some, if_pos rfl, tracks.seen, known,
          Option.map_some, Option.map_some]
      · rw [if_neg same]
        exact tracks.seen other
    · exact tracks.misses

theorem acts_eq (actions : List CallbackAction) (world : Watched) : actions.foldl act world =
      { manager := actions.foldl HeartbeatManager.act world.manager
        log := actions.foldl (fun log action => actionEvent action :: log) world.log } := by
  induction actions generalizing world with
  | nil => rfl
  | cons action rest ih => exact ih (world.act action)

theorem acts_streak {component : String} (actions : List CallbackAction)
    {log : List (Event String)} (zero : streak timeout component log = 0) :
    streak timeout component
      (actions.foldl (fun log action => actionEvent action :: log) log) = 0 := by
  induction actions generalizing log with
  | nil => exact zero
  | cons action rest ih =>
    apply ih
    by_cases same : (actionEvent action).component = component
    · cases action with
      | beat other now => exact if_pos same
      | unregister other => exact if_pos same
    · rw [streak_other _ same]
      exact zero

theorem tracks_noted (tracks : Tracks timeout threshold (fun _ => False) world)
    {component : String} {log : List (Event String)}
    (seen : ∀ other, lastSeen other log = lastSeen other world.log)
    (counted : ∀ other, other ≠ component →
      streak timeout other log = streak timeout other world.log) :
    Tracks timeout threshold (· = component) { manager := world.manager, log := log } := by
  constructor
  · exact tracks.timeout_eq
  · exact tracks.threshold_eq
  · intro other
    rw [seen other]
    exact tracks.seen other
  · intro other different
    rw [seen other, counted other different]
    exact tracks.misses other id

theorem tracks_exempt {component : String}
    (tracks : Tracks timeout threshold (· = component) world) (misses : Nat) :
    Tracks timeout threshold (· = component)
      { manager := world.manager.setMisses component misses, log := world.log } := by
  constructor
  · exact tracks.timeout_eq
  · exact tracks.threshold_eq
  · exact tracks.seen
  · intro other different
    rw [HeartbeatManager.setMisses, OrderedDict.get_set_other _ _ different]
    exact tracks.misses other different

theorem tracks_counter {component : String}
    (tracks : Tracks timeout threshold (· = component) world)
    (watched : (lastSeen component world.log).isSome = true) {misses : Nat}
    (counted : streak timeout component world.log = misses) :
    Tracks timeout threshold (fun _ => False)
      { manager := world.manager.setMisses component misses, log := world.log } := by
  constructor
  · exact tracks.timeout_eq
  · exact tracks.threshold_eq
  · exact tracks.seen
  · intro other _
    rw [HeartbeatManager.setMisses, OrderedDict.get_set]
    by_cases same : other = component
    · obtain ⟨time, last⟩ := Option.isSome_iff_exists.mp watched
      rw [if_pos same, same, last, counted, Option.map_some]
    · rw [if_neg same]
      exact tracks.misses other same

theorem monitored_iff (tracks : Tracks timeout threshold exempt world) (component : String) :
    component ∈ world.manager.heartbeats.keys ↔ (lastSeen component world.log).isSome = true := by
  rw [tracks.seen, Option.isSome_map, OrderedDict.mem_keys_iff, Option.isSome_iff_exists]

theorem stale_iff (tracks : Tracks timeout threshold exempt world) {component : String}
    (watched : component ∈ world.manager.heartbeats.keys) (now : Int) :
    world.manager.isStale component now = true ↔ Silent timeout component now world.log := by
  obtain ⟨heartbeat, found⟩ := (OrderedDict.mem_keys_iff _ _).mp watched
  rw [HeartbeatManager.isStale, found, Silent, tracks.seen, found, tracks.timeout_eq]
  simp

theorem counter_eq (tracks : Tracks timeout threshold (fun _ => False) world)
    {component : String} (watched : component ∈ world.manager.heartbeats.keys) :
    world.manager.consecutiveMisses.getD component 0 = streak timeout component world.log := by
  obtain ⟨time, last⟩ :=
    Option.isSome_iff_exists.mp ((monitored_iff tracks component).mp watched)
  rw [OrderedDict.getD, tracks.misses component id, last, Option.map_some, Option.getD_some]

theorem tracks_checked (tracks : Tracks timeout threshold (fun _ => False) world)
    (component : String) (now : Int) :
    Tracks timeout threshold (· = component)
      { manager := world.manager, log := .checked component now :: world.log } := by
  apply tracks_noted tracks
  · exact fun other => last_seen_checked other world.log component now
  · exact fun other different => streak_other timeout (Ne.symm different) world.log

theorem tracks_visit (tracks : Tracks timeout threshold (fun _ => False) world)
    {component : String} {now : Int} {respond : String → List CallbackAction}
    (watched : component ∈ world.manager.heartbeats.keys)
    (survives : world.manager.reports now component = true →
      component ∈ ((world.manager.response respond component).foldl HeartbeatManager.act
        world.manager).heartbeats.keys) :
    Tracks timeout threshold (fun _ => False) (world.visit now respond component) := by
  have seen := (monitored_iff tracks component).mp watched
  have checked := tracks_checked tracks component now
  unfold visit HeartbeatManager.visited
  cases reported : world.manager.reports now component with
  | true =>
    have noted : Tracks timeout threshold (· = component)
        { manager := world.manager
          log := .reported component :: .checked component now :: world.log } := by
      apply tracks_noted tracks
      · intro other
        rw [last_seen_reported, last_seen_checked]
      · intro other different
        rw [streak_other timeout (Ne.symm different), streak_other timeout (Ne.symm different)]
    -- the log says that the component is still monitored after the callback
    have uncounted := tracks_acts noted (world.manager.response respond component)
    rw [acts_eq] at uncounted
    have still := (monitored_iff uncounted component).mp (survives reported)
    have acted := tracks_acts (tracks_exempt noted
      (world.manager.consecutiveMisses.getD component 0 + 1))
      (world.manager.response respond component)
    rw [acts_eq] at acted
    exact tracks_counter acted still (acts_streak _ (streak_reported timeout component _))
  | false =>
    cases stale : world.manager.isStale component now with
    | true =>
      have silent := (stale_iff tracks watched now).mp stale
      apply tracks_counter checked seen
      rw [streak_checked, if_pos silent, counter_eq tracks watched]
    | false =>
      have heard : ¬ Silent timeout component now world.log := by
        rw [← stale_iff tracks watched now, stale]
        exact Bool.false_ne_true
      apply tracks_counter checked seen
      rw [streak_checked, if_neg heard]

theorem reports_iff (positive : 1 ≤ threshold)
    (tracks : Tracks timeout threshold (fun _ => False) world) {component : String}
    (watched : component ∈ world.manager.heartbeats.keys) (now : Int) :
    world.manager.reports now component = true ↔
      threshold ≤ (streak timeout component (.checked component now :: world.log) : Int) := by
  rw [HeartbeatManager.reports, Bool.and_eq_true, decide_eq_true_iff,
    stale_iff tracks watched now, counter_eq tracks watched, tracks.threshold_eq, streak_checked]
  by_cases silent : Silent timeout component now world.log
  · simp only [silent, true_and, if_true]
  · simp only [silent, false_and, if_false, false_iff]
    omega

variable {now : Int} {respond : String → List CallbackAction}

theorem tracks_pass {names : List String} (tracks : Tracks timeout threshold (fun _ => False) world)
    (undisturbed : Undisturbed now respond names world.manager) :
    Tracks timeout threshold (fun _ => False) (names.foldl (visit now respond) world) := by
  induction names generalizing world with
  | nil => exact tracks
  | cons component rest ih =>
    obtain ⟨watched, survives, later⟩ := undisturbed
    exact ih (tracks_visit tracks watched survives) later

theorem tracks_reached {names : List String}
    (tracks : Tracks timeout threshold (fun _ => False) world)
    (undisturbed : Undisturbed now respond names world.manager)
    {component : String} {before : Watched}
    (member : (component, before) ∈ reached now respond names world) :
    Tracks timeout threshold (fun _ => False) before ∧
      component ∈ before.manager.heartbeats.keys := by
  induction names generalizing world with
  | nil => cases member
  | cons name rest ih =>
    obtain ⟨watched, survives, later⟩ := undisturbed
    rcases List.mem_cons.mp member with first | further
    · cases first
      exact ⟨tracks, watched⟩
    · exact ih (tracks_visit tracks watched survives) later further

theorem mem_failures_iff (names : List String) (world : Watched)
    (failures : List (String × String)) (component : String) :
    (component, "heartbeat_timeout") ∈ (names.foldl (HeartbeatManager.checkComponent now respond)
          (world.manager, failures)).2 ↔
      (component, "heartbeat_timeout") ∈ failures ∨
        ∃ before, (component, before) ∈ reached now respond names world ∧
          before.manager.reports now component = true := by
  induction names generalizing world failures with
  | nil => simp [reached]
  | cons name rest ih =>
    have next : (world.visit now respond name).manager =
        world.manager.visited now respond name := rfl
    rw [List.foldl_cons, HeartbeatManager.check_component_eq, ← next, ih, reached]
    simp only [List.mem_cons, Prod.mk.injEq]
    cases reported : world.manager.reports now name with
    | true =>
      rw [if_pos rfl, List.mem_append, List.mem_singleton, Prod.mk.injEq, or_assoc]
      apply or_congr_right
      constructor
      · rintro (⟨rfl, -⟩ | ⟨before, later, reports⟩)
        · exact ⟨world, .inl ⟨rfl, rfl⟩, reported⟩
        · exact ⟨before, .inr later, reports⟩
      · rintro ⟨before, ⟨rfl, rfl⟩ | later, reports⟩
        · exact .inl ⟨rfl, rfl⟩
        · exact .inr ⟨before, later, reports⟩
    | false =>
      rw [if_neg Bool.false_ne_true]
      apply or_congr_right
      constructor
      · rintro ⟨before, later, reports⟩
        exact ⟨before, .inr later, reports⟩
      · rintro ⟨before, ⟨rfl, rfl⟩ | later, reports⟩
        · rw [reported] at reports
          cases reports
        · exact ⟨before, later, reports⟩

theorem tables_agree (tracks : Tracks timeout threshold (fun _ => False) world)
    (component : String) :
    component ∈ world.manager.consecutiveMisses.keys ↔
      component ∈ world.manager.heartbeats.keys := by
  rw [monitored_iff tracks, OrderedDict.mem_keys_iff, ← Option.isSome_iff_exists,
    tracks.misses component id, Option.isSome_map]

theorem tracks_step (tracks : Tracks timeout threshold (fun _ => False) world)
    {operation : HeartbeatOperation} (tame : world.Tame operation) :
    Tracks timeout threshold (fun _ => False) (world.step operation) := by
  cases operation with
  | register component interval now => exact tracks_register tracks component interval now
  | unregister component => exact tracks_act tracks (.unregister component)
  | beat component now => exact tracks_act tracks (.beat component now)
  | check now respond => exact tracks_pass tracks tame

theorem detects_of_tame (positive : 1 ≤ threshold)
    (tracks : Tracks timeout threshold (fun _ => False) world)
    {operation : HeartbeatOperation} (tame : world.Tame operation) :
    world.Detects operation := by
  constructor
  · exact tables_agree (tracks_step tracks tame)
  · rintro now respond rfl component
    rw [HeartbeatManager.check, mem_failures_iff, tracks.timeout_eq, tracks.threshold_eq]
    simp only [List.not_mem_nil, false_or]
    apply exists_congr
    intro before
    apply and_congr_right
    intro member
    obtain ⟨known, watched⟩ := tracks_reached tracks tame member
    rw [reports_iff positive known watched, ← monitored_iff known]
    exact (and_iff_right watched).symm

end Steps

theorem tracks_fresh (intervalSeconds timeoutSeconds missedThreshold : Int) (onFailure : Bool) :
    Tracks timeoutSeconds missedThreshold (fun _ => False)
      (fresh intervalSeconds timeoutSeconds missedThreshold onFailure) where
  timeout_eq := rfl
  threshold_eq := rfl
  seen _ := rfl
  misses _ _ := rfl

/-- Every operation of a run detects what it should, as long as no callback
takes a component away from the pass that calls it. -/
theorem detects_throughout (intervalSeconds timeoutSeconds : Int) {missedThreshold : Int}
    (onFailure : Bool) (positive : 1 ≤ missedThreshold) (operations : List HeartbeatOperation)
    (tame : StepsMeet step Tame
      (fresh intervalSeconds timeoutSeconds missedThreshold onFailure) operations) :
    StepsMeet step Detects
      (fresh intervalSeconds timeoutSeconds missedThreshold onFailure) operations := by
  have initial := tracks_fresh intervalSeconds timeoutSeconds missedThreshold onFailure
  apply StepsMeet.of_invariant step _ _ _ _ initial tame
  · intro world operation tracks meets
    exact tracks_step tracks meets
  · intro world operation tracks meets
    exact detects_of_tame positive tracks meets

/-- A silent component is reported, and its callback beats it. -/
theorem recovered_component_detected : StepsMeet step Detects (fresh 5 15 1 true)
      [.register "memory" none 0, .check 100 fun _ => [.beat "memory" 100]] := by
  apply detects_throughout 5 15 true (by decide)
  refine ⟨trivial, ⟨?_, ?_, trivial⟩, trivial⟩
  · decide
  · intro _
    decide

/-- Isolation unregisters the component that has failed: a counter without a
component is left. -/
theorem isolated_component_keeps_counter :
    let registered := (fresh 5 15 1 true).step (.register "memory" none 0)
    let isolated := registered.step (.check 100 fun _ => [.unregister "memory"])
    isolated.manager.consecutiveMisses.keys = ["memory"] ∧ isolated.manager.heartbeats.keys = [] ∧
      ¬ registered.Detects (.check 100 fun _ => [.unregister "memory"]) := by
  intro registered isolated
  have counters : isolated.manager.consecutiveMisses.keys = ["memory"] := by decide
  have monitored : isolated.manager.heartbeats.keys = [] := by decide
  refine ⟨counters, monitored, ?_⟩
  intro detects
  have tables := (detects.tables "memory").mp (by
    rw [show (registered.step _).manager.consecutiveMisses.keys = ["memory"] from counters]
    exact List.mem_singleton_self _)
  rw [show (registered.step _).manager.heartbeats.keys = [] from monitored] at tables
  cases tables

end Watched

end AiEnterpriseOs.Runtime
