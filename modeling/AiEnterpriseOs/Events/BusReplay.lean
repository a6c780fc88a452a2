import AiEnterpriseOs.Events.Bus
import Mathlib.Data.List.Flatten

/-!
# What replays and requeues do to the store

Publishing an event writes it to the store once it is past the middleware and
the dispatch. A replay with the default handler publishes what it has read, so
it writes those events again.
-/

namespace AiEnterpriseOs.Events

open Library

section Ids

def StoreLine.eventId : StoreLine → Option String
  | .event stored => some stored.metadata.eventId
  | _ => none

def EventPersistence.ids (store : EventPersistence) : List String :=
  store.records.filterMap StoreLine.eventId

def eventIds (events : List Event) : List String :=
  events.map fun event => event.metadata.eventId

variable (lineSize : StoreLine → Nat)

theorem rotate_records_sublist (store : EventPersistence) (now : Nat) :
    (store.rotate now).state.records.Sublist store.records := by
  rw [EventPersistence.rotate]
  cases present : store.file with
  | none => exact List.Sublist.refl _
  | some lines =>
    simp only [EventPersistence.records, Outcome.returning_state, present, Option.getD_some,
      Option.getD_none, List.append_nil, List.flatMap_append, List.flatMap_singleton]
    exact (List.filter_sublist.flatMap Prod.snd).append_right _

theorem persist_records_sublist (store : EventPersistence) (event : Event) (now : Nat) :
    (store.persist lineSize event now).state.records.Sublist (store.records ++ [.event event]) := by
  rw [EventPersistence.persist, EventPersistence.writeRecord]
  apply @Outcome.and_then_state EventPersistence (fun ready => ready.records.Sublist store.records)
    (fun written => written.records.Sublist (store.records ++ [StoreLine.event event]))
  · split
    · exact List.Sublist.refl _
    · exact rotate_records_sublist store now
  · intro ready kept
    exact kept.trans (List.sublist_append_left _ _)
  · intro ready kept
    show (ready.append lineSize _).records.Sublist _
    rw [PersistRun.append_records]
    exact kept.append_right _

theorem persist_ids_sublist (store : EventPersistence) (event : Event) (now : Nat) :
    (store.persist lineSize event now).state.ids.Sublist
      (store.ids ++ [event.metadata.eventId]) := by
  have kept := (persist_records_sublist lineSize store event now).filterMap StoreLine.eventId
  rwa [List.filterMap_append] at kept

end Ids

namespace EventBus

/-- The parts of the bus that decide how an event is published. -/
def wiring (bus : EventBus) : List Middleware × Router × Option ReplayHandler :=
  (bus.middleware, bus.router, bus.replayHandler)

/-- A publish of the event gets as far as the store. -/
def persists (bus : EventBus) (deliveryMode : String) (event : Event) : Bool :=
  (bus.middleware.all fun middleware => middleware.passes event) &&
    ((bus.router.routeEvent event).isEmpty || (DeliveryMode.parse deliveryMode).isSome)

theorem persists_congr {first second : EventBus} (same : first.wiring = second.wiring)
    (deliveryMode : String) : first.persists deliveryMode = second.persists deliveryMode := by
  have middleware : first.middleware = second.middleware := congrArg Prod.fst same
  have router : first.router = second.router := congrArg (fun wiring => wiring.2.1) same
  funext event
  rw [persists, persists, middleware, router]

section Publishing

theorem handle_results_frame (env : PublishEnv) (event : Event) (results : List DeliveryResult)
    (bus : EventBus) :
    (results.foldl (handleResult env event) bus).wiring = bus.wiring ∧
      (results.foldl (handleResult env event) bus).persistence = bus.persistence := by
  induction results generalizing bus with
  | nil => exact ⟨rfl, rfl⟩
  | cons result rest ih =>
    have step : (handleResult env event bus result).wiring = bus.wiring ∧
        (handleResult env event bus result).persistence = bus.persistence := by
      rw [handleResult]
      split <;> exact ⟨rfl, rfl⟩
    obtain ⟨wiring, persistence⟩ := ih (handleResult env event bus result)
    exact ⟨wiring.trans step.1, persistence.trans step.2⟩

theorem deliver_frame (env : PublishEnv) (event : Event) (deliveryMode : String) (bus : EventBus) :
    (bus.deliver env event deliveryMode).bus.wiring = bus.wiring ∧
      (bus.deliver env event deliveryMode).bus.persistence = bus.persistence ∧
      (bus.deliver env event deliveryMode).results.isSome =
        ((bus.router.routeEvent event).isEmpty ||
          (DeliveryMode.parse deliveryMode).isSome) := by
  rw [deliver]
  cases bus.router.routeEvent event with
  | nil => exact ⟨rfl, rfl, rfl⟩
  | cons first rest =>
    cases DeliveryMode.parse deliveryMode with
    | none => exact ⟨rfl, rfl, rfl⟩
    | some mode =>
      obtain ⟨wiring, persistence⟩ := handle_results_frame env event
        (Dispatcher.dispatch event mode bus.dispatcher ((first :: rest).map fun target =>
          (target.subscriber, env.fails target))).1
        { bus with
          dispatcher := (Dispatcher.dispatch event mode bus.dispatcher
            ((first :: rest).map fun target =>
              (target.subscriber, env.fails target))).2 }
      exact ⟨wiring, persistence, rfl⟩

variable (lineSize : StoreLine → Nat)

theorem publish_frame (env : PublishEnv) (event : Event) (deliveryMode : String) (bus : EventBus) :
    (bus.publish lineSize env event deliveryMode).bus.wiring = bus.wiring ∧
      (bus.publish lineSize env event deliveryMode).bus.persistence =
        bus.persistence.map fun store =>
          if bus.persists deliveryMode event then
            (store.persist lineSize event env.second).state
          else store := by
  obtain ⟨wiring, persistence, results⟩ := deliver_frame env event deliveryMode bus
  rw [publish, persists, ← results]
  by_cases passes : (bus.middleware.all fun middleware => middleware.passes event) = true
  · rw [if_pos passes, passes, Bool.true_and]
    generalize bus.deliver env event deliveryMode = delivered at wiring persistence
    obtain ⟨after, outcome⟩ := delivered
    cases outcome with
    | none =>
      refine ⟨wiring, persistence.trans ?_⟩
      exact Option.map_id'.symm
    | some results =>
      cases stored : after.persistence with
      | none =>
        have missing : bus.persistence = none := persistence.symm.trans stored
        simp only [stored, missing]
        exact ⟨wiring, stored⟩
      | some store =>
        have same : bus.persistence = some store := persistence.symm.trans stored
        simp only [stored, same]
        split <;> exact ⟨wiring, rfl⟩
  · rw [if_neg passes]
    have blocked : (bus.middleware.all fun middleware => middleware.passes event) = false := by
      simpa using passes
    rw [blocked, Bool.false_and]
    refine ⟨rfl, ?_⟩
    simp

/-- The store after the events were published one after the other. -/
def republish (persists : Event → Bool) (seconds : Nat → Nat) :
    Nat → List Event → EventPersistence → EventPersistence
  | _, [], store => store
  | pos, event :: rest, store =>
    republish persists seconds (pos + 1) rest
      (if persists event then (store.persist lineSize event (seconds pos)).state else store)

theorem republish_ids_sublist (persists : Event → Bool) (seconds : Nat → Nat) (pos : Nat)
    (events : List Event) (store : EventPersistence) :
    (republish lineSize persists seconds pos events store).ids.Sublist
      (store.ids ++ eventIds (events.filter persists)) := by
  induction events generalizing pos store with
  | nil =>
    rw [republish, List.filter_nil, eventIds, List.map_nil, List.append_nil]
  | cons event rest ih =>
    rw [republish]
    by_cases written : persists event = true
    · rw [if_pos written, List.filter_cons_of_pos written]
      apply (ih _ _).trans
      rw [eventIds, eventIds, List.map_cons, List.append_cons]
      exact (persist_ids_sublist lineSize store event (seconds pos)).append_right _
    · rw [if_neg written, List.filter_cons_of_neg written]
      exact ih _ _

theorem republish_none (persists : Event → Bool) (seconds : Nat → Nat) (pos : Nat)
    (events : List Event) (nobody : ∀ event ∈ events, persists event = false)
    (store : EventPersistence) :
    republish lineSize persists seconds pos events store = store := by
  induction events generalizing pos with
  | nil => rfl
  | cons event rest ih =>
    rw [republish, nobody event List.mem_cons_self]
    exact ih _ fun other member => nobody other (List.mem_cons_of_mem _ member)

end Publishing

section Operations

variable (lineSize : StoreLine → Nat)

/-- The events that a replay of the request goes through. -/
def selected (bus : EventBus) (request : ReplayRequest) : List Event :=
  (bus.loadEvents request.query).getD []

theorem replay_loop_cons {World : Type*} (handler : WorldHandler World)
    (ticks : Nat → ReplayTick) (sessionId : String) (event : Event) (rest : List Event)
    (run : ReplayRun World) :
    let outcome := handler run.session.processed event run.world
    let session := run.session.counted outcome.returned
    let final := replayLoop handler ticks sessionId (event :: rest) run
    ∃ flags,
      final = { session := { run.session with state := .completed }
                cancelFlags := flags
                world := run.world } ∨
      final = { session := { session with state := .failed }
                cancelFlags := flags
                world := outcome.state } ∨
      final = replayLoop handler ticks sessionId rest
                { session := session, cancelFlags := flags, world := outcome.state } := by
  simp only [replayLoop]
  generalize (if (ticks run.session.processed).cancelled = true then
    run.cancelFlags.insert sessionId else run.cancelFlags) = flags
  split
  · exact ⟨flags.erase sessionId, .inl rfl⟩
  · refine ⟨flags, .inr ?_⟩
    split
    · exact .inl rfl
    · exact .inr rfl

theorem replay_loop_republishes (publishing : Nat → PublishEnv) (ticks : Nat → ReplayTick)
    (sessionId : String) (events : List Event) (run : ReplayRun EventBus) :
    let final := replayLoop (publishAsReplayHandler lineSize publishing) ticks sessionId events run
    ∃ count, final.session.processed = run.session.processed + count ∧
      final.world.persistence = run.world.persistence.map
        (republish lineSize (run.world.persists "AT_LEAST_ONCE")
          (fun pos => (publishing pos).second) run.session.processed (events.take count)) := by
  induction events generalizing run with
  | nil => exact ⟨0, rfl, Option.map_id'.symm⟩
  | cons event rest ih =>
    obtain ⟨wiring, persistence⟩ := publish_frame lineSize
      (publishing run.session.processed) event "AT_LEAST_ONCE" run.world
    have written : ∀ count, (run.world.publish lineSize (publishing run.session.processed) event
          "AT_LEAST_ONCE").bus.persistence.map
            (republish lineSize (run.world.persists "AT_LEAST_ONCE")
              (fun pos => (publishing pos).second) (run.session.processed + 1)
              (rest.take count)) =
          run.world.persistence.map (republish lineSize (run.world.persists "AT_LEAST_ONCE")
              (fun pos => (publishing pos).second) run.session.processed
              ((event :: rest).take (count + 1))) := by
      intro count
      rw [persistence, Option.map_map]
      rfl
    obtain ⟨flags, cancelled | raised | further⟩ := replay_loop_cons
      (publishAsReplayHandler lineSize publishing) ticks sessionId event rest run
    · rw [cancelled]
      exact ⟨0, rfl, Option.map_id'.symm⟩
    · rw [raised]
      exact ⟨1, rfl, Option.map_id'.symm.trans (written 0)⟩
    · rw [further]
      obtain ⟨count, processed, stored⟩ := ih
        { session := run.session.counted
            (publishAsReplayHandler lineSize publishing run.session.processed event
              run.world).returned
          cancelFlags := flags
          world := (publishAsReplayHandler lineSize publishing run.session.processed event
            run.world).state }
      refine ⟨count + 1, ?_, ?_⟩
      · rw [processed]
        show run.session.processed + 1 + count = _
        omega
      · rw [stored, ← written count, ← persists_congr wiring "AT_LEAST_ONCE"]
        rfl

theorem replay_loop_invariant {World : Type*} (invariant : World → Prop)
    (handler : WorldHandler World)
    (keeps : ∀ pos event world, invariant world → invariant (handler pos event world).state)
    (ticks : Nat → ReplayTick) (sessionId : String) (events : List Event)
    (run : ReplayRun World) (initial : invariant run.world) :
    invariant (replayLoop handler ticks sessionId events run).world := by
  induction events generalizing run with
  | nil => exact initial
  | cons event rest ih =>
    have next := keeps run.session.processed event run.world initial
    obtain ⟨flags, cancelled | raised | further⟩ :=
      replay_loop_cons handler ticks sessionId event rest run
    · rw [cancelled]
      exact initial
    · rw [raised]
      exact next
    · rw [further]
      exact ih _ next

theorem replay_cases (env : ReplayEnv) (request : ReplayRequest)
    (handler : Option ReplayHandler) (bus : EventBus) :
    (bus.loadEvents request.query = none ∧
      ((bus.replay lineSize env request handler).1.processed = 0 ∧
        ∃ engine, (bus.replay lineSize env request handler).2 =
          { bus with replayEngine := engine })) ∨
    ∃ events sessionId run, bus.loadEvents request.query = some events ∧
      run.session.processed = 0 ∧ run.world = bus ∧
      let final := replayLoop (bus.effectiveHandler lineSize env.publishing handler) env.ticks
        sessionId events run
      (bus.replay lineSize env request handler).1 = final.session ∧
        ∃ engine, (bus.replay lineSize env request handler).2 =
          { final.world with replayEngine := engine } := by
  rw [replay, ReplayEngine.replay]
  cases loaded : bus.loadEvents request.query with
  | none => exact .inl ⟨rfl, rfl, _, rfl⟩
  | some events =>
    exact .inr ⟨events, _, _, rfl, rfl, rfl, rfl, _, rfl⟩

theorem replay_store (env : ReplayEnv) (request : ReplayRequest)
    (handler : Option ReplayHandler) (bus : EventBus) :
    (bus.replay lineSize env request handler).2.wiring = bus.wiring ∧
      (bus.replay lineSize env request handler).2.persistence =
        if (handler.or bus.replayHandler).isSome then bus.persistence
        else bus.persistence.map (republish lineSize (bus.persists "AT_LEAST_ONCE")
            (fun pos => (env.publishing pos).second) 0
            ((bus.selected request).take
              (bus.replay lineSize env request handler).1.processed)) := by
  rcases replay_cases lineSize env request handler bus with
    ⟨loaded, processed, engine, result⟩ | ⟨events, sessionId, run, loaded, fresh, world, session,
      engine, result⟩
  · have nothing : bus.selected request = [] := by
      rw [selected, loaded]
      rfl
    rw [nothing, List.take_nil, result]
    refine ⟨rfl, ?_⟩
    split
    · rfl
    · exact Option.map_id'.symm
  · have events_eq : bus.selected request = events := by
      rw [selected, loaded]
      rfl
    rw [result, session, events_eq]
    cases effective : handler.or bus.replayHandler with
    | some callback =>
      have same := replay_loop_invariant (fun other => other = bus)
        (bus.effectiveHandler lineSize env.publishing handler)
        (by
          intro pos event other unchanged
          rw [effectiveHandler, effective]
          exact unchanged)
        env.ticks sessionId events run world
      rw [same]
      exact ⟨rfl, rfl⟩
    | none =>
      have publishes : bus.effectiveHandler lineSize env.publishing handler =
          publishAsReplayHandler lineSize env.publishing := by
        rw [effectiveHandler, effective]
      have wiring := replay_loop_invariant (fun other => other.wiring = bus.wiring)
        (publishAsReplayHandler lineSize env.publishing)
        (fun pos event other same =>
          (publish_frame lineSize (env.publishing pos) event "AT_LEAST_ONCE" other).1.trans same)
        env.ticks sessionId events run (congrArg wiring world)
      obtain ⟨count, processed, stored⟩ := replay_loop_republishes lineSize env.publishing
        env.ticks sessionId events run
      rw [fresh, Nat.zero_add] at processed
      rw [publishes, processed]
      rw [fresh, world] at stored
      exact ⟨wiring, stored⟩

theorem publish_each_store (envs : Nat → PublishEnv) (pos : Nat) (events : List Event)
    (results : List DeliveryResult) (bus : EventBus) :
    ∃ count, (bus.publishEach lineSize envs pos events results).bus.persistence =
      bus.persistence.map
        (republish lineSize (bus.persists "AT_LEAST_ONCE") (fun pos => (envs pos).second) pos
          (events.take count)) := by
  induction events generalizing pos results bus with
  | nil => exact ⟨0, Option.map_id'.symm⟩
  | cons event rest ih =>
    obtain ⟨wiring, persistence⟩ := publish_frame lineSize (envs pos) event "AT_LEAST_ONCE" bus
    have written : ∀ count,
        (bus.publish lineSize (envs pos) event "AT_LEAST_ONCE").bus.persistence.map
            (republish lineSize (bus.persists "AT_LEAST_ONCE") (fun pos => (envs pos).second)
              (pos + 1) (rest.take count)) =
          bus.persistence.map
            (republish lineSize (bus.persists "AT_LEAST_ONCE") (fun pos => (envs pos).second)
              pos ((event :: rest).take (count + 1))) := by
      intro count
      rw [persistence, Option.map_map]
      rfl
    rw [publishEach]
    cases (bus.publish lineSize (envs pos) event "AT_LEAST_ONCE").results with
    | none => exact ⟨1, Option.map_id'.symm.trans (written 0)⟩
    | some more =>
      obtain ⟨count, stored⟩ := ih (pos + 1) (results ++ more)
        (bus.publish lineSize (envs pos) event "AT_LEAST_ONCE").bus
      refine ⟨count + 1, ?_⟩
      rw [← written count, ← persists_congr wiring "AT_LEAST_ONCE"]
      exact stored

end Operations

section Runs

inductive BusOperation where
  | publish (env : PublishEnv) (event : Event) (deliveryMode : String)
  | replay (env : ReplayEnv) (request : ReplayRequest) (handler : Option ReplayHandler)
  | requeue (envs : Nat → PublishEnv) (count : Int)

variable (lineSize : StoreLine → Nat)

def step (bus : EventBus) : BusOperation → EventBus
  | .publish env event deliveryMode => (bus.publish lineSize env event deliveryMode).bus
  | .replay env request handler => (bus.replay lineSize env request handler).2
  | .requeue envs count => (bus.requeueDeadLetter lineSize envs count).bus

/-- The events that an operation would write to the store. -/
def attempted (bus : EventBus) : BusOperation → List Event
  | .publish _ event deliveryMode => [event].filter (bus.persists deliveryMode)
  | .replay _ request handler =>
    if (handler.or bus.replayHandler).isSome then []
    else (bus.selected request).filter (bus.persists "AT_LEAST_ONCE")
  | .requeue _ count =>
    (bus.deadLetter.requeueEvents count).1.filter (bus.persists "AT_LEAST_ONCE")

def storedIds (bus : EventBus) : List String :=
  (bus.persistence.map EventPersistence.ids).getD []

/-- The events that the operation would write have ids of their own, which the
store does not hold. -/
def WritesNewIds (bus : EventBus) (operation : BusOperation) : Prop :=
  (eventIds (bus.attempted operation)).Nodup ∧
    ∀ eventId ∈ eventIds (bus.attempted operation), eventId ∉ bus.storedIds

instance (bus : EventBus) (operation : BusOperation) : Decidable (bus.WritesNewIds operation) :=
  inferInstanceAs (Decidable ((eventIds (bus.attempted operation)).Nodup ∧
    ∀ eventId ∈ eventIds (bus.attempted operation), eventId ∉ bus.storedIds))

theorem stored_ids_sublist (bus after : EventBus) (persists : Event → Bool)
    (seconds : Nat → Nat) (pos : Nat) (events attempted : List Event)
    (part : (events.filter persists).Sublist attempted)
    (stored : after.persistence =
      bus.persistence.map (republish lineSize persists seconds pos events)) :
    after.storedIds.Sublist (bus.storedIds ++ eventIds attempted) := by
  rw [storedIds, storedIds, stored]
  cases bus.persistence with
  | none => exact List.nil_sublist _
  | some store =>
    exact (republish_ids_sublist lineSize persists seconds pos events store).trans
      ((part.map _).append_left _)

theorem step_ids_sublist (bus : EventBus) (operation : BusOperation) :
    (bus.step lineSize operation).storedIds.Sublist
      (bus.storedIds ++ eventIds (bus.attempted operation)) := by
  cases operation with
  | publish env event deliveryMode =>
    exact stored_ids_sublist lineSize bus _ (bus.persists deliveryMode)
      (fun _ => env.second) 0 [event] _ (List.Sublist.refl _)
      (publish_frame lineSize env event deliveryMode bus).2
  | replay env request handler =>
    have stored := (replay_store lineSize env request handler bus).2
    by_cases callback : (handler.or bus.replayHandler).isSome = true
    · rw [if_pos callback] at stored
      rw [storedIds, step, stored]
      exact List.sublist_append_left _ _
    · rw [if_neg callback] at stored
      rw [attempted, if_neg callback]
      exact stored_ids_sublist lineSize bus _ _ _ 0 _ _ ((List.take_sublist _ _).filter _) stored
  | requeue envs count =>
    obtain ⟨published, stored⟩ := publish_each_store lineSize envs 0
      (bus.deadLetter.requeueEvents count).1 []
      { bus with deadLetter := (bus.deadLetter.requeueEvents count).2 }
    exact stored_ids_sublist lineSize bus _ _ _ 0 _ _
      ((List.take_sublist published _).filter _) stored

theorem ids_unique_step (bus : EventBus) (operation : BusOperation)
    (unique : bus.storedIds.Nodup) (new : bus.WritesNewIds operation) :
    (bus.step lineSize operation).storedIds.Nodup := by
  apply (step_ids_sublist lineSize bus operation).nodup
  apply List.nodup_append.mpr
  refine ⟨unique, new.1, ?_⟩
  intro eventId stored other written same
  exact new.2 other written (same ▸ stored)

/-- A replay with the default handler publishes what it processes. A replay
that has nothing to write leaves the store and what it selects as they are.
Ids stay unique in every run whose operations write new ids. -/
theorem replay_republishes : (∀ (env : ReplayEnv) (request : ReplayRequest) (bus : EventBus),
      bus.replayHandler = none →
      (bus.replay lineSize env request none).2.persistence = bus.persistence.map
          (republish lineSize (bus.persists "AT_LEAST_ONCE")
            (fun pos => (env.publishing pos).second) 0
            ((bus.selected request).take (bus.replay lineSize env request none).1.processed))) ∧
    (∀ (env : ReplayEnv) (request : ReplayRequest) (handler : Option ReplayHandler)
      (bus : EventBus), bus.attempted (.replay env request handler) = [] →
      (bus.replay lineSize env request handler).2.persistence = bus.persistence ∧
        (bus.replay lineSize env request handler).2.selected request = bus.selected request) ∧
    ∀ (bus : EventBus) (operations : List BusOperation), bus.storedIds.Nodup →
      StepsMeet (step lineSize) WritesNewIds bus operations →
      (runInputs (step lineSize) bus operations).storedIds.Nodup := by
  refine ⟨fun env request bus plain => ?_, fun env request handler bus nothing => ?_,
    fun bus operations unique meets => ?_⟩
  · have stored := (replay_store lineSize env request none bus).2
    rwa [plain, if_neg (by simp)] at stored
  · have stored := (replay_store lineSize env request handler bus).2
    have unchanged : (bus.replay lineSize env request handler).2.persistence =
        bus.persistence := by
      by_cases callback : (handler.or bus.replayHandler).isSome = true
      · rw [stored, if_pos callback]
      · rw [attempted, if_neg callback] at nothing
        rw [stored, if_neg callback]
        cases bus.persistence with
        | none => rfl
        | some store =>
          apply congrArg some
          apply republish_none
          intro event member
          simpa using List.filter_eq_nil_iff.mp nothing event (List.mem_of_mem_take member)
    exact ⟨unchanged, by rw [selected, selected, loadEvents, loadEvents, unchanged]⟩
  · exact invariant_of_steps_meet (step lineSize) (ids_unique_step lineSize) bus operations
      unique meets

def overEvents (events : List Event) : EventBus :=
  create (some (.create (fun _ => 300) (some (events.map StoreLine.event)) [] 104857600))
    (.load none 10000) 10000 true

/-- The handlers all raise the error, or all return. -/
def steadyEnv (failure : Failure) : PublishEnv where
  fails _ := failure
  now := 0
  second := 0

def replayAll : ReplayRequest where
  sessionId := some "all"
  since := none
  «until» := none
  eventTypes := []
  sourceFilter := none
  maxEvents := 1000
  limit := none

def steadyReplay : ReplayEnv where
  seconds := 0
  ticks _ := { cancelled := false, progressRaises := false }
  publishing _ := steadyEnv none

theorem quiet_runs_keep_store :
    let silent := overEvents [.sample "a" "" .normal]
    let operations : List BusOperation :=
      [.publish (steadyEnv none) (.sample "a" "test" .normal) "AT_LEAST_ONCE",
        .replay steadyReplay replayAll (some fun _ _ => none),
        .requeue (fun _ => steadyEnv none) 1]
    (silent.replay (fun _ => 300) steadyReplay replayAll none).2.persistence =
        silent.persistence.map
          (republish (fun _ => 300) (silent.persists "AT_LEAST_ONCE") (fun _ => 0) 0
            ((silent.selected replayAll).take
              (silent.replay (fun _ => 300) steadyReplay replayAll none).1.processed)) ∧
      (silent.replay (fun _ => 300) steadyReplay replayAll none).2.persistence =
        silent.persistence ∧
      (runInputs (step fun _ => 300) (overEvents []) operations).storedIds.Nodup := by
  intro silent operations
  obtain ⟨publishes, quiet, unique⟩ := replay_republishes fun _ => 300
  refine ⟨publishes steadyReplay replayAll silent rfl, ?_, ?_⟩
  · have nothing : silent.attempted (.replay steadyReplay replayAll none) = [] :=
      List.eq_nil_of_length_eq_zero (by decide +kernel)
    exact (quiet steadyReplay replayAll none silent nothing).1
  · exact unique (overEvents []) operations (by decide +kernel)
      ⟨by decide +kernel, by decide +kernel, by decide +kernel, trivial⟩

/-- A replayed and a requeued event are each in the store twice. -/
theorem replayed_event_stored_twice :
    let stored := overEvents [.sample "a" "test" .normal]
    let replayed := (stored.replay (fun _ => 300) steadyReplay replayAll none).2
    let subscribed : EventBus :=
      { overEvents [] with
        router := Router.empty.addRoute
          { name := "route:s"
            subscriber :=
              { objectId := 0
                subscriber :=
                  { subscriberId := "sub:s", name := "s", eventTypes := [], isActive := true } }
            filterChain := { filters := [] }
            priority := 100 } }
    let requeued := runInputs (step fun _ => 300) subscribed
      [.publish (steadyEnv (some "boom")) (.sample "b" "test" .normal) "AT_LEAST_ONCE",
        .requeue (fun _ => steadyEnv none) 1]
    stored.storedIds = ["a"] ∧ replayed.storedIds = ["a", "a"] ∧
      (stored.selected replayAll).length = 1 ∧ (replayed.selected replayAll).length = 2 ∧
      replayed.persistence ≠ stored.persistence ∧ requeued.storedIds = ["b", "b"] := by
  intro stored replayed subscribed requeued
  have before : stored.storedIds = ["a"] := by decide +kernel
  have after : replayed.storedIds = ["a", "a"] := by decide +kernel
  refine ⟨before, after, by decide +kernel, by decide +kernel, fun same => ?_,
    by decide +kernel⟩
  rw [storedIds, same, ← storedIds, before] at after
  cases after

end Runs

end EventBus

end AiEnterpriseOs.Events
