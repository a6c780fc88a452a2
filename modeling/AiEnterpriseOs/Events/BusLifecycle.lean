import AiEnterpriseOs.Events.Bus
import AiEnterpriseOs.Events.Priorities

/-!
# Starting and stopping the bus

A publish enters, calls its subscribers one after the other and records the results.
Other publishes, starts and stops can come between. Nothing on the way to a handler
asks whether the bus is running, and nothing is put into the priority queue.
-/

namespace AiEnterpriseOs.Events

open Library

/-- A handler is called, while the bus is running or not. -/
structure Invocation where
  event : Event
  subscriber : SubscriberObject
  running : Bool

/-- A publish past the routing, with the subscribers whose turn is still to come. -/
structure PublishThread where
  env : PublishEnv
  event : Event
  mode : DeliveryMode
  remaining : List SubscriberObject
  results : List DeliveryResult

/-- The bus with its queue and the publishes under way. `held` are the publishes that were
entered since the bus was last started, while it was not running. -/
structure Lifecycle where
  bus : EventBus
  processor : PriorityProcessor
  threads : List PublishThread
  held : List PublishThread
  invoked : List Invocation

inductive LifecycleAction where
  | publish (env : PublishEnv) (event : Event) (deliveryMode : String)
  | turn (pos : Nat)
  | finish (pos : Nat)
  | start
  | stop (envs : Nat → PublishEnv)

/-- `_deliver_to_subscriber` gets as far as the handler. -/
def Dispatcher.calls (dispatcher : Dispatcher) (event : Event) (mode : DeliveryMode)
    (subscriber : Subscriber) : Bool :=
  !(mode = .exactlyOnce && event.metadata.eventId ∈ dispatcher.processedIds) &&
    subscriber.matchesType event.metadata.eventType && subscriber.isActive

namespace EventBus

def enter (env : PublishEnv) (event : Event) (deliveryMode : String) (bus : EventBus) :
    Option PublishThread :=
  if bus.middleware.all fun middleware => middleware.passes event then
    match bus.router.routeEvent event with
    | [] =>
      some { env := env, event := event, mode := .atLeastOnce, remaining := [], results := [] }
    | first :: rest =>
      (DeliveryMode.parse deliveryMode).map fun mode =>
        { env := env, event := event, mode := mode, remaining := first :: rest, results := [] }
  else none

/-- The next subscriber of the publish has its turn. -/
def turn (bus : EventBus) (thread : PublishThread) : EventBus × PublishThread × List Invocation :=
  match thread.remaining with
  | [] => (bus, thread, [])
  | target :: rest =>
    let delivery := bus.dispatcher.deliverToSubscriber thread.event target.subscriber
      (thread.env.fails target) thread.mode
    ({ bus with dispatcher := delivery.2.recordMetrics delivery.1 },
      { thread with remaining := rest, results := thread.results ++ [delivery.1] },
      if bus.dispatcher.calls thread.event thread.mode target.subscriber then
        [{ event := thread.event, subscriber := target, running := bus.running }]
      else [])

def turns : Nat → EventBus → PublishThread → EventBus × PublishThread × List Invocation
  | 0, bus, thread => (bus, thread, [])
  | count + 1, bus, thread =>
    let first := bus.turn thread
    let later := turns count first.1 first.2.1
    (later.1, later.2.1, first.2.2 ++ later.2.2)

variable (lineSize : StoreLine → Nat)

/-- What a publish does once its last subscriber had its turn. -/
def finish (thread : PublishThread) (bus : EventBus) : EventBus :=
  let handled := thread.results.foldl (handleResult thread.env thread.event) bus
  match handled.persistence with
  | none => handled.recordPublish thread.event
  | some store =>
    let persisted := store.persist lineSize thread.event thread.env.second
    let stored := { handled with persistence := some persisted.state }
    if persisted.returned then stored.recordPublish thread.event else stored

/-- The handlers that are called when the publishes run one after the other. -/
def callsOf : EventBus → List PublishThread → List Invocation
  | _, [] => []
  | bus, thread :: rest =>
    let delivered := bus.turns thread.remaining.length thread
    delivered.2.2 ++ callsOf delivered.1 rest

end EventBus

namespace Lifecycle

def create (bus : EventBus) : Lifecycle where
  bus := bus
  processor := .empty
  threads := []
  held := []
  invoked := []

variable (lineSize : StoreLine → Nat)

/-- A publish that nothing interrupts. -/
def publishNow (env : PublishEnv) (event : Event) (deliveryMode : String)
    (state : Lifecycle) : Lifecycle :=
  match state.bus.enter env event deliveryMode with
  | none => state
  | some thread =>
    let delivered := state.bus.turns thread.remaining.length thread
    { state with
      bus := delivered.1.finish lineSize delivered.2.1
      invoked := state.invoked ++ delivered.2.2 }

/-- `_flush_queue`; a publish that raises is logged. -/
def flushQueue (envs : Nat → PublishEnv) : Nat → Nat → Lifecycle → Lifecycle
  | 0, _, state => state
  | size + 1, pos, state =>
    match state.processor.dequeue with
    | (none, processor) => { state with processor := processor }
    | (some event, processor) =>
      flushQueue envs size (pos + 1) (publishNow lineSize (envs pos) event "AT_LEAST_ONCE"
          { state with processor := processor })

def step (state : Lifecycle) : LifecycleAction → Lifecycle
  | .publish env event deliveryMode =>
    match state.bus.enter env event deliveryMode with
    | none => state
    | some thread =>
      { state with
        threads := state.threads ++ [thread]
        held := if state.bus.running then state.held else state.held ++ [thread] }
  | .turn pos =>
    match state.threads[pos]? with
    | none => state
    | some thread =>
      let next := state.bus.turn thread
      { state with
        bus := next.1
        threads := state.threads.set pos next.2.1
        invoked := state.invoked ++ next.2.2 }
  | .finish pos =>
    match state.threads[pos]? with
    | none => state
    | some thread =>
      if thread.remaining = [] then
        { state with
          bus := state.bus.finish lineSize thread
          threads := state.threads.eraseIdx pos }
      else state
  | .start => { state with bus := { state.bus with running := true }, held := [] }
  | .stop envs =>
    flushQueue lineSize envs state.processor.size 0
      { state with bus := { state.bus with running := false } }

/-- The handlers that `start` has to call: those of the publishes that were held, by
priority and then in the order of arrival. -/
def heldCalls (state : Lifecycle) : List Invocation :=
  EventBus.callsOf { state.bus with running := true } (state.held.insertionSort fun left right =>
      priorityOrder left.event.metadata.priority ≤ priorityOrder right.event.metadata.priority)

/-- No handler is called while the bus is not running, and a start calls the handlers of
what was held. -/
def Lawful (state : Lifecycle) (action : LifecycleAction) : Prop :=
  (∀ invocation ∈ (state.step lineSize action).invoked, invocation.running = true) ∧
    (action = .start → (state.step lineSize action).invoked = state.invoked ++ state.heldCalls)

/-- A turn that calls a handler comes while the bus is running, and a start finds nothing
held that is for a handler. -/
def RunsHandlers (state : Lifecycle) : LifecycleAction → Prop
  | .turn pos =>
    ∀ thread target rest, state.threads[pos]? = some thread → thread.remaining = target :: rest →
      state.bus.dispatcher.calls thread.event thread.mode target.subscriber = true →
      state.bus.running = true
  | .start => state.heldCalls = []
  | .publish _ _ _ | .finish _ | .stop _ => True

section Whole

open EventBus

theorem turn_cons (bus : EventBus) (thread : PublishThread) (target : SubscriberObject)
    (rest : List SubscriberObject) (remaining : thread.remaining = target :: rest) :
    let delivery := bus.dispatcher.deliverToSubscriber thread.event target.subscriber
      (thread.env.fails target) thread.mode
    (bus.turn thread).1 = { bus with dispatcher := delivery.2.recordMetrics delivery.1 } ∧
      (bus.turn thread).2.1 =
        { thread with remaining := rest, results := thread.results ++ [delivery.1] } := by
  rw [turn, remaining]
  exact ⟨rfl, rfl⟩

theorem turns_dispatch (bus : EventBus) (thread : PublishThread)
    (targets : List SubscriberObject) (remaining : thread.remaining = targets) :
    let dispatched := Dispatcher.dispatch thread.event thread.mode bus.dispatcher
      (targets.map fun target => (target.subscriber, thread.env.fails target))
    let delivered := bus.turns targets.length thread
    delivered.1 = { bus with dispatcher := dispatched.2 } ∧ delivered.2.1 =
        { thread with remaining := [], results := thread.results ++ dispatched.1 } := by
  induction targets generalizing bus thread with
  | nil =>
    intro dispatched delivered
    refine ⟨rfl, ?_⟩
    show thread = { thread with remaining := [], results := thread.results ++ [] }
    rw [List.append_nil, ← remaining]
  | cons target rest ih =>
    obtain ⟨next, waiting⟩ := turn_cons bus thread target rest remaining
    have later := ih (bus.turn thread).1 (bus.turn thread).2.1 (by rw [waiting])
    simp only [next, waiting] at later
    simp only [List.length_cons, turns, next, waiting, List.map_cons, Dispatcher.dispatch]
    refine ⟨later.1, later.2.trans ?_⟩
    rw [List.append_assoc]
    rfl

theorem publish_now_bus (env : PublishEnv) (event : Event) (deliveryMode : String)
    (state : Lifecycle) :
    (state.publishNow lineSize env event deliveryMode).bus =
      (state.bus.publish lineSize env event deliveryMode).bus := by
  rw [publishNow, enter, publish]
  by_cases passes : (state.bus.middleware.all fun middleware => middleware.passes event) = true
  · rw [if_pos passes, if_pos passes, deliver]
    cases state.bus.router.routeEvent event with
    | nil =>
      simp only [List.length_nil, turns, finish, List.foldl_nil]
      cases state.bus.persistence with
      | none => rfl
      | some store =>
        dsimp only
        split <;> rfl
    | cons first rest =>
      cases DeliveryMode.parse deliveryMode with
      | none => rfl
      | some mode =>
        obtain ⟨bus, thread⟩ := turns_dispatch state.bus
          { env := env
            event := event
            mode := mode
            remaining := first :: rest
            results := [] } (first :: rest) rfl
        simp only [Option.map_some, bus, thread, finish, List.nil_append]
        generalize List.foldl (handleResult env event) _ _ = handled
        cases handled.persistence with
        | none => rfl
        | some store =>
          dsimp only
          split <;> rfl
  · rw [if_neg passes, if_neg passes]

end Whole

section Running

/-- The queue is empty, and no handler was called while the bus was not running. -/
structure Quiet (state : Lifecycle) : Prop where
  empty : state.processor.size = 0
  running : ∀ invocation ∈ state.invoked, invocation.running = true

theorem stop_quiet (state : Lifecycle) (empty : state.processor.size = 0)
    (envs : Nat → PublishEnv) :
    state.step lineSize (.stop envs) =
      { state with bus := { state.bus with running := false } } := by
  rw [step, empty]
  rfl

theorem turn_invoked (state : Lifecycle) (quiet : state.Quiet) (pos : Nat) :
    (∀ invocation ∈ (state.step lineSize (.turn pos)).invoked, invocation.running = true) ↔
      state.RunsHandlers (.turn pos) := by
  rw [step, RunsHandlers]
  cases state.threads[pos]? with
  | none =>
    refine iff_of_true quiet.running ?_
    intro thread target rest found
    cases found
  | some thread =>
    dsimp only
    rw [EventBus.turn]
    cases remaining : thread.remaining with
    | nil =>
      simp only [List.append_nil]
      refine iff_of_true quiet.running ?_
      intro other target rest found more
      cases found
      rw [remaining] at more
      cases more
    | cons target rest =>
      by_cases called : state.bus.dispatcher.calls thread.event thread.mode target.subscriber = true
      · simp only [called, if_true, List.forall_mem_append, List.forall_mem_singleton]
        constructor
        · rintro ⟨-, running⟩ other next more found split _
          exact running
        · intro running
          exact ⟨quiet.running, running thread target rest rfl remaining called⟩
      · simp only [if_neg called, List.append_nil]
        refine iff_of_true quiet.running ?_
        intro other next more found split calls
        cases found
        rw [remaining] at split
        cases split
        exact absurd calls called

theorem step_lawful_iff (state : Lifecycle) (action : LifecycleAction) (quiet : state.Quiet) :
    state.Lawful lineSize action ↔ state.RunsHandlers action := by
  have silent : ∀ after : Lifecycle, after.invoked = state.invoked →
      ∀ invocation ∈ after.invoked, invocation.running = true := by
    intro after same
    rw [same]
    exact quiet.running
  rw [Lawful]
  cases action with
  | publish env event deliveryMode =>
    refine iff_of_true ⟨silent _ ?_, nofun⟩ trivial
    rw [step]
    cases state.bus.enter env event deliveryMode <;> rfl
  | turn pos =>
    rw [← turn_invoked lineSize state quiet]
    exact and_iff_left nofun
  | finish pos =>
    refine iff_of_true ⟨silent _ ?_, nofun⟩ trivial
    rw [step]
    cases state.threads[pos]? with
    | none => rfl
    | some thread =>
      dsimp only
      split <;> rfl
  | start =>
    rw [and_iff_right (silent (state.step lineSize .start) rfl), RunsHandlers]
    constructor
    · intro delivers
      exact List.append_right_eq_self.mp (delivers rfl).symm
    · intro nothing _
      rw [nothing, List.append_nil]
      rfl
  | stop envs =>
    refine iff_of_true ⟨silent _ ?_, nofun⟩ trivial
    rw [stop_quiet lineSize state quiet.empty]

theorem quiet_step (state : Lifecycle) (action : LifecycleAction) (quiet : state.Quiet)
    (lawful : state.Lawful lineSize action) : (state.step lineSize action).Quiet := by
  refine ⟨?_, lawful.1⟩
  rw [← quiet.empty]
  cases action with
  | publish env event deliveryMode =>
    rw [step]
    cases state.bus.enter env event deliveryMode <;> rfl
  | turn pos =>
    rw [step]
    cases state.threads[pos]? <;> rfl
  | finish pos =>
    rw [step]
    cases state.threads[pos]? with
    | none => rfl
    | some thread =>
      dsimp only
      split <;> rfl
  | start => rfl
  | stop envs => rw [stop_quiet lineSize state quiet.empty]

/-- A run of the bus obeys its lifecycle exactly when handlers have their turn while it
is running and no start finds anything held for a handler. -/
theorem lifecycle_lawful_iff (bus : EventBus) (actions : List LifecycleAction) :
    (∀ early action late, actions = early ++ action :: late →
        (runInputs (step lineSize) (create bus) early).Lawful lineSize action) ↔
      StepsMeet (step lineSize) RunsHandlers (create bus) actions := by
  rw [← steps_meet_iff (step lineSize) (Lawful lineSize)]
  apply steps_meet_congr_of_meets (step lineSize) Quiet
  · exact quiet_step lineSize
  · exact step_lawful_iff lineSize
  · exact ⟨rfl, List.forall_mem_nil _⟩

/-- The event is delivered at once, and not by the start. -/
theorem stopped_bus_delivers :
    let subscribed : EventBus :=
      { EventBus.create none (.load none 10000) 10000 true with
        router := Router.empty.addRoute
          { name := "route:s"
            subscriber :=
              { objectId := 0
                subscriber :=
                  { subscriberId := "sub:s", name := "s", eventTypes := [], isActive := true } }
            filterChain := { filters := [] }
            priority := 100 } }
    let env : PublishEnv := { fails := fun _ => none, now := 0, second := 0 }
    let published := runInputs (step fun _ => 300) (create subscribed)
      [.publish env (.sample "a" "test" .normal) "AT_LEAST_ONCE", .turn 0, .finish 0]
    published.bus.running = false ∧
      (published.invoked.map fun invocation => invocation.event.metadata.eventId) = ["a"] ∧
      ¬published.Lawful (fun _ => 300) .start := by
  intro subscribed env published
  refine ⟨by decide +kernel, by decide +kernel, ?_⟩
  rintro ⟨running, -⟩
  have stopped : ¬∀ invocation ∈ (published.step (fun _ => 300) .start).invoked,
      invocation.running = true := by decide +kernel
  exact stopped running

end Running

end Lifecycle

end AiEnterpriseOs.Events
