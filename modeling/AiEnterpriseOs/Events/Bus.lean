import AiEnterpriseOs.Events.Dispatcher
import AiEnterpriseOs.Events.Models
import AiEnterpriseOs.Events.Replay
import Mathlib.Data.List.Basic
import Mathlib.Data.List.Sort

/-!
# The event bus

A published event passes the middleware, goes to its subscribers, and is then
persisted and recorded. Replays and requeued dead letters take the same path.
-/

/-!
## Dead letters and history

Failed deliveries wait in a queue with a file of its own. The history keeps
the latest entries only.
-/

namespace AiEnterpriseOs.Events

section Queue

structure DeadLetterRecord where
  event : Event
  subscriberName : String
  error : String
  failedAt : Int
  retryCount : Nat
  lastEnvelope : Option EventEnvelope

structure DeadLetterQueue where
  records : List DeadLetterRecord
  /-- The lines of the file; one that does not load is skipped. -/
  file : Option (List (Option DeadLetterRecord))
  maxRecords : Nat

namespace DeadLetterQueue

def load (file : Option (List (Option DeadLetterRecord))) (maxRecords : Nat) : DeadLetterQueue where
  records := (file.getD []).filterMap id
  file := file
  maxRecords := maxRecords

def appendRecord (queue : DeadLetterQueue) (record : DeadLetterRecord) : DeadLetterQueue :=
  { queue with file := some (queue.file.getD [] ++ [some record]) }

def saveAll (queue : DeadLetterQueue) : DeadLetterQueue :=
  { queue with file := some (queue.records.map some) }

/-- Drops the oldest records in memory beyond the limit. -/
def enforceMax (queue : DeadLetterQueue) : DeadLetterQueue :=
  { queue with records := queue.records.drop (queue.records.length - queue.maxRecords) }

def add (queue : DeadLetterQueue) (record : DeadLetterRecord) : DeadLetterQueue :=
  ({ queue with records := queue.records ++ [record] }.appendRecord record).enforceMax

/-- Where `records[:count]` ends; a negative count is taken from the end. -/
def cut (queue : DeadLetterQueue) (count : Int) : Nat :=
  if 0 ≤ count then count.toNat else queue.records.length - count.natAbs

def pop (queue : DeadLetterQueue) (count : Int) : List DeadLetterRecord × DeadLetterQueue :=
  (queue.records.take (queue.cut count),
    { queue with records := queue.records.drop (queue.cut count) }.saveAll)

def requeueEvents (queue : DeadLetterQueue) (count : Int) : List Event × DeadLetterQueue :=
  let popped := queue.pop count
  (popped.1.map DeadLetterRecord.event, popped.2)

end DeadLetterQueue

end Queue

section History

structure HistoryEntry where
  eventId : String
  eventType : String
  source : String
  action : String
  details : List (String × PyValue)

structure EventHistory where
  maxEntries : Nat
  entries : List HistoryEntry

namespace EventHistory

/-- `deque.append`: the oldest entry leaves a full history. -/
def push (history : EventHistory) (entry : HistoryEntry) : EventHistory :=
  let entries := history.entries ++ [entry]
  { history with entries := entries.drop (entries.length - history.maxEntries) }

def entryFor (event : Event) (action : String) (details : List (String × PyValue)) :
    HistoryEntry where
  eventId := event.metadata.eventId
  eventType := event.metadata.eventType.value
  source := event.metadata.source
  action := action
  details := details

def recordPublish (history : EventHistory) (event : Event) : EventHistory :=
  history.push (entryFor event "published" [("priority", .str event.metadata.priority.value),
      ("correlation_id", (event.metadata.correlationId.map PyValue.str).getD .none)])

def recordDelivery (history : EventHistory) (event : Event) (result : DeliveryResult) :
    EventHistory :=
  history.push (entryFor event (if result.status = .delivered then "delivered" else "failed")
    (("subscriber", .str result.subscriberName) ::
      if result.error = "" then [] else [("error", .str result.error)]))

def recordDeadLetter (history : EventHistory) (event : Event) (subscriberName error : String) :
    EventHistory :=
  history.push (entryFor event "dead_lettered"
    [("subscriber", .str subscriberName), ("error", .str error)])

end EventHistory

end History

end AiEnterpriseOs.Events

/-!
## Routing

Routes pair a chain of filters with a subscriber. An event goes to the
subscribers of the routes that let it pass, each of them once.
-/

namespace AiEnterpriseOs.Events

section Filters

inductive EventFilter where
  | typeFilter (eventTypes : List EventType)
  | priorityFilter (minPriority : EventPriority)
  | sourceFilter (sources : List String)
  | tagFilter (requiredTags : List String)
  | payloadFilter (conditions : List (String × PyValue))
  | andFilter (filters : List EventFilter)
  | orFilter (filters : List EventFilter)
  | notFilter (inner : EventFilter)

namespace EventFilter

mutual

/-- `filter.matches(event)`. Priorities compare with `<=` as the texts they are. -/
def matchesEvent (event : Event) : EventFilter → Bool
  | .typeFilter eventTypes => event.metadata.eventType ∈ eventTypes
  | .priorityFilter minPriority => event.metadata.priority.value ≤ minPriority.value
  | .sourceFilter sources => event.metadata.source ∈ sources
  | .tagFilter requiredTags => requiredTags.all fun tag => tag ∈ event.metadata.tags
  | .payloadFilter conditions =>
    conditions.all fun condition =>
      (PyValue.field event.payload condition.1).any fun stored =>
        stored.equal condition.2
  | .andFilter filters => allMatch event filters
  | .orFilter filters => anyMatches event filters
  | .notFilter inner => !matchesEvent event inner

def allMatch (event : Event) : List EventFilter → Bool
  | [] => true
  | filter :: rest => matchesEvent event filter && allMatch event rest

def anyMatches (event : Event) : List EventFilter → Bool
  | [] => false
  | filter :: rest => matchesEvent event filter || anyMatches event rest

end

/-- `self & other`. -/
def and (self other : EventFilter) : EventFilter := .andFilter [self, other]

/-- `self | other`. -/
def or (self other : EventFilter) : EventFilter := .orFilter [self, other]

end EventFilter

structure FilterChain where
  filters : List EventFilter

def FilterChain.passes (chain : FilterChain) (event : Event) : Bool :=
  if chain.filters.isEmpty then true else EventFilter.allMatch event chain.filters

end Filters

/-- A subscriber with the identity that `in` compares. -/
structure SubscriberObject where
  objectId : Nat
  subscriber : Subscriber
  deriving DecidableEq

structure Route where
  name : String
  subscriber : SubscriberObject
  filterChain : FilterChain
  priority : Int

structure Router where
  routes : List Route

namespace Router

def empty : Router := { routes := [] }

def addRoute (router : Router) (route : Route) : Router where
  routes := (router.routes ++ [route]).insertionSort fun left right =>
    left.priority ≤ right.priority

/-- Removes the first route of that name. -/
def removeRoute (router : Router) (name : String) : Router where
  routes := router.routes.eraseP fun route => route.name = name

/-- The loop of `route_event`. -/
def routeLoop (event : Event) : List Route → List SubscriberObject → List SubscriberObject
  | [], subscribers => subscribers
  | route :: rest, subscribers =>
    if route.subscriber ∈ subscribers then routeLoop event rest subscribers
    else if route.filterChain.passes event then
      routeLoop event rest (subscribers ++ [route.subscriber])
    else routeLoop event rest subscribers

def routeEvent (router : Router) (event : Event) : List SubscriberObject :=
  routeLoop event router.routes []

end Router

end AiEnterpriseOs.Events

namespace AiEnterpriseOs.Events

open Library

inductive Middleware where
  | logging
  | validation
  | metrics
  deriving DecidableEq

/-- Whether the middleware hands the event on; otherwise it raises. -/
def Middleware.passes (middleware : Middleware) (event : Event) : Bool :=
  match middleware with
  | .validation => event.metadata.source ≠ ""
  | .logging | .metrics => true

/-- What one publish meets: the failures of the handlers, and the clock in UTC
and in local seconds. -/
structure PublishEnv where
  fails : SubscriberObject → Failure
  now : Int
  second : Nat

/-- What a handler passed to `replay` does when it is called for the event at a
position; it does not act on the bus. -/
abbrev ReplayHandler := Nat → Event → Failure

structure EventBus where
  running : Bool
  middleware : List Middleware
  router : Router
  dispatcher : Dispatcher
  metrics : EventMetrics
  history : EventHistory
  persistence : Option EventPersistence
  deadLetter : DeadLetterQueue
  replayEngine : ReplayEngine
  replayHandler : Option ReplayHandler

/-- The bus after a publish with the results, `none` where it raised. -/
structure Published where
  bus : EventBus
  results : Option (List DeliveryResult)

/-- What a replay meets: the clock, what happens around each event and what
each publish meets. -/
structure ReplayEnv where
  seconds : Nat
  ticks : Nat → ReplayTick
  publishing : Nat → PublishEnv

namespace EventBus

/-- A new bus over a store, with the default middleware if it is enabled. -/
def create (persistence : Option EventPersistence) (deadLetter : DeadLetterQueue)
    (maxHistory : Nat) (enableMiddleware : Bool) : EventBus where
  running := false
  middleware := if enableMiddleware then [.logging, .validation, .metrics] else []
  router := .empty
  dispatcher := .empty
  metrics := .empty
  history := { maxEntries := maxHistory, entries := [] }
  persistence := persistence
  deadLetter := deadLetter
  replayEngine := .empty
  replayHandler := none

section Publishing

/-- A failed result goes to the dead letters, any other to the history. -/
def handleResult (env : PublishEnv) (event : Event) (bus : EventBus)
    (result : DeliveryResult) : EventBus :=
  if result.status = .failed then
    { bus with
      deadLetter := bus.deadLetter.add
        { event := event
          subscriberName := result.subscriberName
          error := if result.error = "" then "unknown error" else result.error
          failedAt := env.now
          retryCount := 3
          lastEnvelope := none }
      history := bus.history.recordDeadLetter event result.subscriberName
        (if result.error = "" then "unknown" else result.error) }
  else { bus with history := bus.history.recordDelivery event result }

def deliver (env : PublishEnv) (event : Event) (deliveryMode : String) (bus : EventBus) :
    Published :=
  match bus.router.routeEvent event with
  | [] => { bus := bus, results := some [] }
  | first :: rest =>
    match DeliveryMode.parse deliveryMode with
    | none => { bus := bus, results := none }
    | some mode =>
      let targets := (first :: rest).map fun target =>
        (target.subscriber, env.fails target)
      let dispatched := Dispatcher.dispatch event mode bus.dispatcher targets
      { bus := dispatched.1.foldl (handleResult env event)
          { bus with dispatcher := dispatched.2 }
        results := some dispatched.1 }

/-- The last step of `publish`. -/
def recordPublish (bus : EventBus) (event : Event) : EventBus :=
  { bus with
    metrics := bus.metrics.recordPublish event
    history := bus.history.recordPublish event }

variable (lineSize : StoreLine → Nat)

def publish (env : PublishEnv) (event : Event) (deliveryMode : String) (bus : EventBus) :
    Published :=
  if bus.middleware.all fun middleware => middleware.passes event then
    let delivered := bus.deliver env event deliveryMode
    match delivered.results with
    | none => delivered
    | some results =>
      match delivered.bus.persistence with
      | none => { bus := delivered.bus.recordPublish event, results := some results }
      | some store =>
        let persisted := store.persist lineSize event env.second
        let bus := { delivered.bus with persistence := some persisted.state }
        if persisted.returned then
          { bus := bus.recordPublish event, results := some results }
        else { bus := bus, results := none }
  else { bus := bus, results := none }

/-- The loop of `requeue_dead_letter`; what raises ends it. -/
def publishEach (envs : Nat → PublishEnv) :
    Nat → List Event → List DeliveryResult → EventBus → Published
  | _, [], results, bus => { bus := bus, results := some results }
  | pos, event :: rest, results, bus =>
    let published := bus.publish lineSize (envs pos) event "AT_LEAST_ONCE"
    match published.results with
    | none => published
    | some more => publishEach envs (pos + 1) rest (results ++ more) published.bus

def requeueDeadLetter (envs : Nat → PublishEnv) (count : Int) (bus : EventBus) : Published :=
  let requeued := bus.deadLetter.requeueEvents count
  publishEach lineSize envs 0 requeued.1 [] { bus with deadLetter := requeued.2 }

end Publishing

section Replaying

variable (lineSize : StoreLine → Nat)

def publishAsReplayHandler (publishing : Nat → PublishEnv) : WorldHandler EventBus :=
  fun pos event bus =>
    let published := bus.publish lineSize (publishing pos) event "AT_LEAST_ONCE"
    { state := published.bus, returned := published.results.isSome }

def effectiveHandler (bus : EventBus) (publishing : Nat → PublishEnv)
    (handler : Option ReplayHandler) : WorldHandler EventBus :=
  match handler.or bus.replayHandler with
  | some handler => fun pos event bus =>
    { state := bus, returned := (handler pos event).isNone }
  | none => publishAsReplayHandler lineSize publishing

/-- `load_events` of the store; without one the engine raises. -/
def loadEvents (bus : EventBus) (query : EventQuery) : Option (List Event) :=
  bus.persistence.bind fun store => store.loadEvents query

def replay (env : ReplayEnv) (request : ReplayRequest) (handler : Option ReplayHandler)
    (bus : EventBus) : ReplaySession × EventBus :=
  let result := bus.replayEngine.replay request env.seconds bus.loadEvents
    (some (bus.effectiveHandler lineSize env.publishing handler)) env.ticks bus
  (result.session, { result.world with replayEngine := result.engine })

def setReplayHandler (handler : ReplayHandler) (bus : EventBus) : EventBus :=
  { bus with replayHandler := some handler }

end Replaying

end EventBus

end AiEnterpriseOs.Events
