import AiEnterpriseOs.Events.Persistence
import AiEnterpriseOs.Library.OrderedDict

/-!
# The replay engine

A replay loads the events that a request selects and calls a handler for each.
The handler acts on a world of its own; a failure of one event is counted and
the next one follows.
-/

namespace AiEnterpriseOs.Events

open Library

structure ReplayRequest where
  sessionId : Option String
  since : Option Int
  «until» : Option Int
  eventTypes : List EventType
  sourceFilter : Option String
  maxEvents : Nat
  limit : Option Int

/-- The filters that the engine passes to `load_events`; a limit of zero counts
as none. -/
def ReplayRequest.query (request : ReplayRequest) : EventQuery where
  since := request.since
  «until» := request.«until»
  eventTypes := request.eventTypes
  sourceFilter := request.sourceFilter
  limit :=
    match request.limit with
    | none => 10000
    | some limit => if limit = 0 then 10000 else limit

inductive ReplayState where
  | pending
  | running
  | completed
  | failed
  | cancelled
  deriving DecidableEq

structure ReplaySession where
  request : ReplayRequest
  state : ReplayState
  totalEvents : Nat
  processed : Nat
  succeeded : Nat
  failed : Nat

namespace ReplaySession

def start (request : ReplayRequest) : ReplaySession where
  request := request
  state := .running
  totalEvents := 0
  processed := 0
  succeeded := 0
  failed := 0

/-- Counts one event whose handler returned or raised. -/
def counted (session : ReplaySession) (returned : Bool) : ReplaySession :=
  { session with
    processed := session.processed + 1
    succeeded := if returned then session.succeeded + 1 else session.succeeded
    failed := if returned then session.failed else session.failed + 1 }

end ReplaySession

/-- What happens around one event: whether the session is cancelled before it,
and whether the progress callback raises after it. -/
structure ReplayTick where
  cancelled : Bool
  progressRaises : Bool

structure ReplayRun (World : Type*) where
  session : ReplaySession
  cancelFlags : List String
  world : World

/-- The handler as it acts when it is called for the event at a position. -/
abbrev WorldHandler (World : Type*) := Nat → Event → World → Outcome World

section Loop

variable {World : Type*}

/-- The loop of `replay` over the loaded events, up to the state it leaves. -/
def replayLoop (handler : WorldHandler World) (ticks : Nat → ReplayTick)
    (sessionId : String) : List Event → ReplayRun World → ReplayRun World
  | [], run => { run with session := { run.session with state := .completed } }
  | event :: rest, run =>
    let tick := ticks run.session.processed
    let cancelFlags :=
      if tick.cancelled then run.cancelFlags.insert sessionId else run.cancelFlags
    if sessionId ∈ cancelFlags then
      -- `cancelled` is overwritten after the loop
      { run with
        session := { run.session with state := .completed }
        cancelFlags := cancelFlags.erase sessionId }
    else
      let outcome := handler run.session.processed event run.world
      let session := run.session.counted outcome.returned
      if tick.progressRaises then
        { session := { session with state := .failed }
          cancelFlags := cancelFlags
          world := outcome.state }
      else
        replayLoop handler ticks sessionId rest
          { session := session, cancelFlags := cancelFlags, world := outcome.state }

end Loop

structure ReplayEngine where
  sessions : OrderedDict String ReplaySession
  cancelFlags : List String

structure ReplayResult (World : Type*) where
  session : ReplaySession
  engine : ReplayEngine
  world : World
  returned : Bool

namespace ReplayEngine

def empty : ReplayEngine := { sessions := .empty, cancelFlags := [] }

def sessionName (request : ReplayRequest) (seconds : Nat) : String :=
  match request.sessionId with
  | none => "replay_" ++ toString seconds
  | some name => if name = "" then "replay_" ++ toString seconds else name

/-- `replay` with what `load_events` returns, `none` where it raises. -/
def replay {World : Type*} (engine : ReplayEngine) (request : ReplayRequest) (seconds : Nat)
    (load : EventQuery → Option (List Event)) (handler : Option (WorldHandler World))
    (ticks : Nat → ReplayTick) (world : World) : ReplayResult World :=
  let sessionId := sessionName request seconds
  let session := ReplaySession.start request
  match handler with
  | none =>
    { session := session
      engine := { engine with sessions := engine.sessions.set sessionId session }
      world := world
      returned := false }
  | some handler =>
    let run : ReplayRun World :=
      match load request.query with
      | none =>
        { session := { session with state := .failed }
          cancelFlags := engine.cancelFlags
          world := world }
      | some events =>
        replayLoop handler ticks sessionId events
          { session := { session with totalEvents := events.length }
            cancelFlags := engine.cancelFlags
            world := world }
    { session := run.session
      engine :=
        { sessions := engine.sessions.set sessionId run.session
          cancelFlags := run.cancelFlags }
      world := run.world
      returned := true }

end ReplayEngine

end AiEnterpriseOs.Events
