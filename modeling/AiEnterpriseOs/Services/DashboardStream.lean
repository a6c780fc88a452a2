import AiEnterpriseOs.Events.Replay

/-!
# The stream of a dashboard client

A client is registered for live events and then gets a replay of the stored ones. The
bus calls the bridge before it writes to the store, so an event can be too early for
the registration and too late for the replay.
-/

namespace AiEnterpriseOs.Services

open Library Events

/-- What waits on the event loop: the fan-out of a published event to the clients, or a
replayed event for the one client. -/
inductive LoopCallback where
  | fanout (event : Event)
  | replayed (event : Event)

def LoopCallback.event : LoopCallback → Event
  | fanout event => event
  | replayed event => event

/-- One client of the bridge, the publishes under way and the event loop between them. -/
structure DashboardStream where
  store : Option EventPersistence
  /-- The bridge has its route on the bus. -/
  subscribed : Bool
  registered : Bool
  /-- Publishes that are routed, each with whether it found the bridge. -/
  entered : List (Event × Bool)
  /-- Publishes that called their subscribers and are not stored yet. -/
  dispatched : List Event
  callbacks : List LoopCallback
  /-- What the replay has still to hand over, once it has read the store. -/
  replaying : Option (List Event)
  queue : List Event
  taken : List Event
  overflowed : Bool
  published : List Event
  /-- The events whose fan-out comes after the registration. -/
  comesLive : List Event
  loaded : List Event

inductive StreamAction where
  | connectOther
  | publish (event : Event)
  | dispatch (pos : Nat)
  | store (pos : Nat) (second : Nat)
  | register
  | read
  | replayNext
  | runCallback
  | takeNext

def storedEvent : StoreLine → Option Event
  | .event event => some event
  | _ => none

/-- The request of `_replay_into`. -/
def replayRequest (since : Int) : ReplayRequest where
  sessionId := none
  since := some since
  «until» := none
  eventTypes := []
  sourceFilter := none
  maxEvents := 1000
  limit := some 1000

namespace DashboardStream

def start (store : Option EventPersistence) (subscribed : Bool) : DashboardStream where
  store := store
  subscribed := subscribed
  registered := false
  entered := []
  dispatched := []
  callbacks := []
  replaying := none
  queue := []
  taken := []
  overflowed := false
  published := (store.map fun store => store.records.filterMap storedEvent).getD []
  comesLive := []
  loaded := []

/-- The events of the replay; where reading raises, its session fails. -/
def stored (since : Int) (stream : DashboardStream) : List Event :=
  match stream.store with
  | none => []
  | some store => (store.loadEvents (replayRequest since).query).getD []

/-- `_safe_put`; a queue with the limit zero is never full. -/
def safePut (maxQueue : Nat) (event : Event) (stream : DashboardStream) : DashboardStream :=
  if maxQueue = 0 ∨ stream.queue.length < maxQueue then
    { stream with queue := stream.queue ++ [event] }
  else { stream with queue := stream.queue.tail ++ [event], overflowed := true }

/-- The events of the publishes that found the bridge. -/
def bridged (stream : DashboardStream) : List Event :=
  (stream.entered.filter Prod.snd).map Prod.fst

variable (lineSize : StoreLine → Nat) (since : Int) (maxQueue : Nat)

def step (stream : DashboardStream) : StreamAction → DashboardStream
  | .connectOther => { stream with subscribed := true }
  | .publish event =>
    { stream with
      entered := stream.entered ++ [(event, stream.subscribed)]
      comesLive := if stream.registered then stream.comesLive ++ [event] else [] }
  | .dispatch pos =>
    match stream.entered[pos]? with
    | none => stream
    | some (event, bridged) =>
      { stream with
        entered := stream.entered.eraseIdx pos
        dispatched := stream.dispatched ++ [event]
        callbacks :=
          if bridged then stream.callbacks ++ [.fanout event] else stream.callbacks }
  | .store pos second =>
    match stream.dispatched[pos]? with
    | none => stream
    | some event =>
      let left := { stream with dispatched := stream.dispatched.eraseIdx pos }
      match stream.store with
      | none => { left with published := stream.published ++ [event] }
      | some store =>
        let persisted := store.persist lineSize event second
        { left with
          store := some persisted.state
          published :=
            if persisted.returned then stream.published ++ [event]
            else stream.published }
  | .register =>
    if stream.registered then stream
    else
      { stream with
        registered := true
        subscribed := true
        comesLive := stream.bridged ++ stream.callbacks.map LoopCallback.event }
  | .read =>
    if stream.registered ∧ stream.replaying.isNone then
      { stream with
        replaying := some (stream.stored since)
        loaded := stream.stored since }
    else stream
  | .replayNext =>
    match stream.replaying with
    | some (event :: rest) =>
      { stream with
        replaying := some rest
        callbacks := stream.callbacks ++ [.replayed event] }
    | _ => stream
  | .runCallback =>
    match stream.callbacks with
    | [] => stream
    | .fanout event :: rest =>
      if stream.registered then safePut maxQueue event { stream with callbacks := rest }
      else { stream with callbacks := rest }
    | .replayed event :: rest => safePut maxQueue event { stream with callbacks := rest }
  | .takeNext =>
    match stream.queue with
    | [] => stream
    | event :: rest =>
      { stream with queue := rest, taken := stream.taken ++ [event] }

/-- No publish is under way, the replay is through and the event loop has run. -/
structure Quiescent (stream : DashboardStream) : Prop where
  entered : stream.entered = []
  dispatched : stream.dispatched = []
  callbacks : stream.callbacks = []
  replayed : stream.replaying = some []

/-- The client has every event that was published at or after the time. -/
def Complete (stream : DashboardStream) : Prop :=
  ∀ event ∈ stream.published, since ≤ event.metadata.timestamp →
    event ∈ stream.taken ++ stream.queue

/-- Every such event was fanned out after the registration or read by the replay. -/
def HandedOver (stream : DashboardStream) : Prop :=
  ∀ event ∈ stream.published, since ≤ event.metadata.timestamp →
    event ∈ stream.comesLive ∨ event ∈ stream.loaded

section Accounting

/-- The client has the event or will get it. -/
def Reaches (stream : DashboardStream) (event : Event) : Prop :=
  event ∈ stream.taken ∨ event ∈ stream.queue ∨
    event ∈ stream.callbacks.map LoopCallback.event ∨ event ∈ stream.bridged ∨
    event ∈ stream.replaying.getD []

/-- Nothing is for the client before it is registered. From then on it gets what is fanned
out and what the replay has read, until its queue overflows. -/
structure Accounted (stream : DashboardStream) : Prop where
  unread : stream.replaying = none → stream.loaded = []
  unregistered : stream.registered = false →
    stream.replaying = none ∧ stream.overflowed = false ∧ stream.queue = [] ∧
      stream.taken = [] ∧ ∀ event, LoopCallback.replayed event ∉ stream.callbacks
  subscribed : stream.registered = true → stream.subscribed = true
  heard : stream.registered = true → stream.overflowed = false →
    ∀ event, stream.Reaches event ↔ event ∈ stream.comesLive ∨ event ∈ stream.loaded

theorem mem_erase_idx {Item : Type*} {items : List Item} {pos : Nat} {item : Item}
    (found : items[pos]? = some item) (other : Item) :
    other ∈ items ↔ other = item ∨ other ∈ items.eraseIdx pos := by
  induction items generalizing pos with
  | nil => cases found
  | cons head rest ih =>
    cases pos with
    | zero =>
      cases found
      simp
    | succ pos =>
      have later := ih (by simpa using found)
      simp only [List.mem_cons, List.eraseIdx_cons_succ, later]
      tauto

theorem mem_bridged (stream : DashboardStream) (event : Event) :
    event ∈ stream.bridged ↔ (event, true) ∈ stream.entered := by
  simp [bridged]

theorem start_accounted (store : Option EventPersistence) (subscribed : Bool) :
    (start store subscribed).Accounted where
  unread _ := rfl
  unregistered _ := ⟨rfl, rfl, rfl, rfl, fun _ => List.not_mem_nil⟩
  subscribed registered := nomatch registered
  heard registered := nomatch registered

theorem publish_accounted (stream : DashboardStream) (accounted : stream.Accounted)
    (event : Event) : (stream.step lineSize since maxQueue (.publish event)).Accounted := by
  rw [step]
  refine ⟨accounted.unread, accounted.unregistered, accounted.subscribed, ?_⟩
  intro registered room other
  have registered : stream.registered = true := registered
  have before := accounted.heard registered room other
  simp only [Reaches, mem_bridged] at before
  simp only [Reaches, mem_bridged, registered, accounted.subscribed registered, if_true,
    List.mem_append, List.mem_singleton, Prod.mk.injEq, and_true]
  apply Iff.trans _ (or_right_comm.trans (or_congr_left before.symm)).symm
  simp only [or_comm, or_left_comm]

theorem dispatch_accounted (stream : DashboardStream) (accounted : stream.Accounted)
    (pos : Nat) : (stream.step lineSize since maxQueue (.dispatch pos)).Accounted := by
  rw [step]
  cases found : stream.entered[pos]? with
  | none => exact accounted
  | some entry =>
    obtain ⟨event, bridged⟩ := entry
    refine ⟨accounted.unread, ?_, accounted.subscribed, ?_⟩
    · intro waits
      obtain ⟨unread, room, queue, taken, live⟩ := accounted.unregistered waits
      refine ⟨unread, room, queue, taken, fun other => ?_⟩
      cases bridged with
      | false => exact live other
      | true => simp [live other]
    · intro registered room other
      have before := accounted.heard registered room other
      have moved := mem_erase_idx found (other, true)
      simp only [Reaches, mem_bridged] at before ⊢
      rw [← before, moved]
      cases bridged with
      | false => simp
      | true =>
        simp only [if_true, List.map_append, List.map_singleton, LoopCallback.event,
          List.mem_append, List.mem_singleton, Prod.mk.injEq, and_true, or_assoc]

theorem store_accounted (stream : DashboardStream) (accounted : stream.Accounted)
    (pos second : Nat) :
    (stream.step lineSize since maxQueue (.store pos second)).Accounted := by
  rw [step]
  cases stream.dispatched[pos]? with
  | none => exact accounted
  | some event =>
    cases stream.store with
    | none =>
      exact ⟨accounted.unread, accounted.unregistered, accounted.subscribed, accounted.heard⟩
    | some store =>
      exact ⟨accounted.unread, accounted.unregistered, accounted.subscribed, accounted.heard⟩

theorem register_accounted (stream : DashboardStream) (accounted : stream.Accounted) :
    (stream.step lineSize since maxQueue .register).Accounted := by
  rw [step]
  by_cases registered : stream.registered = true
  · rw [if_pos registered]
    exact accounted
  · rw [if_neg registered]
    obtain ⟨unread, -, queue, taken, -⟩ :=
      accounted.unregistered (Bool.eq_false_iff.mpr registered)
    refine ⟨accounted.unread, nofun, fun _ => rfl, ?_⟩
    intro _ _ event
    simp only [Reaches, unread, queue, taken, accounted.unread unread, Option.getD_none,
      List.mem_append, List.not_mem_nil, false_or, or_false]
    exact or_comm

theorem read_accounted (stream : DashboardStream) (accounted : stream.Accounted) :
    (stream.step lineSize since maxQueue .read).Accounted := by
  rw [step]
  split
  · next ready =>
    have unread := Option.isNone_iff_eq_none.mp ready.2
    refine ⟨nofun, ?_, accounted.subscribed, ?_⟩
    · intro waits
      rw [ready.1] at waits
      cases waits
    · intro registered room event
      have before := accounted.heard registered room event
      simp only [Reaches, unread, accounted.unread unread, Option.getD_none, Option.getD_some,
        List.not_mem_nil, or_false] at before ⊢
      rw [← before]
      simp only [or_assoc]
      rfl
  · exact accounted

theorem replay_next_accounted (stream : DashboardStream) (accounted : stream.Accounted) :
    (stream.step lineSize since maxQueue .replayNext).Accounted := by
  rw [step]
  cases replaying : stream.replaying with
  | none => exact accounted
  | some events =>
    cases events with
    | nil => exact accounted
    | cons event rest =>
      refine ⟨nofun, ?_, accounted.subscribed, ?_⟩
      · intro waits
        rw [(accounted.unregistered waits).1] at replaying
        cases replaying
      · intro registered room other
        have before := accounted.heard registered room other
        simp only [Reaches, replaying, Option.getD_some, List.mem_cons] at before
        simp only [Reaches, Option.getD_some, List.map_append, List.map_singleton,
          LoopCallback.event, List.mem_append, List.mem_singleton]
        rw [← before]
        simp only [bridged, or_assoc, or_comm, or_left_comm]

theorem safe_put_accounted (stream : DashboardStream) (accounted : stream.Accounted)
    (registered : stream.registered = true) (first : LoopCallback) (rest : List LoopCallback)
    (callbacks : stream.callbacks = first :: rest) :
    (safePut maxQueue first.event { stream with callbacks := rest }).Accounted := by
  rw [safePut]
  split
  · refine ⟨accounted.unread, ?_, accounted.subscribed, ?_⟩
    · intro waits
      rw [registered] at waits
      cases waits
    · intro _ room other
      have before := accounted.heard registered room other
      simp only [Reaches, callbacks, List.map_cons, List.mem_cons] at before
      simp only [Reaches, List.mem_append, List.mem_singleton]
      rw [← before]
      simp only [bridged, or_assoc]
  · refine ⟨accounted.unread, ?_, accounted.subscribed, fun _ room => nomatch room⟩
    intro waits
    rw [registered] at waits
    cases waits

theorem run_callback_accounted (stream : DashboardStream) (accounted : stream.Accounted) :
    (stream.step lineSize since maxQueue .runCallback).Accounted := by
  rw [step]
  cases callbacks : stream.callbacks with
  | nil => exact accounted
  | cons first rest =>
    by_cases registered : stream.registered = true
    · have put :=
        safe_put_accounted maxQueue stream accounted registered first rest callbacks
      cases first with
      | fanout event =>
        simp only [if_pos registered]
        exact put
      | replayed event => exact put
    · have waits := Bool.eq_false_iff.mpr registered
      obtain ⟨unread, room, queue, taken, live⟩ := accounted.unregistered waits
      rw [callbacks] at live
      cases first with
      | replayed event => exact absurd List.mem_cons_self (live event)
      | fanout event =>
        simp only [if_neg registered]
        refine ⟨accounted.unread, fun _ => ⟨unread, room, queue, taken, ?_⟩,
          accounted.subscribed, fun registers => absurd registers registered⟩
        intro other member
        exact live other (List.mem_cons_of_mem _ member)

theorem take_next_accounted (stream : DashboardStream) (accounted : stream.Accounted) :
    (stream.step lineSize since maxQueue .takeNext).Accounted := by
  rw [step]
  cases queue : stream.queue with
  | nil => exact accounted
  | cons event rest =>
    refine ⟨accounted.unread, ?_, accounted.subscribed, ?_⟩
    · intro waits
      rw [(accounted.unregistered waits).2.2.1] at queue
      cases queue
    · intro registered room other
      have before := accounted.heard registered room other
      simp only [Reaches, queue, List.mem_cons] at before
      simp only [Reaches, List.mem_append, List.mem_singleton]
      rw [← before]
      simp only [bridged, or_assoc]

theorem accounted_step (stream : DashboardStream) (action : StreamAction)
    (accounted : stream.Accounted) :
    (stream.step lineSize since maxQueue action).Accounted := by
  cases action with
  | connectOther =>
    exact ⟨accounted.unread, accounted.unregistered, fun _ => rfl, accounted.heard⟩
  | publish event => exact publish_accounted lineSize since maxQueue stream accounted event
  | dispatch pos => exact dispatch_accounted lineSize since maxQueue stream accounted pos
  | store pos second =>
    exact store_accounted lineSize since maxQueue stream accounted pos second
  | register => exact register_accounted lineSize since maxQueue stream accounted
  | read => exact read_accounted lineSize since maxQueue stream accounted
  | replayNext => exact replay_next_accounted lineSize since maxQueue stream accounted
  | runCallback => exact run_callback_accounted lineSize since maxQueue stream accounted
  | takeNext => exact take_next_accounted lineSize since maxQueue stream accounted

end Accounting

section Completeness

end Completeness

section Backlog

variable (query : EventQuery)

theorem load_loop_oldest (lines : List StoreLine)
    (readable : ∀ line ∈ lines, line ≠ .value) (events : List Event)
    (room : (events.length : Int) < query.limit) :
    EventPersistence.loadLoop query lines events =
      some ((events ++ (lines.filterMap storedEvent).filter query.selects).take
        query.limit.toNat) := by
  induction lines generalizing events with
  | nil =>
    have whole : events.length ≤ query.limit.toNat := by omega
    simp [EventPersistence.loadLoop, List.take_of_length_le whole]
  | cons line rest ih =>
    have later := ih fun other member => readable other (List.mem_cons_of_mem _ member)
    cases line with
    | value => exact absurd rfl (readable .value List.mem_cons_self)
    | event event =>
      rw [EventPersistence.loadLoop, List.filterMap_cons]
      simp only [storedEvent]
      by_cases selects : query.selects event = true
      · rw [if_pos selects, List.filter_cons_of_pos selects,
          List.append_cons events event (List.filter query.selects _)]
        by_cases full : query.limit ≤ (events ++ [event]).length
        · have size : query.limit.toNat = (events ++ [event]).length := by
            simp only [List.length_append, List.length_singleton] at full ⊢
            omega
          rw [if_pos full, size, List.take_left]
        · rw [if_neg full]
          exact later _ (by omega)
      · rw [if_neg selects, List.filter_cons_of_neg selects]
        exact later events room
    | envelope event => exact later events room
    | object => exact later events room
    | malformed => exact later events room
    | blank => exact later events room

theorem stored_oldest (stream : DashboardStream) (store : EventPersistence)
    (lines : List StoreLine) (present : stream.store = some store)
    (held : store.file = some lines) (readable : ∀ line ∈ lines, line ≠ .value) :
    stream.stored since = ((lines.filterMap storedEvent).filter fun event =>
        since ≤ event.metadata.timestamp).take 1000 := by
  have loaded := load_loop_oldest (replayRequest since).query lines readable []
    (show (0 : Int) < 1000 by decide)
  have selects : (replayRequest since).query.selects =
      fun event => decide (since ≤ event.metadata.timestamp) := by
    funext event
    simp [EventQuery.selects, ReplayRequest.query, replayRequest]
  simp only [stored, present, EventPersistence.loadEvents, held]
  rw [loaded, selects]
  rfl

theorem stored_event_replayed :
    let store : EventPersistence :=
      .create (fun _ => 300) (some [.event (.sample "a" "test" .normal), .malformed]) [] 104857600
    (start (some store) false).stored 0 = [.sample "a" "test" .normal] := by
  intro store
  exact stored_oldest 0 (start (some store) false) store _ rfl rfl (by simp)

end Backlog

end DashboardStream

end AiEnterpriseOs.Services
