import AiEnterpriseOs.Events.BusReplay
import AiEnterpriseOs.Library.RecentWindow

/-!
# Requeuing dead letters

The records are popped before their events are published. What raises on the way
loses the records that were popped and not published, and the dead letters of the
republished events can displace the records that were not popped.
-/

namespace AiEnterpriseOs.Events

open Library

/-- Where a republish raises: in the middleware or the routing, in the dispatch after
its first subscribers, while the dead letter of a result is written, or in the store. -/
inductive RaisePoint where
  | entering
  | dispatching (done : Nat)
  | recording (pos : Nat)
  | persisting

structure Republish where
  env : PublishEnv
  raises : Option RaisePoint

/-- What a requeue meets: the file as a failing pop leaves it, and each republish. -/
structure RequeueEnv where
  leftFile : Option (List (Option DeadLetterRecord))
  attempts : Nat → Republish

/-- The bus after a requeue, with the events whose publish returned. -/
structure Requeue where
  bus : EventBus
  published : List Event

/-- The handler is called and raises. -/
def Subscriber.fails (event : Event) (target : Subscriber × Failure) : Bool :=
  target.1.matchesType event.metadata.eventType && (target.1.handle target.2).isSome

namespace EventBus

section Requeuing

def targets (env : PublishEnv) (event : Event) (bus : EventBus) : List (Subscriber × Failure) :=
  (bus.router.routeEvent event).map fun target => (target.subscriber, env.fails target)

def dispatchTo (env : PublishEnv) (event : Event) (bus : EventBus) (done : Nat) :
    List DeliveryResult × Dispatcher :=
  Dispatcher.dispatch event .atLeastOnce bus.dispatcher ((bus.targets env event).take done)

def letterFor (env : PublishEnv) (event : Event) (result : DeliveryResult) : DeadLetterRecord where
  event := event
  subscriberName := result.subscriberName
  error := if result.error = "" then "unknown error" else result.error
  failedAt := env.now
  retryCount := 3
  lastEnvelope := none

/-- A failed result whose dead letter is in memory when writing it raises. -/
def leaveUnwritten (env : PublishEnv) (event : Event) (bus : EventBus)
    (result : DeliveryResult) : EventBus :=
  if result.status = .failed then
    { bus with
      deadLetter :=
        { bus.deadLetter with
          records := bus.deadLetter.records ++ [letterFor env event result] } }
  else bus

/-- The bus where the publish raises at the point, if it gets there. -/
def interrupted (env : PublishEnv) (event : Event) (bus : EventBus) : RaisePoint → Option EventBus
  | .entering => some bus
  | .dispatching done =>
    if bus.targets env event = [] then none
    else some { bus with dispatcher := (bus.dispatchTo env event done).2 }
  | .recording pos =>
    let dispatched := bus.dispatchTo env event (bus.targets env event).length
    dispatched.1[pos]?.map
      (leaveUnwritten env event ((dispatched.1.take pos).foldl (handleResult env event)
        { bus with dispatcher := dispatched.2 }))
  | .persisting =>
    bus.persistence.map fun _ => (bus.deliver env event "AT_LEAST_ONCE").bus

variable (lineSize : StoreLine → Nat)

def publishAttempt (attempt : Republish) (event : Event) (bus : EventBus) : Published :=
  if bus.middleware.all fun middleware => middleware.passes event then
    match attempt.raises.bind (bus.interrupted attempt.env event) with
    | some left => { bus := left, results := none }
    | none => bus.publish lineSize attempt.env event "AT_LEAST_ONCE"
  else { bus := bus, results := none }

def publishAttempts (attempts : Nat → Republish) : Nat → List Event → EventBus → Requeue
  | _, [], bus => { bus := bus, published := [] }
  | pos, event :: rest, bus =>
    let published := bus.publishAttempt lineSize (attempts pos) event
    if published.results.isSome then
      let later := publishAttempts attempts (pos + 1) rest published.bus
      { later with published := event :: later.published }
    else { bus := published.bus, published := [] }

def requeue (env : RequeueEnv) (count : Int) (bus : EventBus) : Requeue :=
  let requeued := bus.deadLetter.requeueEvents count
  match env.leftFile with
  | none =>
    publishAttempts lineSize env.attempts 0 requeued.1 { bus with deadLetter := requeued.2 }
  | some lines =>
    { bus := { bus with deadLetter := { requeued.2 with file := some lines } }
      published := [] }

theorem publish_attempts_quiet (attempts : Nat → Republish)
    (quiet : ∀ pos, (attempts pos).raises = none) (pos : Nat) (events : List Event)
    (results : List DeliveryResult) (bus : EventBus) :
    (bus.publishAttempts lineSize attempts pos events).bus =
      (publishEach lineSize (fun pos => (attempts pos).env) pos events results bus).bus := by
  induction events generalizing pos results bus with
  | nil => rfl
  | cons event rest ih =>
    have same : bus.publishAttempt lineSize (attempts pos) event =
        bus.publish lineSize (attempts pos).env event "AT_LEAST_ONCE" := by
      rw [publishAttempt, quiet pos, publish]
      split <;> rfl
    simp only [publishAttempts, publishEach, same]
    cases outcome : (bus.publish lineSize (attempts pos).env event "AT_LEAST_ONCE").results with
    | none => rfl
    | some more => exact ih (pos + 1) (results ++ more) _

theorem requeue_quiet (env : RequeueEnv) (count : Int) (bus : EventBus)
    (saved : env.leftFile = none) (quiet : ∀ pos, (env.attempts pos).raises = none) :
    (bus.requeue lineSize env count).bus =
      (bus.requeueDeadLetter lineSize (fun pos => (env.attempts pos).env) count).bus := by
  rw [requeue, saved]
  exact publish_attempts_quiet lineSize env.attempts quiet 0 _ [] _

end Requeuing

section Joining

variable (lineSize : StoreLine → Nat)

/-- What the publish does to the handlers in turn. -/
def failing (env : PublishEnv) (event : Event) (bus : EventBus) : List Bool :=
  (bus.targets env event).map (Subscriber.fails event)

/-- The dead letters that a republish adds. -/
def written (attempt : Republish) (event : Event) (bus : EventBus) : Nat :=
  if bus.middleware.all fun middleware => middleware.passes event then
    match attempt.raises with
    | none | some .persisting => (bus.failing attempt.env event).count true
    | some .entering => 0
    | some (.dispatching _) => 0
    | some (.recording pos) => ((bus.failing attempt.env event).take pos).count true
  else 0

/-- The dead letter that is in memory only when writing it raises. -/
def unwritten (attempt : Republish) (event : Event) (bus : EventBus) : Nat :=
  if bus.middleware.all fun middleware => middleware.passes event then
    match attempt.raises with
    | some (.recording pos) =>
      if (bus.failing attempt.env event)[pos]? = some true then 1 else 0
    | _ => 0
  else 0

/-- Dead letters joined the queue: those that were written, under its limit, and then
those that were not. -/
def Joined (before after : DeadLetterQueue) (written unwritten : Nat) : Prop :=
  after.maxRecords = before.maxRecords ∧ ∃ letters pending : List DeadLetterRecord,
      letters.length = written ∧ pending.length = unwritten ∧ after.records =
          BoundedQueue.pushAll before.maxRecords before.records letters ++ pending

theorem joined_refl (queue : DeadLetterQueue) : Joined queue queue 0 0 :=
  ⟨rfl, [], [], rfl, rfl, (List.append_nil _).symm⟩

theorem joined_trans {before middle after : DeadLetterQueue} {first second unwritten : Nat}
    (early : Joined before middle first 0) (late : Joined middle after second unwritten) :
    Joined before after (first + second) unwritten := by
  obtain ⟨sameLimit, letters, pending, count, nothing, records⟩ := early
  obtain ⟨limit, more, last, countMore, countLast, recordsAfter⟩ := late
  rw [List.length_eq_zero_iff.mp nothing, List.append_nil] at records
  refine ⟨limit.trans sameLimit, letters ++ more, last, ?_, countLast, ?_⟩
  · rw [List.length_append, count, countMore]
  · rw [recordsAfter, sameLimit, records, BoundedQueue.push_all_append]

theorem dispatch_failed (event : Event) (dispatcher : Dispatcher)
    (targets : List (Subscriber × Failure)) :
    (Dispatcher.dispatch event .atLeastOnce dispatcher targets).1.map
        (fun result => decide (result.status = .failed)) =
      targets.map (Subscriber.fails event) := by
  induction targets generalizing dispatcher with
  | nil => rfl
  | cons target rest ih =>
    obtain ⟨subscriber, failure⟩ := target
    rw [Dispatcher.dispatch, List.map_cons, List.map_cons, ih]
    congr 1
    rw [Dispatcher.deliverToSubscriber, Subscriber.fails]
    cases subscriber.matchesType event.metadata.eventType with
    | false => simp
    | true => cases subscriber.handle failure <;> simp

theorem add_records (queue : DeadLetterQueue) (record : DeadLetterRecord) :
    (queue.add record).records = BoundedQueue.push queue.maxRecords queue.records record := by
  simp [DeadLetterQueue.add, DeadLetterQueue.appendRecord, DeadLetterQueue.enforceMax,
    BoundedQueue.push]

theorem handle_result_joined (env : PublishEnv) (event : Event) (bus : EventBus)
    (result : DeliveryResult) :
    Joined bus.deadLetter (handleResult env event bus result).deadLetter
      ([decide (result.status = .failed)].count true) 0 := by
  rw [handleResult]
  by_cases failed : result.status = .failed
  · rw [if_pos failed]
    refine ⟨rfl, [letterFor env event result], [], ?_, rfl, ?_⟩
    · simp [failed]
    · rw [List.append_nil]
      exact add_records _ _
  · rw [if_neg failed, decide_eq_false failed]
    exact joined_refl _

theorem handle_results_joined (env : PublishEnv) (event : Event)
    (results : List DeliveryResult) (bus : EventBus) :
    Joined bus.deadLetter (results.foldl (handleResult env event) bus).deadLetter
      ((results.map fun result => decide (result.status = .failed)).count true) 0 := by
  induction results generalizing bus with
  | nil => exact joined_refl _
  | cons result rest ih =>
    have first := handle_result_joined env event bus result
    have both := joined_trans first (ih (handleResult env event bus result))
    rw [← List.count_append] at both
    exact both

theorem deliver_joined (env : PublishEnv) (event : Event) (bus : EventBus) :
    Joined bus.deadLetter (bus.deliver env event "AT_LEAST_ONCE").bus.deadLetter
      ((bus.failing env event).count true) 0 := by
  rw [deliver, failing, targets]
  cases bus.router.routeEvent event with
  | nil => exact joined_refl _
  | cons first rest =>
    rw [← dispatch_failed event bus.dispatcher]
    exact handle_results_joined env event _ _

theorem leave_unwritten_joined (env : PublishEnv) (event : Event) (bus : EventBus)
    (result : DeliveryResult) :
    Joined bus.deadLetter (leaveUnwritten env event bus result).deadLetter 0
      (if result.status = .failed then 1 else 0) := by
  rw [leaveUnwritten]
  by_cases failed : result.status = .failed
  · rw [if_pos failed, if_pos failed]
    exact ⟨rfl, [], [letterFor env event result], rfl, rfl, rfl⟩
  · rw [if_neg failed, if_neg failed]
    exact joined_refl _

theorem dispatch_to_failed (env : PublishEnv) (event : Event) (bus : EventBus) :
    (bus.dispatchTo env event (bus.targets env event).length).1.map
        (fun result => decide (result.status = .failed)) = bus.failing env event := by
  rw [dispatchTo, List.take_length, dispatch_failed, failing]

theorem publish_bus (env : PublishEnv) (event : Event) (deliveryMode : String) (bus : EventBus)
    (passes : (bus.middleware.all fun middleware => middleware.passes event) = true) :
    let delivered := (bus.deliver env event deliveryMode).bus
    ∃ store, (bus.publish lineSize env event deliveryMode).bus =
        { delivered with persistence := store } ∨
      (bus.publish lineSize env event deliveryMode).bus =
        recordPublish { delivered with persistence := store } event := by
  intro delivered
  rw [publish, if_pos passes]
  dsimp only
  cases (bus.deliver env event deliveryMode).results with
  | none => exact ⟨delivered.persistence, .inl rfl⟩
  | some results =>
    dsimp only
    cases present : (bus.deliver env event deliveryMode).bus.persistence with
    | none => exact ⟨delivered.persistence, .inr rfl⟩
    | some store =>
      refine ⟨some (store.persist lineSize event env.second).state, ?_⟩
      dsimp only
      split
      · exact .inr rfl
      · exact .inl rfl

theorem publish_dead_letter (env : PublishEnv) (event : Event) (bus : EventBus)
    (passes : (bus.middleware.all fun middleware => middleware.passes event) = true) :
    (bus.publish lineSize env event "AT_LEAST_ONCE").bus.deadLetter =
      (bus.deliver env event "AT_LEAST_ONCE").bus.deadLetter := by
  obtain ⟨store, stopped | recorded⟩ :=
    publish_bus lineSize env event "AT_LEAST_ONCE" bus passes
  · rw [stopped]
  · rw [recorded]
    rfl

theorem recording_joined (env : PublishEnv) (event : Event) (bus : EventBus) (pos : Nat)
    (left : EventBus) (raises : bus.interrupted env event (.recording pos) = some left) :
    Joined bus.deadLetter left.deadLetter (((bus.failing env event).take pos).count true)
      (if (bus.failing env event)[pos]? = some true then 1 else 0) := by
  rw [interrupted] at raises
  obtain ⟨result, reached, leaves⟩ := Option.map_eq_some_iff.mp raises
  rw [← leaves, ← dispatch_to_failed, ← List.map_take, List.getElem?_map, reached]
  simp only [Option.map_some, Option.some.injEq, decide_eq_true_eq]
  have recorded := handle_results_joined env event
    ((bus.dispatchTo env event (bus.targets env event).length).1.take pos)
    { bus with dispatcher := (bus.dispatchTo env event (bus.targets env event).length).2 }
  have both := joined_trans recorded (leave_unwritten_joined env event _ result)
  rwa [Nat.add_zero] at both

theorem not_recording (env : PublishEnv) (event : Event) (bus : EventBus) (pos : Nat)
    (past : bus.interrupted env event (.recording pos) = none) :
    (bus.failing env event).length ≤ pos := by
  rw [interrupted, Option.map_eq_none_iff, List.getElem?_eq_none_iff] at past
  rw [← dispatch_to_failed, List.length_map]
  exact past

theorem attempt_joined (attempt : Republish) (event : Event) (bus : EventBus) :
    Joined bus.deadLetter (bus.publishAttempt lineSize attempt event).bus.deadLetter
      (bus.written attempt event) (bus.unwritten attempt event) := by
  have published := deliver_joined attempt.env event bus
  rw [publishAttempt, written, unwritten]
  by_cases passes : (bus.middleware.all fun middleware => middleware.passes event) = true
  · rw [← publish_dead_letter lineSize attempt.env event bus passes] at published
    rw [if_pos passes, if_pos passes, if_pos passes]
    cases attempt.raises with
    | none => exact published
    | some point =>
      cases point with
      | entering => exact joined_refl _
      | dispatching done =>
        by_cases nobody : bus.targets attempt.env event = []
        · simp only [Option.bind_some, interrupted, if_pos nobody]
          rw [failing, nobody] at published
          exact published
        · simp only [Option.bind_some, interrupted, if_neg nobody]
          exact joined_refl _
      | recording pos =>
        simp only [Option.bind_some]
        cases raises : bus.interrupted attempt.env event (.recording pos) with
        | none =>
          have all := not_recording attempt.env event bus pos raises
          rw [List.take_of_length_le all, List.getElem?_eq_none all, if_neg nofun]
          exact published
        | some left => exact recording_joined attempt.env event bus pos left raises
      | persisting =>
        simp only [Option.bind_some, interrupted]
        cases bus.persistence with
        | none => exact published
        | some store => exact deliver_joined attempt.env event bus
  · rw [if_neg passes, if_neg passes, if_neg passes]
    exact joined_refl _

theorem unwritten_of_returned (attempt : Republish) (event : Event) (bus : EventBus)
    (returned : (bus.publishAttempt lineSize attempt event).results.isSome = true) :
    bus.unwritten attempt event = 0 := by
  rw [publishAttempt] at returned
  rw [unwritten]
  split
  · next passes =>
    rw [if_pos passes] at returned
    cases point : attempt.raises with
    | none => rfl
    | some point' =>
      cases point' with
      | recording pos =>
        rw [point, Option.bind_some] at returned
        cases raises : bus.interrupted attempt.env event (.recording pos) with
        | none =>
          have all := not_recording attempt.env event bus pos raises
          simp [List.getElem?_eq_none all]
        | some left =>
          rw [raises] at returned
          cases returned
      | entering => rfl
      | dispatching done => rfl
      | persisting => rfl
  · rfl

end Joining

section Losing

variable (lineSize : StoreLine → Nat)

/-- How many republishes return before the first that raises, and how many dead letters
are written and left unwritten up to there. -/
structure Course where
  returned : Nat
  written : Nat
  unwritten : Nat

def course (attempts : Nat → Republish) : Nat → List Event → EventBus → Course
  | _, [], _ => { returned := 0, written := 0, unwritten := 0 }
  | pos, event :: rest, bus =>
    let published := bus.publishAttempt lineSize (attempts pos) event
    if published.results.isSome then
      let later := course attempts (pos + 1) rest published.bus
      { later with
        returned := later.returned + 1
        written := bus.written (attempts pos) event + later.written }
    else
      { returned := 0
        written := bus.written (attempts pos) event
        unwritten := bus.unwritten (attempts pos) event }

def requeueCourse (env : RequeueEnv) (count : Int) (bus : EventBus) : Course :=
  let requeued := bus.deadLetter.requeueEvents count
  match env.leftFile with
  | none => course lineSize env.attempts 0 requeued.1 { bus with deadLetter := requeued.2 }
  | some _ => { returned := 0, written := 0, unwritten := 0 }

/-- The records of before are those that left, which have been published, and those that
the queue still holds. Only the new dead letters come after these. -/
def NoneLost (before after : List DeadLetterRecord) (joined : Nat) (published : List Event) :
    Prop :=
  ∃ left held letters : List DeadLetterRecord, before = left ++ held ∧ after = held ++ letters ∧
      letters.length = min joined after.length ∧
      ∀ record ∈ left, record.event ∈ published

/-- The popped records whose publish did not return, and the remaining ones that new dead
letters displace, are for events that an earlier record of the requeue published. -/
def OthersPublish (env : RequeueEnv) (count : Int) (bus : EventBus) : Prop :=
  let queue := bus.deadLetter
  let course := bus.requeueCourse lineSize env count
  let popped := queue.records.take (queue.cut count)
  let remaining := queue.records.drop (queue.cut count)
  ∀ record ∈ popped.drop course.returned ++ remaining.take
      (BoundedQueue.displaced queue.maxRecords remaining.length course.written),
    record.event ∈ (popped.take course.returned).map DeadLetterRecord.event

theorem attempts_joined (attempts : Nat → Republish) (pos : Nat) (events : List Event)
    (bus : EventBus) :
    Joined bus.deadLetter (bus.publishAttempts lineSize attempts pos events).bus.deadLetter
      (bus.course lineSize attempts pos events).written
      (bus.course lineSize attempts pos events).unwritten := by
  induction events generalizing pos bus with
  | nil => exact joined_refl _
  | cons event rest ih =>
    have first := attempt_joined lineSize (attempts pos) event bus
    rw [publishAttempts, course]
    by_cases returned : (bus.publishAttempt lineSize (attempts pos) event).results.isSome = true
    · simp only [if_pos returned]
      rw [unwritten_of_returned lineSize (attempts pos) event bus returned] at first
      exact joined_trans first (ih (pos + 1) _)
    · simp only [if_neg returned]
      exact first

theorem attempts_published (attempts : Nat → Republish) (pos : Nat) (events : List Event)
    (bus : EventBus) :
    (bus.publishAttempts lineSize attempts pos events).published =
      events.take (bus.course lineSize attempts pos events).returned := by
  induction events generalizing pos bus with
  | nil => rfl
  | cons event rest ih =>
    rw [publishAttempts, course]
    by_cases returned : (bus.publishAttempt lineSize (attempts pos) event).results.isSome = true
    · simp only [if_pos returned, List.take_succ_cons, ih]
    · simp only [if_neg returned, List.take_zero]

theorem requeue_joined (env : RequeueEnv) (count : Int) (bus : EventBus) :
    Joined (bus.deadLetter.pop count).2 (bus.requeue lineSize env count).bus.deadLetter
      (bus.requeueCourse lineSize env count).written
      (bus.requeueCourse lineSize env count).unwritten := by
  rw [requeue, requeueCourse]
  cases env.leftFile with
  | none => exact attempts_joined lineSize env.attempts 0 _ _
  | some lines => exact ⟨rfl, [], [], rfl, rfl, (List.append_nil _).symm⟩

theorem requeue_published (env : RequeueEnv) (count : Int) (bus : EventBus) :
    (bus.requeue lineSize env count).published = ((bus.deadLetter.pop count).1.take
        (bus.requeueCourse lineSize env count).returned).map DeadLetterRecord.event := by
  rw [requeue, requeueCourse, List.map_take]
  cases env.leftFile with
  | none => exact attempts_published lineSize env.attempts 0 _ _
  | some lines => rfl

theorem none_lost_iff (popped remaining after : List DeadLetterRecord)
    (limit joined pending : Nat) (published : List Event)
    (joins : ∃ letters unwritten : List DeadLetterRecord,
      letters.length = joined ∧ unwritten.length = pending ∧
        after = BoundedQueue.pushAll limit remaining letters ++ unwritten) :
    NoneLost (popped ++ remaining) after (joined + pending) published ↔ ∀ record ∈ popped ++
          remaining.take (BoundedQueue.displaced limit remaining.length joined),
        record.event ∈ published := by
  obtain ⟨letters, unwritten, count, countPending, records⟩ := joins
  rw [BoundedQueue.push_all_split, count, List.append_assoc] at records
  generalize BoundedQueue.displaced limit remaining.length joined = gone at records ⊢
  have sizes := congrArg List.length records
  simp only [List.length_append, List.length_drop] at sizes
  have whole : popped ++ remaining = (popped ++ remaining.take gone) ++ remaining.drop gone := by
    rw [List.append_assoc, List.take_append_drop]
  constructor
  · rintro ⟨left, held, added, before, holds, counted, events⟩
    have size := congrArg List.length holds
    rw [List.length_append] at size
    have same := List.append_inj' (before.symm.trans whole) (by
      rw [List.length_drop]
      omega)
    rwa [← same.1]
  · intro events
    refine ⟨popped ++ remaining.take gone, remaining.drop gone, _, whole, records, ?_, events⟩
    simp only [List.length_append, List.length_drop]
    omega

/-- A requeue loses no record exactly when the ones it leaves out are for events that
others of its records publish. -/
theorem requeue_loses_none_iff (env : RequeueEnv) (count : Int) (bus : EventBus) :
    let course := bus.requeueCourse lineSize env count
    let requeued := bus.requeue lineSize env count
    NoneLost bus.deadLetter.records requeued.bus.deadLetter.records
        (course.written + course.unwritten) requeued.published ↔
      bus.OthersPublish lineSize env count := by
  intro course requeued
  have lost := none_lost_iff (bus.deadLetter.records.take (bus.deadLetter.cut count))
    (bus.deadLetter.records.drop (bus.deadLetter.cut count)) requeued.bus.deadLetter.records
    bus.deadLetter.maxRecords course.written course.unwritten requeued.published
    (requeue_joined lineSize env count bus).2
  rw [List.take_append_drop] at lost
  rw [lost, requeue_published, OthersPublish]
  constructor
  · intro every record member
    apply every record
    rcases List.mem_append.mp member with popped | displaced
    · exact List.mem_append_left _ (List.mem_of_mem_drop popped)
    · exact List.mem_append_right _ displaced
  · intro others record member
    rcases List.mem_append.mp member with popped | displaced
    · rw [← List.take_append_drop course.returned (bus.deadLetter.records.take _)] at popped
      rcases List.mem_append.mp popped with returned | late
      · exact List.mem_map_of_mem returned
      · exact others record (List.mem_append_left _ late)
    · exact others record (List.mem_append_right _ displaced)

/-- The first publish raises in the store, and both popped records are gone. -/
theorem popped_records_lost :
    let record : String → DeadLetterRecord := fun eventId =>
      { event := .sample eventId "test" .normal
        subscriberName := "s"
        error := "boom"
        failedAt := 0
        retryCount := 3
        lastEnvelope := none }
    let bus := create (some (.create (fun _ => 300) none [] 104857600))
      (.load (some [some (record "a"), some (record "b")]) 10000) 10000 true
    let failing : RequeueEnv :=
      { leftFile := none
        attempts := fun _ => { env := steadyEnv none, raises := some .persisting } }
    let course := bus.requeueCourse (fun _ => 300) failing 2
    let requeued := bus.requeue (fun _ => 300) failing 2
    bus.deadLetter.records.length = 2 ∧ requeued.bus.deadLetter.records = [] ∧
      requeued.published = [] ∧
      ¬NoneLost bus.deadLetter.records requeued.bus.deadLetter.records
        (course.written + course.unwritten) requeued.published := by
  intro record bus failing course requeued
  have empty : requeued.bus.deadLetter.records = [] :=
    List.eq_nil_of_length_eq_zero (by decide +kernel)
  have nothing : requeued.published = [] := List.eq_nil_of_length_eq_zero (by decide +kernel)
  refine ⟨rfl, empty, nothing, ?_⟩
  rintro ⟨left, held, letters, before, holds, -, events⟩
  rw [empty] at holds
  rw [nothing] at events
  rw [(List.append_eq_nil_iff.mp holds.symm).1, List.append_nil] at before
  have member : record "a" ∈ left := before ▸ List.mem_cons_self
  exact absurd (events _ member) List.not_mem_nil

end Losing

end EventBus

end AiEnterpriseOs.Events
