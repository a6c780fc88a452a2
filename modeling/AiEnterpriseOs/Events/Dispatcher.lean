import AiEnterpriseOs.Events.Models
import Mathlib.Data.List.Basic

/-!
# Dispatching

Delivery of an event to its subscribers. Under exactly-once delivery the
dispatcher remembers the events that some handler has completed.
-/

namespace AiEnterpriseOs.Events

section Metrics

/-- Event counts; a name not counted yet is at zero. -/
structure EventMetrics where
  totalPublished : Nat
  totalDelivered : Nat
  totalFailed : Nat
  totalDeadLetter : Nat
  byType : String → Nat
  byPriority : String → Nat
  bySource : String → Nat
  bySubscriber : String → Nat
  errors : String → Nat
  subscriberErrors : String → Nat

namespace EventMetrics

def empty : EventMetrics where
  totalPublished := 0
  totalDelivered := 0
  totalFailed := 0
  totalDeadLetter := 0
  byType _ := 0
  byPriority _ := 0
  bySource _ := 0
  bySubscriber _ := 0
  errors _ := 0
  subscriberErrors _ := 0

def counted (counter : String → Nat) (name : String) : String → Nat :=
  fun other => if other = name then counter name + 1 else counter other

def recordPublish (metrics : EventMetrics) (event : Event) : EventMetrics :=
  { metrics with
    totalPublished := metrics.totalPublished + 1
    byType := counted metrics.byType event.metadata.eventType.value
    byPriority := counted metrics.byPriority event.metadata.priority.value
    bySource := counted metrics.bySource event.metadata.source }

def recordDelivery (metrics : EventMetrics) : EventMetrics :=
  { metrics with totalDelivered := metrics.totalDelivered + 1 }

def recordFailure (metrics : EventMetrics) (error : String) : EventMetrics :=
  { metrics with
    totalFailed := metrics.totalFailed + 1
    errors := counted metrics.errors error }

def recordSubscriberDelivery (metrics : EventMetrics) (name : String) : EventMetrics :=
  { metrics with bySubscriber := counted metrics.bySubscriber name }

def recordSubscriberError (metrics : EventMetrics) (name : String) : EventMetrics :=
  { metrics with subscriberErrors := counted metrics.subscriberErrors name }

end EventMetrics

end Metrics

structure Subscriber where
  subscriberId : String
  name : String
  eventTypes : List EventType
  isActive : Bool
  deriving DecidableEq

/-- The text of the exception that a handler raises when it is called. -/
abbrev Failure := Option String

namespace Subscriber

/-- What comes of `handle`: an inactive subscriber returns without calling its
handler. -/
def handle (subscriber : Subscriber) (failure : Failure) : Failure :=
  if subscriber.isActive then failure else none

/-- `subscriber.matches(event_type)`. -/
def matchesType (subscriber : Subscriber) (eventType : EventType) : Bool :=
  eventType ∈ subscriber.eventTypes || subscriber.eventTypes.length = 0

end Subscriber

inductive DeliveryMode where
  | atMostOnce
  | atLeastOnce
  | exactlyOnce
  deriving DecidableEq

/-- `DELIVERY_MODES`; any other text raises. -/
def DeliveryMode.parse : String → Option DeliveryMode
  | "AT_MOST_ONCE" => some atMostOnce
  | "AT_LEAST_ONCE" => some atLeastOnce
  | "EXACTLY_ONCE" => some exactlyOnce
  | _ => none

structure Dispatcher where
  metrics : EventMetrics
  processedIds : List String

namespace Dispatcher

def empty : Dispatcher := { metrics := .empty, processedIds := [] }

def deliverToSubscriber (dispatcher : Dispatcher) (event : Event) (subscriber : Subscriber)
    (failure : Failure) (mode : DeliveryMode) : DeliveryResult × Dispatcher :=
  let eventId := event.metadata.eventId
  let result : DeliveryResult :=
    { eventId := eventId
      subscriberName := subscriber.name
      status := .delivered
      error := ""
      note := "" }
  if mode = .exactlyOnce ∧ eventId ∈ dispatcher.processedIds then
    ({ result with status := .skipped, note := "Already processed (exactly-once)" }, dispatcher)
  else if !subscriber.matchesType event.metadata.eventType then
    ({ result with
        status := .skipped
        note := "Subscriber does not handle this event type" }, dispatcher)
  else
    match subscriber.handle failure with
    | none =>
      (result,
        if mode = .exactlyOnce then
          { dispatcher with processedIds := dispatcher.processedIds.insert eventId }
        else dispatcher)
    | some error => ({ result with status := .failed, error := error }, dispatcher)

def recordMetrics (dispatcher : Dispatcher) (result : DeliveryResult) : Dispatcher :=
  let metrics := dispatcher.metrics.recordSubscriberDelivery result.subscriberName
  { dispatcher with
    metrics :=
      if result.status = .delivered then metrics.recordDelivery
      else if result.status = .failed then
        (metrics.recordFailure
          (if result.error = "" then "unknown" else result.error)).recordSubscriberError
            result.subscriberName
      else metrics }

/-- The loop of `dispatch` over the subscribers, each with what its handler
does if it is called. -/
def dispatch (event : Event) (mode : DeliveryMode) :
    Dispatcher → List (Subscriber × Failure) → List DeliveryResult × Dispatcher
  | dispatcher, [] => ([], dispatcher)
  | dispatcher, (subscriber, failure) :: rest =>
    let delivery := dispatcher.deliverToSubscriber event subscriber failure mode
    let remaining := dispatch event mode (delivery.2.recordMetrics delivery.1) rest
    (delivery.1 :: remaining.1, remaining.2)

end Dispatcher

section ExactlyOnce

/-- One call of `dispatch` under exactly-once delivery. -/
structure Dispatch where
  event : Event
  targets : List (Subscriber × Failure)

/-- The results of a run of dispatches, each with its subscriber. -/
def dispatchResults : Dispatcher → List Dispatch → List (Subscriber × DeliveryResult)
  | _, [] => []
  | dispatcher, call :: rest =>
    let outcome := Dispatcher.dispatch call.event .exactlyOnce dispatcher call.targets
    (call.targets.map Prod.fst).zip outcome.1 ++ dispatchResults outcome.2 rest

/-- How often a subscriber's handler was called for an event and completed. -/
def completions (results : List (Subscriber × DeliveryResult)) (eventId : String)
    (subscriber : Subscriber) : Nat :=
  results.countP fun entry => entry.1 = subscriber && entry.1.isActive &&
    entry.2.eventId = eventId && entry.2.status = .delivered

/-- The subscribers an event is for, over a run of dispatches, each with what
its handler would do. -/
def attempts (eventId : String) (calls : List Dispatch) : List (Subscriber × Failure) :=
  (calls.filter fun call => call.event.metadata.eventId = eventId).flatMap fun call =>
    call.targets.filter fun target => target.1.matchesType call.event.metadata.eventType

/-- The first of them whose `handle` returns. -/
def firstReturning (targets : List (Subscriber × Failure)) : Option (Subscriber × Failure) :=
  targets.find? fun target => target.1.handle target.2 = none

/-- A subscriber of the event that is active and whose handler never fails. -/
def NeverFails (eventId : String) (calls : List Dispatch) (subscriber : Subscriber) : Prop :=
  subscriber.isActive = true ∧ (∃ failure, (subscriber, failure) ∈ attempts eventId calls) ∧
    ∀ failure, (subscriber, failure) ∈ attempts eventId calls → failure = none

/-- No handler completes twice, and one that never fails completes once. -/
def DeliveredOnce (eventId : String) (calls : List Dispatch) : Prop :=
  (∀ subscriber, completions (dispatchResults .empty calls) eventId subscriber ≤ 1) ∧
    ∀ subscriber, NeverFails eventId calls subscriber →
      completions (dispatchResults .empty calls) eventId subscriber = 1

theorem completions_append (first second : List (Subscriber × DeliveryResult))
    (eventId : String) (subscriber : Subscriber) :
    completions (first ++ second) eventId subscriber =
      completions first eventId subscriber + completions second eventId subscriber :=
  List.countP_append

/-- What one handler completes for an event that nobody completed before. -/
def completedBy (subscriber : Subscriber) (first : Option (Subscriber × Failure)) : Nat :=
  match first with
  | none => 0
  | some target => if target.1 = subscriber ∧ subscriber.isActive = true then 1 else 0

theorem completions_cons (entry : Subscriber × DeliveryResult)
    (rest : List (Subscriber × DeliveryResult)) (eventId : String) (subscriber : Subscriber) :
    completions (entry :: rest) eventId subscriber = completions rest eventId subscriber +
        if entry.1 = subscriber ∧ subscriber.isActive = true ∧
          entry.2.eventId = eventId ∧ entry.2.status = .delivered then 1 else 0 := by
  rw [completions, List.countP_cons, completions]
  congr 1
  by_cases same : entry.1 = subscriber
  · subst same
    simp [and_assoc]
  · simp [same]

/-- The four ways an exactly-once delivery ends. -/
inductive Delivered (event : Event) (subscriber : Subscriber) (failure : Failure)
    (dispatcher : Dispatcher) : DeliveryResult × Dispatcher → Prop where
  | processed (result : DeliveryResult) (already : event.metadata.eventId ∈ dispatcher.processedIds)
      (status : result.status = .skipped) :
      Delivered event subscriber failure dispatcher (result, dispatcher)
  | mismatched (result : DeliveryResult) (new : event.metadata.eventId ∉ dispatcher.processedIds)
      (other : subscriber.matchesType event.metadata.eventType = false)
      (status : result.status = .skipped) :
      Delivered event subscriber failure dispatcher (result, dispatcher)
  | returned (result : DeliveryResult) (new : event.metadata.eventId ∉ dispatcher.processedIds)
      (isFor : subscriber.matchesType event.metadata.eventType = true)
      (returns : subscriber.handle failure = none)
      (same : result.eventId = event.metadata.eventId)
      (status : result.status = .delivered) :
      Delivered event subscriber failure dispatcher (result,
          { dispatcher with
            processedIds := dispatcher.processedIds.insert event.metadata.eventId })
  | raised (result : DeliveryResult) (new : event.metadata.eventId ∉ dispatcher.processedIds)
      (isFor : subscriber.matchesType event.metadata.eventType = true)
      (raises : subscriber.handle failure ≠ none)
      (status : result.status = .failed) :
      Delivered event subscriber failure dispatcher (result, dispatcher)

theorem Delivered.uncounted {event : Event} {subscriber : Subscriber} {failure : Failure}
    {dispatcher : Dispatcher} {outcome : DeliveryResult × Dispatcher}
    (delivered : Delivered event subscriber failure dispatcher outcome) {eventId : String}
    (other : event.metadata.eventId ≠ eventId) (status : outcome.1.status = .delivered) :
    outcome.1.eventId ≠ eventId := by
  cases delivered with
  | processed result already skipped => cases skipped.symm.trans status
  | mismatched result new isOther skipped => cases skipped.symm.trans status
  | returned result new isFor returns same _ => exact same ▸ other
  | raised result new isFor raises failed => cases failed.symm.trans status

theorem Delivered.unprocessed {event : Event} {subscriber : Subscriber} {failure : Failure}
    {dispatcher : Dispatcher} {outcome : DeliveryResult × Dispatcher}
    (delivered : Delivered event subscriber failure dispatcher outcome) {eventId : String}
    (other : event.metadata.eventId ≠ eventId) :
    eventId ∈ outcome.2.processedIds ↔ eventId ∈ dispatcher.processedIds := by
  cases delivered with
  | processed result already status => exact Iff.rfl
  | mismatched result new isOther status => exact Iff.rfl
  | returned result new isFor returns same status =>
    refine (List.mem_insert_iff).trans ?_
    exact or_iff_right fun equal => other equal.symm
  | raised result new isFor raises status => exact Iff.rfl

theorem delivered_once (event : Event) (subscriber : Subscriber) (failure : Failure)
    (dispatcher : Dispatcher) :
    Delivered event subscriber failure dispatcher
      (dispatcher.deliverToSubscriber event subscriber failure .exactlyOnce) := by
  unfold Dispatcher.deliverToSubscriber
  by_cases already : event.metadata.eventId ∈ dispatcher.processedIds
  · simp only [already, and_self, if_true]
    exact .processed _ already rfl
  · simp only [already, and_false, if_false]
    cases isFor : subscriber.matchesType event.metadata.eventType with
    | false => exact .mismatched _ already isFor rfl
    | true =>
      cases handled : subscriber.handle failure with
      | none => exact .returned _ already isFor handled rfl rfl
      | some error => exact .raised _ already isFor (by rw [handled]; nofun) rfl

theorem first_returning_cons (target : Subscriber × Failure) (rest : List (Subscriber × Failure)) :
    firstReturning (target :: rest) =
      if target.1.handle target.2 = none then some target else firstReturning rest := by
  rw [firstReturning, List.find?_cons]
  by_cases returns : target.1.handle target.2 = none
  · rw [if_pos returns, decide_eq_true returns]
  · rw [if_neg returns, decide_eq_false returns]
    rfl

theorem dispatch_completions (event : Event) (eventId : String) (subscriber : Subscriber)
    (dispatcher : Dispatcher) (targets : List (Subscriber × Failure)) :
    let wanted := (targets.filter fun target =>
      event.metadata.eventId = eventId && target.1.matchesType event.metadata.eventType)
    let outcome := Dispatcher.dispatch event .exactlyOnce dispatcher targets
    completions ((targets.map Prod.fst).zip outcome.1) eventId subscriber =
        (if eventId ∈ dispatcher.processedIds then 0
          else completedBy subscriber (firstReturning wanted)) ∧
      (eventId ∈ outcome.2.processedIds ↔
        eventId ∈ dispatcher.processedIds ∨ (firstReturning wanted).isSome = true) := by
  induction targets generalizing dispatcher with
  | nil =>
    refine ⟨?_, ?_⟩
    · show 0 = _
      split <;> rfl
    · simp [Dispatcher.dispatch, firstReturning]
  | cons target rest ih =>
    obtain ⟨other, failure⟩ := target
    have delivered := delivered_once event other failure dispatcher
    simp only [Dispatcher.dispatch, List.map_cons, List.zip_cons_cons, completions_cons]
    generalize dispatcher.deliverToSubscriber event other failure .exactlyOnce =
      outcome at delivered
    by_cases mine : event.metadata.eventId = eventId
    · subst mine
      cases delivered with
      | processed result already status =>
        obtain ⟨counted, after⟩ := ih (dispatcher.recordMetrics result)
        have stays : event.metadata.eventId ∈
            (dispatcher.recordMetrics result).processedIds := already
        rw [if_pos stays] at counted
        refine ⟨?_, iff_of_true (after.mpr (.inl stays)) (.inl already)⟩
        rw [counted, if_pos already, status]
        simp
      | mismatched result new isOther status =>
        obtain ⟨counted, after⟩ := ih (dispatcher.recordMetrics result)
        rw [List.filter_cons_of_neg (by simp [isOther])]
        refine ⟨?_, after⟩
        rw [counted, status]
        simp [Dispatcher.recordMetrics]
      | returned result new isFor returns same status =>
        obtain ⟨counted, after⟩ := ih (Dispatcher.recordMetrics
            { dispatcher with
              processedIds := dispatcher.processedIds.insert event.metadata.eventId }
            result)
        have stays : event.metadata.eventId ∈ (Dispatcher.recordMetrics
              { dispatcher with
                processedIds := dispatcher.processedIds.insert event.metadata.eventId }
              result).processedIds := List.mem_insert_self
        rw [if_pos stays] at counted
        rw [List.filter_cons_of_pos (by simp [isFor]), first_returning_cons, if_pos returns]
        refine ⟨?_, iff_of_true (after.mpr (.inl stays)) (.inr rfl)⟩
        rw [counted, if_neg new, completedBy]
        simp [same, status]
      | raised result new isFor raises status =>
        obtain ⟨counted, after⟩ := ih (dispatcher.recordMetrics result)
        rw [List.filter_cons_of_pos (by simp [isFor]), first_returning_cons, if_neg raises]
        refine ⟨?_, after⟩
        rw [counted, status]
        simp [Dispatcher.recordMetrics]
    · have nobody : ∀ targets : List (Subscriber × Failure),
          (targets.filter fun target => event.metadata.eventId = eventId &&
            target.1.matchesType event.metadata.eventType) = [] := by
        intro targets
        simp [mine]
      simp only [nobody] at ih ⊢
      have uncounted := delivered.uncounted mine
      have unprocessed : eventId ∈ (outcome.2.recordMetrics outcome.1).processedIds ↔
          eventId ∈ dispatcher.processedIds := delivered.unprocessed mine
      obtain ⟨counted, after⟩ := ih (outcome.2.recordMetrics outcome.1)
      refine ⟨?_, after.trans (or_congr_left unprocessed)⟩
      have noCount : ¬(other = subscriber ∧ subscriber.isActive = true ∧
          outcome.1.eventId = eventId ∧ outcome.1.status = .delivered) :=
        fun hit => uncounted hit.2.2.2 hit.2.2.1
      rw [counted, if_neg noCount, Nat.add_zero]
      simp only [unprocessed]

theorem attempts_cons (eventId : String) (call : Dispatch) (rest : List Dispatch) :
    attempts eventId (call :: rest) =
      (call.targets.filter fun target => call.event.metadata.eventId = eventId &&
        target.1.matchesType call.event.metadata.eventType) ++ attempts eventId rest := by
  by_cases mine : call.event.metadata.eventId = eventId
  · rw [attempts, List.filter_cons_of_pos (by simpa using mine), List.flatMap_cons, attempts]
    simp [mine]
  · rw [attempts, List.filter_cons_of_neg (by simpa using mine), attempts]
    simp [mine]

theorem first_returning_append (first second : List (Subscriber × Failure)) :
    firstReturning (first ++ second) = (firstReturning first).or (firstReturning second) :=
  List.find?_append

theorem dispatch_results_completions (eventId : String) (subscriber : Subscriber)
    (dispatcher : Dispatcher) (calls : List Dispatch) :
    completions (dispatchResults dispatcher calls) eventId subscriber =
      if eventId ∈ dispatcher.processedIds then 0
      else completedBy subscriber (firstReturning (attempts eventId calls)) := by
  induction calls generalizing dispatcher with
  | nil =>
    show 0 = _
    split <;> rfl
  | cons call rest ih =>
    obtain ⟨counted, after⟩ :=
      dispatch_completions call.event eventId subscriber dispatcher call.targets
    rw [dispatchResults, completions_append, counted, ih, attempts_cons, first_returning_append]
    by_cases already : eventId ∈ dispatcher.processedIds
    · rw [if_pos already, if_pos already, if_pos (after.mpr (.inl already))]
    · rw [if_neg already, if_neg already]
      cases first : firstReturning (call.targets.filter fun target =>
          call.event.metadata.eventId = eventId &&
            target.1.matchesType call.event.metadata.eventType) with
      | none =>
        have unprocessed : eventId ∉ (Dispatcher.dispatch call.event .exactlyOnce
            dispatcher call.targets).2.processedIds := by
          intro processed
          rcases after.mp processed with before | returned
          · exact already before
          · rw [first] at returned
            cases returned
        rw [if_neg unprocessed]
        exact Nat.zero_add _
      | some target =>
        rw [if_pos (after.mpr (.inr (by rw [first]; rfl)))]
        rfl

/-- Every event is delivered once exactly when each of its subscribers that
never fails is the first whose delivery returns. -/
theorem delivered_once_iff (eventId : String) (calls : List Dispatch) :
    DeliveredOnce eventId calls ↔ ∀ subscriber, NeverFails eventId calls subscriber →
        (firstReturning (attempts eventId calls)).map Prod.fst = some subscriber := by
  have counted : ∀ subscriber, completions (dispatchResults .empty calls) eventId subscriber =
        completedBy subscriber (firstReturning (attempts eventId calls)) :=
    fun subscriber => dispatch_results_completions eventId subscriber .empty calls
  have atMostOnce : ∀ subscriber first, completedBy subscriber first ≤ 1 := by
    intro subscriber first
    cases first with
    | none => exact Nat.zero_le 1
    | some target =>
      rw [completedBy]
      split <;> omega
  constructor
  · intro once subscriber neverFails
    have completed := once.2 subscriber neverFails
    rw [counted] at completed
    cases first : firstReturning (attempts eventId calls) with
    | none =>
      rw [first] at completed
      cases completed
    | some target =>
      rw [first, completedBy] at completed
      by_cases own : target.1 = subscriber ∧ subscriber.isActive = true
      · rw [Option.map_some, own.1]
      · rw [if_neg own] at completed
        cases completed
  · intro firsts
    refine ⟨fun subscriber => ?_, fun subscriber neverFails => ?_⟩
    · rw [counted]
      exact atMostOnce subscriber _
    · obtain ⟨target, first, own⟩ := Option.map_eq_some_iff.mp (firsts subscriber neverFails)
      rw [counted, first, completedBy, if_pos ⟨own, neverFails.1⟩]

/-- The second of two subscribers never gets the event. -/
theorem second_subscriber_skipped :
    let first : Subscriber :=
      { subscriberId := "sub:a", name := "a", eventTypes := [], isActive := true }
    let second : Subscriber :=
      { subscriberId := "sub:b", name := "b", eventTypes := [], isActive := true }
    let call : Dispatch :=
      { event := .sample "evt" "test" .normal, targets := [(first, none), (second, none)] }
    ¬DeliveredOnce "evt" [call, call] := by
  intro first second call once
  have listed : attempts "evt" [call, call] =
      [(first, none), (second, none), (first, none), (second, none)] := by
    decide +kernel
  have skipped : completions (dispatchResults .empty [call, call]) "evt" second = 0 := by
    decide +kernel
  have completed := once.2 second ⟨rfl, ⟨none, by rw [listed]; simp⟩, fun failure member => by
    rw [listed] at member
    simp only [List.mem_cons, List.not_mem_nil, or_false, Prod.mk.injEq] at member
    grind⟩
  rw [skipped] at completed
  cases completed

end ExactlyOnce

end AiEnterpriseOs.Events
