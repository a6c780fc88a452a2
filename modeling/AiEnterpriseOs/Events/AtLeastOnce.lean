import AiEnterpriseOs.Events.BusLifecycle
import AiEnterpriseOs.Events.DeliveryAccounts
import AiEnterpriseOs.Events.Routing
import Mathlib.Logic.Function.Basic

/-!
# At-least-once delivery

What a handler does can change from call to call. A delivery calls the handler once, however
many retries the event allows, and the dead letter of a failure always tells of three.
-/

namespace AiEnterpriseOs.Events

/-- What each handler does, call after call. -/
abbrev HandlerOutcomes := SubscriberObject → Nat → Failure

/-- A dispatcher with how often each handler has been called. -/
structure CountedDispatch where
  dispatcher : Dispatcher
  called : SubscriberObject → Nat

namespace CountedDispatch

variable (outcomes : HandlerOutcomes) (event : Event) (mode : DeliveryMode)

def deliver (state : CountedDispatch) (target : SubscriberObject) :
    DeliveryResult × CountedDispatch :=
  let delivery := state.dispatcher.deliverToSubscriber event target.subscriber
    (outcomes target (state.called target)) mode
  (delivery.1,
    { dispatcher := delivery.2.recordMetrics delivery.1
      called :=
        if state.dispatcher.calls event mode target.subscriber then
          Function.update state.called target (state.called target + 1)
        else state.called })

def dispatch : CountedDispatch → List SubscriberObject → List DeliveryResult × CountedDispatch
  | state, [] => ([], state)
  | state, target :: rest =>
    let delivery := state.deliver outcomes event mode target
    let remaining := dispatch delivery.2 rest
    (delivery.1 :: remaining.1, remaining.2)

end CountedDispatch

/-- What a publish meets in the first call of each handler. -/
def firstCalls (outcomes : HandlerOutcomes) (now : Int) (second : Nat) : PublishEnv where
  fails target := outcomes target 0
  now := now
  second := second

namespace EventBus

/-- The results of an at-least-once publish with how often it called each handler. -/
def dispatched (outcomes : HandlerOutcomes) (event : Event) (bus : EventBus) :
    List DeliveryResult × (SubscriberObject → Nat) :=
  if bus.middleware.all fun middleware => middleware.passes event then
    let dispatched := CountedDispatch.dispatch outcomes event .atLeastOnce
      { dispatcher := bus.dispatcher, called := fun _ => 0 } (bus.router.routeEvent event)
    (dispatched.1, dispatched.2.called)
  else ([], fun _ => 0)

def resultFor (outcomes : HandlerOutcomes) (event : Event) (bus : EventBus)
    (target : SubscriberObject) : Option DeliveryResult :=
  ((bus.router.routeEvent event).zip (bus.dispatched outcomes event).1).lookup target

/-- The dead letters for the result of a subscriber. -/
def lettersTo (env : PublishEnv) (outcomes : HandlerOutcomes) (event : Event) (bus : EventBus)
    (target : SubscriberObject) : List DeadLetterRecord :=
  lettersOf env event (bus.resultFor outcomes event target).toList

end EventBus

/-- A handler is called until it first succeeds and its result is delivered, or all attempts
fail and one dead letter tells how many of them were retries. -/
inductive DeliversAtLeastOnce (maxRetries : Nat) (outcome : Nat → Failure) (called : Nat)
    (result : Option DeliveryResult) (letters : List DeadLetterRecord) : Prop where
  | succeeded (delivery : DeliveryResult) (last : Nat) (within : last ≤ maxRetries)
      (success : outcome last = none) (failed : ∀ attempt < last, outcome attempt ≠ none)
      (attempts : called = last + 1) (returned : result = some delivery)
      (status : delivery.status = .delivered) (unlettered : letters = [])
  | exhausted (delivery : DeliveryResult) (letter : DeadLetterRecord)
      (failed : ∀ attempt ≤ maxRetries, outcome attempt ≠ none)
      (attempts : called = maxRetries + 1) (returned : result = some delivery)
      (status : delivery.status ≠ .delivered) (lettered : letters = [letter])
      (retries : letter.retryCount + 1 = called)

section Dispatching

/-- The result of an at-least-once delivery, which no dispatcher has a part in. -/
def attemptResult (event : Event) (subscriber : Subscriber) (failure : Failure) :
    DeliveryResult :=
  (Dispatcher.empty.deliverToSubscriber event subscriber failure .atLeastOnce).1

theorem deliver_at_least_once (dispatcher : Dispatcher) (event : Event)
    (subscriber : Subscriber) (failure : Failure) :
    dispatcher.deliverToSubscriber event subscriber failure .atLeastOnce =
      (attemptResult event subscriber failure, dispatcher) := by
  unfold attemptResult Dispatcher.deliverToSubscriber
  cases subscriber.matchesType event.metadata.eventType with
  | false => rfl
  | true =>
    cases subscriber.handle failure with
    | none => rfl
    | some error => rfl

theorem attempt_result_status (event : Event) (subscriber : Subscriber) (failure : Failure)
    (isFor : subscriber.matchesType event.metadata.eventType = true) :
    (attemptResult event subscriber failure).status =
      if subscriber.handle failure = none then .delivered else .failed := by
  rw [attemptResult, Dispatcher.deliverToSubscriber, isFor]
  cases subscriber.handle failure with
  | none => rfl
  | some error => rfl

theorem dispatch_at_least_once (event : Event) (fails : SubscriberObject → Failure)
    (dispatcher : Dispatcher) (targets : List SubscriberObject) :
    (Dispatcher.dispatch event .atLeastOnce dispatcher
        (targets.map fun target => (target.subscriber, fails target))).1 =
      targets.map fun target => attemptResult event target.subscriber (fails target) := by
  induction targets generalizing dispatcher with
  | nil => rfl
  | cons target rest ih =>
    rw [List.map_cons, List.map_cons, Dispatcher.dispatch, deliver_at_least_once, ih]

theorem counted_at_least_once (outcomes : HandlerOutcomes) (event : Event)
    (targets : List SubscriberObject) (distinct : targets.Nodup) (state : CountedDispatch)
    (uncalled : ∀ target ∈ targets, state.called target = 0) :
    let dispatched := state.dispatch outcomes event .atLeastOnce targets
    (dispatched.1 =
        targets.map fun target => attemptResult event target.subscriber (outcomes target 0)) ∧
      ∀ target, dispatched.2.called target = state.called target +
        if target ∈ targets ∧ target.subscriber.matchesType event.metadata.eventType = true ∧
          target.subscriber.isActive = true then 1 else 0 := by
  induction targets generalizing state with
  | nil => exact ⟨rfl, fun target => by simp [CountedDispatch.dispatch]⟩
  | cons target rest ih =>
    obtain ⟨new, restDistinct⟩ := List.nodup_cons.mp distinct
    have result : (state.deliver outcomes event .atLeastOnce target).1 =
        attemptResult event target.subscriber (outcomes target 0) := by
      rw [CountedDispatch.deliver, deliver_at_least_once, uncalled target List.mem_cons_self]
    have next : (state.deliver outcomes event .atLeastOnce target).2.called =
        if target.subscriber.matchesType event.metadata.eventType = true ∧
            target.subscriber.isActive = true then
          Function.update state.called target (state.called target + 1)
        else state.called := by
      simp [CountedDispatch.deliver, Dispatcher.calls]
    have others : ∀ other ∈ rest,
        (state.deliver outcomes event .atLeastOnce target).2.called other = 0 := by
      intro other member
      have apart : other ≠ target := fun same => new (same ▸ member)
      rw [next]
      split
      · rw [Function.update_of_ne apart]
        exact uncalled other (List.mem_cons_of_mem _ member)
      · exact uncalled other (List.mem_cons_of_mem _ member)
    obtain ⟨results, called⟩ := ih restDistinct _ others
    intro dispatched
    simp only [dispatched, CountedDispatch.dispatch, result]
    refine ⟨congrArg _ results, ?_⟩
    intro other
    rw [called, next]
    by_cases same : other = target
    · subst same
      by_cases takes : other.subscriber.matchesType event.metadata.eventType = true ∧
          other.subscriber.isActive = true
      · simp [takes, new]
      · simp [takes]
    · simp only [List.mem_cons, same, false_or]
      congr 1
      split
      · exact Function.update_of_ne same _ _
      · rfl

theorem lookup_zip_map {Key Value : Type*} [DecidableEq Key] (value : Key → Value)
    (keys : List Key) (key : Key) (member : key ∈ keys) :
    (keys.zip (keys.map value)).lookup key = some (value key) := by
  induction keys with
  | nil => cases member
  | cons head rest ih =>
    rw [List.map_cons, List.zip_cons_cons, List.lookup_cons]
    by_cases same : key = head
    · simp [same]
    · rw [beq_eq_false_iff_ne.mpr same]
      exact ih ((List.mem_cons.mp member).resolve_left same)

end Dispatching

section Publishing

namespace EventBus

theorem results_of_dispatched (outcomes : HandlerOutcomes) (now : Int) (second : Nat)
    (event : Event) (bus : EventBus) :
    bus.resultsOf
        { router := bus.router
          env := firstCalls outcomes now second
          event := event
          deliveryMode := "AT_LEAST_ONCE" } = (bus.dispatched outcomes event).1 := by
  rw [resultsOf, dispatched]
  split
  · have counted := (counted_at_least_once outcomes event (bus.router.routeEvent event)
      (Router.routes_to _ event).distinct { dispatcher := bus.dispatcher, called := fun _ => 0 }
      fun _ _ => rfl).1
    rw [counted, deliver]
    cases bus.router.routeEvent event with
    | nil => rfl
    | cons first rest =>
      exact dispatch_at_least_once event (firstCalls outcomes now second).fails
        bus.dispatcher (first :: rest)
  · rfl

theorem dispatched_to (outcomes : HandlerOutcomes) (event : Event) (bus : EventBus)
    (target : SubscriberObject) (routed : target ∈ bus.router.routeEvent event)
    (isFor : target.subscriber.matchesType event.metadata.eventType = true)
    (passes : (bus.middleware.all fun middleware => middleware.passes event) = true) :
    bus.resultFor outcomes event target =
        some (attemptResult event target.subscriber (outcomes target 0)) ∧
      (bus.dispatched outcomes event).2 target =
        if target.subscriber.isActive = true then 1 else 0 := by
  obtain ⟨results, called⟩ := counted_at_least_once outcomes event
    (bus.router.routeEvent event) (Router.routes_to _ event).distinct
    { dispatcher := bus.dispatcher, called := fun _ => 0 } fun _ _ => rfl
  rw [resultFor, dispatched, if_pos passes, results]
  refine ⟨lookup_zip_map _ _ _ routed, (called target).trans ?_⟩
  simp [routed, isFor]

theorem letters_of_cons (env : PublishEnv) (event : Event) (result : DeliveryResult)
    (rest : List DeliveryResult) :
    lettersOf env event (result :: rest) =
      lettersOf env event [result] ++ lettersOf env event rest := by
  rw [lettersOf, lettersOf, lettersOf, ← List.map_append, ← List.filter_append]
  rfl

theorem letters_by_target (env : PublishEnv) (outcomes : HandlerOutcomes) (event : Event)
    (bus : EventBus) :
    lettersOf env event (bus.dispatched outcomes event).1 =
      (bus.router.routeEvent event).flatMap (bus.lettersTo env outcomes event) := by
  by_cases passes : (bus.middleware.all fun middleware => middleware.passes event) = true
  · have results := (counted_at_least_once outcomes event (bus.router.routeEvent event)
      (Router.routes_to _ event).distinct { dispatcher := bus.dispatcher, called := fun _ => 0 }
      fun _ _ => rfl).1
    have listed : (bus.dispatched outcomes event).1 = (bus.router.routeEvent event).map
        fun target => attemptResult event target.subscriber (outcomes target 0) := by
      rw [dispatched, if_pos passes]
      exact results
    have each : ∀ target ∈ bus.router.routeEvent event,
        bus.lettersTo env outcomes event target = lettersOf env event
          [attemptResult event target.subscriber (outcomes target 0)] := by
      intro target routed
      rw [lettersTo, resultFor, listed, lookup_zip_map _ _ _ routed]
      rfl
    rw [List.flatMap_congr each, listed]
    induction bus.router.routeEvent event with
    | nil => rfl
    | cons target rest ih => rw [List.map_cons, letters_of_cons, ih, List.flatMap_cons]
  · have nothing : ∀ target, bus.lettersTo env outcomes event target = [] := by
      intro target
      rw [lettersTo, resultFor, dispatched, if_neg passes, List.zip_nil_right]
      rfl
    rw [dispatched, if_neg passes, List.flatMap_congr fun target _ => nothing target]
    simp [lettersOf]

variable (lineSize : StoreLine → Nat)

/-- A publish delivers at least once to an active subscriber whose handler succeeds at once,
and to no other. -/
theorem at_least_once_iff (outcomes : HandlerOutcomes) (now : Int) (second : Nat)
    (event : Event) (bus : EventBus) :
    let env := firstCalls outcomes now second
    let published := bus.publish lineSize env event "AT_LEAST_ONCE"
    published.bus.deadLetter =
        ((bus.router.routeEvent event).flatMap (bus.lettersTo env outcomes event)).foldl
          DeadLetterQueue.add bus.deadLetter ∧
      ∀ target ∈ bus.router.routeEvent event,
        target.subscriber.matchesType event.metadata.eventType = true →
          (DeliversAtLeastOnce event.metadata.maxRetries (outcomes target)
              ((bus.dispatched outcomes event).2 target) (bus.resultFor outcomes event target)
              (bus.lettersTo env outcomes event target) ↔
            (bus.middleware.all fun middleware => middleware.passes event) = true ∧
              target.subscriber.isActive = true ∧ outcomes target 0 = none) := by
  intro env published
  constructor
  · have added := publish_letters lineSize
      { router := bus.router, env := env, event := event, deliveryMode := "AT_LEAST_ONCE" } bus
    rw [results_of_dispatched, letters_by_target] at added
    exact added
  · intro target routed isFor
    by_cases passes : (bus.middleware.all fun middleware => middleware.passes event) = true
    · obtain ⟨result, called⟩ := dispatched_to outcomes event bus target routed isFor passes
      have status := attempt_result_status event target.subscriber (outcomes target 0) isFor
      have letters : bus.lettersTo env outcomes event target =
          lettersOf env event [attemptResult event target.subscriber (outcomes target 0)] := by
        rw [lettersTo, result]
        rfl
      rw [result, called, letters, and_iff_right passes]
      cases active : target.subscriber.isActive with
      | false =>
        refine iff_of_false ?_ fun within => nomatch within.1
        intro law
        cases law with
        | succeeded delivery last within success failed attempts => cases attempts
        | exhausted delivery letter failed attempts => cases attempts
      | true =>
        rw [Subscriber.handle, if_pos active] at status
        rw [if_pos rfl, and_iff_right rfl]
        by_cases success : outcomes target 0 = none
        · rw [if_pos success] at status
          refine iff_of_true ?_ success
          apply DeliversAtLeastOnce.succeeded _ 0 (Nat.zero_le _) success nofun rfl rfl status
          rw [lettersOf, List.filter_cons_of_neg (by simp [status])]
          rfl
        · rw [if_neg success] at status
          refine iff_of_false ?_ success
          intro law
          cases law with
          | succeeded delivery last within success failed attempts returned delivered =>
            cases returned
            cases status.symm.trans delivered
          | exhausted delivery letter failed attempts returned other lettered retries =>
            -- one attempt makes no retry, and the letter tells of three
            rw [lettersOf, List.filter_cons_of_pos (by simp [status])] at lettered
            obtain ⟨same, -⟩ := List.cons.inj lettered
            rw [← same] at retries
            cases retries
    · refine iff_of_false ?_ fun within => passes within.1
      have nothing : bus.resultFor outcomes event target = none := by
        rw [resultFor, dispatched, if_neg passes, List.zip_nil_right]
        rfl
      rw [nothing]
      intro law
      cases law with
      | succeeded delivery last within success failed attempts returned => cases returned
      | exhausted delivery letter failed attempts returned => cases returned

/-- A bus with one subscriber for every event. -/
def withSubscriber : EventBus :=
  ((create none (.load none 10000) 10000 true).subscribe "s" 0 [] true).2

def onlySubscriber : SubscriberObject :=
  ((create none (.load none 10000) 10000 true).subscribe "s" 0 [] true).1

theorem first_success_delivered : DeliversAtLeastOnce 3 (fun _ => none)
      ((withSubscriber.dispatched (fun _ _ => none) (.sample "e" "test" .normal)).2 onlySubscriber)
      (withSubscriber.resultFor (fun _ _ => none) (.sample "e" "test" .normal) onlySubscriber)
      (withSubscriber.lettersTo (firstCalls (fun _ _ => none) 0 0) (fun _ _ => none)
        (.sample "e" "test" .normal) onlySubscriber) :=
  ((at_least_once_iff (fun _ => 300) (fun _ _ => none) 0 0 (.sample "e" "test" .normal)
    withSubscriber).2 onlySubscriber (by decide +kernel) (by decide)).mpr ⟨by decide, rfl, rfl⟩

/-- The first call fails and the second would succeed, but there is none. -/
theorem failure_not_retried :
    let outcomes : HandlerOutcomes := fun _ attempt => if attempt = 0 then some "boom" else none
    let event : Event := .sample "e" "test" .normal
    event.metadata.maxRetries = 3 ∧
      (withSubscriber.dispatched outcomes event).2 onlySubscriber = 1 ∧
      ¬DeliversAtLeastOnce event.metadata.maxRetries (outcomes onlySubscriber)
        ((withSubscriber.dispatched outcomes event).2 onlySubscriber)
        (withSubscriber.resultFor outcomes event onlySubscriber)
        (withSubscriber.lettersTo (firstCalls outcomes 0 0) outcomes event onlySubscriber) := by
  intro outcomes event
  have once : (withSubscriber.dispatched outcomes event).2 onlySubscriber = 1 := by
    decide +kernel
  refine ⟨rfl, once, ?_⟩
  rw [once]
  intro law
  cases law with
  | succeeded delivery last within success failed attempts =>
    have first : last = 0 := by omega
    rw [first] at success
    cases success
  | exhausted delivery letter failed attempts => cases attempts

end EventBus

end Publishing

end AiEnterpriseOs.Events
