import AiEnterpriseOs.Events.Requeue
import AiEnterpriseOs.Library.Runs

/-!
# Delivery accounts

Bus, dispatcher and history each count what is delivered. The bus and the dispatcher
have metrics of their own, and the statistics are read from those of the bus.
-/

namespace AiEnterpriseOs.Events

open Library

/-- The counts of `get_stats`. -/
structure BusStats where
  totalPublished : Nat
  totalDelivered : Nat
  totalFailed : Nat
  totalDeadLetter : Nat
  isRunning : Bool
  routeCount : Nat
  deadLetterCount : Nat
  historyCount : Nat

/-- A publish, with the routes of the subscribers at that time. -/
structure PublishCall where
  router : Router
  env : PublishEnv
  event : Event
  deliveryMode : String

/-- A bus with the results of its dispatches, each with its event, and the records that
were added to the dead letters. -/
structure DeliveryRun where
  bus : EventBus
  results : List (Event × DeliveryResult)
  letters : List DeadLetterRecord

def DeliveryResult.hasStatus (status : EventStatus) (entry : Event × DeliveryResult) : Bool :=
  entry.2.status = status

/-- The entry stands for the result, and its action for the status. -/
def HistoryEntry.RecordsResult (entry : HistoryEntry) (result : DeliveryResult) : Prop :=
  entry.eventId = result.eventId ∧
    ("subscriber", PyValue.str result.subscriberName) ∈ entry.details ∧
    (entry.action = "delivered" → result.status = .delivered) ∧
    (entry.action = "failed" ∨ entry.action = "dead_lettered" → result.status = .failed)

/-- What `_deliver` records for a result. -/
def EventHistory.resultEntry (entry : Event × DeliveryResult) : HistoryEntry :=
  if entry.2.status = .failed then
    entryFor entry.1 "dead_lettered" [("subscriber", .str entry.2.subscriberName),
        ("error", .str (if entry.2.error = "" then "unknown" else entry.2.error))]
  else
    entryFor entry.1 (if entry.2.status = .delivered then "delivered" else "failed")
      (("subscriber", .str entry.2.subscriberName) ::
        if entry.2.error = "" then [] else [("error", .str entry.2.error)])

/-- The entries for results; the others are for publishes. -/
def EventHistory.resultEntries (history : EventHistory) : List HistoryEntry :=
  history.entries.filter fun entry => entry.action ≠ "published"

namespace EventBus

def getStats (bus : EventBus) : BusStats where
  totalPublished := bus.metrics.totalPublished
  totalDelivered := bus.metrics.totalDelivered
  totalFailed := bus.metrics.totalFailed
  totalDeadLetter := bus.metrics.totalDeadLetter
  isRunning := bus.running
  routeCount := bus.router.routes.length
  deadLetterCount := bus.deadLetter.records.length
  historyCount := bus.history.entries.length

/-- The results that a publish gets for its event, whatever becomes of it afterwards. -/
def resultsOf (call : PublishCall) (bus : EventBus) : List DeliveryResult :=
  if bus.middleware.all fun middleware => middleware.passes call.event then
    ((bus.deliver call.env call.event call.deliveryMode).results).getD []
  else []

/-- The records that are added for the results. -/
def lettersOf (env : PublishEnv) (event : Event) (results : List DeliveryResult) :
    List DeadLetterRecord :=
  (results.filter fun result => result.status = .failed).map (letterFor env event)

end EventBus

namespace DeliveryRun

variable (lineSize : StoreLine → Nat)

def start (bus : EventBus) : DeliveryRun := { bus := bus, results := [], letters := [] }

def step (run : DeliveryRun) (call : PublishCall) : DeliveryRun :=
  let bus := { run.bus with router := call.router }
  let results := bus.resultsOf call
  { bus := (bus.publish lineSize call.env call.event call.deliveryMode).bus
    results := run.results ++ results.map fun result => (call.event, result)
    letters := run.letters ++ EventBus.lettersOf call.env call.event results }

/-- The statistics count the results and the dead letters, and the history has one entry
for each result, in turn. -/
def Accounts (run : DeliveryRun) : Prop :=
  let stats := run.bus.getStats
  stats.totalDelivered = run.results.countP (DeliveryResult.hasStatus .delivered) ∧
    stats.totalFailed = run.results.countP (DeliveryResult.hasStatus .failed) ∧
    stats.totalDeadLetter = run.letters.length ∧
    List.Forall₂ HistoryEntry.RecordsResult run.bus.history.resultEntries (run.results.map Prod.snd)

/-- The publish is stopped by the middleware, finds no subscriber or does not know its
delivery mode. -/
def ReachesNobody (middleware : List Middleware) (call : PublishCall) : Prop :=
  (∃ stage ∈ middleware, stage.passes call.event = false) ∨
    call.router.routeEvent call.event = [] ∨ DeliveryMode.parse call.deliveryMode = none

end DeliveryRun

section History

namespace EventHistory

/-- The entries were recorded, of which a full history has dropped the oldest. -/
def Appended (before after : EventHistory) (entries : List HistoryEntry) : Prop :=
  after.entries <:+ before.entries ++ entries

theorem appended_refl (history : EventHistory) : Appended history history [] := by
  exact ⟨[], (List.append_nil _).symm⟩

theorem appended_trans {before middle after : EventHistory} {first second : List HistoryEntry}
    (early : Appended before middle first) (late : Appended middle after second) :
    Appended before after (first ++ second) := by
  rw [Appended, ← List.append_assoc]
  exact late.trans (List.suffix_append_self_iff.mpr early)

theorem push_appended (history : EventHistory) (entry : HistoryEntry) :
    Appended history (history.push entry) [entry] :=
  List.drop_suffix _ _

theorem result_entry_action (entry : Event × DeliveryResult) :
    (resultEntry entry).action ≠ "published" := by
  rw [resultEntry]
  split
  · exact (by decide : "dead_lettered" ≠ "published")
  · show (if entry.2.status = .delivered then "delivered" else "failed") ≠ "published"
    split <;> decide

end EventHistory

end History

section Publishing

open EventHistory

namespace EventBus

theorem handle_result_accounts (env : PublishEnv) (event : Event) (bus : EventBus)
    (result : DeliveryResult) :
    (handleResult env event bus result).metrics = bus.metrics ∧
      (handleResult env event bus result).dispatcher = bus.dispatcher ∧
      Appended bus.history (handleResult env event bus result).history
        [resultEntry (event, result)] := by
  rw [handleResult, resultEntry]
  by_cases failed : result.status = .failed
  · rw [if_pos failed, if_pos failed]
    exact ⟨rfl, rfl, push_appended _ _⟩
  · rw [if_neg failed, if_neg failed]
    exact ⟨rfl, rfl, push_appended _ _⟩

theorem handle_results_accounts (env : PublishEnv) (event : Event)
    (results : List DeliveryResult) (bus : EventBus) :
    let handled := results.foldl (handleResult env event) bus
    handled.metrics = bus.metrics ∧ handled.dispatcher = bus.dispatcher ∧
      Appended bus.history handled.history
        (results.map fun result => resultEntry (event, result)) := by
  induction results generalizing bus with
  | nil => exact ⟨rfl, rfl, appended_refl _⟩
  | cons result rest ih =>
    obtain ⟨metrics, dispatcher, history⟩ := handle_result_accounts env event bus result
    obtain ⟨laterMetrics, laterDispatcher, laterHistory⟩ :=
      ih (handleResult env event bus result)
    exact ⟨laterMetrics.trans metrics, laterDispatcher.trans dispatcher,
      appended_trans history laterHistory⟩

theorem deliver_accounts (env : PublishEnv) (event : Event) (deliveryMode : String)
    (bus : EventBus) :
    let delivered := bus.deliver env event deliveryMode
    delivered.bus.metrics = bus.metrics ∧ Appended bus.history delivered.bus.history
        ((delivered.results.getD []).map fun result => resultEntry (event, result)) := by
  rw [deliver]
  cases bus.router.routeEvent event with
  | nil => exact ⟨rfl, appended_refl _⟩
  | cons first rest =>
    cases DeliveryMode.parse deliveryMode with
    | none => exact ⟨rfl, appended_refl _⟩
    | some mode =>
      obtain ⟨metrics, -, history⟩ := handle_results_accounts env event
        (Dispatcher.dispatch event mode bus.dispatcher ((first :: rest).map fun target =>
          (target.subscriber, env.fails target))).1
        { bus with
          dispatcher := (Dispatcher.dispatch event mode bus.dispatcher
            ((first :: rest).map fun target =>
              (target.subscriber, env.fails target))).2 }
      exact ⟨metrics, history⟩

/-- The counts of the metrics that no publish of the bus changes. -/
def deliveryCounts (bus : EventBus) : Nat × Nat × Nat :=
  (bus.metrics.totalDelivered, bus.metrics.totalFailed, bus.metrics.totalDeadLetter)

theorem publish_accounts (lineSize : StoreLine → Nat) (call : PublishCall) (bus : EventBus) :
    let after := (bus.publish lineSize call.env call.event call.deliveryMode).bus
    after.deliveryCounts = bus.deliveryCounts ∧
      ∃ published : List HistoryEntry, (∀ entry ∈ published, entry.action = "published") ∧
        Appended bus.history after.history
          ((bus.resultsOf call).map (fun result => resultEntry (call.event, result)) ++
            published) := by
  intro after
  obtain ⟨metrics, history⟩ :=
    deliver_accounts call.env call.event call.deliveryMode bus
  by_cases passes : (bus.middleware.all fun middleware => middleware.passes call.event) = true
  · rw [resultsOf, if_pos passes]
    obtain ⟨store, stopped | recorded⟩ :=
      publish_bus lineSize call.env call.event call.deliveryMode bus passes
    · rw [show after = _ from stopped]
      refine ⟨by simp only [deliveryCounts, metrics], [], nofun, ?_⟩
      rw [List.append_nil]
      exact history
    · rw [show after = _ from recorded]
      refine ⟨by simp only [deliveryCounts, recordPublish, EventMetrics.recordPublish, metrics],
        [entryFor call.event "published" _], ?_, appended_trans history (push_appended _ _)⟩
      intro entry member
      rw [List.mem_singleton.mp member]
      rfl
  · have unchanged : after = bus := by
      show (bus.publish lineSize call.env call.event call.deliveryMode).bus = bus
      rw [publish, if_neg passes]
    rw [unchanged, resultsOf, if_neg passes]
    exact ⟨rfl, [], nofun, appended_refl _⟩

theorem dispatch_length (event : Event) (mode : DeliveryMode) (dispatcher : Dispatcher)
    (targets : List (Subscriber × Failure)) :
    (Dispatcher.dispatch event mode dispatcher targets).1.length = targets.length := by
  induction targets generalizing dispatcher with
  | nil => rfl
  | cons target rest ih => simp [Dispatcher.dispatch, ih]

/-- The dispatcher has counted the results. -/
def Counted (before after : Dispatcher) (results : List DeliveryResult) : Prop :=
  after.metrics.totalDelivered =
      before.metrics.totalDelivered + results.countP (fun result => result.status = .delivered) ∧
    after.metrics.totalFailed =
      before.metrics.totalFailed + results.countP fun result => result.status = .failed

theorem record_metrics_counted (dispatcher : Dispatcher) (event : Event)
    (subscriber : Subscriber) (failure : Failure) (mode : DeliveryMode) :
    let delivery := dispatcher.deliverToSubscriber event subscriber failure mode
    Counted dispatcher (delivery.2.recordMetrics delivery.1) [delivery.1] := by
  intro delivery
  have kept : delivery.2.metrics = dispatcher.metrics := by
    simp only [delivery, Dispatcher.deliverToSubscriber]
    split
    · rfl
    · split
      · rfl
      · cases subscriber.handle failure with
        | none =>
          dsimp only
          split <;> rfl
        | some error => rfl
  rw [Counted, Dispatcher.recordMetrics, kept]
  by_cases delivered : delivery.1.status = .delivered
  · simp [delivered, EventMetrics.recordDelivery, EventMetrics.recordSubscriberDelivery]
  · by_cases failed : delivery.1.status = .failed
    · simp [failed, EventMetrics.recordFailure, EventMetrics.recordSubscriberError,
        EventMetrics.recordSubscriberDelivery]
    · simp [delivered, failed, EventMetrics.recordSubscriberDelivery]

theorem dispatch_counted (event : Event) (mode : DeliveryMode) (dispatcher : Dispatcher)
    (targets : List (Subscriber × Failure)) :
    let dispatched := Dispatcher.dispatch event mode dispatcher targets
    Counted dispatcher dispatched.2 dispatched.1 := by
  induction targets generalizing dispatcher with
  | nil => exact ⟨rfl, rfl⟩
  | cons target rest ih =>
    obtain ⟨subscriber, failure⟩ := target
    have first := record_metrics_counted dispatcher event subscriber failure mode
    have later := ih ((dispatcher.deliverToSubscriber event subscriber failure mode).2.recordMetrics
        (dispatcher.deliverToSubscriber event subscriber failure mode).1)
    simp only [Counted, List.countP_cons, List.countP_nil, Dispatcher.dispatch] at *
    omega

theorem deliver_counted (env : PublishEnv) (event : Event) (deliveryMode : String)
    (bus : EventBus) :
    let delivered := bus.deliver env event deliveryMode
    Counted bus.dispatcher delivered.bus.dispatcher (delivered.results.getD []) := by
  rw [deliver]
  cases bus.router.routeEvent event with
  | nil => exact ⟨rfl, rfl⟩
  | cons first rest =>
    cases DeliveryMode.parse deliveryMode with
    | none => exact ⟨rfl, rfl⟩
    | some mode =>
      have dispatched := dispatch_counted event mode bus.dispatcher
        ((first :: rest).map fun target => (target.subscriber, env.fails target))
      have kept := (handle_results_accounts env event
        (Dispatcher.dispatch event mode bus.dispatcher ((first :: rest).map fun target =>
          (target.subscriber, env.fails target))).1
        { bus with
          dispatcher := (Dispatcher.dispatch event mode bus.dispatcher
            ((first :: rest).map fun target =>
              (target.subscriber, env.fails target))).2 }).2.1
      simp only [kept]
      exact dispatched

theorem publish_counted (lineSize : StoreLine → Nat) (call : PublishCall) (bus : EventBus) :
    Counted bus.dispatcher
      (bus.publish lineSize call.env call.event call.deliveryMode).bus.dispatcher
      (bus.resultsOf call) := by
  rw [resultsOf]
  by_cases passes : (bus.middleware.all fun middleware => middleware.passes call.event) = true
  · have delivered := deliver_counted call.env call.event call.deliveryMode bus
    rw [if_pos passes]
    obtain ⟨store, stopped | recorded⟩ :=
      publish_bus lineSize call.env call.event call.deliveryMode bus passes
    · rw [stopped]
      exact delivered
    · rw [recorded]
      exact delivered
  · rw [if_neg passes, publish, if_neg passes]
    exact ⟨rfl, rfl⟩

theorem handle_results_letters (env : PublishEnv) (event : Event)
    (results : List DeliveryResult) (bus : EventBus) :
    (results.foldl (handleResult env event) bus).deadLetter =
      (lettersOf env event results).foldl DeadLetterQueue.add bus.deadLetter := by
  induction results generalizing bus with
  | nil => rfl
  | cons result rest ih =>
    rw [List.foldl_cons, ih, lettersOf, lettersOf, handleResult]
    by_cases failed : result.status = .failed
    · rw [if_pos failed, List.filter_cons, if_pos (decide_eq_true failed)]
      rfl
    · rw [if_neg failed, List.filter_cons, if_neg (by simpa using failed)]

theorem publish_letters (lineSize : StoreLine → Nat) (call : PublishCall) (bus : EventBus) :
    (bus.publish lineSize call.env call.event call.deliveryMode).bus.deadLetter =
      (lettersOf call.env call.event (bus.resultsOf call)).foldl DeadLetterQueue.add
        bus.deadLetter := by
  rw [resultsOf]
  by_cases passes : (bus.middleware.all fun middleware => middleware.passes call.event) = true
  · have delivered : (bus.deliver call.env call.event call.deliveryMode).bus.deadLetter =
        (lettersOf call.env call.event
          ((bus.deliver call.env call.event call.deliveryMode).results.getD [])).foldl
            DeadLetterQueue.add bus.deadLetter := by
      rw [deliver]
      cases bus.router.routeEvent call.event with
      | nil => rfl
      | cons first rest =>
        cases DeliveryMode.parse call.deliveryMode with
        | none => rfl
        | some mode => exact handle_results_letters _ _ _ _
    rw [if_pos passes, ← delivered]
    obtain ⟨store, stopped | recorded⟩ :=
      publish_bus lineSize call.env call.event call.deliveryMode bus passes
    · rw [stopped]
    · rw [recorded]
      rfl
  · rw [if_neg passes, publish, if_neg passes]
    rfl

theorem results_of_nil_iff (call : PublishCall) (bus : EventBus)
    (routed : bus.router = call.router) :
    bus.resultsOf call = [] ↔ DeliveryRun.ReachesNobody bus.middleware call := by
  rw [resultsOf, DeliveryRun.ReachesNobody, ← routed]
  by_cases passes : (bus.middleware.all fun middleware => middleware.passes call.event) = true
  · have open' : ¬∃ stage ∈ bus.middleware, stage.passes call.event = false := by
      rintro ⟨stage, member, stops⟩
      rw [List.all_eq_true.mp passes stage member] at stops
      cases stops
    rw [if_pos passes, deliver, or_iff_right open']
    cases bus.router.routeEvent call.event with
    | nil => simp
    | cons first rest =>
      cases DeliveryMode.parse call.deliveryMode with
      | none => simp
      | some mode =>
        simp only [Option.getD_some, reduceCtorEq, or_self, iff_false]
        intro nothing
        have none := congrArg List.length nothing
        simp [dispatch_length] at none
  · rw [if_neg passes]
    refine iff_of_true rfl (.inl ?_)
    simpa using passes

end EventBus

end Publishing

section Runs

open EventHistory EventBus

namespace DeliveryRun

variable (lineSize : StoreLine → Nat)

/-- No delivery has been counted, and every result has been recorded. -/
structure Recorded (middleware : List Middleware) (run : DeliveryRun) : Prop where
  middleware : run.bus.middleware = middleware
  uncounted : run.bus.deliveryCounts = (0, 0, 0)
  recorded : ∃ entries : List HistoryEntry, run.bus.history.entries <:+ entries ∧
    (entries.filter fun entry => entry.action ≠ "published") = run.results.map resultEntry
  letters : run.letters.length = run.results.countP (DeliveryResult.hasStatus .failed)

theorem recorded_step (middleware : List Middleware) (run : DeliveryRun) (call : PublishCall)
    (recorded : run.Recorded middleware) : (run.step lineSize call).Recorded middleware := by
  obtain ⟨stages, uncounted, ⟨entries, kept, results⟩, letters⟩ := recorded
  obtain ⟨counts, published, others, appended⟩ :=
    publish_accounts lineSize call { run.bus with router := call.router }
  have wiring := (publish_frame lineSize call.env call.event call.deliveryMode
    { run.bus with router := call.router }).1
  refine ⟨(congrArg Prod.fst wiring).trans stages, counts.trans uncounted, ⟨_,
    appended.trans (List.suffix_append_self_iff.mpr kept), ?_⟩, ?_⟩
  · have silent : (published.filter fun entry => entry.action ≠ "published") = [] := by
      rw [List.filter_eq_nil_iff]
      intro entry member
      simp [others entry member]
    have spoken : ∀ results : List DeliveryResult,
        ((results.map fun result => resultEntry (call.event, result)).filter fun entry =>
          entry.action ≠ "published") =
            results.map fun result => resultEntry (call.event, result) := by
      intro results
      rw [List.filter_eq_self]
      intro entry member
      obtain ⟨result, -, same⟩ := List.mem_map.mp member
      rw [← same]
      exact decide_eq_true (result_entry_action _)
    rw [List.filter_append, List.filter_append, silent, spoken, results, List.append_nil, step,
      List.map_append, List.map_map]
    rfl
  · rw [step, List.length_append, letters, lettersOf, List.length_map,
      ← List.countP_eq_length_filter, List.countP_append, List.countP_map]
    rfl

theorem recorded_run (bus : EventBus) (uncounted : bus.deliveryCounts = (0, 0, 0))
    (silent : bus.history.entries = []) (calls : List PublishCall) :
    (runInputs (step lineSize) (start bus) calls).Recorded bus.middleware := by
  apply invariant_of_steps (step lineSize) (recorded_step lineSize bus.middleware)
  exact ⟨rfl, uncounted, ⟨[], ⟨[], silent⟩, rfl⟩, rfl⟩

/-- Nothing is counted and a skipped result is recorded as failed, so the accounts are right
only where there is no result. -/
theorem accounts_iff_no_results {middleware : List Middleware} {run : DeliveryRun}
    (recorded : run.Recorded middleware) : run.Accounts ↔ run.results = [] := by
  obtain ⟨-, uncounted, ⟨entries, kept, results⟩, letters⟩ := recorded
  obtain ⟨noneDelivered, noneFailed, noneDead⟩ : run.bus.metrics.totalDelivered = 0 ∧
      run.bus.metrics.totalFailed = 0 ∧ run.bus.metrics.totalDeadLetter = 0 := by
    simpa [deliveryCounts] using uncounted
  have spoken : run.bus.history.resultEntries <:+ run.results.map resultEntry := by
    rw [← results]
    exact kept.filter _
  rw [Accounts, getStats]
  simp only [noneDelivered, noneFailed, noneDead, letters]
  constructor
  · rintro ⟨delivered, failed, -, matched⟩
    by_contra some
    obtain ⟨first, rest, split⟩ := List.exists_cons_of_ne_nil some
    have whole : run.bus.history.resultEntries = run.results.map resultEntry := by
      apply spoken.eq_of_length
      rw [matched.length_eq, List.length_map, List.length_map]
    rw [whole, split, List.map_cons, List.map_cons, List.forall₂_cons] at matched
    obtain ⟨-, -, -, onlyFailed⟩ := matched.1
    have member : first ∈ run.results := by
      rw [split]
      exact List.mem_cons_self
    have notDelivered : first.2.status ≠ .delivered := by
      simpa [DeliveryResult.hasStatus] using List.countP_eq_zero.mp delivered.symm first member
    have notFailed : first.2.status ≠ .failed := by
      simpa [DeliveryResult.hasStatus] using List.countP_eq_zero.mp failed.symm first member
    apply notFailed
    apply onlyFailed
    rw [resultEntry, if_neg notFailed, if_neg notDelivered]
    exact .inl rfl
  · intro none
    rw [none, List.map_nil, List.suffix_nil] at spoken
    rw [spoken, none]
    exact ⟨rfl, rfl, rfl, .nil⟩

theorem no_results_iff (middleware : List Middleware) (run : DeliveryRun)
    (recorded : run.Recorded middleware) (calls : List PublishCall) :
    (runInputs (step lineSize) run calls).results = [] ↔
      run.results = [] ∧ ∀ call ∈ calls, ReachesNobody middleware call := by
  induction calls generalizing run with
  | nil => simp
  | cons call rest ih =>
    have reached := results_of_nil_iff call { run.bus with router := call.router } rfl
    rw [run_inputs_cons, ih _ (recorded_step lineSize middleware run call recorded),
      List.forall_mem_cons, ← recorded.middleware, ← reached, ← and_assoc]
    apply and_congr_left'
    rw [step, List.append_eq_nil_iff, List.map_eq_nil_iff]

/-- The statistics and the history of a new bus account for its deliveries exactly as long
as no publish reaches a subscriber. -/
theorem accounts_iff_reaches_nobody (persistence : Option EventPersistence)
    (deadLetter : DeadLetterQueue) (maxHistory : Nat) (enableMiddleware : Bool)
    (calls : List PublishCall) :
    let bus := create persistence deadLetter maxHistory enableMiddleware
    (runInputs (step lineSize) (start bus) calls).Accounts ↔
      ∀ call ∈ calls, ReachesNobody bus.middleware call := by
  intro bus
  have recorded := recorded_run lineSize bus rfl rfl
  rw [accounts_iff_no_results (recorded calls),
    no_results_iff lineSize bus.middleware (start bus) (recorded [])]
  exact and_iff_right rfl

theorem dispatcher_accounts (bus : EventBus) (calls : List PublishCall) :
    let run := runInputs (step lineSize) (start bus) calls
    Counted bus.dispatcher run.bus.dispatcher (run.results.map Prod.snd) := by
  apply @invariant_of_steps _ _ (step lineSize) fun run =>
    Counted bus.dispatcher run.bus.dispatcher (run.results.map Prod.snd)
  · intro run call before
    have added := publish_counted lineSize call { run.bus with router := call.router }
    simp only [Counted, step, List.map_append, List.countP_append, List.map_map] at *
    have same : (Prod.snd ∘ fun result : DeliveryResult => (call.event, result)) = id := rfl
    rw [same, List.map_id]
    omega
  · exact ⟨rfl, rfl⟩

theorem letters_added (bus : EventBus) (calls : List PublishCall) :
    let run := runInputs (step lineSize) (start bus) calls
    run.bus.deadLetter = run.letters.foldl DeadLetterQueue.add bus.deadLetter := by
  apply @invariant_of_steps _ _ (step lineSize) fun run =>
    run.bus.deadLetter = run.letters.foldl DeadLetterQueue.add bus.deadLetter
  · intro run call before
    have added := publish_letters lineSize call { run.bus with router := call.router }
    rw [before] at added
    rw [step, List.foldl_append]
    exact added
  · rfl

/-- One event is delivered to its subscriber, and the statistics still count none. -/
theorem delivery_not_counted :
    let subscribed := Router.empty.addRoute
      { name := "route:s"
        subscriber :=
          { objectId := 0
            subscriber :=
              { subscriberId := "sub:s", name := "s", eventTypes := [], isActive := true } }
        filterChain := { filters := [] }
        priority := 100 }
    let run := runInputs (step fun _ => 300) (start (create none (.load none 10000) 10000 true))
      [{ router := subscribed
         env := steadyEnv none
         event := .sample "a" "test" .normal
         deliveryMode := "AT_LEAST_ONCE" }]
    run.results.countP (DeliveryResult.hasStatus .delivered) = 1 ∧
      run.bus.getStats.totalDelivered = 0 ∧ ¬run.Accounts := by
  intro subscribed run
  have delivered : run.results.countP (DeliveryResult.hasStatus .delivered) = 1 := by
    decide +kernel
  have counted : run.bus.getStats.totalDelivered = 0 := by decide +kernel
  refine ⟨delivered, counted, ?_⟩
  rintro ⟨same, -⟩
  rw [counted, delivered] at same
  cases same

end DeliveryRun

end Runs

end AiEnterpriseOs.Events
