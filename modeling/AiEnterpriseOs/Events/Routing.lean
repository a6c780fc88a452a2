import AiEnterpriseOs.Events.Bus
import AiEnterpriseOs.Library.Runs

/-!
# Registering and removing routes

The routes are kept by priority and, within one, in the order of registration. Unsubscribing
a name removes the first route that is called after it, whichever subscriber it leads to.
-/

namespace AiEnterpriseOs.Events

open Library

namespace Router

/-- The route that `add_subscriber_route` makes. -/
def subscriberRoute (name : String) (subscriber : SubscriberObject)
    (eventTypes : List EventType) (priority : Int) : Route where
  name := name
  subscriber := subscriber
  filterChain := { filters := if eventTypes.isEmpty then [] else [.typeFilter eventTypes] }
  priority := priority

def addSubscriberRoute (router : Router) (name : String) (subscriber : SubscriberObject)
    (eventTypes : List EventType) (priority : Int) : Route × Router :=
  let route := subscriberRoute name subscriber eventTypes priority
  (route, router.addRoute route)

def hasRoute (router : Router) (name : String) : Bool :=
  router.routes.any fun route => route.name = name

end Router

namespace EventBus

/-- `subscribe`; the new subscriber gets the identity. -/
def subscribe (name : String) (objectId : Nat) (eventTypes : List EventType)
    (autoRoute : Bool) (bus : EventBus) : SubscriberObject × EventBus :=
  let subscriber : SubscriberObject :=
    { objectId := objectId
      subscriber :=
        { subscriberId := "sub:" ++ name
          name := name
          eventTypes := eventTypes
          isActive := true } }
  (subscriber,
    if autoRoute then
      { bus with
        router :=
          (bus.router.addSubscriberRoute ("route:" ++ name) subscriber eventTypes 100).2 }
    else bus)

def unsubscribe (name : String) (bus : EventBus) : Bool × EventBus :=
  (bus.router.hasRoute ("route:" ++ name),
    { bus with router := bus.router.removeRoute ("route:" ++ name) })

def addRoute (route : Route) (bus : EventBus) : EventBus :=
  { bus with router := bus.router.addRoute route }

def addSubscriberRoute (name : String) (subscriber : SubscriberObject)
    (eventTypes : List EventType) (priority : Int) (bus : EventBus) : Route × EventBus :=
  let added := bus.router.addSubscriberRoute name subscriber eventTypes priority
  (added.1, { bus with router := added.2 })

/-- A published event gets to the handler of the subscriber. -/
def Reaches (bus : EventBus) (event : Event) (target : SubscriberObject) : Prop :=
  target ∈ bus.router.routeEvent event ∧
    target.subscriber.matchesType event.metadata.eventType = true ∧
    target.subscriber.isActive = true

end EventBus

/-- The route lets some event pass to the handler of its subscriber. -/
def Route.Leads (route : Route) : Prop :=
  ∃ event : Event, route.filterChain.passes event = true ∧
    route.subscriber.subscriber.matchesType event.metadata.eventType = true ∧
    route.subscriber.subscriber.isActive = true

inductive RoutingCall where
  | subscribe (name : String) (objectId : Nat) (eventTypes : List EventType) (autoRoute : Bool)
  | addRoute (route : Route)
  | addSubscriberRoute (name : String) (subscriber : SubscriberObject)
      (eventTypes : List EventType) (priority : Int)
  | unsubscribe (name : String)

/-- A bus with what was registered on it: the routes in their order, the subscribers by the
name of their subscription, and the names that were unsubscribed. `detached` are the
handlers that were unsubscribed and that no route has been registered for since. -/
structure RoutingRun (Handler : Type) where
  bus : EventBus
  registered : List Route
  subscribed : List (String × SubscriberObject)
  unsubscribed : List String
  detached : Set Handler

namespace RoutingRun

variable {Handler : Type} (handlerOf : SubscriberObject → Handler)

def start (bus : EventBus) : RoutingRun Handler where
  bus := bus
  registered := []
  subscribed := []
  unsubscribed := []
  detached := ∅

/-- The handlers that were subscribed under the name. -/
def handlersUnder (name : String) (run : RoutingRun Handler) : Set Handler :=
  { handler | ∃ subscriber, (name, subscriber) ∈ run.subscribed ∧ handlerOf subscriber = handler }

def register (route : Route) (bus : EventBus) (run : RoutingRun Handler) : RoutingRun Handler :=
  { run with
    bus := bus
    registered := run.registered ++ [route]
    detached := run.detached \ {handlerOf route.subscriber} }

def step (run : RoutingRun Handler) : RoutingCall → RoutingRun Handler
  | .subscribe name objectId eventTypes autoRoute =>
    let subscription := run.bus.subscribe name objectId eventTypes autoRoute
    let subscribed := { run with subscribed := run.subscribed ++ [(name, subscription.1)] }
    if autoRoute then
      subscribed.register handlerOf
        (Router.subscriberRoute ("route:" ++ name) subscription.1 eventTypes 100)
        subscription.2
    else { subscribed with bus := subscription.2 }
  | .addRoute route => run.register handlerOf route (run.bus.addRoute route)
  | .addSubscriberRoute name subscriber eventTypes priority =>
    let added := run.bus.addSubscriberRoute name subscriber eventTypes priority
    run.register handlerOf added.1 added.2
  | .unsubscribe name =>
    { run with
      bus := (run.bus.unsubscribe name).2
      unsubscribed := run.unsubscribed ++ [name]
      detached := run.detached ∪ run.handlersUnder handlerOf name }

/-- The routes of the bus are registered routes, each at most once, by priority and then in
the order of registration. One that is missing is called after a name that was
unsubscribed. -/
def RoutesKept (run : RoutingRun Handler) : Prop :=
  ∃ placed : List (Nat × Route), run.bus.router.routes = placed.map Prod.snd ∧
      (∀ entry ∈ placed, run.registered[entry.1]? = some entry.2) ∧
      (placed.Pairwise fun left right => left.2.priority < right.2.priority ∨
        left.2.priority = right.2.priority ∧ left.1 < right.1) ∧
      ∀ pos route, run.registered[pos]? = some route → (pos, route) ∈ placed ∨
        ∃ name ∈ run.unsubscribed, route.name = "route:" ++ name

/-- No event gets to a handler that was unsubscribed. -/
def NoneReached (run : RoutingRun Handler) : Prop :=
  ∀ event target, run.bus.Reaches event target → handlerOf target ∉ run.detached

/-- Beside the first route that is called after the name, no route leads to a handler that
was subscribed under it. -/
def RemovesAll (run : RoutingRun Handler) : RoutingCall → Prop
  | .unsubscribe name =>
    ∀ early route late, run.bus.router.routes = early ++ route :: late →
      (route.name = "route:" ++ name → ∃ first ∈ early, first.name = "route:" ++ name) →
      route.Leads → handlerOf route.subscriber ∉ run.handlersUnder handlerOf name
  | .subscribe _ _ _ _ | .addRoute _ | .addSubscriberRoute _ _ _ _ => True

end RoutingRun

/-- The subscribers of the routes that let the event pass, without duplicates, in the order
of the first such route of each. -/
structure Router.RoutesTo (router : Router) (event : Event)
    (targets : List SubscriberObject) : Prop where
  distinct : targets.Nodup
  mem_iff : ∀ target, target ∈ targets ↔
    ∃ route ∈ router.routes, route.filterChain.passes event = true ∧ route.subscriber = target
  ordered : targets = ((router.routes.filter fun route => route.filterChain.passes event).map
      Route.subscriber).eraseDups

section Routing

namespace Router

theorem route_loop_eq (event : Event) (routes : List Route) (seen : List SubscriberObject) :
    routeLoop event routes seen =
      seen ++ (((routes.filter fun route => route.filterChain.passes event).map
        Route.subscriber).filter fun target => target ∉ seen).eraseDups := by
  induction routes generalizing seen with
  | nil => simp [routeLoop]
  | cons route rest ih =>
    rw [routeLoop, List.filter_cons]
    by_cases known : route.subscriber ∈ seen
    · rw [if_pos known, ih]
      split
      · rw [List.map_cons, List.filter_cons_of_neg (by simpa using known)]
      · rfl
    · rw [if_neg known]
      split
      next passes =>
        have later : ∀ targets : List SubscriberObject,
            (targets.filter fun target => target ∉ seen ++ [route.subscriber]) =
              (targets.filter fun target => target ∉ seen).filter
                fun target => !target == route.subscriber := by
          intro targets
          rw [List.filter_filter]
          apply List.filter_congr
          intro target _
          by_cases same : target = route.subscriber <;> simp [same]
        rw [ih, later, List.map_cons, List.filter_cons_of_pos (by simpa using known),
          List.eraseDups_cons, List.append_assoc]
        rfl
      · exact ih seen

theorem route_loop_nodup (event : Event) (routes : List Route) (seen : List SubscriberObject)
    (distinct : seen.Nodup) : (routeLoop event routes seen).Nodup := by
  induction routes generalizing seen with
  | nil => exact distinct
  | cons route rest ih =>
    rw [routeLoop]
    split
    · exact ih seen distinct
    next new =>
      split
      · apply ih
        exact List.nodup_append.mpr ⟨distinct, List.nodup_singleton _, by
          intro left member right single same
          rw [List.mem_singleton.mp single] at same
          exact new (same ▸ member)⟩
      · exact ih seen distinct

theorem routes_to (router : Router) (event : Event) :
    router.RoutesTo event (router.routeEvent event) := by
  have listed : router.routeEvent event =
      ((router.routes.filter fun route => route.filterChain.passes event).map
        Route.subscriber).eraseDups := by
    rw [routeEvent, route_loop_eq]
    simp
  refine ⟨route_loop_nodup event router.routes [] List.nodup_nil, ?_, listed⟩
  intro target
  rw [listed, List.mem_eraseDups]
  simp [and_assoc]

theorem add_route_split (router : Router) (route : Route)
    (sorted : router.routes.Pairwise fun left right => left.priority ≤ right.priority) :
    ∃ early late, router.routes = early ++ late ∧
      (router.addRoute route).routes = early ++ route :: late ∧
      (∀ before ∈ early, before.priority ≤ route.priority) ∧
      ∀ after ∈ late, route.priority < after.priority := by
  obtain ⟨routes⟩ := router
  simp only [addRoute]
  induction routes with
  | nil => exact ⟨[], [], rfl, rfl, nofun, nofun⟩
  | cons head rest ih =>
    obtain ⟨least, restSorted⟩ := List.pairwise_cons.mp sorted
    obtain ⟨early, late, split, inserted, before, after⟩ := ih restSorted
    rw [List.cons_append, List.insertionSort_cons, inserted]
    by_cases first : head.priority ≤ route.priority
    · refine ⟨head :: early, late, congrArg (head :: ·) split, ?_,
        List.forall_mem_cons.mpr ⟨first, before⟩, after⟩
      cases early with
      | nil => rw [List.nil_append, List.orderedInsert_cons, if_pos first]; rfl
      | cons next early =>
        rw [List.cons_append, List.orderedInsert_cons,
          if_pos (least next (by rw [split]; exact List.mem_cons_self))]
        rfl
    · have nothing : early = [] := by
        cases early with
        | nil => rfl
        | cons next early =>
          have high := least next (by rw [split]; exact List.mem_cons_self)
          have low := before next List.mem_cons_self
          omega
      subst nothing
      refine ⟨[], head :: rest, rfl, ?_, nofun, ?_⟩
      · rw [List.nil_append, List.orderedInsert_cons, if_neg first, split, List.nil_append]
        cases late with
        | nil => rfl
        | cons next late =>
          rw [List.orderedInsert_cons,
            if_pos (least next (by rw [split]; exact List.mem_cons_self))]
          rfl
      · intro later member
        rcases List.mem_cons.mp member with same | inRest
        · rw [same]
          omega
        · exact after later (by rw [split] at inRest; exact inRest)

end Router

theorem mem_erase_first_iff {Item : Type*} (condition : Item → Bool) (items : List Item)
    (item : Item) :
    item ∈ items.eraseP condition ↔ ∃ early late, items = early ++ item :: late ∧
        (condition item = true → ∃ first ∈ early, condition first = true) := by
  induction items with
  | nil =>
    refine iff_of_false List.not_mem_nil ?_
    rintro ⟨early, late, split, -⟩
    cases early <;> cases split
  | cons head rest ih =>
    by_cases first : condition head = true
    · rw [List.eraseP_cons_of_pos first]
      constructor
      · intro member
        obtain ⟨early, late, split⟩ := List.append_of_mem member
        exact ⟨head :: early, late, congrArg (head :: ·) split, fun _ =>
          ⟨head, List.mem_cons_self, first⟩⟩
      · rintro ⟨early, late, split, spared⟩
        cases early with
        | nil =>
          obtain ⟨same, -⟩ := List.cons.inj split
          obtain ⟨other, member, -⟩ := spared (same ▸ first)
          cases member
        | cons other early =>
          rw [(List.cons.inj split).2]
          simp
    · rw [List.eraseP_cons_of_neg first, List.mem_cons, ih]
      constructor
      · rintro (same | ⟨early, late, split, spared⟩)
        · refine ⟨[], rest, by rw [same]; rfl, fun met => absurd (same ▸ met) first⟩
        · refine ⟨head :: early, late, congrArg (head :: ·) split, fun met => ?_⟩
          obtain ⟨other, member, holds⟩ := spared met
          exact ⟨other, List.mem_cons_of_mem _ member, holds⟩
      · rintro ⟨early, late, split, spared⟩
        cases early with
        | nil => exact .inl (List.cons.inj split).1.symm
        | cons other early =>
          obtain ⟨same, remaining⟩ := List.cons.inj split
          refine .inr ⟨early, late, remaining, fun met => ?_⟩
          obtain ⟨found, member, holds⟩ := spared met
          rcases List.mem_cons.mp member with here | later
          · rw [here, ← same] at holds
            exact absurd holds first
          · exact ⟨found, later, holds⟩

end Routing

section Runs

namespace RoutingRun

variable {Handler : Type} (handlerOf : SubscriberObject → Handler)

theorem step_cases (run : RoutingRun Handler) (call : RoutingCall) :
    (∃ route, (run.step handlerOf call).bus.router = run.bus.router.addRoute route ∧
      (run.step handlerOf call).registered = run.registered ++ [route] ∧
      (run.step handlerOf call).unsubscribed = run.unsubscribed ∧
      (run.step handlerOf call).detached = run.detached \ {handlerOf route.subscriber} ∧
      ∀ condition : RoutingRun Handler, condition.RemovesAll handlerOf call) ∨
    ((run.step handlerOf call).bus.router = run.bus.router ∧
      (run.step handlerOf call).registered = run.registered ∧
      (run.step handlerOf call).unsubscribed = run.unsubscribed ∧
      (run.step handlerOf call).detached = run.detached ∧
      ∀ condition : RoutingRun Handler, condition.RemovesAll handlerOf call) ∨
    ∃ name, call = .unsubscribe name := by
  cases call with
  | subscribe name objectId eventTypes autoRoute =>
    cases autoRoute with
    | true => exact .inl ⟨_, rfl, rfl, rfl, rfl, fun _ => trivial⟩
    | false => exact .inr (.inl ⟨rfl, rfl, rfl, rfl, fun _ => trivial⟩)
  | addRoute route => exact .inl ⟨route, rfl, rfl, rfl, rfl, fun _ => trivial⟩
  | addSubscriberRoute name subscriber eventTypes priority =>
    exact .inl ⟨_, rfl, rfl, rfl, rfl, fun _ => trivial⟩
  | unsubscribe name => exact .inr (.inr ⟨name, rfl⟩)

theorem RoutesKept.sorted {run : RoutingRun Handler} (kept : run.RoutesKept) :
    run.bus.router.routes.Pairwise fun left right => left.priority ≤ right.priority := by
  obtain ⟨placed, routes, -, ordered, -⟩ := kept
  rw [routes, List.pairwise_map]
  apply ordered.imp
  intro left right before
  omega

theorem RoutesKept.register {run next : RoutingRun Handler} {route : Route}
    (kept : run.RoutesKept) (router : next.bus.router = run.bus.router.addRoute route)
    (registered : next.registered = run.registered ++ [route])
    (unsubscribed : next.unsubscribed = run.unsubscribed) : next.RoutesKept := by
  have sorted := kept.sorted
  obtain ⟨placed, routes, known, ordered, missing⟩ := kept
  obtain ⟨early, late, split, inserted, before, after⟩ :=
    Router.add_route_split run.bus.router route sorted
  rw [routes] at split
  obtain ⟨placedEarly, placedLate, placedSplit, earlyRoutes, lateRoutes⟩ :=
    List.map_eq_append_iff.mp split
  have older : ∀ entry ∈ placed, entry.1 < run.registered.length := by
    intro entry member
    exact (List.getElem?_eq_some_iff.mp (known entry member)).1
  rw [RoutesKept, router, registered, unsubscribed]
  refine ⟨placedEarly ++ (run.registered.length, route) :: placedLate, ?_, ?_, ?_, ?_⟩
  · rw [inserted, List.map_append, List.map_cons, earlyRoutes, lateRoutes]
  · intro entry member
    rcases List.mem_append.mp member with inEarly | rest
    · have older' := known entry (by rw [placedSplit]; exact List.mem_append_left _ inEarly)
      rw [List.getElem?_append_left (List.getElem?_eq_some_iff.mp older').1]
      exact older'
    · rcases List.mem_cons.mp rest with new | inLate
      · rw [new, List.getElem?_concat_length]
      · have older' := known entry (by rw [placedSplit]; exact List.mem_append_right _ inLate)
        rw [List.getElem?_append_left (List.getElem?_eq_some_iff.mp older').1]
        exact older'
  · rw [placedSplit] at ordered older
    obtain ⟨earlyOrdered, lateOrdered, across⟩ := List.pairwise_append.mp ordered
    refine List.pairwise_append.mpr ⟨earlyOrdered, List.pairwise_cons.mpr ⟨?_, lateOrdered⟩, ?_⟩
    · intro right member
      exact .inl (after right.2 (by rw [← lateRoutes]; exact List.mem_map_of_mem member))
    · intro left inEarly right member
      rcases List.mem_cons.mp member with new | inLate
      · have low := before left.2 (by rw [← earlyRoutes]; exact List.mem_map_of_mem inEarly)
        have first := older left (List.mem_append_left _ inEarly)
        rw [new]
        show left.2.priority < route.priority ∨
          left.2.priority = route.priority ∧ left.1 < run.registered.length
        omega
      · exact across left inEarly right inLate
  · intro pos other there
    rw [placedSplit] at missing
    rcases Nat.lt_or_ge pos run.registered.length with old | new
    · rw [List.getElem?_append_left old] at there
      apply (missing pos other there).imp_left
      intro member
      rcases List.mem_append.mp member with inEarly | inLate
      · exact List.mem_append_left _ inEarly
      · exact List.mem_append_right _ (List.mem_cons_of_mem _ inLate)
    · rw [List.getElem?_append_right new] at there
      obtain ⟨last, same⟩ := List.getElem?_eq_some_iff.mp there
      have here : pos = run.registered.length := by
        simp at last
        omega
      simp only [List.getElem_singleton] at same
      rw [here, same]
      exact .inl (List.mem_append_right _ List.mem_cons_self)

theorem RoutesKept.unsubscribe {run : RoutingRun Handler} (kept : run.RoutesKept)
    (name : String) : (run.step handlerOf (.unsubscribe name)).RoutesKept := by
  obtain ⟨placed, routes, known, ordered, missing⟩ := kept
  show ∃ remaining : List (Nat × Route),
    run.bus.router.routes.eraseP (fun route => route.name = "route:" ++ name) =
      remaining.map Prod.snd ∧ _
  have least : (placed.eraseP fun entry => entry.2.name = "route:" ++ name).Sublist placed :=
    List.eraseP_sublist
  refine ⟨placed.eraseP fun entry => entry.2.name = "route:" ++ name, ?_, ?_, ?_, ?_⟩
  · rw [routes, List.eraseP_map]
    rfl
  · intro entry member
    exact known entry (least.subset member)
  · exact ordered.sublist least
  · intro pos route there
    rcases missing pos route there with member | ⟨other, listed, called⟩
    · by_cases called : route.name = "route:" ++ name
      · exact .inr ⟨name, List.mem_append_right _ (List.mem_singleton_self _), called⟩
      · exact .inl ((List.mem_eraseP_of_neg (by simpa using called)).mpr member)
    · exact .inr ⟨other, List.mem_append_left _ listed, called⟩

theorem routes_kept_step (run : RoutingRun Handler) (call : RoutingCall)
    (kept : run.RoutesKept) : (run.step handlerOf call).RoutesKept := by
  rcases step_cases handlerOf run call with
    ⟨route, router, registered, unsubscribed, -⟩ | ⟨router, registered, unsubscribed, -⟩ |
      ⟨name, same⟩
  · exact kept.register router registered unsubscribed
  · rw [RoutesKept, router, registered, unsubscribed]
    exact kept
  · rw [same]
    exact kept.unsubscribe handlerOf name

theorem none_reached_iff (run : RoutingRun Handler) : run.NoneReached handlerOf ↔
      ∀ route ∈ run.bus.router.routes, route.Leads → handlerOf route.subscriber ∉ run.detached := by
  constructor
  · rintro none route member ⟨event, passes, isFor, active⟩
    apply none event
    exact ⟨((Router.routes_to _ event).mem_iff _).mpr ⟨route, member, passes, rfl⟩, isFor, active⟩
  · rintro none event target ⟨routed, isFor, active⟩
    obtain ⟨route, member, passes, same⟩ := ((Router.routes_to _ event).mem_iff _).mp routed
    subst same
    exact none route member ⟨event, passes, isFor, active⟩

theorem none_reached_step_iff (run : RoutingRun Handler) (call : RoutingCall)
    (none : run.NoneReached handlerOf) :
    (run.step handlerOf call).NoneReached handlerOf ↔ run.RemovesAll handlerOf call := by
  rw [none_reached_iff] at none ⊢
  rcases step_cases handlerOf run call with
    ⟨route, router, -, -, detached, always⟩ | ⟨router, -, -, detached, always⟩ | ⟨name, same⟩
  · refine iff_of_true ?_ (always run)
    rw [router, detached]
    intro other member leads
    have either : other = route ∨ other ∈ run.bus.router.routes := by
      have inserted := (List.perm_insertionSort (fun left right : Route =>
        left.priority ≤ right.priority) (run.bus.router.routes ++ [route])).mem_iff.mp member
      simpa [or_comm] using inserted
    rcases either with new | old
    · rw [new]
      simp
    · exact fun within => none other old leads within.1
  · refine iff_of_true ?_ (always run)
    rw [router, detached]
    exact none
  · subst same
    show (∀ route ∈ run.bus.router.routes.eraseP (fun route => route.name = "route:" ++ name),
      route.Leads → handlerOf route.subscriber ∉
        run.detached ∪ run.handlersUnder handlerOf name) ↔ _
    simp only [mem_erase_first_iff, decide_eq_true_eq, Set.mem_union, not_or]
    constructor
    · intro after early route late split spared leads
      exact (after route ⟨early, late, split, spared⟩ leads).2
    · rintro removes route ⟨early, late, split, spared⟩ leads
      refine ⟨none route ?_ leads, removes early route late split spared leads⟩
      rw [split]
      exact List.mem_append_right _ List.mem_cons_self

/-- Along every run an event is routed to the subscribers of the routes that let it pass, by
priority and registration. A handler is out of reach once it is unsubscribed exactly if no
call of `unsubscribe` leaves a route to a handler that was subscribed under the name. -/
theorem routing_law_iff (persistence : Option EventPersistence) (deadLetter : DeadLetterQueue)
    (maxHistory : Nat) (enableMiddleware : Bool) (calls : List RoutingCall) :
    let bus := EventBus.create persistence deadLetter maxHistory enableMiddleware
    let state := runInputs (step handlerOf) (start bus)
    ((state calls).RoutesKept ∧ ∀ event, (state calls).bus.router.RoutesTo event
        ((state calls).bus.router.routeEvent event)) ∧
      ((∀ early late, calls = early ++ late → (state early).NoneReached handlerOf) ↔
        StepsMeet (step handlerOf) (RemovesAll handlerOf) (start bus) calls) := by
  intro bus state
  refine ⟨⟨?_, Router.routes_to _⟩, ?_⟩
  · apply invariant_of_steps (step handlerOf) (routes_kept_step handlerOf)
    exact ⟨[], rfl, nofun, .nil, nofun⟩
  · apply holds_throughout_iff (step handlerOf) (none_reached_step_iff handlerOf)
    rintro event target ⟨routed, -⟩
    cases routed

/-- Of two subscriptions under one name the second still gets events after the name is
unsubscribed. -/
theorem second_subscription_reached :
    let bus := EventBus.create none (.load none 10000) 10000 true
    let calls : List RoutingCall :=
      [.subscribe "a" 0 [] true, .subscribe "a" 1 [] true, .unsubscribe "a"]
    ¬∀ early late, calls = early ++ late →
      (runInputs (step id) (start bus) early).NoneReached id := by
  intro bus calls law
  let second : SubscriberObject :=
    { objectId := 1
      subscriber := { subscriberId := "sub:a", name := "a", eventTypes := [], isActive := true } }
  have routed : second ∈ (runInputs (step id) (start bus) calls).bus.router.routeEvent
      (.sample "evt" "test" .normal) := by
    decide +kernel
  apply law calls [] rfl (.sample "evt" "test" .normal) second ⟨routed, rfl, rfl⟩
  refine .inr ⟨second, ?_, rfl⟩
  show ("a", second) ∈ [("a", _), ("a", second)]
  simp

end RoutingRun

end Runs

end AiEnterpriseOs.Events
