import AiEnterpriseOs.Events.Models
import AiEnterpriseOs.Library.BinaryHeap
import AiEnterpriseOs.Library.Runs

/-!
# Priority processing

Events wait in a heap that compares priorities only. A run of enqueues and
dequeues loses nothing and serves the most urgent level first; within a level
it serves in the order of arrival as long as no tie is decided against it.
-/

namespace AiEnterpriseOs.Events

open Library Library.BinaryHeap

structure PrioritizedEvent where
  priorityIndex : Nat
  createdAt : Rat
  sequence : Nat
  event : Event
  deriving Inhabited

/-- `left < right`, which compares the priority index only. -/
def PrioritizedEvent.less (left right : PrioritizedEvent) : Bool :=
  left.priorityIndex < right.priorityIndex

def priorityOrder : EventPriority → Nat
  | .critical => 0
  | .high => 1
  | .normal => 2
  | .low => 3
  | .background => 4

structure PriorityProcessor where
  queue : List PrioritizedEvent
  sequence : Nat

namespace PriorityProcessor

def empty : PriorityProcessor := { queue := [], sequence := 0 }

def prioritized (processor : PriorityProcessor) (event : Event) : PrioritizedEvent where
  priorityIndex := priorityOrder event.metadata.priority
  createdAt := (event.metadata.timestamp : Rat) / 1000000
  sequence := processor.sequence + 1
  event := event

def enqueue (processor : PriorityProcessor) (event : Event) : PriorityProcessor where
  queue := heappush PrioritizedEvent.less processor.queue (processor.prioritized event)
  sequence := processor.sequence + 1

/-- The entry that `dequeue` takes from the queue. -/
def taken (processor : PriorityProcessor) : Option PrioritizedEvent :=
  (heappop PrioritizedEvent.less processor.queue).map Prod.fst

def dequeue (processor : PriorityProcessor) : Option Event × PriorityProcessor :=
  match heappop PrioritizedEvent.less processor.queue with
  | none => (none, processor)
  | some (entry, rest) => (some entry.event, { processor with queue := rest })

def peek (processor : PriorityProcessor) : Option Event :=
  processor.queue.head?.map PrioritizedEvent.event

def size (processor : PriorityProcessor) : Nat := processor.queue.length

def clear (_ : PriorityProcessor) : PriorityProcessor := empty

def isEmpty (processor : PriorityProcessor) : Bool := processor.size = 0

end PriorityProcessor

section Orders

theorem priority_strict : Strict PrioritizedEvent.less where
  asymm first second smaller := by
    simp only [PrioritizedEvent.less, decide_eq_true_eq, decide_eq_false_iff_not] at *
    omega
  level_trans first second third level above := by
    simp only [PrioritizedEvent.less, decide_eq_false_iff_not] at *
    omega

/-- Priority first, then the order of arrival. -/
def PrioritizedEvent.before (left right : PrioritizedEvent) : Bool :=
  left.priorityIndex < right.priorityIndex ||
    (left.priorityIndex = right.priorityIndex && left.sequence < right.sequence)

theorem arrival_strict : Strict PrioritizedEvent.before where
  asymm first second smaller := by
    simp only [PrioritizedEvent.before, Bool.or_eq_true, Bool.and_eq_true, decide_eq_true_eq,
      Bool.or_eq_false_iff, Bool.and_eq_false_iff, decide_eq_false_iff_not] at *
    omega
  level_trans first second third level above := by
    simp only [PrioritizedEvent.before, Bool.or_eq_false_iff, Bool.and_eq_false_iff,
      decide_eq_false_iff_not] at *
    omega

/-- A tie answered with `false` puts the second entry first, as it arrived. -/
def ArrivalTies (asked : List (PrioritizedEvent × PrioritizedEvent)) : Prop :=
  ∀ pair ∈ asked, pair.1.priorityIndex = pair.2.priorityIndex → pair.2.sequence < pair.1.sequence

instance (asked : List (PrioritizedEvent × PrioritizedEvent)) : Decidable (ArrivalTies asked) :=
  inferInstanceAs (Decidable (∀ pair ∈ asked, pair.1.priorityIndex = pair.2.priorityIndex →
    pair.2.sequence < pair.1.sequence))

theorem ArrivalTies.agree {asked : List (PrioritizedEvent × PrioritizedEvent)}
    (ties : ArrivalTies asked) :
    Agree PrioritizedEvent.less PrioritizedEvent.before asked := by
  intro pair member
  have tie := ties pair member
  simp only [PrioritizedEvent.before, PrioritizedEvent.less]
  by_cases level : pair.1.priorityIndex = pair.2.priorityIndex
  · have later := tie level
    have notEarlier : ¬pair.1.sequence < pair.2.sequence := by omega
    simp [notEarlier]
  · simp [level]

end Orders

section Runs

inductive QueueOperation where
  | enqueue (event : Event)
  | dequeue

structure QueueRun where
  processor : PriorityProcessor
  /-- All events enqueued, in order. -/
  enqueued : List Event
  /-- All events that were dequeued, in order. -/
  dequeued : List Event

namespace QueueRun

def start : QueueRun := { processor := .empty, enqueued := [], dequeued := [] }

def step (run : QueueRun) : QueueOperation → QueueRun
  | .enqueue event =>
    { run with
      processor := run.processor.enqueue event
      enqueued := run.enqueued ++ [event] }
  | .dequeue =>
    { run with
      processor := run.processor.dequeue.2
      dequeued := run.dequeued ++ run.processor.dequeue.1.toList }

/-- A dequeue decides no tie against the order of arrival when it restores the
heap. -/
def KeepsArrival (run : QueueRun) : QueueOperation → Prop
  | .enqueue _ => True
  | .dequeue => ArrivalTies (heappopAsks PrioritizedEvent.less run.processor.queue)

instance (run : QueueRun) : (operation : QueueOperation) → Decidable (run.KeepsArrival operation)
  | .enqueue _ => inferInstanceAs (Decidable True)
  | .dequeue => inferInstanceAs (Decidable (ArrivalTies _))

/-- Nothing is lost or duplicated, and entries know when they arrived. -/
structure Accounted (run : QueueRun) : Prop where
  conserved : run.enqueued.Perm (run.dequeued ++ run.processor.queue.map PrioritizedEvent.event)
  ordered : Ordered PrioritizedEvent.less run.processor.queue
  counter : run.processor.sequence = run.enqueued.length
  arrived : ∀ entry ∈ run.processor.queue, 0 < entry.sequence ∧
    entry.sequence ≤ run.processor.sequence ∧
    run.enqueued[entry.sequence - 1]? = some entry.event ∧
    entry.priorityIndex = priorityOrder entry.event.metadata.priority

theorem accounted_enqueue {run : QueueRun} (accounted : Accounted run) (event : Event) :
    Accounted (run.step (.enqueue event)) := by
  have pushed := @heappush_perm _ _ PrioritizedEvent.less run.processor.queue
    (run.processor.prioritized event)
  constructor
  · have events := (pushed.map PrioritizedEvent.event).symm
    rw [List.map_append] at events
    have moved : (run.enqueued ++ [event]).Perm
        ((run.dequeued ++ run.processor.queue.map PrioritizedEvent.event) ++ [event]) :=
      accounted.conserved.append_right [event]
    rw [List.append_assoc] at moved
    exact moved.trans (events.append_left run.dequeued)
  · exact heappush_ordered priority_strict accounted.ordered _
  · simp only [step, PriorityProcessor.enqueue, List.length_append, List.length_singleton,
      accounted.counter]
  · intro entry member
    rcases List.mem_append.mp (pushed.mem_iff.mp member) with old | new
    · obtain ⟨positive, bounded, stored, priority⟩ := accounted.arrived entry old
      refine ⟨positive, by simp only [step, PriorityProcessor.enqueue]; omega, ?_, priority⟩
      have inside : entry.sequence - 1 < run.enqueued.length := by
        rw [← accounted.counter]
        omega
      simp only [step]
      rw [List.getElem?_append_left inside]
      exact stored
    · rw [List.mem_singleton.mp new]
      refine ⟨Nat.succ_pos _, Nat.le_refl _, ?_, rfl⟩
      simp only [step, PriorityProcessor.prioritized, Nat.add_sub_cancel, accounted.counter]
      rw [List.getElem?_append_right (Nat.le_refl _), Nat.sub_self]
      rfl

theorem dequeue_cases (processor : PriorityProcessor) :
    (processor.dequeue = (none, processor) ∧ processor.queue = []) ∨
      ∃ rest, processor.taken = some (item processor.queue 0) ∧ processor.dequeue =
          (some (item processor.queue 0).event, { processor with queue := rest }) ∧
        processor.queue.Perm (item processor.queue 0 :: rest) ∧
        heappop PrioritizedEvent.less processor.queue = some (item processor.queue 0, rest) := by
  cases popped : heappop PrioritizedEvent.less processor.queue with
  | none =>
    left
    have empty : processor.queue = [] := by
      rcases @heappop_cases _ _ PrioritizedEvent.less processor.queue with
        ⟨empty, _⟩ | ⟨_, _, single⟩ | ⟨_, _, _, _, several⟩
      · exact empty
      · rw [popped] at single
        cases single
      · rw [popped] at several
        cases several
    exact ⟨by rw [PriorityProcessor.dequeue, popped], empty⟩
  | some result =>
    obtain ⟨entry, rest⟩ := result
    obtain ⟨perm, root⟩ := heappop_perm popped
    right
    rw [← root]
    refine ⟨rest, ?_, ?_, perm, rfl⟩
    · rw [PriorityProcessor.taken, popped]
      rfl
    · rw [PriorityProcessor.dequeue, popped]

theorem accounted_dequeue {run : QueueRun} (accounted : Accounted run) :
    Accounted (run.step .dequeue) := by
  rcases dequeue_cases run.processor with ⟨nothing, _⟩ | ⟨rest, _, result, perm, popped⟩
  · have same : run.step .dequeue = run := by
      simp only [step, nothing, Option.toList_none, List.append_nil]
    rw [same]
    exact accounted
  · constructor
    · have events := perm.map PrioritizedEvent.event
      rw [List.map_cons] at events
      have whole := accounted.conserved.trans (events.append_left run.dequeued)
      simp only [step, result, Option.toList_some, List.append_assoc, List.singleton_append]
      exact whole
    · simp only [step, result]
      exact heappop_ordered priority_strict accounted.ordered popped
    · simp only [step, result]
      exact accounted.counter
    · intro entry member
      simp only [step, result] at member ⊢
      exact accounted.arrived entry (perm.mem_iff.mpr (List.mem_cons_of_mem _ member))

theorem accounted_step (run : QueueRun) (operation : QueueOperation)
    (accounted : Accounted run) : Accounted (run.step operation) := by
  cases operation with
  | enqueue event => exact accounted_enqueue accounted event
  | dequeue => exact accounted_dequeue accounted

theorem accounted_start : Accounted start where
  conserved := .refl _
  ordered pos _ inside := by cases inside
  counter := rfl
  arrived entry member := by cases member

/-- The heap also respects the order of arrival. -/
structure InArrivalOrder (run : QueueRun) : Prop where
  accounted : Accounted run
  arrival : Ordered PrioritizedEvent.before run.processor.queue

theorem push_agrees {run : QueueRun} (accounted : Accounted run) (event : Event) :
    heappush PrioritizedEvent.before run.processor.queue (run.processor.prioritized event) =
      heappush PrioritizedEvent.less run.processor.queue (run.processor.prioritized event) := by
  apply siftdown_agrees
  apply ArrivalTies.agree
  intro pair member _
  obtain ⟨first, above, inside, second⟩ := siftdown_asks _ _ _ pair member
  have old : item (run.processor.queue ++ [run.processor.prioritized event]) above ∈
      run.processor.queue := by
    have same : item (run.processor.queue ++ [run.processor.prioritized event]) above =
        item run.processor.queue above := by
      simp [item, List.getD_eq_getElem?_getD, List.getElem?_append_left inside]
    rw [same]
    exact item_mem inside
  obtain ⟨_, bounded, _⟩ := accounted.arrived _ old
  rw [first, second]
  exact Nat.lt_succ_of_le bounded

theorem arrival_step (run : QueueRun) (operation : QueueOperation)
    (inOrder : InArrivalOrder run) (keeps : run.KeepsArrival operation) :
    InArrivalOrder (run.step operation) := by
  obtain ⟨accounted, arrival⟩ := inOrder
  refine ⟨accounted_step run operation accounted, ?_⟩
  cases operation with
  | enqueue event =>
    simp only [step, PriorityProcessor.enqueue]
    rw [← push_agrees accounted event]
    exact heappush_ordered arrival_strict arrival _
  | dequeue =>
    rcases dequeue_cases run.processor with ⟨nothing, _⟩ | ⟨rest, _, result, _, popped⟩
    · simp only [step, nothing]
      exact arrival
    · have alike := heappop_agrees (ArrivalTies.agree keeps)
      simp only [step, result]
      exact heappop_ordered arrival_strict arrival (alike.trans popped)

/-- In every run the next dequeue takes a queued event of the most urgent level
and nothing is lost or duplicated; when no tie was decided against the order
of arrival, it takes the event of that level that was enqueued first. -/
theorem dequeues_in_order (operations : List QueueOperation) :
    let run := runInputs step start operations
    run.enqueued.Perm (run.dequeued ++ run.processor.queue.map PrioritizedEvent.event) ∧
      ∀ entry, run.processor.taken = some entry →
        run.processor.dequeue.1 = some entry.event ∧ entry ∈ run.processor.queue ∧
        (∀ other ∈ run.processor.queue, priorityOrder entry.event.metadata.priority ≤
            priorityOrder other.event.metadata.priority) ∧
        (StepsMeet step KeepsArrival start operations → ∀ other ∈ run.processor.queue,
            other.event.metadata.priority = entry.event.metadata.priority →
              entry.sequence ≤ other.sequence ∧
              run.enqueued[entry.sequence - 1]? = some entry.event ∧
              run.enqueued[other.sequence - 1]? = some other.event) := by
  intro run
  have accounted : Accounted run :=
    invariant_of_steps step accounted_step start operations accounted_start
  refine ⟨accounted.conserved, fun entry took => ?_⟩
  rcases dequeue_cases run.processor with ⟨nothing, empty⟩ | ⟨rest, root, result, perm, _⟩
  · have absent : run.processor.taken = none := by
      rw [PriorityProcessor.taken, empty]
      rfl
    rw [absent] at took
    cases took
  · have isRoot : item run.processor.queue 0 = entry := Option.some.inj (root.symm.trans took)
    have queued : entry ∈ run.processor.queue := by
      rw [← isRoot]
      exact perm.mem_iff.mpr List.mem_cons_self
    obtain ⟨_, _, entryStored, entryPriority⟩ := accounted.arrived entry queued
    refine ⟨by rw [result, isRoot], queued, fun other member => ?_,
      fun meets other member level => ?_⟩
    · have first := accounted.ordered.root_first priority_strict other member
      obtain ⟨_, _, _, otherPriority⟩ := accounted.arrived other member
      rw [isRoot, PrioritizedEvent.less, decide_eq_false_iff_not] at first
      omega
    · have inOrder : InArrivalOrder run :=
        invariant_of_steps_meet step arrival_step start operations
          ⟨accounted_start, fun pos _ inside => by cases inside⟩ meets
      have first := inOrder.arrival.root_first arrival_strict other member
      obtain ⟨_, _, otherStored, otherPriority⟩ := accounted.arrived other member
      refine ⟨?_, entryStored, otherStored⟩
      rw [level] at otherPriority
      rw [isRoot] at first
      simp only [PrioritizedEvent.before, Bool.or_eq_false_iff, Bool.and_eq_false_iff,
        decide_eq_false_iff_not] at first
      omega

theorem two_normal_events_in_order :
    let operations :=
      [ .enqueue (.sample "a" "test" .normal), .enqueue (.sample "b" "test" .critical),
        .enqueue (.sample "c" "test" .normal), .dequeue ]
    let run := runInputs step start operations
    ∀ entry, run.processor.taken = some entry → ∀ other ∈ run.processor.queue,
      other.event.metadata.priority = entry.event.metadata.priority →
        entry.sequence ≤ other.sequence := by
  intro operations run entry took other member level
  have inOrder := (dequeues_in_order operations).2 entry took
  exact (inOrder.2.2.2 ⟨trivial, trivial, trivial, by decide +kernel, trivial⟩ other member level).1

/-- The last event of a level moves up to the root and stays there. -/
theorem urgent_event_reverses_level :
    let operations :=
      [ .enqueue (.sample "a" "test" .normal), .enqueue (.sample "b" "test" .normal),
        .enqueue (.sample "c" "test" .critical), .dequeue, .dequeue, .dequeue ]
    (runInputs step start operations).dequeued.map (fun event => event.metadata.eventId) =
      ["c", "b", "a"] := by
  decide +kernel

end QueueRun

end Runs

end AiEnterpriseOs.Events
