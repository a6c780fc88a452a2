import Mathlib.Data.List.Basic

/-!
# Operations that may raise

An operation that raises leaves the state as it was at that moment. Sequencing
stops at the first operation that does not return.
-/

namespace AiEnterpriseOs.Library

structure Outcome (State : Type*) where
  state : State
  returned : Bool := true

namespace Outcome

variable {State Item : Type*}

def returning (state : State) : Outcome State := { state := state }

def raising (state : State) : Outcome State := { state := state, returned := false }

def andThen (outcome : Outcome State) (next : State → Outcome State) :
    Outcome State :=
  if outcome.returned then next outcome.state else outcome

/-- `for item in items: body`. -/
def forEach (body : Item → State → Outcome State) : List Item → State → Outcome State
  | [], state => .returning state
  | item :: rest, state => (body item state).andThen (forEach body rest)

@[simp] theorem returning_state (state : State) : (Outcome.returning state).state = state := rfl

@[simp] theorem returning_returned (state : State) :
    (Outcome.returning state).returned = true := rfl

@[simp] theorem raising_state (state : State) : (raising state).state = state := rfl

@[simp] theorem raising_returned (state : State) : (raising state).returned = false := rfl

@[simp] theorem returning_and_then (state : State) (next : State → Outcome State) :
    (Outcome.returning state).andThen next = next state := rfl

theorem and_then_of_returned {outcome : Outcome State} (next : State → Outcome State)
    (returned : outcome.returned = true) :
    outcome.andThen next = next outcome.state := by
  rw [andThen, if_pos returned]

theorem and_then_of_raised {outcome : Outcome State} (next : State → Outcome State)
    (raised : outcome.returned = false) : outcome.andThen next = outcome := by
  rw [andThen, raised, if_neg Bool.false_ne_true]

theorem and_then_idle {outcome : Outcome State} {next : State → Outcome State}
    (idle : next outcome.state = .returning outcome.state) :
    outcome.andThen next = outcome := by
  obtain ⟨state, returned⟩ := outcome
  cases returned with
  | true => exact idle
  | false => rfl

theorem and_then_returning (outcome : Outcome State) : outcome.andThen .returning = outcome :=
  and_then_idle rfl

theorem and_then_assoc (outcome : Outcome State) (next last : State → Outcome State) :
    (outcome.andThen next).andThen last =
      outcome.andThen fun state => (next state).andThen last := by
  unfold andThen
  by_cases returned : outcome.returned = true
  · rw [if_pos returned, if_pos returned]
  · rw [if_neg returned, if_neg returned, if_neg returned]

theorem and_then_returned {outcome : Outcome State} {next : State → Outcome State}
    (returned : (outcome.andThen next).returned = true) :
    outcome.returned = true ∧ outcome.andThen next = next outcome.state := by
  unfold andThen at returned ⊢
  by_cases first : outcome.returned = true
  · rw [if_pos first]
    exact ⟨first, rfl⟩
  · rw [if_neg first] at returned
    exact absurd returned first

theorem and_then_state (middle : State → Prop) {last : State → Prop} {outcome : Outcome State}
    {next : State → Outcome State} (first : middle outcome.state)
    (raised : ∀ state, middle state → last state)
    (second : ∀ state, middle state → last (next state).state) :
    last (outcome.andThen next).state := by
  unfold andThen
  split
  · exact second _ first
  · exact raised _ first

/-- A loop whose invariant speaks of the items still to come. -/
theorem for_each_remaining (invariant : List Item → State → Prop)
    (body : Item → State → Outcome State) {last : State → Prop}
    (keeps : ∀ item rest state, invariant (item :: rest) state →
      invariant rest (body item state).state)
    (enough : ∀ rest state, invariant rest state → last state)
    (items : List Item) (start : State) (initial : invariant items start) :
    last (forEach body items start).state := by
  induction items generalizing start with
  | nil => exact enough [] start initial
  | cons item rest ih =>
    apply and_then_state (invariant rest)
    · exact keeps item rest start initial
    · exact enough rest
    · exact ih

/-- What every pass through the body keeps holds when the loop is left,
whether it ran to its end or raised. -/
theorem for_each_state (invariant : State → Prop)
    (body : Item → State → Outcome State) (items : List Item)
    (keeps : ∀ item ∈ items, ∀ state, invariant state → invariant (body item state).state)
    (start : State) (initial : invariant start) :
    invariant (forEach body items start).state := by
  apply for_each_remaining (fun rest state => (∀ item ∈ rest, item ∈ items) ∧ invariant state)
  · intro item rest state holds
    constructor
    · intro other member
      exact holds.1 other (List.mem_cons_of_mem _ member)
    · exact keeps item (holds.1 item List.mem_cons_self) state holds.2
  · exact fun _ _ holds => holds.2
  · exact ⟨fun _ member => member, initial⟩

/-! ## Loops that pass over a table -/

section Turns

variable {Key Context Shown : Type*} (raises : Context → List Item → Item → Bool)
  (next : Context → Item → Context) (before after : Item → Shown)

/-- What is there for each item when a loop is left: what the turn of the item
makes of it, and after the first turn that raises what was there before. -/
def turns : Context → List Item → List Shown
  | _, [] => []
  | context, item :: rest =>
    after item ::
      if raises context rest item then rest.map before
      else turns (next context item) rest

variable {raises next before after}

theorem for_each_turns (keyOf : Item → Key) (shown : State → Key → Shown)
    (body : Item → State → Outcome State) (sound : Context → List Item → State → Prop)
    (there : ∀ context items state, sound context items state →
      ∀ item ∈ items, shown state (keyOf item) = before item)
    (apart : ∀ context item rest state, sound context (item :: rest) state →
      ∀ other ∈ rest, keyOf other ≠ keyOf item)
    (turn : ∀ context item rest state, sound context (item :: rest) state →
      (body item state).returned = !raises context rest item ∧
        sound (next context item) rest (body item state).state ∧
        shown (body item state).state (keyOf item) = after item ∧
        ∀ key, key ≠ keyOf item → shown (body item state).state key = shown state key)
    {context : Context} {items : List Item} {state : State}
    (holds : sound context items state) :
    (items.map fun item => shown (forEach body items state).state (keyOf item)) =
        turns raises next before after context items ∧
      ∀ key, (∀ item ∈ items, keyOf item ≠ key) →
        shown (forEach body items state).state key = shown state key := by
  induction items generalizing context state with
  | nil => exact ⟨rfl, fun _ _ => rfl⟩
  | cons item rest ih =>
    obtain ⟨returned, passed, here, others⟩ := turn context item rest state holds
    have unlisted := apart context item rest state holds
    rw [forEach, turns, List.map_cons]
    cases raised : raises context rest item with
    | true =>
      rw [raised] at returned
      rw [and_then_of_raised _ returned, here, if_pos rfl]
      constructor
      · apply congrArg
        apply List.map_congr_left
        intro other member
        rw [others (keyOf other) (unlisted other member)]
        exact there context _ state holds other (List.mem_cons_of_mem _ member)
      · intro key absent
        exact others key (absent item List.mem_cons_self).symm
    | false =>
      rw [raised] at returned
      rw [and_then_of_returned _ returned, if_neg Bool.false_ne_true]
      obtain ⟨later, untouched⟩ := ih passed
      rw [untouched (keyOf item) unlisted, here, later]
      refine ⟨rfl, ?_⟩
      intro key absent
      rw [untouched key fun other member => absent other (List.mem_cons_of_mem _ member)]
      exact others key (absent item List.mem_cons_self).symm

end Turns

/-! ## A part of the state, and counting -/

section Parts

variable {Part : Type*} (part : State → Part)

/-- What becomes of a part of the state. -/
def map (outcome : Outcome State) : Outcome Part where
  state := part outcome.state
  returned := outcome.returned

theorem and_then_map {outcome : Outcome State} {next : State → Outcome State}
    {partNext : Part → Outcome Part}
    (follows : ∀ state, (next state).map part = partNext (part state)) :
    (outcome.andThen next).map part = (outcome.map part).andThen partNext := by
  cases returned : outcome.returned with
  | true =>
    have partReturned : (outcome.map part).returned = true := returned
    rw [and_then_of_returned _ returned, and_then_of_returned _ partReturned]
    exact follows outcome.state
  | false =>
    have partRaised : (outcome.map part).returned = false := returned
    rw [and_then_of_raised _ returned, and_then_of_raised _ partRaised]

theorem for_each_map {body : Item → State → Outcome State} {partBody : Item → Part → Outcome Part}
    (follows : ∀ item state, (body item state).map part = partBody item (part state))
    (items : List Item) (state : State) :
    (forEach body items state).map part = forEach partBody items (part state) := by
  induction items generalizing state with
  | nil => rfl
  | cons item rest ih =>
    rw [forEach, forEach, and_then_map part ih, follows]

end Parts

section Counting

theorem for_each_idle {body : Item → State → Outcome State} {items : List Item} {state : State}
    (idle : ∀ item ∈ items, body item state = .returning state) :
    forEach body items state = .returning state := by
  induction items with
  | nil => rfl
  | cons item rest ih =>
    rw [forEach, idle item List.mem_cons_self, returning_and_then]
    exact ih fun other member => idle other (List.mem_cons_of_mem _ member)

/-- A loop that counts what it does returns with the count unchanged just where
there is nothing to do. -/
theorem for_each_uncounted_iff (body : Item → State → Outcome State)
    (needs : Item → State → Prop) (count : State → Nat)
    (idle : ∀ item state, ¬needs item state → body item state = .returning state)
    (grows : ∀ item state, count state ≤ count (body item state).state)
    (counted : ∀ item state, needs item state → (body item state).returned = true →
      count state < count (body item state).state)
    (items : List Item) (state : State) :
    (forEach body items state).returned = true ∧
        count (forEach body items state).state = count state ↔
      ∀ item ∈ items, ¬needs item state := by
  constructor
  · rintro ⟨returned, uncounted⟩
    induction items with
    | nil =>
      intro item member
      cases member
    | cons item rest ih =>
      rw [forEach] at returned uncounted
      obtain ⟨first, sequence⟩ := and_then_returned returned
      have never_falls : count (body item state).state ≤
          count (forEach body rest (body item state).state).state := by
        apply for_each_state fun after => count (body item state).state ≤ count after
        · exact fun other _ after above => Nat.le_trans above (grows other after)
        · exact Nat.le_refl _
      rw [sequence] at returned uncounted
      have unneeded : ¬needs item state := by
        intro needed
        have above := counted item state needed first
        omega
      rw [idle item state unneeded, returning_state] at returned uncounted
      intro other member
      rcases List.mem_cons.mp member with here | later
      · rw [here]
        exact unneeded
      · exact ih returned uncounted other later
  · intro unneeded
    rw [for_each_idle fun item member => idle item state (unneeded item member)]
    exact ⟨rfl, rfl⟩

end Counting

/-- Both return or both raise, in related states. -/
structure Alike (related : State → State → Prop) (left right : Outcome State) : Prop where
  returned : left.returned = right.returned
  state : related left.state right.state

theorem and_then_alike {related : State → State → Prop} {left right : Outcome State}
    {next : State → Outcome State} (first : Alike related left right)
    (second : ∀ one other, related one other → Alike related (next one) (next other)) :
    Alike related (left.andThen next) (right.andThen next) := by
  cases returned : left.returned with
  | true =>
    have follows : right.returned = true := by rw [← first.returned, returned]
    rw [and_then_of_returned _ returned, and_then_of_returned _ follows]
    exact second _ _ first.state
  | false =>
    have follows : right.returned = false := by rw [← first.returned, returned]
    rw [and_then_of_raised _ returned, and_then_of_raised _ follows]
    exact first

theorem for_each_alike {related : State → State → Prop} {body : Item → State → Outcome State}
    (keeps : ∀ item one other, related one other → Alike related (body item one) (body item other))
    (items : List Item) {one other : State} (start : related one other) :
    Alike related (forEach body items one) (forEach body items other) := by
  induction items generalizing one other with
  | nil => exact { returned := rfl, state := start }
  | cons item rest ih =>
    apply and_then_alike (keeps item one other start)
    intro left right after
    exact ih after

end Outcome

end AiEnterpriseOs.Library
