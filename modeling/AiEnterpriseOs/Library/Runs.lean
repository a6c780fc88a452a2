import Mathlib.Data.List.Basic

/-!
# Runs of a deterministic step function

A run feeds a list of inputs to a step function. An invariant that one step
preserves, possibly only for inputs meeting a side condition on the state
before the step, holds at the end of every run whose steps meet it.
-/

namespace AiEnterpriseOs.Library

section

variable {State Input : Type*} (step : State → Input → State)

def runInputs (start : State) (inputs : List Input) : State :=
  inputs.foldl step start

@[simp] theorem run_inputs_nil (start : State) : runInputs step start [] = start := rfl

@[simp] theorem run_inputs_cons (start : State) (input : Input) (rest : List Input) :
    runInputs step start (input :: rest) = runInputs step (step start input) rest := rfl

theorem run_inputs_append (start : State) (first second : List Input) :
    runInputs step start (first ++ second) =
      runInputs step (runInputs step start first) second := by
  simp [runInputs, List.foldl_append]

/-- Every step of the run meets the condition in the state it starts from. -/
def StepsMeet (condition : State → Input → Prop) : State → List Input → Prop
  | _, [] => True
  | start, input :: rest =>
    condition start input ∧ StepsMeet condition (step start input) rest

theorem steps_meet_append (condition : State → Input → Prop) (start : State)
    (first second : List Input) :
    StepsMeet step condition start (first ++ second) ↔ StepsMeet step condition start first ∧
        StepsMeet step condition (runInputs step start first) second := by
  induction first generalizing start with
  | nil => simp [StepsMeet]
  | cons input rest ih =>
    simp only [List.cons_append, StepsMeet, run_inputs_cons, ih, and_assoc]

/-- Every step meets the condition: whichever input comes next, it does so in the state
that the inputs before it lead to. -/
theorem steps_meet_iff (condition : State → Input → Prop) (start : State) (inputs : List Input) :
    StepsMeet step condition start inputs ↔ ∀ early input late, inputs = early ++ input :: late →
        condition (runInputs step start early) input := by
  induction inputs generalizing start with
  | nil =>
    refine iff_of_true trivial ?_
    intro early input late split
    cases early <;> cases split
  | cons head rest ih =>
    rw [StepsMeet, ih]
    constructor
    · rintro ⟨first, later⟩ early input late split
      cases early with
      | nil =>
        cases split
        exact first
      | cons other early =>
        obtain ⟨same, remaining⟩ := List.cons.inj split
        rw [← same]
        exact later early input late remaining
    · intro every
      refine ⟨every [] head rest rfl, ?_⟩
      intro early input late split
      exact every (head :: early) input late (by rw [split]; rfl)

theorem invariant_of_steps_meet {invariant : State → Prop} {condition : State → Input → Prop}
    (preserved : ∀ state input, invariant state → condition state input →
      invariant (step state input))
    (start : State) (inputs : List Input) (initial : invariant start)
    (meets : StepsMeet step condition start inputs) :
    invariant (runInputs step start inputs) := by
  induction inputs generalizing start with
  | nil => exact initial
  | cons input rest ih =>
    exact ih _ (preserved start input initial meets.1) meets.2

theorem StepsMeet.mono {strong weak : State → Input → Prop}
    (weaker : ∀ state input, strong state input → weak state input)
    (start : State) (inputs : List Input)
    (meets : StepsMeet step strong start inputs) :
    StepsMeet step weak start inputs := by
  induction inputs generalizing start with
  | nil => trivial
  | cons input rest ih => exact ⟨weaker _ _ meets.1, ih _ meets.2⟩

/-- A condition that follows from another and an invariant, which survives the
steps that meet the other. -/
theorem StepsMeet.of_invariant {invariant : State → Prop} {strong weak : State → Input → Prop}
    (preserved : ∀ state input, invariant state → strong state input → invariant (step state input))
    (gives : ∀ state input, invariant state → strong state input → weak state input)
    (start : State) (inputs : List Input) (initial : invariant start)
    (meets : StepsMeet step strong start inputs) : StepsMeet step weak start inputs := by
  induction inputs generalizing start with
  | nil => trivial
  | cons input rest ih =>
    exact ⟨gives start input initial meets.1, ih _ (preserved start input initial meets.1) meets.2⟩

/-- Two conditions that an invariant makes equivalent are met by the steps of
the same runs, if the invariant survives the steps that meet them. -/
theorem steps_meet_congr_of_meets (invariant : State → Prop) {first second : State → Input → Prop}
    (preserved : ∀ state input, invariant state → first state input → invariant (step state input))
    (same : ∀ state input, invariant state → (first state input ↔ second state input))
    (start : State) (inputs : List Input) (initial : invariant start) :
    StepsMeet step first start inputs ↔ StepsMeet step second start inputs := by
  induction inputs generalizing start with
  | nil => exact Iff.rfl
  | cons input rest ih =>
    rw [StepsMeet, StepsMeet, ← same start input initial]
    apply and_congr_right
    intro meets
    exact ih _ (preserved start input initial meets)

theorem steps_meet_congr (invariant : State → Prop) {first second : State → Input → Prop}
    (preserved : ∀ state input, invariant state → invariant (step state input))
    (same : ∀ state input, invariant state → (first state input ↔ second state input))
    (start : State) (inputs : List Input) (initial : invariant start) :
    StepsMeet step first start inputs ↔ StepsMeet step second start inputs :=
  steps_meet_congr_of_meets step invariant
    (fun state input holds _ => preserved state input holds) same start inputs initial

/-- A condition that an invariant implies is met by every step. -/
theorem steps_meet_of_invariant (invariant : State → Prop) {condition : State → Input → Prop}
    (preserved : ∀ state input, invariant state → invariant (step state input))
    (meets : ∀ state input, invariant state → condition state input)
    (start : State) (inputs : List Input) (initial : invariant start) :
    StepsMeet step condition start inputs := by
  induction inputs generalizing start with
  | nil => trivial
  | cons input rest ih =>
    exact ⟨meets start input initial, ih _ (preserved start input initial)⟩

theorem invariant_of_steps {invariant : State → Prop} (preserved : ∀ state input, invariant state →
      invariant (step state input))
    (start : State) (inputs : List Input) (initial : invariant start) :
    invariant (runInputs step start inputs) := by
  induction inputs generalizing start with
  | nil => exact initial
  | cons input rest ih => exact ih _ (preserved start input initial)

/-- An invariant that a step keeps exactly when it meets the condition holds
all along a run exactly when each of its steps does. -/
theorem holds_throughout_iff {invariant : State → Prop} {condition : State → Input → Prop}
    (kept : ∀ state input, invariant state → (invariant (step state input) ↔ condition state input))
    (start : State) (inputs : List Input) (initial : invariant start) :
    (∀ early late, inputs = early ++ late → invariant (runInputs step start early)) ↔
      StepsMeet step condition start inputs := by
  induction inputs generalizing start with
  | nil =>
    refine iff_of_true ?_ trivial
    intro early late split
    cases early with
    | nil => exact initial
    | cons input early => cases split
  | cons input rest ih =>
    constructor
    · intro throughout
      have next : invariant (step start input) := throughout [input] rest rfl
      refine ⟨(kept start input initial).mp next, (ih _ next).mp ?_⟩
      intro early late split
      exact throughout (input :: early) late (by rw [split]; rfl)
    · intro meets early late split
      have next := (kept start input initial).mpr meets.1
      cases early with
      | nil => exact initial
      | cons head early =>
        obtain ⟨same, restEq⟩ := List.cons.inj split
        rw [← same]
        exact (ih _ next).mpr meets.2 early late restEq

/-- A property that a later state has only if every earlier one had it. -/
theorem holds_before {valid holds : State → Prop}
    (preserved : ∀ state input, valid state → valid (step state input))
    (back : ∀ state input, valid state → holds (step state input) → holds state)
    (start : State) (inputs : List Input) (initial : valid start)
    (after : holds (runInputs step start inputs)) : holds start := by
  induction inputs generalizing start with
  | nil => exact after
  | cons input rest ih =>
    exact back start input initial (ih _ (preserved start input initial) after)

/-- A property that does not come back once a step has lost it is there at the end exactly
when every step meets the condition for keeping it. -/
theorem holds_at_end_iff {valid holds : State → Prop} {condition : State → Input → Prop}
    (preserved : ∀ state input, valid state → valid (step state input))
    (back : ∀ state input, valid state → holds (step state input) → holds state)
    (kept : ∀ state input, valid state → holds state →
      (holds (step state input) ↔ condition state input))
    (start : State) (inputs : List Input) (initial : valid start) (first : holds start) :
    holds (runInputs step start inputs) ↔ StepsMeet step condition start inputs := by
  induction inputs generalizing start with
  | nil => exact iff_of_true first trivial
  | cons input rest ih =>
    have valid' := preserved start input initial
    rw [run_inputs_cons, StepsMeet, ← kept start input initial first]
    constructor
    · intro after
      have next := holds_before step preserved back _ rest valid' after
      exact ⟨next, (ih _ valid' next).mp after⟩
    · rintro ⟨next, later⟩
      exact (ih _ valid' next).mpr later

section Settled

variable {Value : Type*} (value : State → Value) (terminal : Value → Prop)

/-- The step does not change a value that is terminal. -/
def KeepsSettled (state : State) (input : Input) : Prop :=
  terminal (value state) → value (step state input) = value state

theorem settled_of_steps_meet (start : State) (inputs rest : List Input)
    (settled : terminal (value start))
    (meets : StepsMeet step (KeepsSettled step value terminal) start (inputs ++ rest)) :
    value (runInputs step start inputs) = value start := by
  induction inputs generalizing start with
  | nil => rfl
  | cons input inputs ih =>
    have kept : value (step start input) = value start := meets.1 settled
    rw [run_inputs_cons, ← kept]
    apply ih _ _ meets.2
    rw [kept]
    exact settled

/-- A value is final once it is terminal exactly when no step of the run
changes a terminal value. -/
theorem settled_throughout_iff (start : State) (inputs : List Input) :
    (∀ early middle late, inputs = early ++ (middle ++ late) →
        terminal (value (runInputs step start early)) →
        value (runInputs step start (early ++ middle)) = value (runInputs step start early)) ↔
      StepsMeet step (KeepsSettled step value terminal) start inputs := by
  constructor
  · intro final
    induction inputs generalizing start with
    | nil => trivial
    | cons input rest ih =>
      constructor
      · exact final [] [input] rest rfl
      · apply ih
        intro early middle late split
        exact final (input :: early) middle late (by rw [split]; rfl)
  · intro meets early middle late split settled
    rw [split, steps_meet_append] at meets
    rw [run_inputs_append]
    exact settled_of_steps_meet step value terminal _ middle late settled meets.2

end Settled

/-- A measure that every unfinished step lowers reaches a finished state
within as many steps as its initial value. -/
theorem finished_of_measure_decrease (invariant finished : State → Prop) (measure : State → Nat)
    (preserved : ∀ state input, invariant state → invariant (step state input))
    (stays : ∀ state input, finished state → finished (step state input))
    (lowers : ∀ state input, invariant state → ¬finished state →
      measure (step state input) < measure state)
    (start : State) (inputs : List Input) (initial : invariant start)
    (enough : measure start < inputs.length) :
    finished (runInputs step start inputs) := by
  induction inputs generalizing start with
  | nil => simp at enough
  | cons input rest ih =>
    by_cases done : finished start
    · exact invariant_of_steps step stays _ rest (stays start input done)
    · have lower := lowers start input initial done
      simp only [List.length_cons] at enough
      exact ih _ (preserved start input initial) (by omega)

end

end AiEnterpriseOs.Library

/-!
## Histories justified event by event

A history lists events in the order they happened. Each event of it may have
to be justified by those before it.
-/

namespace AiEnterpriseOs.Library

section

variable {Event : Type*} (justifies : List Event → Event → Prop)

def EachJustified (history : List Event) : Prop :=
  ∀ early event late, history = early ++ event :: late → justifies early event

theorem each_justified_nil : EachJustified justifies [] := by
  intro early event late split
  cases early <;> cases split

theorem each_justified_append (history more : List Event) :
    EachJustified justifies (history ++ more) ↔ EachJustified justifies history ∧
        EachJustified (fun early => justifies (history ++ early)) more := by
  constructor
  · intro justified
    constructor
    · intro early event late split
      apply justified early event (late ++ more)
      rw [split, List.append_assoc]
      rfl
    · intro early event late split
      apply justified (history ++ early) event late
      rw [split, List.append_assoc]
  · intro justified early event late split
    rcases List.append_eq_append_iff.mp split with
      ⟨between, earlyEq, moreEq⟩ | ⟨between, historyEq, tailEq⟩
    · rw [earlyEq]
      exact justified.2 between event late moreEq
    · cases between with
      | nil =>
        rw [List.append_nil] at historyEq
        have second : justifies (history ++ []) event :=
          justified.2 [] event late tailEq.symm
        rw [List.append_nil, historyEq] at second
        exact second
      | cons head between =>
        obtain ⟨same, _⟩ := List.cons.inj tailEq
        apply justified.1 early event between
        rw [historyEq, same]

theorem each_justified_single (history : List Event) (event : Event) :
    EachJustified justifies (history ++ [event]) ↔
      EachJustified justifies history ∧ justifies history event := by
  rw [each_justified_append]
  apply and_congr Iff.rfl
  constructor
  · intro justified
    have head : justifies (history ++ []) event := justified [] event [] rfl
    rwa [List.append_nil] at head
  · intro justified early other late split
    cases early with
    | nil =>
      obtain ⟨same, _⟩ := List.cons.inj split
      rw [← same, List.append_nil]
      exact justified
    | cons head early =>
      obtain ⟨_, none⟩ := List.cons.inj split
      cases early <;> cases none

end

end AiEnterpriseOs.Library
