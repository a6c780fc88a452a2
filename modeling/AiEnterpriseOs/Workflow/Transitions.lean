import AiEnterpriseOs.Library.OrderedDict
import AiEnterpriseOs.PyValue

/-!
# Workflow transitions

The state machine moves along the first transition whose condition holds; the
transition evaluator lists all of them. Each builds its own variables for the
conditions.
-/

namespace AiEnterpriseOs.Workflow

open Library

/-! ## Definitions -/

inductive WorkflowStateType where
  | initial
  | action
  | approval
  | wait
  | terminal
  deriving DecidableEq

structure Transition where
  /-- The target state, `to` in the source. -/
  target : String
  condition : String := "auto"

structure ApprovalConfig where
  required : Bool := true
  approverRole : Option String := none
  escalationRole : Option String := none
  decisionEngineIntegration : Bool := false
  approvalMatrix : Option String := none
  contextFields : List String := []
  escalationLevel : Int := 0
  timeoutHours : Int := 48
  minimumApprovers : Int := 1
  boardApprovalRequired : Bool := false

structure ActionConfig (Value : Type) where
  type : String
  handler : String
  parameters : OrderedDict String Value := OrderedDict.empty
  timeoutSeconds : Int := 300

structure WaitConfig where
  waitFor : String
  timeoutHours : Int := 24
  pollingIntervalSeconds : Int := 60

structure WorkflowState (Value : Type) where
  type : WorkflowStateType
  transitions : List Transition := []
  approval : Option ApprovalConfig := none
  action : Option (ActionConfig Value) := none
  wait : Option WaitConfig := none

structure WorkflowDefinition (Value : Type) where
  states : OrderedDict String (WorkflowState Value)
  initialState : String

structure WorkflowContext (Value : Type) where
  executionId : String
  currentState : String
  data : OrderedDict String Value
  previousState : Option String := none

/-- Python's `eval` of a condition over its variables and `bool` of what it returns, `none`
where they raise; a text and the value True as values. -/
structure Expressions (Value : Type) where
  eval : String → OrderedDict String Value → Option Value
  truth : Value → Option Bool
  text : String → Value
  yes : Value

variable {Value : Type}

namespace WorkflowDefinition

variable (definition : WorkflowDefinition Value)

/-- The first transition of a state that leads to no state. -/
def unknownTarget (entry : String × WorkflowState Value) : Option (String × Transition) :=
  (entry.2.transitions.find? fun transition =>
    (definition.states.get? transition.target).isNone).map fun transition => (entry.1, transition)

/-- `_validate_definition`: the error it raises, if any. -/
def validationError : Option String :=
  if (definition.states.get? definition.initialState).isNone then
    some ("Initial state '" ++ definition.initialState ++ "' not found in states")
  else
    (definition.states.entries.findSome? definition.unknownTarget).map fun found =>
      "Transition from '" ++ found.1 ++ "' to unknown state '" ++ found.2.target ++ "'"

end WorkflowDefinition

/-- A state machine stands on a definition that has passed its validation. -/
structure StateMachine (Value : Type) where
  definition : WorkflowDefinition Value
  valid : definition.validationError = none

structure TransitionResult (Value : Type) where
  success : Bool
  nextState : Option String := none
  error : Option String := none
  approvalConfig : Option ApprovalConfig := none
  actionConfig : Option (ActionConfig Value) := none
  waitConfig : Option WaitConfig := none

namespace TransitionResult

variable (result : TransitionResult Value)

/-- The flags are set together with their configs. -/
def approvalRequired : Bool := result.approvalConfig.isSome

def actionRequired : Bool := result.actionConfig.isSome

def waitRequired : Bool := result.waitConfig.isSome

end TransitionResult

namespace StateMachine

def create (definition : WorkflowDefinition Value) : Except String (StateMachine Value) :=
  match checked : definition.validationError with
  | none => .ok { definition := definition, valid := checked }
  | some error => .error error

variable (python : Expressions Value) (machine : StateMachine Value)

/-- `none` is the KeyError of an unknown state. -/
def getState (stateId : String) : Option (WorkflowState Value) :=
  machine.definition.states.get? stateId

def evaluateCondition (condition : String) (context : WorkflowContext Value) : Bool :=
  if condition = "" ∨ condition = "auto" then true
  else
    let evalContext := context.data.set "auto" python.yes
    ((python.eval condition evalContext).bind python.truth).getD false

/-- What a move to a state reports: the config that its type needs. -/
def moveTo (target : String) (state : WorkflowState Value) : TransitionResult Value :=
  match state.type with
  | .approval =>
    match state.approval with
    | none =>
      { success := false
        error := some ("Approval state '" ++ target ++ "' missing approval config") }
    | some approval =>
      { success := true, nextState := some target, approvalConfig := some approval }
  | .action =>
    match state.action with
    | none =>
      { success := false
        error := some ("Action state '" ++ target ++ "' missing action config") }
    | some action =>
      { success := true, nextState := some target, actionConfig := some action }
  | .wait =>
    match state.wait with
    | none =>
      { success := false
        error := some ("Wait state '" ++ target ++ "' missing wait config") }
    | some wait => { success := true, nextState := some target, waitConfig := some wait }
  | _ => { success := true, nextState := some target }

def evaluateTransitions (currentStateId : String) (context : WorkflowContext Value) :
    Option (TransitionResult Value) :=
  (machine.getState currentStateId).bind fun currentState =>
    if currentState.type = .terminal then
      some { success := true, error := some "Workflow is in terminal state" }
    else
      let accepted := currentState.transitions.find? fun transition =>
        evaluateCondition python transition.condition context
      match accepted with
      | none =>
        some
          { success := false
            error := some ("No valid transition from state '" ++ currentStateId ++ "'") }
      | some transition => (machine.getState transition.target).map (moveTo transition.target)

end StateMachine

namespace TransitionEvaluator

variable (python : Expressions Value)

def evaluate (condition : String) (context : WorkflowContext Value)
    (additionalVars : List (String × Value) := []) : Bool :=
  if condition = "" ∨ condition = "auto" then true
  else
    let evalContext := context.data.setAll [ ("state", python.text context.currentState),
        ("previous_state", python.text (context.previousState.getD "")),
        ("execution_id", python.text context.executionId) ]
    let evalContext := evalContext.setAll additionalVars
    ((python.eval condition evalContext).bind python.truth).getD false

/-- Evaluate all transitions from a state, return matching ones. -/
def evaluateTransitions (state : WorkflowState Value) (context : WorkflowContext Value) :
    List Transition :=
  state.transitions.filter fun transition => evaluate python transition.condition context

end TransitionEvaluator

/-! ## What decides a move -/

section Agreement

/-- The first matches of two searches lead to the same place, or neither finds a match. -/
def Concordant {Item Place : Type} (place : Item → Place) (first second : Item → Bool) :
    List Item → Prop
  | [] => True
  | item :: rest =>
    match first item, second item with
    | true, true => True
    | false, false => Concordant place first second rest
    | true, false => (rest.find? second).map place = some (place item)
    | false, true => (rest.find? first).map place = some (place item)

theorem concordant_iff {Item Place : Type} (place : Item → Place) (first second : Item → Bool)
    (items : List Item) :
    (items.find? first).map place = (items.find? second).map place ↔
      Concordant place first second items := by
  induction items with
  | nil => exact iff_of_true rfl trivial
  | cons item rest ih =>
    rw [List.find?_cons, List.find?_cons, Concordant]
    cases first item with
    | true =>
      cases second item with
      | true => exact iff_of_true rfl trivial
      | false => exact eq_comm
    | false =>
      cases second item with
      | true => exact Iff.rfl
      | false => exact ih

variable (python : Expressions Value)

/-- The state has the config that its type needs. -/
def WorkflowState.Configured (state : WorkflowState Value) : Prop :=
  (state.type = .approval → state.approval.isSome = true) ∧
    (state.type = .action → state.action.isSome = true) ∧
      (state.type = .wait → state.wait.isSome = true)

/-- The machine moves to where the first listed transition leads, and fails exactly if none
is listed. -/
def Agrees (result : TransitionResult Value) (matching : List Transition) : Prop :=
  (∀ first ∈ matching.head?, result.nextState = some first.target) ∧
    (result.success = false ↔ matching = [])

/-- Up to the first transition whose condition holds under the variables of the machine and
under those of the evaluator, each that holds under one of them only leads where the first
later one that holds under the other does. -/
def SameMoves (transitions : List Transition) (context : WorkflowContext Value) : Prop :=
  Concordant Transition.target
    (fun transition => StateMachine.evaluateCondition python transition.condition context)
    (fun transition => TransitionEvaluator.evaluate python transition.condition context)
    transitions

theorem StateMachine.target_known (machine : StateMachine Value) {stateId : String}
    {state : WorkflowState Value} (found : machine.getState stateId = some state)
    {transition : Transition} (leaves : transition ∈ state.transitions) :
    (machine.getState transition.target).isSome = true := by
  have valid := machine.valid
  unfold WorkflowDefinition.validationError at valid
  split at valid
  · cases valid
  · rw [Option.map_eq_none_iff, List.findSome?_eq_none_iff] at valid
    have entry := valid (stateId, state) ((OrderedDict.get_eq_some_iff _ _ _).mp found)
    rw [WorkflowDefinition.unknownTarget, Option.map_eq_none_iff, List.find?_eq_none] at entry
    have known := entry transition leaves
    rw [Option.isNone_iff_eq_none, ← ne_eq, ← Option.isSome_iff_ne_none] at known
    exact known

theorem StateMachine.move_to_configured (target : String) {state : WorkflowState Value}
    (configured : state.Configured) :
    (moveTo target state).success = true ∧ (moveTo target state).nextState = some target := by
  obtain ⟨approval, action, wait⟩ := configured
  unfold moveTo
  cases type : state.type with
  | approval =>
    obtain ⟨config, given⟩ := Option.isSome_iff_exists.mp (approval type)
    rw [given]
    exact ⟨rfl, rfl⟩
  | action =>
    obtain ⟨config, given⟩ := Option.isSome_iff_exists.mp (action type)
    rw [given]
    exact ⟨rfl, rfl⟩
  | wait =>
    obtain ⟨config, given⟩ := Option.isSome_iff_exists.mp (wait type)
    rw [given]
    exact ⟨rfl, rfl⟩
  | initial => exact ⟨rfl, rfl⟩
  | terminal => exact ⟨rfl, rfl⟩

theorem StateMachine.evaluate_transitions_spec (machine : StateMachine Value)
    (context : WorkflowContext Value) {state : WorkflowState Value}
    (found : machine.getState context.currentState = some state)
    (running : state.type ≠ .terminal)
    (configured : ∀ transition ∈ state.transitions, ∀ next,
      machine.getState transition.target = some next → next.Configured) :
    ∃ result, machine.evaluateTransitions python context.currentState context = some result ∧
      result.nextState = (state.transitions.find? fun transition =>
        evaluateCondition python transition.condition context).map Transition.target ∧
      result.success = result.nextState.isSome := by
  rw [StateMachine.evaluateTransitions, found, Option.bind_some, if_neg running]
  dsimp only
  cases accepted : state.transitions.find? fun transition =>
      evaluateCondition python transition.condition context with
  | none => exact ⟨_, rfl, rfl, rfl⟩
  | some transition =>
    have leaves := List.mem_of_find?_eq_some accepted
    obtain ⟨next, known⟩ := Option.isSome_iff_exists.mp (machine.target_known found leaves)
    obtain ⟨success, moved⟩ :=
      move_to_configured transition.target (configured transition leaves next known)
    refine ⟨_, ?_, moved, ?_⟩
    · change (machine.getState transition.target).map _ = _
      rw [known]
      rfl
    · rw [success, moved]
      rfl

theorem agrees_iff_first {result : TransitionResult Value}
    (success : result.success = result.nextState.isSome) (state : WorkflowState Value)
    (context : WorkflowContext Value) :
    Agrees result (TransitionEvaluator.evaluateTransitions python state context) ↔
      result.nextState = (state.transitions.find? fun transition =>
        TransitionEvaluator.evaluate python transition.condition context).map
          Transition.target := by
  rw [Agrees, TransitionEvaluator.evaluateTransitions, List.head?_filter, success]
  cases first : state.transitions.find? fun transition =>
      TransitionEvaluator.evaluate python transition.condition context with
  | none =>
    have listed := List.find?_eq_none.mp first
    rw [Option.map_none, List.filter_eq_nil_iff.mpr listed]
    simp
  | some transition =>
    have held := List.find?_some first
    have listed : transition ∈ state.transitions.filter fun transition =>
        TransitionEvaluator.evaluate python transition.condition context :=
      List.mem_filter.mpr ⟨List.mem_of_find?_eq_some first, held⟩
    have nonempty := List.ne_nil_of_mem listed
    simp only [Option.mem_some_iff, forall_eq', Option.map_some, nonempty, iff_false]
    constructor
    · exact fun both => both.1
    · intro same
      rw [same]
      exact ⟨rfl, nofun⟩

/-- The machine agrees with the evaluator exactly if their conditions lead to the same moves. -/
theorem evaluators_agree_iff (machine : StateMachine Value) (context : WorkflowContext Value)
    (state : WorkflowState Value)
    (found : machine.getState context.currentState = some state)
    (running : state.type ≠ .terminal)
    (configured : ∀ transition ∈ state.transitions, ∀ next,
      machine.getState transition.target = some next → next.Configured) :
    (∃ result, machine.evaluateTransitions python context.currentState context = some result ∧
        Agrees result (TransitionEvaluator.evaluateTransitions python state context)) ↔
      SameMoves python state.transitions context := by
  obtain ⟨result, evaluated, moved, success⟩ :=
    machine.evaluate_transitions_spec python context found running configured
  have agrees := agrees_iff_first python success state context
  rw [SameMoves, ← concordant_iff, ← moved, ← agrees, evaluated]
  constructor
  · rintro ⟨other, same, agreeing⟩
    rwa [Option.some.inj same]
  · intro agreeing
    exact ⟨result, rfl, agreeing⟩

end Agreement

/-! ## Three conditions -/

/-- Python's value of three conditions; a name that is not defined raises. -/
def draftExpressions : Expressions PyValue where
  eval condition names :=
    if condition = "approved" then names.get? "approved"
    else if condition = "state == 'draft'" then
      (names.get? "state").map fun value => .bool (value.equal (.str "draft"))
    else if condition = "auto == True" then
      (names.get? "auto").map fun value => .bool (value.equal (.bool true))
    else none
  truth value := some value.truthy
  text := .str
  yes := .bool true

/-- A draft that is done under a condition. -/
def draftState (condition : String) : WorkflowState PyValue where
  type := .initial
  transitions := [{ target := "done", condition := condition }]

def draftMachine (condition : String) : StateMachine PyValue where
  definition :=
    { states := OrderedDict.empty.setAll
        [("draft", draftState condition), ("done", { type := .terminal })]
      initialState := "draft" }
  valid := rfl

def draftContext : WorkflowContext PyValue where
  executionId := "e1"
  currentState := "draft"
  data := OrderedDict.empty.setAll [("approved", .bool true)]

theorem approved_draft_agrees :
    ∃ result, (draftMachine "approved").evaluateTransitions draftExpressions "draft"
        draftContext = some result ∧
      Agrees result (TransitionEvaluator.evaluateTransitions draftExpressions
        (draftState "approved") draftContext) := by
  apply (evaluators_agree_iff draftExpressions (draftMachine "approved") draftContext
    (draftState "approved") rfl (by decide) ?_).mpr
  · exact trivial
  · intro transition leaves next known
    rw [List.mem_singleton.mp leaves] at known
    rw [← Option.some.inj known]
    exact ⟨nofun, nofun, nofun⟩

/-- A condition on `state` holds for the evaluator only, one on `auto` for the machine only. -/
theorem draft_evaluators_differ :
    let moves (condition : String) : Option (Option String) :=
      ((draftMachine condition).evaluateTransitions draftExpressions "draft"
        draftContext).map (·.nextState)
    let listed (condition : String) : List String :=
      (TransitionEvaluator.evaluateTransitions draftExpressions (draftState condition)
        draftContext).map (·.target)
    (moves "state == 'draft'" = some none ∧ listed "state == 'draft'" = ["done"]) ∧
      (moves "auto == True" = some (some "done") ∧ listed "auto == True" = []) := by
  decide +kernel

end AiEnterpriseOs.Workflow
