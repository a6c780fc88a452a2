import AiEnterpriseOs.Library.GuardedLoop
import AiEnterpriseOs.Workflow.Transitions
import Mathlib.Logic.Relation

/-!
# Workflow validation

The validator collects errors and warnings over a definition. The states that
can be reached are collected in a set that is extended while a loop runs over
it, which Python does not allow.
-/

namespace AiEnterpriseOs.Workflow

open Library

inductive ValidationError where
  | unknownTarget (stateId target : String)
  | initialMissing (initialState : String)
  | noTerminal
  | approvalMissing (stateId : String)
  | actionMissing (stateId : String)
  | waitMissing (stateId : String)
  | deadlock (stateId : String)

def ValidationError.text : ValidationError → String
  | unknownTarget stateId target =>
    "Transition from '" ++ stateId ++ "' references unknown state '" ++ target ++ "'"
  | initialMissing initialState => "Initial state '" ++ initialState ++ "' not found in states"
  | noTerminal => "No terminal states defined"
  | approvalMissing stateId => "Approval state '" ++ stateId ++ "' missing approval config"
  | actionMissing stateId => "Action state '" ++ stateId ++ "' missing action config"
  | waitMissing stateId => "Wait state '" ++ stateId ++ "' missing wait config"
  | deadlock stateId => "Non-terminal state '" ++ stateId ++ "' has no outgoing transitions"

inductive ValidationWarning where
  | missingName (stateId : String)
  | complexCondition (stateId target condition : String)
  | oneTerminal
  | approvalNotRequired (stateId : String)
  | missingApproverRole (stateId : String)
  | missingHandler (stateId : String)
  | missingWaitFor (stateId : String)
  | unreachable (stateId : String)

def ValidationWarning.text : ValidationWarning → String
  | missingName stateId => "State '" ++ stateId ++ "' missing display name"
  | complexCondition stateId target condition =>
    "Transition '" ++ stateId ++ "' -> '" ++ target ++ "' has complex condition: '" ++
      condition ++ "'"
  | oneTerminal => "Only one terminal state defined"
  | approvalNotRequired stateId => "Approval state '" ++ stateId ++ "' has required=false"
  | missingApproverRole stateId => "Approval state '" ++ stateId ++ "' missing approver_role"
  | missingHandler stateId => "Action state '" ++ stateId ++ "' missing handler"
  | missingWaitFor stateId => "Wait state '" ++ stateId ++ "' missing wait_for"
  | unreachable stateId => "State '" ++ stateId ++ "' is unreachable from initial state"

structure Findings where
  errors : List ValidationError := []
  warnings : List ValidationWarning := []

namespace Findings

def append (first second : Findings) : Findings where
  errors := first.errors ++ second.errors
  warnings := first.warnings ++ second.warnings

/-- What the checks of a list of items find, one after the other. -/
def collect {Item : Type} (check : Item → Findings) (items : List Item) : Findings where
  errors := items.flatMap fun item => (check item).errors
  warnings := items.flatMap fun item => (check item).warnings

def onlyError (error : ValidationError) : Findings where
  errors := [error]

def onlyWarning (warning : ValidationWarning) : Findings where
  warnings := [warning]

end Findings

/-- What `compile` does with a condition: an error other than a SyntaxError
leaves the validator. -/
inductive Compilation where
  | compiled
  | syntaxError
  | raises (error : String)

/-- The order in which Python runs over a set. -/
structure SetOrder where
  arrange : List String → List String
  same : ∀ names, (arrange names).Perm names

/-- A validator with the `name` of every state, which nothing else reads. -/
structure TransitionValidator (Value : Type) where
  definition : WorkflowDefinition Value
  displayName : String → String
  findings : Findings := {}

namespace TransitionValidator

variable {Value : Type} (validator : TransitionValidator Value)

def validateStates : Findings :=
  .collect (fun entry =>
    if validator.displayName entry.1 = "" then .onlyWarning (.missingName entry.1) else {})
    validator.definition.states.entries

/-- The transitions of all states, each with the state it leaves. -/
def transitions : List (String × Transition) :=
  validator.definition.states.entries.flatMap fun entry =>
    entry.2.transitions.map fun transition => (entry.1, transition)

/-- `_is_valid_condition`, which is asked about the conditions that are not `auto`. -/
def conditionFindings (compile : String → Compilation) (item : String × Transition) :
    Except String Findings :=
  if item.2.condition = "" ∨ item.2.condition = "auto" then .ok {}
  else
    match compile item.2.condition with
    | .compiled => .ok {}
    | .syntaxError =>
      .ok (.onlyWarning (.complexCondition item.1 item.2.target item.2.condition))
    | .raises error => .error error

def transitionFindings (compile : String → Compilation) (item : String × Transition) :
    Except String Findings :=
  let unknown : Findings :=
    if (validator.definition.states.get? item.2.target).isNone then
      .onlyError (.unknownTarget item.1 item.2.target)
    else {}
  (conditionFindings compile item).map unknown.append

def validateTransitions (compile : String → Compilation) : Except String Findings :=
  validator.transitions.foldlM
    (fun findings item => (validator.transitionFindings compile item).map findings.append) {}

def validateInitialState : Findings :=
  if (validator.definition.states.get? validator.definition.initialState).isNone then
    .onlyError (.initialMissing validator.definition.initialState)
  else {}

def validateTerminalStates : Findings :=
  let terminalStates := validator.definition.states.values.filter fun state =>
    state.type = .terminal
  if terminalStates.length = 0 then .onlyError .noTerminal
  else if terminalStates.length = 1 then .onlyWarning .oneTerminal
  else {}

def approvalFindings (entry : String × WorkflowState Value) : Findings :=
  if entry.2.type = .approval then
    match entry.2.approval with
    | none => .onlyError (.approvalMissing entry.1)
    | some approval =>
      Findings.append
        (if approval.required then {} else .onlyWarning (.approvalNotRequired entry.1))
        (if approval.approverRole.getD "" = "" then
          .onlyWarning (.missingApproverRole entry.1)
        else {})
  else {}

def validateApprovalStates : Findings :=
  .collect approvalFindings validator.definition.states.entries

def actionFindings (entry : String × WorkflowState Value) : Findings :=
  if entry.2.type = .action then
    match entry.2.action with
    | none => .onlyError (.actionMissing entry.1)
    | some action =>
      if action.handler = "" then .onlyWarning (.missingHandler entry.1) else {}
  else {}

def validateActionStates : Findings :=
  .collect actionFindings validator.definition.states.entries

def waitFindings (entry : String × WorkflowState Value) : Findings :=
  if entry.2.type = .wait then
    match entry.2.wait with
    | none => .onlyError (.waitMissing entry.1)
    | some wait =>
      if wait.waitFor = "" then .onlyWarning (.missingWaitFor entry.1) else {}
  else {}

def validateWaitStates : Findings :=
  .collect waitFindings validator.definition.states.entries

/-- The targets of the transitions of a state, if there is such a state. -/
def targets (stateId : String) : List String :=
  match validator.definition.states.get? stateId with
  | none => []
  | some state => state.transitions.map Transition.target

/-- The body of the loop over the set. -/
def addTargets (stateId : String) (reachable : List String) : List String :=
  GuardedLoop.addNew (validator.targets stateId) reachable

/-- `while changed`, for at most so many rounds. -/
def grow (order : SetOrder) : Nat → List String → Option (Except String (List String))
  | 0, _ => none
  | rounds + 1, reachable =>
    match GuardedLoop.run validator.addTargets reachable.length (order.arrange reachable)
        reachable with
    | none => some (.error "Set changed size during iteration")
    | some next =>
      let changed := decide (next.length ≠ reachable.length)
      if changed then grow order rounds next else some (.ok next)

def getReachableStates (order : SetOrder) (rounds : Nat) : Option (Except String (List String)) :=
  validator.grow order rounds [validator.definition.initialState]

def checkReachability (order : SetOrder) (rounds : Nat) : Option (Except String Findings) :=
  (validator.getReachableStates order rounds).map fun outcome => outcome.map fun reachable =>
    let allStates := validator.definition.states.keys
    let unreachable := allStates.filter fun stateId => stateId ∉ reachable
    .collect (fun stateId =>
      if stateId = validator.definition.initialState then {}
      else .onlyWarning (.unreachable stateId))
      (order.arrange unreachable)

def deadlockFindings (entry : String × WorkflowState Value) : Findings :=
  if entry.2.type = .terminal then {}
  else if entry.2.transitions.length = 0 then .onlyError (.deadlock entry.1)
  else {}

def checkDeadlocks : Findings :=
  .collect deadlockFindings validator.definition.states.entries

/-- The verdict, with the validator that has the findings. -/
def validate (compile : String → Compilation) (order : SetOrder) (rounds : Nat) :
    Option (Except String (Bool × TransitionValidator Value)) :=
  match validator.validateTransitions compile with
  | .error error => some (.error error)
  | .ok transitions =>
    (validator.checkReachability order rounds).map fun outcome => outcome.map fun reachability =>
      let findings :=
        [validator.validateStates, transitions, validator.validateInitialState,
          validator.validateTerminalStates, validator.validateApprovalStates,
          validator.validateActionStates, validator.validateWaitStates, reachability,
          validator.checkDeadlocks].foldl Findings.append {}
      (decide (findings.errors.length = 0), { validator with findings := findings })

/-! ## What the validator is for -/

def Leads (source target : String) : Prop :=
  target ∈ validator.targets source

/-- A path of transitions leads to the state. -/
def Reachable (stateId : String) : Prop :=
  Relation.ReflTransGen validator.Leads validator.definition.initialState stateId

/-- The validator returns, has collected the reachable states and warns of the others. -/
structure Validates (compile : String → Compilation) (order : SetOrder) (rounds : Nat) : Prop where
  reachable : ∃ reachable, validator.getReachableStates order rounds = some (.ok reachable) ∧
    ∀ stateId, stateId ∈ reachable ↔ validator.Reachable stateId
  verdict : ∃ valid after, validator.validate compile order rounds = some (.ok (valid, after)) ∧
    ∀ stateId ∈ validator.definition.states.keys,
      .unreachable stateId ∈ after.findings.warnings ↔ ¬ validator.Reachable stateId

/-- No condition makes `compile` raise more than a SyntaxError, and the initial
state, where it exists, leads to itself alone. -/
structure Settled (compile : String → Compilation) : Prop where
  compilable : ∀ item ∈ validator.transitions, item.2.condition ≠ "" →
    item.2.condition ≠ "auto" → ∀ error, compile item.2.condition ≠ .raises error
  initial : ∀ target ∈ validator.targets validator.definition.initialState,
    target = validator.definition.initialState

section Growing

variable {validator}

theorem grow_closed {reachable : List String}
    (closed : ∀ stateId ∈ reachable, ∀ target ∈ validator.targets stateId, target ∈ reachable)
    (order : SetOrder) (rounds : Nat) :
    validator.grow order (rounds + 1) reachable = some (.ok reachable) := by
  have scanned : GuardedLoop.run validator.addTargets reachable.length
      (order.arrange reachable) reachable = some reachable := by
    apply GuardedLoop.run_unchanged
    intro stateId member
    rw [addTargets, GuardedLoop.add_new_eq_self_iff]
    exact closed stateId ((order.same reachable).mem_iff.mp member)
  rw [grow, scanned]
  simp

theorem grow_open {reachable : List String} {stateId target : String}
    (member : stateId ∈ reachable) (leads : target ∈ validator.targets stateId)
    (fresh : target ∉ reachable) (order : SetOrder) (rounds : Nat) :
    validator.grow order (rounds + 1) reachable =
      some (.error "Set changed size during iteration") := by
  have scanned : GuardedLoop.run validator.addTargets reachable.length
      (order.arrange reachable) reachable = none := by
    apply GuardedLoop.run_grows
    · intro stateId reachable
      exact GuardedLoop.add_new_extends (validator.targets stateId) reachable
    · exact (order.same reachable).mem_iff.mpr member
    · intro same
      exact fresh ((GuardedLoop.add_new_eq_self_iff _ _).mp same target leads)
  rw [grow, scanned]

theorem reachable_of_settled
    (initial : ∀ target ∈ validator.targets validator.definition.initialState,
      target = validator.definition.initialState) (stateId : String) :
    validator.Reachable stateId ↔ stateId = validator.definition.initialState := by
  constructor
  · intro path
    induction path with
    | refl => rfl
    | tail path leads ih =>
      rw [ih] at leads
      exact initial _ leads
  · rintro rfl
    exact Relation.ReflTransGen.refl

end Growing

section NoUnreachable

/-- Findings of a check that says nothing of reachability. -/
def NoUnreachable (findings : Findings) : Prop :=
  ∀ stateId, .unreachable stateId ∉ findings.warnings

theorem no_unreachable_empty : NoUnreachable {} := by
  intro stateId member
  cases member

theorem no_unreachable_error (error : ValidationError) : NoUnreachable (.onlyError error) := by
  intro stateId member
  cases member

theorem no_unreachable_warning {warning : ValidationWarning}
    (apart : ∀ stateId, warning ≠ .unreachable stateId) :
    NoUnreachable (.onlyWarning warning) := by
  intro stateId member
  exact apart stateId (List.mem_singleton.mp member).symm

theorem no_unreachable_if {condition : Prop} [Decidable condition] {first second : Findings}
    (holds : NoUnreachable first) (fails : NoUnreachable second) :
    NoUnreachable (if condition then first else second) := by
  by_cases decided : condition
  · rw [if_pos decided]
    exact holds
  · rw [if_neg decided]
    exact fails

theorem no_unreachable_append {first second : Findings} (left : NoUnreachable first)
    (right : NoUnreachable second) : NoUnreachable (first.append second) := by
  intro stateId member
  exact (List.mem_append.mp member).elim (left stateId) (right stateId)

theorem no_unreachable_collect {Item : Type} {check : Item → Findings} (items : List Item)
    (checks : ∀ item ∈ items, NoUnreachable (check item)) :
    NoUnreachable (.collect check items) := by
  intro stateId member
  obtain ⟨item, listed, found⟩ := List.mem_flatMap.mp member
  exact checks item listed stateId found

variable {validator}

theorem no_unreachable_states : NoUnreachable validator.validateStates := by
  apply no_unreachable_collect
  intro entry _
  apply no_unreachable_if
  · apply no_unreachable_warning
    simp
  · exact no_unreachable_empty

theorem no_unreachable_initial : NoUnreachable validator.validateInitialState := by
  unfold validateInitialState
  apply no_unreachable_if
  · exact no_unreachable_error _
  · exact no_unreachable_empty

theorem no_unreachable_terminal : NoUnreachable validator.validateTerminalStates := by
  unfold validateTerminalStates
  extract_lets terminalStates
  apply no_unreachable_if
  · exact no_unreachable_error _
  · apply no_unreachable_if
    · apply no_unreachable_warning
      simp
    · exact no_unreachable_empty

theorem no_unreachable_approval : NoUnreachable validator.validateApprovalStates := by
  apply no_unreachable_collect
  intro entry _
  unfold approvalFindings
  apply no_unreachable_if
  · cases entry.2.approval with
    | none => exact no_unreachable_error _
    | some approval =>
      apply no_unreachable_append
      · apply no_unreachable_if
        · exact no_unreachable_empty
        · apply no_unreachable_warning
          simp
      · apply no_unreachable_if
        · apply no_unreachable_warning
          simp
        · exact no_unreachable_empty
  · exact no_unreachable_empty

theorem no_unreachable_action : NoUnreachable validator.validateActionStates := by
  apply no_unreachable_collect
  intro entry _
  unfold actionFindings
  apply no_unreachable_if
  · cases entry.2.action with
    | none => exact no_unreachable_error _
    | some action =>
      apply no_unreachable_if
      · apply no_unreachable_warning
        simp
      · exact no_unreachable_empty
  · exact no_unreachable_empty

theorem no_unreachable_wait : NoUnreachable validator.validateWaitStates := by
  apply no_unreachable_collect
  intro entry _
  unfold waitFindings
  apply no_unreachable_if
  · cases entry.2.wait with
    | none => exact no_unreachable_error _
    | some wait =>
      apply no_unreachable_if
      · apply no_unreachable_warning
        simp
      · exact no_unreachable_empty
  · exact no_unreachable_empty

theorem no_unreachable_deadlocks : NoUnreachable validator.checkDeadlocks := by
  apply no_unreachable_collect
  intro entry _
  unfold deadlockFindings
  apply no_unreachable_if
  · exact no_unreachable_empty
  · apply no_unreachable_if
    · exact no_unreachable_error _
    · exact no_unreachable_empty

/-- What `compile` does not refuse with another error. -/
def Compilable (compile : String → Compilation) (item : String × Transition) : Prop :=
  item.2.condition ≠ "" → item.2.condition ≠ "auto" →
    ∀ error, compile item.2.condition ≠ .raises error

theorem condition_findings_ok {compile : String → Compilation} {item : String × Transition}
    (compilable : Compilable compile item) :
    ∃ findings, conditionFindings compile item = .ok findings ∧ NoUnreachable findings := by
  unfold conditionFindings
  split
  · exact ⟨_, rfl, no_unreachable_empty⟩
  · next asked =>
      rw [not_or] at asked
      cases compiles : compile item.2.condition with
      | compiled => exact ⟨_, rfl, no_unreachable_empty⟩
      | syntaxError =>
        refine ⟨_, rfl, no_unreachable_warning ?_⟩
        simp
      | raises error => exact absurd compiles (compilable asked.1 asked.2 error)

theorem condition_findings_error {compile : String → Compilation} {item : String × Transition}
    (refused : ¬ Compilable compile item) :
    ∃ error, conditionFindings compile item = .error error := by
  simp only [Compilable, not_forall, not_not] at refused
  obtain ⟨nonempty, other, error, raises⟩ := refused
  refine ⟨error, ?_⟩
  rw [conditionFindings, if_neg (not_or.mpr ⟨nonempty, other⟩), raises]

theorem transition_findings_ok {compile : String → Compilation} {item : String × Transition}
    (compilable : Compilable compile item) :
    ∃ findings, validator.transitionFindings compile item = .ok findings ∧
      NoUnreachable findings := by
  obtain ⟨findings, found, silent⟩ := condition_findings_ok compilable
  rw [transitionFindings, found]
  refine ⟨_, rfl, no_unreachable_append ?_ silent⟩
  apply no_unreachable_if
  · exact no_unreachable_error _
  · exact no_unreachable_empty

theorem fold_transitions (compile : String → Compilation) (items : List (String × Transition))
    {start : Findings} (silent : NoUnreachable start) :
    (∀ item ∈ items, Compilable compile item) ∧ (∃ findings, items.foldlM (fun findings item =>
            (validator.transitionFindings compile item).map findings.append) start =
              .ok findings ∧ NoUnreachable findings) ∨
      (¬ ∀ item ∈ items, Compilable compile item) ∧ ∃ error, items.foldlM (fun findings item =>
            (validator.transitionFindings compile item).map findings.append) start =
              .error error := by
  induction items generalizing start with
  | nil => exact .inl ⟨by simp, start, rfl, silent⟩
  | cons item rest ih =>
    by_cases compilable : Compilable compile item
    · obtain ⟨findings, found, quiet⟩ :=
        @transition_findings_ok _ validator compile item compilable
      have others : (∀ other ∈ item :: rest, Compilable compile other) ↔
          ∀ other ∈ rest, Compilable compile other := by
        rw [List.forall_mem_cons]
        exact and_iff_right compilable
      rw [List.foldlM_cons, found, others]
      exact ih (no_unreachable_append silent quiet)
    · obtain ⟨error, raised⟩ := condition_findings_error compilable
      refine .inr ⟨fun all => compilable (all item List.mem_cons_self), error, ?_⟩
      rw [List.foldlM_cons, transitionFindings, raised]
      rfl

end NoUnreachable

section Verdict

variable {validator}

theorem validate_transitions_ok {compile : String → Compilation}
    (compilable : ∀ item ∈ validator.transitions, Compilable compile item) :
    ∃ findings, validator.validateTransitions compile = .ok findings ∧
      NoUnreachable findings := by
  rcases fold_transitions compile validator.transitions no_unreachable_empty with
    ⟨_, found⟩ | ⟨refused, _⟩
  · exact found
  · exact absurd compilable refused

theorem mem_check_reachability {order : SetOrder} {rounds : Nat} {reachable : List String}
    (collected : validator.getReachableStates order rounds = some (.ok reachable)) :
    ∃ findings, validator.checkReachability order rounds = some (.ok findings) ∧
      ∀ stateId, .unreachable stateId ∈ findings.warnings ↔
        stateId ∈ validator.definition.states.keys ∧ stateId ∉ reachable ∧
          stateId ≠ validator.definition.initialState := by
  unfold checkReachability
  rw [collected]
  refine ⟨_, rfl, ?_⟩
  intro stateId
  have arranged : ∀ other, other ∈ order.arrange (validator.definition.states.keys.filter
      fun stateId => stateId ∉ reachable) ↔
        other ∈ validator.definition.states.keys ∧ other ∉ reachable := by
    intro other
    rw [(order.same _).mem_iff, List.mem_filter, decide_eq_true_iff]
  simp only [Findings.collect, List.mem_flatMap, arranged]
  constructor
  · rintro ⟨other, ⟨listed, missed⟩, warning⟩
    split at warning
    · cases warning
    · next apart =>
        cases List.mem_singleton.mp warning
        exact ⟨listed, missed, apart⟩
  · rintro ⟨listed, missed, apart⟩
    refine ⟨stateId, ⟨listed, missed⟩, ?_⟩
    rw [if_neg apart]
    exact List.mem_singleton_self _

/-- The validator does what it is for exactly on the settled definitions. -/
theorem transitions_validate_iff (validator : TransitionValidator Value)
    (compile : String → Compilation) (order : SetOrder) (rounds : Nat) :
    validator.Validates compile order (rounds + 1) ↔ validator.Settled compile := by
  constructor
  · rintro ⟨⟨reachable, collected, _⟩, valid, after, verdict, _⟩
    constructor
    · by_contra refused
      rcases @fold_transitions _ validator compile validator.transitions _
        no_unreachable_empty with ⟨compilable, _⟩ | ⟨_, error, raised⟩
      · exact refused compilable
      · rw [validate, validateTransitions, raised] at verdict
        cases verdict
    · by_contra leaves
      simp only [not_forall] at leaves
      obtain ⟨target, leads, apart⟩ := leaves
      rw [getReachableStates, grow_open List.mem_cons_self leads (by simpa using apart)]
        at collected
      cases collected
  · intro settled
    have collected : validator.getReachableStates order (rounds + 1) =
        some (.ok [validator.definition.initialState]) := by
      apply grow_closed
      intro stateId member target leads
      rw [List.mem_singleton.mp member] at leads
      exact List.mem_singleton.mpr (settled.initial target leads)
    obtain ⟨transitions, found, silent⟩ := validate_transitions_ok settled.compilable
    obtain ⟨reachability, checked, warned⟩ := mem_check_reachability collected
    constructor
    · refine ⟨_, collected, ?_⟩
      intro stateId
      rw [reachable_of_settled settled.initial, List.mem_singleton]
    · rw [validate, found, checked]
      refine ⟨_, _, rfl, ?_⟩
      intro stateId listed
      rw [reachable_of_settled settled.initial]
      simp only [List.foldl_cons, List.foldl_nil, Findings.append, List.mem_append,
        no_unreachable_states stateId, silent stateId, no_unreachable_initial stateId,
        no_unreachable_terminal stateId, no_unreachable_approval stateId,
        no_unreachable_action stateId, no_unreachable_wait stateId,
        no_unreachable_deadlocks stateId, List.not_mem_nil, false_or, or_false, warned,
        List.mem_singleton, listed, true_and, and_self]

end Verdict

/-- A start that leads to an end is enough for the RuntimeError. -/
theorem two_states_raise :
    let start : WorkflowState Unit :=
      { type := .initial, transitions := [{ target := "done" }] }
    let done : WorkflowState Unit := { type := .terminal }
    let validator : TransitionValidator Unit :=
      { definition :=
          { states := (OrderedDict.empty.set "start" start).set "done" done
            initialState := "start" }
        displayName := id }
    let order : SetOrder := { arrange := id, same := fun _ => .refl _ }
    let compile : String → Compilation := fun _ => .compiled
    validator.getReachableStates order 2 = some (.error "Set changed size during iteration") ∧
      ¬ validator.Validates compile order 2 := by
  intro start done validator order compile
  have raises : validator.getReachableStates order 2 =
      some (.error "Set changed size during iteration") := by
    rfl
  refine ⟨raises, ?_⟩
  rintro ⟨⟨reachable, collected, _⟩, _⟩
  rw [raises] at collected
  cases collected

end TransitionValidator

end AiEnterpriseOs.Workflow
