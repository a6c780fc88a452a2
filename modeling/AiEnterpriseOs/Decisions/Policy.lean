import AiEnterpriseOs.Decisions.Models
import AiEnterpriseOs.Library.LastWrite
import Mathlib.Algebra.Order.Ring.Rat
import Mathlib.Data.List.Sort

/-!
# Policies

A policy applies to a decision by what no policy changes, so the order of
enforcement matters only where two policies rule on the same thing.
-/

namespace AiEnterpriseOs.Decisions

open Library

inductive PolicyCondition where
  | minPriority (value : Rat)
  | maxPriority (value : Rat)
  | category (value : String)
  | riskMax (value : Rat)
  | other (key : String)
  deriving DecidableEq

/-- The `type` of the actions with the entry that it reads. -/
inductive PolicyAction where
  | requireApproval
  | autoApprove
  | addConstraint (constraint : String)
  | setOwner (owner : String)
  | escalate
  | other
  deriving DecidableEq

structure Policy where
  policyId : String
  name : String
  scope : String
  enabled : Bool
  priority : Int
  conditions : List PolicyCondition
  action : PolicyAction

def PolicyCondition.holds (decision : Decision) : PolicyCondition → Bool
  | minPriority value => decide (value ≤ decision.priority.value)
  | maxPriority value => decide (decision.priority.value ≤ value)
  | category value => decide (decision.category.value = value)
  | riskMax value => decide (decision.riskScore.getD 0 ≤ value)
  | other _ => true

namespace Policy

def appliesTo (policy : Policy) (decision : Decision) : Bool :=
  if policy.enabled = false then false
  else if policy.scope ≠ "global" ∧
      ((decision.context.getD "scope" (.str decision.category.value)).equal
        (.str policy.scope)) = false then false
  else policy.conditions.all fun condition => condition.holds decision

/-- The decision that the policy leaves, and the actions taken. -/
def enforce (policy : Policy) (decision : Decision) : Decision × List String :=
  if policy.appliesTo decision = false then (decision, [])
  else
    match policy.action with
    | .requireApproval =>
      ({ decision with approvalRequired := true }, ["Approval required by policy " ++ policy.name])
    | .autoApprove =>
      ({ decision with approvalRequired := false }, ["Auto-approved by policy " ++ policy.name])
    | .addConstraint constraint =>
      if constraint = "" then (decision, [])
      else
        ({ decision with constraints := decision.constraints ++ [constraint] },
          ["Constraint added: " ++ constraint])
    | .setOwner owner =>
      if owner = "" then (decision, [])
      else ({ decision with owner := owner }, ["Owner set to " ++ owner])
    | .escalate => (decision, ["Escalation triggered by policy " ++ policy.name])
    | .other => (decision, [])

/-- What the policy says about the approval of the decision, if anything. -/
def ruling (decision : Decision) (policy : Policy) : Option Bool :=
  if policy.appliesTo decision then
    match policy.action with
    | .requireApproval => some true
    | .autoApprove => some false
    | _ => none
  else none

/-- The owner that the policy sets, if any. -/
def ownerSet (decision : Decision) (policy : Policy) : Option String :=
  if policy.appliesTo decision then
    match policy.action with
    | .setOwner owner => if owner = "" then none else some owner
    | _ => none
  else none

def constraintsAdded (decision : Decision) (policy : Policy) : List String :=
  if policy.appliesTo decision then
    match policy.action with
    | .addConstraint constraint => if constraint = "" then [] else [constraint]
    | _ => []
  else []

end Policy

structure PolicyEngine where
  policies : OrderedDict String Policy

namespace PolicyEngine

def empty : PolicyEngine := { policies := OrderedDict.empty }

def addPolicy (engine : PolicyEngine) (policy : Policy) : PolicyEngine :=
  { policies := engine.policies.set policy.policyId policy }

/-- Highest priority first, and equal ones as they were added. -/
def sortedPolicies (engine : PolicyEngine) : List Policy :=
  engine.policies.values.insertionSort fun left right => right.priority ≤ left.priority

def enforceAll (policies : List Policy) (decision : Decision) : Decision × List String :=
  policies.foldl (fun result policy =>
      let (decision, results) := policy.enforce result.1
      (decision, result.2 ++ results))
    (decision, [])

def enforce (engine : PolicyEngine) (decision : Decision) : Decision × List String :=
  enforceAll engine.sortedPolicies decision

/-- The last ruling of an enforcement. -/
def ruling (engine : PolicyEngine) (decision : Decision) : Option Bool :=
  (engine.sortedPolicies.filterMap (Policy.ruling decision)).getLast?

end PolicyEngine

/-- What an enforcement leaves as it is. -/
structure Unruled (before after : Decision) : Prop where
  id : after.id = before.id
  category : after.category = before.category
  priority : after.priority = before.priority
  riskScore : after.riskScore = before.riskScore
  context : after.context = before.context
  status : after.status = before.status
  approvedBy : after.approvedBy = before.approvedBy

namespace Unruled

variable {first second third : Decision}

theorem refl (decision : Decision) : Unruled decision decision :=
  ⟨rfl, rfl, rfl, rfl, rfl, rfl, rfl⟩

theorem trans (early : Unruled first second) (late : Unruled second third) :
    Unruled first third where
  id := late.id.trans early.id
  category := late.category.trans early.category
  priority := late.priority.trans early.priority
  riskScore := late.riskScore.trans early.riskScore
  context := late.context.trans early.context
  status := late.status.trans early.status
  approvedBy := late.approvedBy.trans early.approvedBy

theorem applies_to (unruled : Unruled first second) (policy : Policy) :
    policy.appliesTo second = policy.appliesTo first := by
  have conditions : ∀ condition : PolicyCondition,
      condition.holds second = condition.holds first := by
    intro condition
    cases condition with
    | minPriority value => rw [PolicyCondition.holds, PolicyCondition.holds, unruled.priority]
    | maxPriority value => rw [PolicyCondition.holds, PolicyCondition.holds, unruled.priority]
    | category value => rw [PolicyCondition.holds, PolicyCondition.holds, unruled.category]
    | riskMax value => rw [PolicyCondition.holds, PolicyCondition.holds, unruled.riskScore]
    | other key => rfl
  rw [Policy.appliesTo, Policy.appliesTo, unruled.context, unruled.category, funext conditions]

theorem ruling (unruled : Unruled first second) : Policy.ruling second = Policy.ruling first := by
  funext policy
  rw [Policy.ruling, Policy.ruling, unruled.applies_to policy]

end Unruled

/-- The decision with the values that are set, and the constraints appended. -/
def Decision.ruled (decision : Decision) (approvalRequired : Option Bool) (owner : Option String)
    (constraints : List String) : Decision :=
  { decision with
    approvalRequired := approvalRequired.getD decision.approvalRequired
    owner := owner.getD decision.owner
    constraints := decision.constraints ++ constraints }

theorem ruled_nothing (decision : Decision) : decision.ruled none none [] = decision := by
  rw [Decision.ruled, List.append_nil]
  rfl

theorem ruled_ruled (decision : Decision) (approval laterApproval : Option Bool)
    (owner laterOwner : Option String) (constraints laterConstraints : List String) :
    (decision.ruled approval owner constraints).ruled laterApproval laterOwner laterConstraints =
      decision.ruled (laterApproval.or approval) (laterOwner.or owner)
        (constraints ++ laterConstraints) := by
  simp only [Decision.ruled, List.append_assoc, Decision.mk.injEq, true_and, and_true]
  cases laterApproval <;> cases laterOwner <;> simp

theorem enforce_ruled (policy : Policy) (decision : Decision) : (policy.enforce decision).1 =
      decision.ruled (policy.ruling decision) (policy.ownerSet decision)
        (policy.constraintsAdded decision) := by
  rw [Policy.enforce, Policy.ruling, Policy.ownerSet, Policy.constraintsAdded]
  cases policy.appliesTo decision with
  | false => exact (ruled_nothing decision).symm
  | true =>
    cases policy.action with
    | addConstraint constraint =>
      by_cases named : constraint = ""
      · simp [named, Decision.ruled]
      · simp [named, Decision.ruled]
    | setOwner owner =>
      by_cases named : owner = ""
      · simp [named, Decision.ruled]
      · simp [named, Decision.ruled]
    | _ => simp [Decision.ruled]

theorem Unruled.settings {first second : Decision} (unruled : Unruled first second) :
    Policy.ruling second = Policy.ruling first ∧ Policy.ownerSet second = Policy.ownerSet first ∧
      Policy.constraintsAdded second = Policy.constraintsAdded first := by
  refine ⟨unruled.ruling, ?_, ?_⟩
  · funext policy
    rw [Policy.ownerSet, Policy.ownerSet, unruled.applies_to policy]
  · funext policy
    rw [Policy.constraintsAdded, Policy.constraintsAdded, unruled.applies_to policy]

theorem unruled_ruled (decision : Decision) (approval : Option Bool) (owner : Option String)
    (constraints : List String) : Unruled decision (decision.ruled approval owner constraints) :=
  ⟨rfl, rfl, rfl, rfl, rfl, rfl, rfl⟩

theorem enforce_all_ruled (policies : List Policy) (decision start : Decision)
    (results : List String) (unruled : Unruled decision start) :
    (policies.foldl (fun result policy =>
        let (decision, more) := policy.enforce result.1
        (decision, result.2 ++ more))
      (start, results)).1 =
      start.ruled (lastSetting (Policy.ruling decision) policies)
        (lastSetting (Policy.ownerSet decision) policies)
        (policies.flatMap (Policy.constraintsAdded decision)) := by
  induction policies generalizing start results with
  | nil => exact (ruled_nothing start).symm
  | cons policy rest ih =>
    obtain ⟨approval, owner, constraints⟩ := unruled.settings
    have head := enforce_ruled policy start
    rw [approval, owner, constraints] at head
    rw [List.foldl_cons]
    dsimp only
    rw [head, ih _ _ (unruled.trans (unruled_ruled _ _ _ _)), ruled_ruled, last_setting_cons,
      last_setting_cons, List.flatMap_cons]

theorem PolicyEngine.enforce_eq_ruled (engine : PolicyEngine) (decision start : Decision)
    (unruled : Unruled decision start) :
    (engine.enforce start).1 =
      start.ruled (lastSetting (Policy.ruling decision) engine.sortedPolicies)
        (lastSetting (Policy.ownerSet decision) engine.sortedPolicies)
        (engine.sortedPolicies.flatMap (Policy.constraintsAdded decision)) :=
  enforce_all_ruled engine.sortedPolicies decision start [] unruled

end AiEnterpriseOs.Decisions

/-!
## Policies that set the same attribute

The policies are enforced from the highest priority to the lowest, and each one writes
over what the ones before it have set.
-/

namespace AiEnterpriseOs.Decisions

open Library

namespace PolicyEngine

variable (engine : PolicyEngine) (decision : Decision)

theorem mem_sorted_policies (policy : Policy) :
    policy ∈ engine.sortedPolicies ↔ policy ∈ engine.policies.values :=
  List.mem_insertionSort _

/-- A policy of the highest priority among those that set the attribute sets this value. -/
def HighestSets {Value : Type} (setting : Policy → Option Value) (value : Value) : Prop :=
  ∃ policy ∈ engine.policies.values, setting policy = some value ∧
    ∀ other ∈ engine.policies.values, setting other ≠ none → other.priority ≤ policy.priority

/-- An attribute that some policy sets has the value of the highest priority. -/
def HighestWins {Value : Type} (setting : Policy → Option Value) (value : Value) : Prop :=
  (∃ policy ∈ engine.policies.values, setting policy ≠ none) → engine.HighestSets setting value

/-- An enforcement resolves conflicts by priority, and repeating it changes nothing. -/
def ResolvesConflicts : Prop :=
  let enforced := (engine.enforce decision).1
  engine.HighestWins (Policy.ruling decision) enforced.approvalRequired ∧
    engine.HighestWins (Policy.ownerSet decision) enforced.owner ∧
    (engine.enforce enforced).1 = enforced

/-- The last one in the order of falling priority that sets the attribute sets the value
of one of the highest priority. -/
def ExtremesAgree {Value : Type} (setting : Policy → Option Value) : Prop :=
  ∀ last, SetsLast setting engine.sortedPolicies last →
    ∃ highest ∈ engine.policies.values, setting highest = setting last ∧
      ∀ other ∈ engine.policies.values, setting other ≠ none → other.priority ≤ highest.priority

variable {engine decision}

theorem highest_wins_iff {Value : Type} (setting : Policy → Option Value) (unset : Value) :
    engine.HighestWins setting ((lastSetting setting engine.sortedPolicies).getD unset) ↔
      engine.ExtremesAgree setting := by
  cases written : lastSetting setting engine.sortedPolicies with
  | none =>
    have clear := (last_setting_none_iff _).mp written
    constructor
    · intro wins last sets
      obtain ⟨_, _, _, given, _⟩ := id sets
      exact absurd (clear last (sets_last_mem sets)) given
    · intro agree given
      obtain ⟨policy, member, sets⟩ := given
      exact absurd (clear policy ((engine.mem_sorted_policies policy).mpr member)) sets
  | some value =>
    obtain ⟨last, sets, same⟩ := (last_setting_iff _ value).mp written
    rw [Option.getD_some]
    constructor
    · intro wins other again
      have given : setting last ≠ none := by
        rw [same]
        exact Option.some_ne_none value
      obtain ⟨highest, member, equal, above⟩ :=
        wins ⟨last, (engine.mem_sorted_policies last).mp (sets_last_mem sets), given⟩
      obtain ⟨later, found⟩ := Option.ne_none_iff_exists'.mp again.choose_spec.choose_spec.2.1
      have one := (last_setting_iff _ later).mpr ⟨other, again, found⟩
      rw [written] at one
      rw [found, ← one]
      exact ⟨highest, member, equal, above⟩
    · intro agree _
      obtain ⟨highest, member, equal, above⟩ := agree last sets
      exact ⟨highest, member, equal.trans same, above⟩

theorem enforce_again_iff :
    (engine.enforce (engine.enforce decision).1).1 = (engine.enforce decision).1 ↔
      ∀ policy ∈ engine.policies.values, policy.constraintsAdded decision = [] := by
  rw [engine.enforce_eq_ruled decision decision (.refl decision),
    engine.enforce_eq_ruled decision _ (unruled_ruled _ _ _ _), ruled_ruled, Option.or_self,
    Option.or_self]
  have added : (∀ policy ∈ engine.policies.values, policy.constraintsAdded decision = []) ↔
      engine.sortedPolicies.flatMap (Policy.constraintsAdded decision) = [] := by
    rw [List.flatMap_eq_nil_iff]
    simp only [mem_sorted_policies]
  rw [added]
  constructor
  · intro same
    have lists := congrArg Decision.constraints same
    simp only [Decision.ruled] at lists
    simpa using lists
  · intro nothing
    rw [nothing]
    rfl

/-- Conflicts are resolved by priority, and once, exactly if for the requirement and for the
owner the last applicable policy agrees with one of the highest priority, and no applicable
policy adds a constraint. -/
theorem policy_conflicts_resolved_iff (engine : PolicyEngine) (decision : Decision) :
    engine.ResolvesConflicts decision ↔ engine.ExtremesAgree (Policy.ruling decision) ∧
        engine.ExtremesAgree (Policy.ownerSet decision) ∧
        ∀ policy ∈ engine.policies.values, policy.constraintsAdded decision = [] := by
  rw [ResolvesConflicts, enforce_again_iff,
    engine.enforce_eq_ruled decision decision (.refl decision)]
  exact and_congr (highest_wins_iff _ _) (and_congr (highest_wins_iff _ _) Iff.rfl)

/-- A low priority takes back the approval that a high one requires. -/
theorem lowest_priority_wins :
    ¬∀ (engine : PolicyEngine) (decision : Decision), engine.ResolvesConflicts decision := by
  intro claim
  let required : Policy :=
    { policyId := "p1"
      name := "board approval"
      scope := "global"
      enabled := true
      priority := 10
      conditions := []
      action := .requireApproval }
  let routine : Policy :=
    { policyId := "p2"
      name := "routine"
      scope := "global"
      enabled := true
      priority := 1
      conditions := []
      action := .autoApprove }
  let engine := (PolicyEngine.empty.addPolicy required).addPolicy routine
  let decision := Decision.created "d1"
  have listed : engine.policies.values = [required, routine] := rfl
  have waived : (engine.enforce decision).1.approvalRequired = false := by decide +kernel
  have wins := (claim engine decision).1
  rw [waived] at wins
  obtain ⟨policy, member, sets, above⟩ := wins ⟨required, by rw [listed]; simp, by decide +kernel⟩
  rw [listed] at member above
  rcases List.mem_pair.mp member with first | second
  · rw [first] at sets
    exact absurd sets (by decide +kernel)
  · have lower := above required List.mem_cons_self (by decide +kernel)
    rw [second] at lower
    exact absurd lower (by decide)

end PolicyEngine

end AiEnterpriseOs.Decisions
