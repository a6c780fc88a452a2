import AiEnterpriseOs.Decisions.Policy

/-!
# The decision engine

A decision is resolved before the policies are enforced on it, so its status
answers to the approval requirement as it was, and not to the one it leaves with.
-/

namespace AiEnterpriseOs.Decisions

open Library

/-- `ApprovalRouter.escalate`. -/
def nextLevel (decision : Decision) : String :=
  let path := decision.escalationPath
  let following := if decision.owner ∈ path then path.idxOf decision.owner + 1 else 0
  (path[following]?).getD (path.getLast?.getD "board")

structure DecisionEngine where
  policyEngine : PolicyEngine
  decisionHistory : DecisionHistory

/-- `bool(approved_by)`. -/
def ApproverSet (approvedBy : Option String) : Prop :=
  approvedBy ≠ none ∧ approvedBy ≠ some ""

instance (approvedBy : Option String) : Decidable (ApproverSet approvedBy) :=
  inferInstanceAs (Decidable (_ ∧ _))

namespace DecisionEngine

variable (now : Int) (engine : DecisionEngine) (decision : Decision)

def getDecision (decisionId : String) : Option Decision :=
  engine.decisionHistory.get decisionId

/-- `decision_history.record`, which has the decision in its tables when the write
to the file fails. The outcome is the error of a write that failed. -/
def record (failure : Option String) : DecisionEngine × Except String Decision :=
  ({ engine with decisionHistory := engine.decisionHistory.record decision },
    match failure with
    | none => .ok decision
    | some error => .error error)

/-- The decision that `make_decision` hands to the policies. -/
def resolve (selectedOption rationale : String) (approvedBy : Option String) : Decision :=
  { decision with
    selectedOption := some selectedOption
    rationale := some rationale
    approvedBy := approvedBy
    updatedAt := some now
    resolvedAt := some now
    status :=
      if decision.approvalRequired = true ∧ ¬ApproverSet approvedBy then .escalated
      else .approved }

/-- The decision that `make_decision` records. -/
def made (selectedOption rationale : String) (approvedBy : Option String) : Decision :=
  (engine.policyEngine.enforce (resolve now decision selectedOption rationale approvedBy)).1

def makeDecision (selectedOption rationale : String) (approvedBy failure : Option String) :
    DecisionEngine × Except String Decision :=
  engine.record (engine.made now decision selectedOption rationale approvedBy) failure

def escalate (escalationNote : String) (failure : Option String) :
    DecisionEngine × Except String Decision :=
  engine.record
    { decision with
      status := .escalated
      updatedAt := some now
      metadata :=
        if escalationNote = "" then decision.metadata
        else decision.metadata.set "escalation_note" (.str escalationNote)
      escalationPath := decision.escalationPath ++ [nextLevel decision] }
    failure

def cancel (cancelReason : String) (failure : Option String) :
    DecisionEngine × Except String Decision :=
  engine.record
    { decision with
      status := .cancelled
      updatedAt := some now
      metadata := decision.metadata.set "cancel_reason" (.str cancelReason) }
    failure

def reject (rejectReason : String) (failure : Option String) :
    DecisionEngine × Except String Decision :=
  engine.record
    { decision with
      status := .rejected
      updatedAt := some now
      resolvedAt := some (decision.resolvedAt.getD now)
      metadata := decision.metadata.set "reject_reason" (.str rejectReason) }
    failure

end DecisionEngine

theorem enforce_requirement (engine : PolicyEngine) (decision : Decision) :
    Unruled decision (engine.enforce decision).1 ∧ (engine.enforce decision).1.approvalRequired =
        (engine.ruling decision).getD decision.approvalRequired := by
  rw [engine.enforce_eq_ruled decision decision (.refl decision)]
  exact ⟨unruled_ruled _ _ _ _, rfl⟩

/-- A decision is approved only without a requirement or by an approver. -/
def ApprovalSafe (decision : Decision) : Prop :=
  decision.status = .approved → decision.approvalRequired = false ∨ ApproverSet decision.approvedBy

theorem ruling_resolve (now : Int) (engine : PolicyEngine) (decision : Decision)
    (selectedOption rationale : String) (approvedBy : Option String) :
    engine.ruling (DecisionEngine.resolve now decision selectedOption rationale approvedBy) =
      engine.ruling decision := rfl

/-- A decision that is made is safely approved exactly if an approver is given, or an
approval was required already, or the last ruling of the policies is not that one is. -/
theorem approval_safe_iff (now : Int) (engine : DecisionEngine) (decision : Decision)
    (selectedOption rationale : String) (approvedBy : Option String) :
    ∃ made, (engine.makeDecision now decision selectedOption rationale approvedBy none).2 =
        .ok made ∧
      (ApprovalSafe made ↔ ApproverSet approvedBy ∨ decision.approvalRequired = true ∨
          engine.policyEngine.ruling decision ≠ some true) := by
  refine ⟨engine.made now decision selectedOption rationale approvedBy, rfl, ?_⟩
  obtain ⟨unruled, required⟩ := enforce_requirement engine.policyEngine
    (DecisionEngine.resolve now decision selectedOption rationale approvedBy)
  rw [ruling_resolve] at required
  rw [ApprovalSafe, DecisionEngine.made, unruled.status, unruled.approvedBy, required]
  rw [DecisionEngine.resolve]
  dsimp only
  by_cases approver : ApproverSet approvedBy
  · exact iff_of_true (fun _ => .inr approver) (.inl approver)
  · cases before : decision.approvalRequired with
    | true =>
      rw [if_pos ⟨rfl, approver⟩]
      exact iff_of_true nofun (.inr (.inl rfl))
    | false =>
      rw [if_neg fun both => Bool.noConfusion both.1]
      cases engine.policyEngine.ruling decision with
      | none => exact iff_of_true (fun _ => .inl rfl) (.inr (.inr nofun))
      | some ruled =>
        cases ruled with
        | false => exact iff_of_true (fun _ => .inl rfl) (.inr (.inr nofun))
        | true =>
          refine iff_of_false ?_ ?_
          · intro safe
            exact (safe rfl).elim nofun approver
          · rintro (set | needed | other)
            · exact approver set
            · cases needed
            · exact other rfl

/-- A decision that needs no approval is approved, and then found to need one. -/
theorem policy_requires_approval_too_late :
    let policy : Policy :=
      { policyId := "p1"
        name := "board approval"
        scope := "global"
        enabled := true
        priority := 0
        conditions := []
        action := .requireApproval }
    let engine : DecisionEngine :=
      { policyEngine := PolicyEngine.empty.addPolicy policy
        decisionHistory := DecisionHistory.empty }
    let request := { Decision.created "d1" with approvalRequired := false }
    let made := engine.made 0 request "option" "routine" none
    made.status = .approved ∧ made.approvalRequired = true ∧ made.approvedBy = none ∧
      ¬ApprovalSafe made := by
  intro policy engine request made
  have approved : made.status = .approved := by decide +kernel
  have required : made.approvalRequired = true := by decide +kernel
  have nobody : made.approvedBy = none := by decide +kernel
  refine ⟨approved, required, nobody, ?_⟩
  intro safe
  rcases safe approved with free | approver
  · rw [required] at free
    cases free
  · rw [nobody] at approver
    exact approver.1 rfl

end AiEnterpriseOs.Decisions
