import AiEnterpriseOs.Decisions.Engine
import AiEnterpriseOs.Library.Runs

/-!
# The approval inbox

The four facade operations on a recorded decision. Two of them look at its status
before they act, and for two statuses only; the other two do not look at all.
-/

namespace AiEnterpriseOs.Services

open Library Decisions

/-- What a facade operation answers. -/
structure FacadeResult where
  success : Bool
  errors : List String
  decision : Option Decision

inductive DecisionCall where
  | approve (decisionId selectedOption rationale approvedBy : String) (now : Int)
  | reject (decisionId reason : String) (now : Int)
  | escalate (decisionId note : String) (now : Int)
  | cancel (decisionId reason : String) (now : Int)

namespace DecisionCall

def decisionId : DecisionCall → String
  | approve decisionId _ _ _ _ => decisionId
  | reject decisionId _ _ => decisionId
  | escalate decisionId _ _ => decisionId
  | cancel decisionId _ _ => decisionId

end DecisionCall

namespace DecisionInbox

variable (engine : DecisionEngine) (failure : Option String)

def refused (error : String) : FacadeResult :=
  { success := false, errors := [error], decision := none }

/-- The answer to an engine operation, or to the exception it raised. -/
def answer (outcome : DecisionEngine × Except String Decision) : DecisionEngine × FacadeResult :=
  (outcome.1,
    match outcome.2 with
    | .ok decision => { success := true, errors := [], decision := some decision }
    | .error error => refused error)

def notFound (decisionId : String) : DecisionEngine × FacadeResult :=
  (engine, refused ("decision not found: " ++ decisionId))

/-- `decision.status.value not in ("pending", "in_review")`. -/
def alreadyResolved (decision : Decision) : Bool :=
  decision.status.value ∉ ["pending", "in_review"]

def refusedAsResolved (decision : Decision) : DecisionEngine × FacadeResult :=
  (engine, refused ("decision already resolved: " ++ decision.status.value))

def decisionApprove (now : Int) (decisionId selectedOption rationale approvedBy : String) :
    DecisionEngine × FacadeResult :=
  match engine.getDecision decisionId with
  | none => notFound engine decisionId
  | some decision =>
    if alreadyResolved decision then refusedAsResolved engine decision
    else
      answer (engine.makeDecision now decision selectedOption rationale (some approvedBy) failure)

def decisionReject (now : Int) (decisionId reason : String) : DecisionEngine × FacadeResult :=
  match engine.getDecision decisionId with
  | none => notFound engine decisionId
  | some decision =>
    if alreadyResolved decision then refusedAsResolved engine decision
    else answer (engine.reject now decision reason failure)

def decisionEscalate (now : Int) (decisionId note : String) : DecisionEngine × FacadeResult :=
  match engine.getDecision decisionId with
  | none => notFound engine decisionId
  | some decision => answer (engine.escalate now decision note failure)

def decisionCancel (now : Int) (decisionId reason : String) : DecisionEngine × FacadeResult :=
  match engine.getDecision decisionId with
  | none => notFound engine decisionId
  | some decision => answer (engine.cancel now decision reason failure)

def perform : DecisionCall → DecisionEngine × FacadeResult
  | .approve decisionId selectedOption rationale approvedBy now =>
    decisionApprove engine failure now decisionId selectedOption rationale approvedBy
  | .reject decisionId reason now => decisionReject engine failure now decisionId reason
  | .escalate decisionId note now => decisionEscalate engine failure now decisionId note
  | .cancel decisionId reason now => decisionCancel engine failure now decisionId reason

/-- A call whose write to the history succeeds. -/
def step (engine : DecisionEngine) (call : DecisionCall) : DecisionEngine :=
  (perform engine none call).1

end DecisionInbox

/-- Pending, in review, escalated, deferred or awaiting information. -/
def Unresolved (status : DecisionStatus) : Prop :=
  status ≠ .approved ∧ status ≠ .rejected ∧ status ≠ .cancelled

instance (status : DecisionStatus) : Decidable (Unresolved status) :=
  inferInstanceAs (Decidable (_ ∧ _))

namespace DecisionInbox

def statusOf (decisionId : String) (engine : DecisionEngine) : Option DecisionStatus :=
  (engine.getDecision decisionId).map Decision.status

/-- A call on a decision succeeds exactly when the decision is unresolved. -/
def Answered (engine : DecisionEngine) (call : DecisionCall) : Prop :=
  ∀ decision, engine.getDecision call.decisionId = some decision →
    ((perform engine none call).2.success = true ↔ Unresolved decision.status)

def Resolved (status : Option DecisionStatus) : Prop :=
  ∃ resolved, status = some resolved ∧ ¬Unresolved resolved

/-- No approval or rejection meets a decision that waits elsewhere than in the inbox,
and no escalation or cancellation meets a resolved one. -/
def Permitted (engine : DecisionEngine) (call : DecisionCall) : Prop :=
  ∀ decision, engine.getDecision call.decisionId = some decision →
    match call with
    | .approve _ _ _ _ _ | .reject _ _ _ =>
      decision.status ≠ .escalated ∧ decision.status ≠ .deferred ∧ decision.status ≠ .awaitingInfo
    | .escalate _ _ _ | .cancel _ _ _ => Unresolved decision.status

variable {engine : DecisionEngine} {call : DecisionCall}

theorem perform_cases (engine : DecisionEngine) (call : DecisionCall) :
    ((perform engine none call).2.success = false ∧ step engine call = engine) ∨
      ((perform engine none call).2.success = true ∧
        ∃ recorded : Decision, recorded.id = call.decisionId ∧
          step engine call = (engine.record recorded none).1) := by
  rw [step]
  cases call with
  | approve decisionId selectedOption rationale approvedBy now =>
    rw [perform, decisionApprove]
    cases found : engine.getDecision decisionId with
    | none => exact .inl ⟨rfl, rfl⟩
    | some decision =>
      have unruled := (enforce_requirement engine.policyEngine
        (DecisionEngine.resolve now decision selectedOption rationale (some approvedBy))).1
      have made := unruled.id.trans (engine.decisionHistory.keyed _ decision found)
      dsimp only
      split
      · exact .inl ⟨rfl, rfl⟩
      · exact .inr ⟨rfl, _, made, rfl⟩
  | reject decisionId reason now =>
    rw [perform, decisionReject]
    cases found : engine.getDecision decisionId with
    | none => exact .inl ⟨rfl, rfl⟩
    | some decision =>
      dsimp only
      split
      · exact .inl ⟨rfl, rfl⟩
      · refine .inr ⟨rfl, _, ?_, rfl⟩
        exact engine.decisionHistory.keyed _ decision found
  | escalate decisionId note now =>
    rw [perform, decisionEscalate]
    cases found : engine.getDecision decisionId with
    | none => exact .inl ⟨rfl, rfl⟩
    | some decision =>
      refine .inr ⟨rfl, _, ?_, rfl⟩
      exact engine.decisionHistory.keyed _ decision found
  | cancel decisionId reason now =>
    rw [perform, decisionCancel]
    cases found : engine.getDecision decisionId with
    | none => exact .inl ⟨rfl, rfl⟩
    | some decision =>
      refine .inr ⟨rfl, _, ?_, rfl⟩
      exact engine.decisionHistory.keyed _ decision found

theorem status_frame (engine : DecisionEngine) (call : DecisionCall) (id : String)
    (other : id ≠ call.decisionId) :
    statusOf id (step engine call) = statusOf id engine := by
  rcases perform_cases engine call with ⟨_, same⟩ | ⟨_, recorded, on, same⟩
  · rw [same]
  · have found : (step engine call).getDecision id = engine.getDecision id := by
      rw [same]
      refine (DecisionHistory.get_record _ _ _).trans (if_neg ?_)
      rw [on]
      exact other
    rw [statusOf, found, statusOf]

theorem success_unless_resolved (engine : DecisionEngine) (decision : Decision)
    {answered : DecisionEngine × FacadeResult} (succeeds : answered.2.success = true) :
    (if alreadyResolved decision = true then refusedAsResolved engine decision
      else answered).2.success = !alreadyResolved decision := by
  split
  next resolved =>
    rw [resolved]
    rfl
  next waiting =>
    rw [Bool.eq_false_iff.mpr waiting]
    exact succeeds

theorem approve_success (decision : Decision) (decisionId selectedOption rationale
    approvedBy : String) (now : Int) (found : engine.getDecision decisionId = some decision) :
    (perform engine none (.approve decisionId selectedOption rationale approvedBy
      now)).2.success = !alreadyResolved decision := by
  rw [perform, decisionApprove, found]
  exact success_unless_resolved engine decision rfl

theorem reject_success (decision : Decision) (decisionId reason : String) (now : Int)
    (found : engine.getDecision decisionId = some decision) :
    (perform engine none (.reject decisionId reason now)).2.success =
      !alreadyResolved decision := by
  rw [perform, decisionReject, found]
  exact success_unless_resolved engine decision rfl

theorem inbox_iff (decision : Decision) :
    ((!alreadyResolved decision) = true ↔ Unresolved decision.status) ↔
      decision.status ≠ .escalated ∧ decision.status ≠ .deferred ∧
        decision.status ≠ .awaitingInfo := by
  rw [alreadyResolved]
  cases decision.status <;> decide

theorem answered_iff (engine : DecisionEngine) (call : DecisionCall) :
    Answered engine call ↔ Permitted engine call := by
  apply forall_congr'
  intro decision
  apply imp_congr_right
  intro found
  cases call with
  | approve decisionId selectedOption rationale approvedBy now =>
    rw [approve_success decision decisionId selectedOption rationale approvedBy now found]
    exact inbox_iff decision
  | reject decisionId reason now =>
    rw [reject_success decision decisionId reason now found]
    exact inbox_iff decision
  | escalate decisionId note now =>
    have success : (perform engine none (.escalate decisionId note now)).2.success = true := by
      rw [perform, decisionEscalate, show engine.getDecision decisionId = _ from found]
      rfl
    exact iff_true_left success
  | cancel decisionId reason now =>
    have success : (perform engine none (.cancel decisionId reason now)).2.success = true := by
      rw [perform, decisionCancel, show engine.getDecision decisionId = _ from found]
      rfl
    exact iff_true_left success

theorem keeps_settled (id : String) (answered : Answered engine call) :
    KeepsSettled step (statusOf id) Resolved engine call := by
  rintro ⟨resolved, status, final⟩
  by_cases on : id = call.decisionId
  · rw [on, statusOf] at status
    cases found : engine.getDecision call.decisionId with
    | none =>
      rw [found] at status
      cases status
    | some decision =>
      rw [found] at status
      cases status
      rcases perform_cases engine call with ⟨_, same⟩ | ⟨success, _⟩
      · rw [same]
      · exact absurd ((answered decision found).mp success) final
  · exact status_frame engine call id on

/-- Every call of a run succeeds exactly on an unresolved decision, and a resolved status
is final, exactly if every call is permitted where it comes. -/
theorem resolved_decisions_final_iff (engine : DecisionEngine) (calls : List DecisionCall) :
    ((∀ early call late, calls = early ++ call :: late →
        Answered (runInputs step engine early) call) ∧
      ∀ id early middle late, calls = early ++ (middle ++ late) →
        Resolved (statusOf id (runInputs step engine early)) →
        statusOf id (runInputs step engine (early ++ middle)) =
          statusOf id (runInputs step engine early)) ↔
      StepsMeet step Permitted engine calls := by
  have same : StepsMeet step Answered engine calls ↔ StepsMeet step Permitted engine calls :=
    steps_meet_congr step (fun _ => True) (fun _ _ _ => trivial)
      (fun engine call _ => answered_iff engine call) engine calls trivial
  rw [← steps_meet_iff, same]
  constructor
  · intro both
    exact both.1
  · intro permitted
    refine ⟨permitted, ?_⟩
    intro id
    rw [settled_throughout_iff]
    exact (same.mpr permitted).mono step (fun engine call => keeps_settled id) engine calls

/-- An escalated decision is not approved any more, and an approved one is cancelled. -/
theorem approved_decision_is_cancelled :
    let engine : DecisionEngine :=
      { policyEngine := PolicyEngine.empty
        decisionHistory := DecisionHistory.empty.record (Decision.created "d1") }
    let approve : DecisionCall := .approve "d1" "option" "routine" "operator" 0
    let escalated := step engine (.escalate "d1" "second opinion" 0)
    let approved := step engine approve
    let cancelled := step approved (.cancel "d1" "mistake" 1)
    statusOf "d1" escalated = some .escalated ∧ ¬Answered escalated approve ∧
      statusOf "d1" approved = some .approved ∧ Resolved (statusOf "d1" approved) ∧
      statusOf "d1" cancelled = some .cancelled := by
  intro engine approve escalated approved cancelled
  have waiting : statusOf "d1" escalated = some .escalated := by decide +kernel
  have settled : statusOf "d1" approved = some .approved := by decide +kernel
  have refused : (perform escalated none approve).2.success = false := by decide +kernel
  refine ⟨waiting, ?_, settled, ⟨.approved, settled, by decide⟩, by decide +kernel⟩
  intro answered
  obtain ⟨decision, found, status⟩ := Option.map_eq_some_iff.mp waiting
  have success := (answered decision found).mpr (by rw [status]; decide)
  rw [refused] at success
  cases success

end DecisionInbox

end AiEnterpriseOs.Services
