import AiEnterpriseOs.Library.OrderedDict
import AiEnterpriseOs.PyValue

/-!
# Decisions

A decision with its audit trail, and the history that records it.
-/

namespace AiEnterpriseOs.Decisions

open Library

inductive DecisionStatus where
  | pending
  | approved
  | rejected
  | escalated
  | deferred
  | cancelled
  | inReview
  | awaitingInfo
  deriving DecidableEq

namespace DecisionStatus

def value : DecisionStatus → String
  | pending => "pending"
  | approved => "approved"
  | rejected => "rejected"
  | escalated => "escalated"
  | deferred => "deferred"
  | cancelled => "cancelled"
  | inReview => "in_review"
  | awaitingInfo => "awaiting_info"

end DecisionStatus

inductive DecisionPriority where
  | low
  | medium
  | high
  | critical
  | emergency
  deriving DecidableEq

def DecisionPriority.value : DecisionPriority → Rat
  | low => 1
  | medium => 2
  | high => 3
  | critical => 4
  | emergency => 5

inductive DecisionCategory where
  | strategic
  | operational
  | financial
  | technical
  | hr
  | compliance
  | governance
  | risk
  | other
  deriving DecidableEq

def DecisionCategory.value : DecisionCategory → String
  | strategic => "strategic"
  | operational => "operational"
  | financial => "financial"
  | technical => "technical"
  | hr => "hr"
  | compliance => "compliance"
  | governance => "governance"
  | risk => "risk"
  | other => "other"

structure Decision where
  id : String
  title : String
  description : String
  category : DecisionCategory
  priority : DecisionPriority
  status : DecisionStatus
  requester : String
  owner : String
  stakeholders : List String
  options : List PyValue
  selectedOption : Option String
  rationale : Option String
  riskScore : Option Rat
  riskFactors : List String
  approvalRequired : Bool
  approvedBy : Option String
  escalationPath : List String
  tags : List String
  createdAt : Int
  updatedAt : Option Int
  resolvedAt : Option Int
  metadata : OrderedDict String PyValue
  context : OrderedDict String PyValue
  constraints : List String
  dependents : List String

/-- A new decision, as its class fills it in. -/
def Decision.created (id : String) : Decision :=
  { id := id
    title := ""
    description := ""
    category := .other
    priority := .medium
    status := .pending
    requester := ""
    owner := ""
    stakeholders := []
    options := []
    selectedOption := none
    rationale := none
    riskScore := none
    riskFactors := []
    approvalRequired := true
    approvedBy := none
    escalationPath := []
    tags := []
    createdAt := 0
    updatedAt := none
    resolvedAt := none
    metadata := OrderedDict.empty
    context := OrderedDict.empty
    constraints := []
    dependents := [] }

/-- The decisions by their ids, and every state recorded of them. -/
structure DecisionHistory where
  decisions : OrderedDict String Decision
  history : List Decision
  keyed : ∀ id decision, decisions.get? id = some decision → decision.id = id

namespace DecisionHistory

def empty : DecisionHistory :=
  { decisions := OrderedDict.empty
    history := []
    keyed := by
      intro id decision found
      cases found }

def get (history : DecisionHistory) (decisionId : String) : Option Decision :=
  history.decisions.get? decisionId

/-- The part of `record` before the file is written. -/
def record (history : DecisionHistory) (decision : Decision) : DecisionHistory where
  decisions := history.decisions.set decision.id decision
  history := history.history ++ [decision]
  keyed := by
    intro id other found
    rw [OrderedDict.get_set] at found
    split at found
    next same =>
      cases found
      exact same.symm
    next => exact history.keyed id other found

theorem get_record (history : DecisionHistory) (decision : Decision) (id : String) :
    (history.record decision).get id =
      if id = decision.id then some decision else history.get id :=
  OrderedDict.get_set _ _ _ _

end DecisionHistory

end AiEnterpriseOs.Decisions
