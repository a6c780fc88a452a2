import Mathlib.Data.List.Basic

/-!
# Detection of missed signals

What a log of signals and checks says of a component: when it was last seen,
and in how many checks in a row it had been silent for too long. The latest
event stands first.
-/

namespace AiEnterpriseOs.Library

namespace MissDetection

inductive Event (Component : Type*) where
  | seen (component : Component) (time : Int)
  | stopped (component : Component)
  | checked (component : Component) (time : Int)
  | reported (component : Component)

namespace Event

variable {Component : Type*}

def component : Event Component → Component
  | seen component _ => component
  | stopped component => component
  | checked component _ => component
  | reported component => component

end Event

variable {Component : Type*} [DecidableEq Component]

/-- When a component that is still watched was last seen. -/
def lastSeen (component : Component) : List (Event Component) → Option Int
  | [] => none
  | .seen other time :: past => if other = component then some time else lastSeen component past
  | .stopped other :: past => if other = component then none else lastSeen component past
  | .checked _ _ :: past => lastSeen component past
  | .reported _ :: past => lastSeen component past

def Silent (timeout : Int) (component : Component) (now : Int)
    (log : List (Event Component)) : Prop :=
  ∃ time, lastSeen component log = some time ∧ timeout < max 0 (now - time)

instance (timeout : Int) (component : Component) (now : Int) (log : List (Event Component)) :
    Decidable (Silent timeout component now log) :=
  match seen : lastSeen component log with
  | none => .isFalse (by simp [Silent, seen])
  | some time => decidable_of_iff (timeout < max 0 (now - time)) (by simp [Silent, seen])

/-- The checks in a row that found the component silent, since it was seen or
reported last. -/
def streak (timeout : Int) (component : Component) : List (Event Component) → Nat
  | [] => 0
  | .checked other now :: past =>
    if other = component then
      if Silent timeout component now past then streak timeout component past + 1 else 0
    else streak timeout component past
  | .seen other _ :: past => if other = component then 0 else streak timeout component past
  | .stopped other :: past => if other = component then 0 else streak timeout component past
  | .reported other :: past => if other = component then 0 else streak timeout component past

theorem last_seen_other {component : Component} {event : Event Component}
    (different : event.component ≠ component) (log : List (Event Component)) :
    lastSeen component (event :: log) = lastSeen component log := by
  cases event with
  | seen other time => exact if_neg different
  | stopped other => exact if_neg different
  | checked other time => rfl
  | reported other => rfl

theorem streak_other (timeout : Int) {component : Component} {event : Event Component}
    (different : event.component ≠ component) (log : List (Event Component)) :
    streak timeout component (event :: log) = streak timeout component log := by
  cases event with
  | seen other time => exact if_neg different
  | stopped other => exact if_neg different
  | checked other time => exact if_neg different
  | reported other => exact if_neg different

variable (timeout : Int) (component : Component) (log : List (Event Component))

@[simp] theorem last_seen_seen (time : Int) :
    lastSeen component (.seen component time :: log) = some time := if_pos rfl

@[simp] theorem last_seen_stopped :
    lastSeen component (.stopped component :: log) = none := if_pos rfl

@[simp] theorem last_seen_checked (other : Component) (now : Int) :
    lastSeen component (.checked other now :: log) = lastSeen component log := rfl

@[simp] theorem last_seen_reported (other : Component) :
    lastSeen component (.reported other :: log) = lastSeen component log := rfl

@[simp] theorem streak_seen (time : Int) :
    streak timeout component (.seen component time :: log) = 0 := if_pos rfl

@[simp] theorem streak_reported :
    streak timeout component (.reported component :: log) = 0 := if_pos rfl

@[simp] theorem streak_checked (now : Int) :
    streak timeout component (.checked component now :: log) =
      if Silent timeout component now log then streak timeout component log + 1 else 0 :=
  if_pos rfl

end MissDetection

end AiEnterpriseOs.Library
