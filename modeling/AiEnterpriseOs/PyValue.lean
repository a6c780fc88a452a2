import Mathlib.Data.Rat.Defs

/-!
# Dynamically typed values

The values that task outputs, rollback parameters, memory contents and
metadata carry. Floating-point numbers are their finite values.
-/

namespace AiEnterpriseOs

inductive PyValue where
  | none
  | bool (value : Bool)
  | int (value : Int)
  | float (value : Rat)
  | str (value : String)
  | list (items : List PyValue)
  | dict (items : List (String × PyValue))
  deriving Inhabited

namespace PyValue

/-- Truth value as `bool(value)` computes it. -/
def truthy : PyValue → Bool
  | none => false
  | bool value => value
  | int value => value != 0
  | float value => value != 0
  | str value => value != ""
  | list items => !items.isEmpty
  | dict items => !items.isEmpty

def orEmptyDict (value : PyValue) : PyValue :=
  if value.truthy then value else dict []

/-- Numeric reading of a value; booleans count as 0 and 1. -/
def number? : PyValue → Option Rat
  | bool value => some (if value then 1 else 0)
  | int value => some value
  | float value => some value
  | _ => Option.none

mutual

/-- Equality as `==` computes it: numbers compare by value across their
types, dictionaries regardless of order. -/
def equal : PyValue → PyValue → Bool
  | none, none => true
  | str left, str right => left == right
  | list left, list right => equalItems left right
  | dict left, dict right =>
    left.length == right.length && equalEntries left right
  | left, right =>
    match left.number?, right.number? with
    | some leftNumber, some rightNumber => leftNumber == rightNumber
    | _, _ => false

def equalItems : List PyValue → List PyValue → Bool
  | [], [] => true
  | left :: leftRest, right :: rightRest =>
    equal left right && equalItems leftRest rightRest
  | _, _ => false

def equalEntries : List (String × PyValue) → List (String × PyValue) → Bool
  | [], _ => true
  | (key, left) :: rest, right =>
    (right.any fun entry => entry.1 == key && equal left entry.2) && equalEntries rest right

end

@[simp] theorem equal_str (left right : String) :
    equal (str left) (str right) = (left == right) := by
  simp [equal]

/-- Value stored under a key of a dictionary value. -/
def field (items : List (String × PyValue)) (key : String) : Option PyValue :=
  (items.find? fun entry => entry.1 == key).map Prod.snd

end PyValue

end AiEnterpriseOs
