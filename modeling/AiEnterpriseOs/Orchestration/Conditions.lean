import AiEnterpriseOs.Library.TextSearch
import AiEnterpriseOs.PyValue
import Mathlib.Algebra.Order.Ring.Rat

/-!
# The condition language

A condition is cut at the first operator found in it, in a fixed order of the
operators, and the text after the operator is read as a value. The members of a
list are texts.
-/

namespace AiEnterpriseOs.Orchestration.Conditions

open Library

inductive FloatNumber where
  | finite (value : Rat)
  | infinite (negative : Bool)
  | nan

/-- `float(text)`, `text.isdigit()` and `int(text)` of such a text; `none` where
they raise. -/
structure NumberReader where
  float : List Char → Option FloatNumber
  isdigit : List Char → Bool
  int : List Char → Option Nat

/-- A value to compare with. -/
inductive Operand where
  | value (value : PyValue)
  | infinite (negative : Bool)
  | nan

/-- Lower case, as far as the words below need it: no other character has one of
their letters as its lower case. -/
def lower (text : List Char) : List Char := text.map Char.toLower

def isQuote (char : Char) : Bool := char = '\'' || char = '"'

def stripQuotes (text : List Char) : List Char := TextSearch.trim isQuote text

section

variable (numbers : NumberReader)

/-- `_resolve_path` from a value on, `none` where it raises. -/
def resolveParts : List (List Char) → PyValue → Option PyValue
  | [], value => some value
  | part :: rest, value =>
    match value with
    | .dict items =>
      resolveParts rest ((PyValue.field items (String.ofList part)).getD .none)
    | .list items =>
      if numbers.isdigit part then
        (numbers.int part).bind fun index => resolveParts rest (items[index]?.getD .none)
      else some .none
    | _ => some .none

def resolvePath (path : List Char) (data : List (String × PyValue)) : Option PyValue :=
  resolveParts numbers (path.splitOn '.') (.dict data)

def wordValues : List (List Char × PyValue) :=
  [ ("true".toList, .bool true), ("false".toList, .bool false), ("yes".toList, .bool true),
    ("no".toList, .bool false),
    ("null".toList, .none),
    ("none".toList, .none) ]

/-- The value that a text without its quotes is read as. -/
def reading (right : List Char) : Operand :=
  match wordValues.find? fun word => word.1 == lower right with
  | some word => .value word.2
  | none =>
    match numbers.float right with
    | none => .value (.str (String.ofList right))
    | some (.finite number) =>
      .value (if number.den = 1 then .int number.num else .float number)
    | some (.infinite negative) => .infinite negative
    | some .nan => .nan

end

namespace Operand

/-- `left == right`. -/
def equals (left : PyValue) : Operand → Bool
  | .value right => left.equal right
  | .infinite _ => false
  | .nan => false

/-- How a value compares, `none` where this raises or no order holds. -/
def order (left : PyValue) : Operand → Option Ordering
  | .value right =>
    match left, right with
    | .str left, .str right =>
      some (if left < right then .lt else if left = right then .eq else .gt)
    | left, right =>
      match left.number?, right.number? with
      | some left, some right =>
        some (if left < right then .lt else if left = right then .eq else .gt)
      | _, _ => none
  | .infinite negative => left.number?.map fun _ => if negative then .gt else .lt
  | .nan => none

end Operand

inductive Comparison where
  | eq
  | ne
  | ge
  | le
  | gt
  | lt

namespace Comparison

def text : Comparison → List Char
  | eq => ['=', '=']
  | ne => ['!', '=']
  | ge => ['>', '=']
  | le => ['<', '=']
  | gt => ['>']
  | lt => ['<']

/-- The operators in the order in which they are looked for. -/
def all : List Comparison := [eq, ne, ge, le, gt, lt]

def holds (left : PyValue) (right : Operand) : Comparison → Bool
  | eq => right.equals left
  | ne => !right.equals left
  | ge => (right.order left).any fun order => order != .lt
  | le => (right.order left).any fun order => order != .gt
  | gt => (right.order left).any fun order => order == .gt
  | lt => (right.order left).any fun order => order == .lt

end Comparison

def trueWords : List (List Char) := ["true".toList, "yes".toList, "on".toList]

def falseWords : List (List Char) := ["false".toList, "no".toList, "off".toList]

/-- `" in ["`. -/
def inText : List Char := [' ', 'i', 'n', ' ', '[']

section

variable (numbers : NumberReader)

/-- The members of the list after `" in ["`. -/
def memberTexts (tail : List Char) : List (List Char) :=
  (tail.dropLast.splitOn ',').map fun member =>
    TextLines.strip (stripQuotes (TextLines.strip member))

/-- The value at a path with blanks around it. -/
def valueAt (head : List Char) (results : List (String × PyValue)) : Option PyValue :=
  resolvePath numbers (TextLines.strip head) results

/-- The value that a text after an operator is read as. -/
def operand (tail : List Char) : Operand :=
  reading numbers (stripQuotes (TextLines.strip tail))

/-- The comparisons of `evaluate_condition`, and the bare path. -/
def evaluateComparison (expr : List Char) (results : List (String × PyValue)) : Option Bool :=
  let found := Comparison.all.findSome? fun op =>
    (TextSearch.cut op.text expr).map fun parts => (op, parts)
  match found with
  | some (op, head, tail) =>
    (valueAt numbers head results).map fun left => op.holds left (operand numbers tail)
  | none => (resolvePath numbers expr results).map PyValue.truthy

/-- The membership in a list, or what else there is. -/
def evaluateOperator (expr : List Char) (results : List (String × PyValue)) : Option Bool :=
  if expr.getLast? = some ']' then
    match TextSearch.cut inText expr with
    | some (head, tail) =>
      (valueAt numbers head results).map fun value =>
        (memberTexts tail).any fun member => value.equal (.str (String.ofList member))
    | none => evaluateComparison numbers expr results
  else evaluateComparison numbers expr results

/-- `evaluate_condition`, `none` where it raises. -/
def evaluateCondition (expression : Option (List Char)) (results : List (String × PyValue)) :
    Option Bool :=
  match expression with
  | none => some true
  | some expression =>
    let expr := TextLines.strip expression
    if expr.isEmpty then some true
    else if trueWords.any fun word => word == lower expr then some true
    else if falseWords.any fun word => word == lower expr then some false
    else evaluateOperator numbers expr results

end

end AiEnterpriseOs.Orchestration.Conditions
