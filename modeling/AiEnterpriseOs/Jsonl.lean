import AiEnterpriseOs.Library.TextLines
import AiEnterpriseOs.Library.Utf8
import AiEnterpriseOs.PyValue

/-!
# JSONL files

A file is its bytes; a missing file has none. Reading a file as text decodes
it strictly and cuts it at universal newlines, blank lines and lines that are
no JSON are skipped.
-/

namespace AiEnterpriseOs

open Library Library.TextLines

abbrev Bytes := List UInt8

/-- What `json.loads` makes of a line: a value, a `JSONDecodeError`, or
another exception, which the readers let through. -/
inductive JsonText where
  | value (value : PyValue)
  | corrupt
  | fails

section Readers

variable (loads : List Char → JsonText)

/-- The values of stripped lines; `none` when an exception gets through. -/
def loadLines : List (List Char) → Option (List PyValue)
  | [] => some []
  | line :: rest =>
    match loads line with
    | .value value => (loadLines rest).map fun values => value :: values
    | .corrupt => loadLines rest
    | .fails => none

/-- The records of a text opened with universal newlines. -/
def textRecords (text : List Char) : Option (List PyValue) :=
  loadLines loads (fields universalNewline text)

/-- `_read_jsonl(path)`. -/
def readJsonl : Option Bytes → Option (List PyValue)
  | none => some []
  | some bytes => (Utf8.decode bytes).bind (textRecords loads)

theorem load_lines_append (first second : List (List Char)) : loadLines loads (first ++ second) =
      (loadLines loads first).bind fun values =>
        (loadLines loads second).map fun others => values ++ others := by
  induction first with
  | nil =>
    cases found : loadLines loads second <;> simp [loadLines, found]
  | cons line rest ih =>
    rw [List.cons_append, loadLines, loadLines]
    cases loads line with
    | value value =>
      rw [ih]
      cases loadLines loads rest <;> cases loadLines loads second <;> rfl
    | corrupt => exact ih
    | fails => rfl

end Readers

namespace PyValue

/-- `value.get(key)`; `none` for the exception on a value that is no dictionary. -/
def get? (value : PyValue) (key : String) (fallback : PyValue := none) :
    Option PyValue :=
  match value with
  | dict items => some ((field items key).getD fallback)
  | _ => Option.none

/-- `left or right`. -/
def orElse (left right : PyValue) : PyValue :=
  if left.truthy then left else right

end PyValue

end AiEnterpriseOs
