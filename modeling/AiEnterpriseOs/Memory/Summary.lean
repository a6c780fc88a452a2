import AiEnterpriseOs.Memory.Models
import AiEnterpriseOs.PyValue

/-!
# Memory summarizer

The text generated for one entry, over the text that `str` gives for a value
and for a whole content.
-/

namespace AiEnterpriseOs.Memory

open Library

section Summary

variable (text : PyValue → String) (contentText : OrderedDict String PyValue → String)

/-- `text[:limit]`. -/
def clip (limit : Nat) (text : String) : String :=
  String.ofList (text.toList.take limit)

/-- The parts that the summary takes from the content, in their order. -/
def summaryParts (content : OrderedDict String PyValue) : List String :=
  let part (key : String) (show_ : String → String) : List String :=
    ((content.get? key).map fun value => show_ (text value)).toList
  part "title" id ++ part "name" id ++ part "description" (clip 200) ++
    part "action" id ++ part "text" (clip 300) ++
    part "decision" (fun decision => "Decision: " ++ decision) ++
    part "result" (clip 200)

/-- Generate a summary for a single memory entry. -/
def summarize (entry : MemoryEntry PyValue) : String :=
  let found := summaryParts text entry.content
  let parts := if found.isEmpty then [clip 200 (contentText entry.content)] else found
  let summary := " | ".intercalate parts
  let prefixed := "[" ++ entry.memoryNamespace.value ++ "] [" ++
    entry.memoryType.value ++ "] " ++ summary
  if entry.tags.isEmpty then prefixed
  else prefixed ++ " (#" ++ " #".intercalate entry.tags ++ ")"

end Summary

/-- Surroundings for contents that `str` shows as they are: text values, or
no content at all. -/
def textEnv : MemoryEnv PyValue where
  jsonRoundTrip := some
  decodedStable _ _ _ := rfl
  equal := PyValue.equal
  noneValue := .none
  summarize entry := some (summarize (fun value => match value with
      | .str text => text
      | _ => "")
    (fun _ => "\x7b\x7d") entry)
  relevance _ _ := 0
  secondText now := toString (now / 1000000)

end AiEnterpriseOs.Memory
