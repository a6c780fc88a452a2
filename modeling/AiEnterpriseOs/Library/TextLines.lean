import Mathlib.Data.List.Basic
import Mathlib.Data.List.DropRight

/-!
# Lines of a text

Two ways to cut a text into lines differ in the characters that end one. What
matters to a reader of records are the lines that are not blank, without the
spaces around them.
-/

namespace AiEnterpriseOs.Library

namespace TextLines

/-- `char.isspace()`. -/
def isSpace (char : Char) : Bool :=
  let code := char.toNat
  (0x09 ≤ code && code ≤ 0x0D) || (0x1C ≤ code && code ≤ 0x20) || code = 0x85 ||
    code = 0xA0 || code = 0x1680 || (0x2000 ≤ code && code ≤ 0x200A) ||
    code = 0x2028 || code = 0x2029 || code = 0x202F || code = 0x205F || code = 0x3000

def strip (text : List Char) : List Char :=
  (text.dropWhile isSpace).rdropWhile isSpace

/-- Line ends of a file opened as text. -/
def universalNewline (char : Char) : Bool :=
  char = '\n' || char = '\r'

/-- Line ends of `str.splitlines`. -/
def splitlinesEnd (char : Char) : Bool :=
  let code := char.toNat
  (0x0A ≤ code && code ≤ 0x0D) || (0x1C ≤ code && code ≤ 0x1E) || code = 0x85 ||
    code = 0x2028 || code = 0x2029

section

variable (isEnd : Char → Bool)

/-- The lines of a text, without their ends; `\r\n` is one end. -/
def cutLines : List Char → List (List Char)
  | [] => []
  | '\r' :: '\n' :: rest => [] :: cutLines rest
  | char :: rest =>
    if isEnd char then [] :: cutLines rest
    else
      match cutLines rest with
      | [] => [[char]]
      | line :: lines => (char :: line) :: lines

def nonBlank (lines : List (List Char)) : List (List Char) :=
  (lines.map strip).filter fun line => line ≠ []

/-- The non-blank lines of a text, as a loop that skips blank lines sees them. -/
def fields (text : List Char) : List (List Char) :=
  nonBlank (cutLines isEnd text)

def lastPiece (text : List Char) : List Char :=
  text.rtakeWhile fun char => !isEnd char

def firstPiece (text : List Char) : List Char :=
  text.takeWhile fun char => !isEnd char

end

def Blank (text : List Char) : Prop :=
  ∀ char ∈ text, isSpace char = true

instance (text : List Char) : Decidable (Blank text) :=
  List.decidableBAll (fun char => isSpace char = true) text

section Strip

theorem blank_nil : Blank [] := by
  intro char member
  cases member

theorem strip_blank {text : List Char} (blank : Blank text) : strip text = [] := by
  have dropped : text.dropWhile isSpace = [] :=
    List.dropWhile_eq_nil_iff.mpr blank
  rw [strip, dropped, List.rdropWhile_nil]

theorem strip_blank_append {blank text : List Char} (spaces : Blank blank) :
    strip (blank ++ text) = strip text := by
  induction blank with
  | nil => rfl
  | cons char rest ih =>
    have space : isSpace char = true := spaces char List.mem_cons_self
    have others : Blank rest := fun other member =>
      spaces other (List.mem_cons_of_mem _ member)
    rw [strip, List.cons_append, List.dropWhile_cons_of_pos space]
    exact ih others

theorem rdrop_while_blank {blank text : List Char} (spaces : Blank blank) :
    (text ++ blank).rdropWhile isSpace = text.rdropWhile isSpace := by
  induction blank using List.reverseRecOn with
  | nil => rw [List.append_nil]
  | append_singleton rest char ih =>
    have space : isSpace char = true := spaces char (by simp)
    have others : Blank rest := fun other member =>
      spaces other (List.mem_append_left _ member)
    rw [← List.append_assoc, List.rdropWhile_concat_pos _ _ _ space]
    exact ih others

theorem strip_append_blank {blank text : List Char} (spaces : Blank blank) :
    strip (text ++ blank) = strip text := by
  induction text with
  | nil =>
    rw [List.nil_append, strip_blank spaces, strip_blank blank_nil]
  | cons char rest ih =>
    by_cases space : isSpace char = true
    · rw [strip, strip, List.cons_append, List.dropWhile_cons_of_pos space,
        List.dropWhile_cons_of_pos space]
      exact ih
    · rw [strip, strip, List.cons_append, List.dropWhile_cons_of_neg space,
        List.dropWhile_cons_of_neg space, ← List.cons_append,
        rdrop_while_blank spaces]

theorem strip_of_no_space {text : List Char} (inside : ∀ char ∈ text, isSpace char = false) :
    strip text = text := by
  have front : text.dropWhile isSpace = text := by
    rw [List.dropWhile_eq_self_iff]
    intro nonempty space
    rw [inside _ (List.getElem_mem nonempty)] at space
    cases space
  have back : text.rdropWhile isSpace = text := by
    rw [List.rdropWhile_eq_self_iff]
    intro nonempty space
    rw [inside _ (List.getLast_mem nonempty)] at space
    cases space
  rw [strip, front, back]

end Strip

section NonBlank

theorem non_blank_append (first second : List (List Char)) :
    nonBlank (first ++ second) = nonBlank first ++ nonBlank second := by
  rw [nonBlank, List.map_append, List.filter_append, nonBlank, nonBlank]

theorem non_blank_skip (lines : List (List Char)) : nonBlank ([] :: lines) = nonBlank lines := by
  have empty : strip [] = [] := rfl
  rw [nonBlank, List.map_cons, empty, List.filter_cons_of_neg (by simp), nonBlank]

theorem non_blank_same_strip {first second : List Char} (same : strip first = strip second)
    (lines : List (List Char)) :
    nonBlank (first :: lines) = nonBlank (second :: lines) := by
  rw [nonBlank, nonBlank, List.map_cons, List.map_cons, same]

theorem non_blank_congr {lines pieces : List (List Char)} (nonempty : pieces ≠ [])
    (same : lines.headD [] = pieces.headD [] ∧ nonBlank lines.tail = nonBlank pieces.tail) :
    nonBlank lines = nonBlank pieces := by
  obtain ⟨first, others, rfl⟩ := List.exists_cons_of_ne_nil nonempty
  obtain ⟨head, tail⟩ := same
  cases lines with
  | nil =>
    simp only [List.headD_nil, List.headD_cons] at head
    rw [← head, non_blank_skip]
    exact tail
  | cons line rest =>
    simp only [List.headD_cons, List.tail_cons] at head tail
    rw [head, ← List.singleton_append, non_blank_append, tail, ← non_blank_append]
    rfl

theorem non_blank_joined {front back : List Char} (cut : Blank front ∨ Blank back) :
    nonBlank [front ++ back] = nonBlank [front] ++ nonBlank [back] := by
  have blankLine : ∀ {text : List Char}, Blank text → nonBlank [text] = [] := by
    intro text blank
    rw [nonBlank, List.map_singleton, strip_blank blank, List.filter_cons_of_neg (by simp),
      List.filter_nil]
  cases cut with
  | inl blank =>
    rw [blankLine blank, List.nil_append]
    exact non_blank_same_strip (strip_blank_append blank) []
  | inr blank =>
    rw [blankLine blank, List.append_nil]
    exact non_blank_same_strip (strip_append_blank blank) []

end NonBlank

section Cut

variable {isEnd : Char → Bool}

/-- Cutting differs from splitting at every end only in blank lines. -/
theorem cut_lines_split (newline : isEnd '\n' = true) (carriage : isEnd '\r' = true)
    (text : List Char) :
    (cutLines isEnd text).headD [] = (text.splitOnP isEnd).headD [] ∧
      nonBlank (cutLines isEnd text).tail = nonBlank (text.splitOnP isEnd).tail := by
  fun_induction cutLines isEnd text with
  | case1 => exact ⟨rfl, rfl⟩
  | case2 rest ih =>
    rw [List.splitOnP_cons_eq_if_modifyHead, if_pos carriage,
      List.splitOnP_cons_eq_if_modifyHead, if_pos newline]
    refine ⟨rfl, ?_⟩
    rw [List.tail_cons, List.tail_cons, non_blank_skip]
    exact non_blank_congr (List.splitOnP_ne_nil _ _) ih
  | case3 char rest _ ending ih =>
    rw [List.splitOnP_cons_eq_if_modifyHead, if_pos ending]
    exact ⟨rfl, non_blank_congr (List.splitOnP_ne_nil _ _) ih⟩
  | case4 char rest _ inside noLines ih =>
    rw [List.splitOnP_cons_eq_if_modifyHead, if_neg inside]
    obtain ⟨first, others, split⟩ :=
      List.exists_cons_of_ne_nil (List.splitOnP_ne_nil isEnd rest)
    rw [split, noLines] at ih
    simp only [List.headD_nil, List.headD_cons, List.tail_nil, List.tail_cons] at ih
    rw [split, List.modifyHead_cons, ← ih.1]
    exact ⟨rfl, ih.2⟩
  | case5 char rest _ inside line lines cut ih =>
    rw [List.splitOnP_cons_eq_if_modifyHead, if_neg inside]
    obtain ⟨first, others, split⟩ :=
      List.exists_cons_of_ne_nil (List.splitOnP_ne_nil isEnd rest)
    rw [split, cut] at ih
    simp only [List.headD_cons, List.tail_cons] at ih
    rw [split, List.modifyHead_cons, ← ih.1]
    exact ⟨rfl, ih.2⟩

theorem fields_split (newline : isEnd '\n' = true) (carriage : isEnd '\r' = true)
    (text : List Char) : fields isEnd text = nonBlank (text.splitOnP isEnd) :=
  non_blank_congr (List.splitOnP_ne_nil _ _) (cut_lines_split newline carriage text)

theorem split_at_end (front back : List Char) {char : Char} (ending : isEnd char = true) :
    nonBlank ((front ++ char :: back).splitOnP isEnd) =
      nonBlank (front.splitOnP isEnd) ++ nonBlank (back.splitOnP isEnd) := by
  rw [List.splitOnP_append_cons front back ending, non_blank_append]

theorem split_nil : nonBlank (([] : List Char).splitOnP isEnd) = [] := rfl

theorem split_piece {piece : List Char} (inside : ∀ char ∈ piece, isEnd char = false) :
    nonBlank (piece.splitOnP isEnd) = nonBlank [piece] := by
  rw [List.splitOnP_eq_singleton inside]

theorem split_last_piece (text back : List Char) : nonBlank ((text ++ back).splitOnP isEnd) =
      nonBlank ((text.rdropWhile fun char => !isEnd char).splitOnP isEnd) ++
        nonBlank ((lastPiece isEnd text ++ back).splitOnP isEnd) := by
  have parts := List.rdropWhile_append_rtakeWhile (p := fun char => !isEnd char) (l := text)
  have ends := List.rdropWhile_last_not (fun char => !isEnd char) text
  rw [lastPiece]
  generalize text.rdropWhile (fun char => !isEnd char) = head at parts ends ⊢
  generalize text.rtakeWhile (fun char => !isEnd char) = piece at parts ⊢
  rw [← parts, List.append_assoc]
  cases head using List.reverseRecOn with
  | nil => rfl
  | append_singleton front char =>
    have ending : isEnd char = true := by simpa using ends (by simp)
    rw [List.append_assoc, List.singleton_append, split_at_end _ _ ending,
      split_at_end _ _ ending, split_nil, List.append_nil]

theorem split_first_piece (front text : List Char) : nonBlank ((front ++ text).splitOnP isEnd) =
      nonBlank ((front ++ firstPiece isEnd text).splitOnP isEnd) ++
        nonBlank ((text.dropWhile fun char => !isEnd char).splitOnP isEnd) := by
  have parts := List.takeWhile_append_dropWhile (p := fun char => !isEnd char) (l := text)
  have ends := List.head?_dropWhile_not (fun char => !isEnd char) text
  rw [firstPiece]
  generalize text.dropWhile (fun char => !isEnd char) = tail at parts ends ⊢
  generalize text.takeWhile (fun char => !isEnd char) = piece at parts ⊢
  rw [← parts, ← List.append_assoc]
  cases tail with
  | nil => rw [split_nil, List.append_nil, List.append_nil]
  | cons char rest =>
    have ending : isEnd char = true := by simpa using ends
    have alone := split_at_end [] rest ending
    rw [List.nil_append, split_nil, List.nil_append] at alone
    rw [split_at_end _ _ ending, alone]

/-- A cut that leaves something of a line on one side only loses no line. -/
theorem fields_append (newline : isEnd '\n' = true) (carriage : isEnd '\r' = true)
    {front back : List Char}
    (cut : Blank (lastPiece isEnd front) ∨ Blank (firstPiece isEnd back)) :
    fields isEnd (front ++ back) = fields isEnd front ++ fields isEnd back := by
  have lastInside : ∀ char ∈ lastPiece isEnd front, isEnd char = false := by
    intro char member
    simpa using List.mem_rtakeWhile_imp member
  have firstInside : ∀ char ∈ firstPiece isEnd back, isEnd char = false := by
    intro char member
    simpa using List.mem_takeWhile_imp member
  have joinedInside : ∀ char ∈ lastPiece isEnd front ++ firstPiece isEnd back,
      isEnd char = false := by
    intro char member
    exact (List.mem_append.mp member).elim (lastInside char) (firstInside char)
  have frontParts := @split_last_piece isEnd front []
  have backParts := @split_first_piece isEnd [] back
  rw [List.append_nil, List.append_nil] at frontParts
  rw [List.nil_append, List.nil_append] at backParts
  simp only [fields_split newline carriage]
  rw [split_last_piece, split_first_piece, split_piece joinedInside,
    non_blank_joined cut, frontParts, backParts, split_piece lastInside,
    split_piece firstInside]
  simp only [List.append_assoc]

end Cut

end TextLines

end AiEnterpriseOs.Library

/-!
## Text files

A file holds text, or bytes that are no UTF-8. Reading it as text turns every line end
into a newline; writing it keeps the text as it is.
-/

namespace AiEnterpriseOs.Library

inductive FileContent where
  | text (chars : List Char)
  | binary (bytes : List UInt8)
  deriving DecidableEq

/-- What stands at a path; reading or writing what is no file raises `OSError`. -/
inductive FileState where
  | absent
  | file (content : FileContent)
  | unreadable
  deriving DecidableEq

abbrev Files : Type := String → FileState

/-- The universal newlines of a file opened as text. -/
def newlines : List Char → List Char
  | [] => []
  | '\r' :: '\n' :: rest => '\n' :: newlines rest
  | char :: rest => (if char = '\r' then '\n' else char) :: newlines rest

/-- `read_text(encoding="utf-8")`; `none` where the bytes are no UTF-8. -/
def FileContent.readText : FileContent → Option (List Char)
  | .text chars => some (newlines chars)
  | .binary _ => none

theorem newlines_without_return (text : List Char) : '\r' ∉ newlines text := by
  induction text using newlines.induct with
  | case1 => exact List.not_mem_nil
  | case2 rest ih =>
    rw [newlines, List.mem_cons]
    exact not_or.mpr ⟨by decide, ih⟩
  | case3 char rest other ih =>
    rw [newlines, List.mem_cons]
    · refine not_or.mpr ⟨?_, ih⟩
      split
      · decide
      next different => exact fun same => different same.symm
    · exact other

/-- A text is read as it was written exactly if it has no carriage return. -/
theorem newlines_eq_self_iff (text : List Char) : newlines text = text ↔ '\r' ∉ text := by
  constructor
  · intro same
    rw [← same]
    exact newlines_without_return text
  · intro clean
    induction text with
    | nil => rfl
    | cons char rest ih =>
      obtain ⟨different, later⟩ := not_or.mp (List.mem_cons.not.mp clean)
      rw [newlines, ih later, if_neg fun same => different same.symm]
      intro tail same
      exact absurd same.symm different

end AiEnterpriseOs.Library
