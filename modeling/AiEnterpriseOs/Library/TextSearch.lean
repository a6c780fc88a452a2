import AiEnterpriseOs.Library.TextLines
import Mathlib.Data.List.DropRight
import Mathlib.Data.List.Infix
import Mathlib.Data.List.TakeWhile

/-!
# Searching a text

A text cut at the first occurrence of another one, and texts without certain
characters at their ends.
-/

namespace AiEnterpriseOs.Library

namespace TextSearch

/-! ## The first occurrence -/

/-- `text.partition(wanted)`, what stands before and after the first occurrence;
`none` where there is none. -/
def cut (wanted : List Char) : List Char → Option (List Char × List Char)
  | [] => none
  | char :: rest =>
    if wanted.isPrefixOf (char :: rest) then
      some ([], (char :: rest).drop wanted.length)
    else (cut wanted rest).map fun parts => (char :: parts.1, parts.2)

section

variable {first : Char} {others : List Char}

theorem cut_here (first : Char) (others rest : List Char) :
    cut (first :: others) (first :: others ++ rest) = some ([], rest) := by
  rw [List.cons_append, cut, if_pos]
  · rw [← List.cons_append, List.drop_left]
  · rw [← List.cons_append, List.isPrefixOf_iff_prefix]
    exact List.prefix_append _ _

theorem cut_step {char : Char} (apart : char ≠ first) (rest : List Char) :
    cut (first :: others) (char :: rest) =
      (cut (first :: others) rest).map fun parts => (char :: parts.1, parts.2) := by
  rw [cut, if_neg]
  rw [List.isPrefixOf_iff_prefix, List.cons_prefix_cons]
  intro found
  exact apart found.1.symm

theorem cut_skip {before : List Char} (fresh : first ∉ before) (rest : List Char) :
    cut (first :: others) (before ++ rest) =
      (cut (first :: others) rest).map fun parts => (before ++ parts.1, parts.2) := by
  induction before with
  | nil => simp
  | cons char before ih =>
    have apart : char ≠ first := fun same => fresh (same ▸ List.mem_cons_self)
    have later : first ∉ before := fun member => fresh (List.mem_cons_of_mem _ member)
    rw [List.cons_append, cut_step apart, ih later, Option.map_map]
    rfl

theorem cut_after {before : List Char} (fresh : first ∉ before) (rest : List Char) :
    cut (first :: others) (before ++ (first :: others ++ rest)) = some (before, rest) := by
  rw [cut_skip fresh, cut_here]
  simp

end

/-! ## Both ends -/

section

variable (dropped : Char → Bool)

/-- `text.strip(characters)`. -/
def trim (text : List Char) : List Char := (text.dropWhile dropped).rdropWhile dropped

variable {dropped}

theorem trim_front {char : Char} (drops : dropped char = true) (text : List Char) :
    trim dropped (char :: text) = trim dropped text := by
  rw [trim, trim, List.dropWhile_cons_of_pos drops]

theorem trim_back {char : Char} (drops : dropped char = true) (text : List Char) :
    trim dropped (text ++ [char]) = trim dropped text := by
  induction text with
  | nil => simp [trim, drops]
  | cons head rest ih =>
    by_cases front : dropped head = true
    · rw [List.cons_append, trim_front front, trim_front front, ih]
    · rw [trim, trim, List.cons_append, List.dropWhile_cons_of_neg front,
        List.dropWhile_cons_of_neg front, ← List.cons_append,
        List.rdropWhile_concat_pos _ _ _ drops]

theorem trim_between {text : List Char} (front : ∀ char ∈ text.head?, dropped char = false)
    (back : ∀ char ∈ text.getLast?, dropped char = false) : trim dropped text = text := by
  have atFront : text.dropWhile dropped = text := by
    cases text with
    | nil => rfl
    | cons head rest =>
      rw [List.dropWhile_cons_of_neg]
      rw [front head rfl]
      exact Bool.false_ne_true
  have atBack : text.rdropWhile dropped = text := by
    cases text using List.reverseRecOn with
    | nil => rfl
    | append_singleton rest last =>
      rw [List.rdropWhile_concat_neg]
      rw [back last (by simp)]
      exact Bool.false_ne_true
  rw [trim, atFront, atBack]

end

theorem trim_trim (dropped : Char → Bool) (text : List Char) :
    trim dropped (trim dropped text) = trim dropped text := by
  have front : (trim dropped text).dropWhile dropped = trim dropped text := by
    have whole := List.rdropWhile_prefix dropped (l := text.dropWhile dropped)
    rw [trim]
    cases kept : (text.dropWhile dropped).rdropWhile dropped with
    | nil => rfl
    | cons first rest =>
      rw [kept] at whole
      obtain ⟨tail, parts⟩ := whole
      have stays := List.head?_dropWhile_not dropped text
      rw [← parts] at stays
      rw [List.dropWhile_cons_of_neg]
      simpa using stays
  rw [trim, front, trim, List.rdropWhile_idempotent]

theorem strip_eq_trim (text : List Char) : TextLines.strip text = trim TextLines.isSpace text :=
  rfl

end TextSearch

end AiEnterpriseOs.Library

/-!
## Splitting a text

The part of a text before the first occurrence of a separator.
-/

namespace AiEnterpriseOs.Library

namespace TextSplit

/-- `text.split(separator, 1)[0]` for a separator of one character. -/
def firstPart (separator : Char) (text : List Char) : List Char :=
  text.takeWhile fun char => char ≠ separator

theorem separator_not_mem_first_part (separator : Char) (text : List Char) :
    separator ∉ firstPart separator text := by
  intro member
  have other := List.mem_takeWhile_imp member
  simp at other

theorem first_part_eq_iff {separator : Char} {part : List Char} (absent : separator ∉ part)
    (text : List Char) :
    firstPart separator text = part ↔ text = part ∨ ∃ rest, text = part ++ separator :: rest := by
  induction part generalizing text with
  | nil =>
    cases text with
    | nil => simp [firstPart]
    | cons char rest =>
      by_cases same : char = separator
      · simp [firstPart, same]
      · simp [firstPart, same]
  | cons head part ih =>
    have tail : separator ∉ part := fun member => absent (List.mem_cons_of_mem _ member)
    have differs : head ≠ separator := by
      intro same
      apply absent
      rw [same]
      exact List.mem_cons_self
    cases text with
    | nil => simp [firstPart]
    | cons char rest =>
      by_cases same : char = head
      · have step : firstPart separator (char :: rest) = char :: firstPart separator rest := by
          rw [firstPart, List.takeWhile_cons_of_pos (by simp [same, differs]), firstPart]
        rw [step, same]
        simp only [List.cons_append, List.cons.injEq, true_and]
        exact ih tail rest
      · have other : firstPart separator (char :: rest) ≠ head :: part := by
          rw [firstPart, List.takeWhile_cons]
          split <;> simp [same]
        refine iff_of_false other ?_
        simp [same]

end TextSplit

end AiEnterpriseOs.Library

/-!
## Slugs

A slug keeps some characters of a text and puts one hyphen for each run of others,
none at the ends.
-/

namespace AiEnterpriseOs.Library

/-- The characters that are kept, with one hyphen for each run of others; the flag tells
that the last one was a hyphen for such a run. -/
def hyphenate (keep : Char → Bool) : Bool → List Char → List Char
  | _, [] => []
  | separated, char :: rest =>
    if keep char then char :: hyphenate keep false rest
    else if separated then hyphenate keep true rest
    else '-' :: hyphenate keep true rest

def stripHyphens (text : List Char) : List Char :=
  (text.dropWhile (· = '-')).rdropWhile (· = '-')

def slug (keep : Char → Bool) (text : List Char) : List Char :=
  stripHyphens (hyphenate keep false text)

example : slug Char.isAlphanum " r&d -- (labs) ".toList = "r-d-labs".toList := by decide +kernel

end AiEnterpriseOs.Library
