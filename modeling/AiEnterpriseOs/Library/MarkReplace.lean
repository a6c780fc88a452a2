import Mathlib.Data.List.Infix

/-!
# Replacing the marks of a text

A text is spelled by tokens, some of which are marks. Replacing a mark works on
the spelling and does what is meant just where the mark is met as a token.
-/

namespace AiEnterpriseOs.Library.MarkReplace

section

variable {Symbol : Type} {old : List Symbol}

def Unmet (old front back : List Symbol) : Prop :=
  ∀ start < front.length, ¬ old <+: front.drop start ++ back

theorem unmet_cons (symbol : Symbol) (front back : List Symbol) :
    Unmet old (symbol :: front) back ↔ ¬ old <+: symbol :: (front ++ back) ∧ Unmet old front back := by
  constructor
  · intro unmet
    exact ⟨unmet 0 (by simp), fun start inside => unmet (start + 1) (by simpa using inside)⟩
  · rintro ⟨here, later⟩ start inside
    cases start with
    | zero => exact here
    | succ start => exact later start (by simpa using inside)

variable [DecidableEq Symbol]

/-- The pieces between the occurrences of a text, which is looked for from the
left; the first argument counts what is left of the occurrence that was met. -/
def cutAt (old : List Symbol) : Nat → List Symbol → List (List Symbol)
  | _, [] => [[]]
  | left + 1, _ :: rest => cutAt old left rest
  | 0, symbol :: rest =>
    if old <+: symbol :: rest then [] :: cutAt old (old.length - 1) rest
    else (cutAt old 0 rest).modifyHead (symbol :: ·)

/-- `text.replace(old, new)` for an `old` that is not empty. -/
def replace (old new text : List Symbol) : List Symbol :=
  List.intercalate new (cutAt old 0 text)

theorem cut_at_ne_nil (left : Nat) (text : List Symbol) : cutAt old left text ≠ [] := by
  induction text generalizing left with
  | nil => simp [cutAt]
  | cons symbol rest induction =>
    cases left with
    | zero =>
      rw [cutAt]
      split
      · simp
      · simpa using induction 0
    | succ left => exact induction left

theorem cut_at_unmet {front back : List Symbol} (unmet : Unmet old front back) :
    cutAt old 0 (front ++ back) = (cutAt old 0 back).modifyHead (front ++ ·) := by
  induction front with
  | nil => cases equal : cutAt old 0 back <;> simp [equal]
  | cons symbol front induction =>
    obtain ⟨here, later⟩ := (unmet_cons symbol front back).mp unmet
    rw [List.cons_append, cutAt, if_neg here, induction later, List.modifyHead_modifyHead]
    rfl

theorem cut_at_skip (front back : List Symbol) :
    cutAt old front.length (front ++ back) = cutAt old 0 back := by
  induction front with
  | nil => rfl
  | cons symbol front induction => exact induction

theorem cut_at_met (nonempty : old ≠ []) (back : List Symbol) :
    cutAt old 0 (old ++ back) = [] :: cutAt old 0 back := by
  obtain ⟨first, others, rfl⟩ := List.exists_cons_of_ne_nil nonempty
  rw [List.cons_append, cutAt, 
    if_pos (List.cons_append ▸ List.prefix_append (first :: others) back)]
  exact congrArg _ (cut_at_skip others back)

/-- No occurrence starts in what the first piece begins with. -/
theorem unmet_of_cut_at {front back first : List Symbol} {others : List (List Symbol)}
    (cuts : cutAt old 0 (front ++ back) = first :: others) (long : front.length ≤ first.length) :
    Unmet old front back := by
  induction front generalizing first others with
  | nil => intro start inside; simp at inside
  | cons symbol front induction =>
    rw [List.cons_append, cutAt] at cuts
    split at cuts
    · rw [← (List.cons.inj cuts).1] at long
      simp at long
    · next here =>
      obtain ⟨later, pieces, equal⟩ := List.exists_cons_of_ne_nil (cut_at_ne_nil 0 (front ++ back))
      rw [equal, List.modifyHead_cons] at cuts
      rw [← (List.cons.inj cuts).1] at long
      exact (unmet_cons symbol front back).mpr ⟨here, induction equal (by simpa using long)⟩

theorem replace_self (nonempty : old ≠ []) (new : List Symbol) : replace old new old = new := by
  have cuts := cut_at_met nonempty []
  rw [List.append_nil] at cuts
  rw [replace, cuts]
  simp [cutAt, List.intercalate]

theorem replace_of_absent {text : List Symbol} (absent : ¬ old <:+: text) (new : List Symbol) :
    replace old new text = text := by
  have unmet : Unmet old text [] := by
    intro start _ met
    rw [List.append_nil] at met
    exact absent (met.isInfix.trans (List.drop_suffix start text).isInfix)
  have cuts := cut_at_unmet unmet
  rw [List.append_nil] at cuts
  rw [replace, cuts]
  simp [cutAt, List.intercalate]

end

section

variable {Token Symbol : Type} [DecidableEq Token] (spell : Token → List Symbol) (mark : Token)

def textOf (tokens : List Token) : List Symbol := tokens.flatMap spell

/-- From the left, the spelling of the mark is met only where the mark stands. -/
def MetAlone : List Token → Prop
  | [] => True
  | token :: rest =>
    (token ≠ mark → Unmet (spell mark) (spell token) (textOf spell rest)) ∧ MetAlone rest

def fill (value : List Token) (tokens : List Token) : List Token :=
  tokens.flatMap fun token => if token = mark then value else [token]

theorem text_fill (value tokens : List Token) :
    textOf spell (fill mark value tokens) =
      List.intercalate (textOf spell value) ((tokens.splitOn mark).map (textOf spell)) := by
  induction tokens with
  | nil => simp [fill, textOf, List.intercalate]
  | cons token rest induction =>
    obtain ⟨first, others, equal⟩ := List.exists_cons_of_ne_nil (List.splitOn_ne_nil mark rest)
    have step : fill mark value (token :: rest) =
        (if token = mark then value else [token]) ++ fill mark value rest := rfl
    have both (front back : List Token) :
        textOf spell (front ++ back) = textOf spell front ++ textOf spell back := by
      simp [textOf]
    rw [step, both, induction, List.splitOn_cons_eq_if_modifyHead, equal]
    by_cases same : token = mark
    · simp [same, List.intercalate, textOf]
    · cases others <;> simp [same, List.intercalate, textOf]

variable [DecidableEq Symbol]

theorem cut_at_text_iff (nonempty : spell mark ≠ []) (tokens : List Token) :
    cutAt (spell mark) 0 (textOf spell tokens) = (tokens.splitOn mark).map (textOf spell) ↔
      MetAlone spell mark tokens := by
  induction tokens with
  | nil => simp [textOf, cutAt, MetAlone]
  | cons token rest induction =>
    have text : textOf spell (token :: rest) = spell token ++ textOf spell rest := rfl
    rw [text, List.splitOn_cons_eq_if_modifyHead, MetAlone]
    by_cases same : token = mark
    · subst token
      simp [cut_at_met nonempty, textOf, ← induction]
    · obtain ⟨first, others, equal⟩ := List.exists_cons_of_ne_nil (List.splitOn_ne_nil mark rest)
      have meant : ((rest.splitOn mark).modifyHead (token :: ·)).map (textOf spell) =
          ((rest.splitOn mark).map (textOf spell)).modifyHead (spell token ++ ·) := by
        rw [equal]
        rfl
      rw [if_neg (by simpa using same), meant]
      constructor
      · intro cuts
        have unmet : Unmet (spell mark) (spell token) (textOf spell rest) := by
          rw [equal] at cuts
          exact unmet_of_cut_at cuts (by simp)
        rw [cut_at_unmet unmet] at cuts
        refine ⟨fun _ => unmet, induction.mp ?_⟩
        obtain ⟨piece, pieces, here⟩ := List.exists_cons_of_ne_nil
          (cut_at_ne_nil 0 (textOf spell rest) : cutAt (spell mark) 0 _ ≠ [])
        rw [here, equal] at cuts ⊢
        simpa using cuts
      · rintro ⟨unmet, alone⟩
        rw [cut_at_unmet (unmet same), induction.mpr alone]

theorem replace_text {tokens : List Token} (nonempty : spell mark ≠ [])
    (alone : MetAlone spell mark tokens) (value : List Token) :
    replace (spell mark) (textOf spell value) (textOf spell tokens) =
      textOf spell (fill mark value tokens) := by
  rw [replace, (cut_at_text_iff spell mark nonempty tokens).mpr alone, text_fill]

end

end AiEnterpriseOs.Library.MarkReplace
