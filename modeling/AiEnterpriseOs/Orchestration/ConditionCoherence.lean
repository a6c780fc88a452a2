import AiEnterpriseOs.Orchestration.Conditions

/-!
# Coherence of the condition language

Membership, equality and inequality of a path and literals, as they are written
in a condition, against each other.
-/

namespace AiEnterpriseOs.Orchestration.Conditions

open Library

/-- A character of a word: no blank, operator, bracket, quote or comma. -/
def wordChar (char : Char) : Bool :=
  !TextLines.isSpace char && !isQuote char && !(['=', '!', '<', '>', '[', ']', ','].contains char)

/-- A text without blanks and punctuation other than dots. -/
structure Word where
  text : List Char
  nonempty : text ≠ []
  plain : text.all wordChar = true

/-- A quoted string of any characters except quotes and commas. -/
structure QuotedText where
  quote : Char
  text : List Char
  marks : isQuote quote = true
  plain : (text.all fun char => !isQuote char && char != ',') = true

/-- A literal: a quoted string, or a word such as a number, a boolean or null. -/
inductive Literal where
  | quoted (quoted : QuotedText)
  | bare (word : Word)

def QuotedText.source (quoted : QuotedText) : List Char :=
  quoted.quote :: (quoted.text ++ [quoted.quote])

namespace Literal

/-- As it is written. -/
def source : Literal → List Char
  | quoted string => string.source
  | bare word => word.text

/-- Without its quotes. -/
def text : Literal → List Char
  | quoted string => string.text
  | bare word => word.text

end Literal

/-- `p in [v1, ..., vn]`. -/
def inExpression (path : Word) (literals : List Literal) : List Char :=
  path.text ++ (inText ++ ([',', ' '].intercalate (literals.map Literal.source) ++ [']']))

/-- `p == v` and `p != v`. -/
def comparisonExpression (path : Word) (op : Comparison) (source : List Char) : List Char :=
  path.text ++ (' ' :: (op.text ++ (' ' :: source)))

section

variable (numbers : NumberReader) (results : List (String × PyValue)) (path : Word)

/-- A list has the members that equal the path, inequality is no equality, and a
quoted string equals itself only. -/
structure Coherent (literals : List Literal) (literal : Literal) (quoted : QuotedText) : Prop where
  membership : evaluateCondition numbers (some (inExpression path literals)) results = some true ↔
      ∃ literal ∈ literals, evaluateCondition numbers
        (some (comparisonExpression path .eq literal.source)) results = some true
  negation :
    evaluateCondition numbers (some (comparisonExpression path .ne literal.source)) results =
      (evaluateCondition numbers
        (some (comparisonExpression path .eq literal.source)) results).map not
  string : evaluateCondition numbers (some (comparisonExpression path .eq quoted.source)) results =
        some true ↔
      resolvePath numbers path.text results = some (.str (String.ofList quoted.text))

def ReadAsString (text : List Char) : Prop :=
  reading numbers text = .value (.str (String.ofList text))

/-- The members of a list and what they are read as are the same for a value. -/
def MembersAlike (literals : List Literal) : PyValue → Prop
  | .str value =>
    (∀ literal ∈ literals, String.ofList (TextLines.strip literal.text) = value →
      ReadAsString numbers value.toList ∧ ∃ same ∈ literals, String.ofList same.text = value) ∧
    (∀ literal ∈ literals, String.ofList literal.text = value →
      ReadAsString numbers value.toList → TextLines.strip value.toList = value.toList) ∧
    (literals = [] → value ≠ "")
  | value => ∀ literal ∈ literals, (reading numbers literal.text).equals value = false

/-- A literal with `==` in it is compared elsewhere: what follows is compared
with the value at the path that the text before would be. -/
def NegatedAlike (literal : Literal) : Prop :=
  match TextSearch.cut Comparison.eq.text literal.source with
  | none => True
  | some (before, after) =>
    (valueAt numbers (path.text ++ (' ' :: ('!' :: '=' :: ' ' :: before))) results).map
        (fun value => (operand numbers after).equals value) =
      (resolvePath numbers path.text results).map
        fun value => !(reading numbers literal.text).equals value

/-- A quoted string is read as that string, or is neither it nor its reading. -/
def StringAlike (quoted : QuotedText) (value : PyValue) : Prop :=
  ReadAsString numbers quoted.text ∨ (value ≠ .str (String.ofList quoted.text) ∧
      (reading numbers quoted.text).equals value = false)

/-- What the literals are read as suits the value at the path. -/
structure ReadAlike (literals : List Literal) (literal : Literal) (quoted : QuotedText) : Prop where
  members : ∀ value, resolvePath numbers path.text results = some value →
    MembersAlike numbers literals value
  negated : NegatedAlike numbers results path literal
  string : ∀ value, resolvePath numbers path.text results = some value →
    StringAlike numbers quoted value

end

/-! ## Words and literals in a text -/

section

variable {char : Char}

theorem word_char_spec (word : wordChar char = true) :
    TextLines.isSpace char = false ∧ isQuote char = false ∧
      char ∉ ['=', '!', '<', '>', '[', ']', ','] := by
  simpa [wordChar, and_assoc] using word

theorem quote_spec (quote : isQuote char = true) : TextLines.isSpace char = false ∧
      char ∉ ['=', '!', '<', '>', '[', ']', ',', ' '] := by
  rcases Bool.or_eq_true_iff.mp quote with single | double
  · rw [of_decide_eq_true single]
    decide
  · rw [of_decide_eq_true double]
    decide

end

theorem Word.word_char (word : Word) {char : Char} (member : char ∈ word.text) :
    wordChar char = true :=
  List.all_eq_true.mp word.plain char member

theorem QuotedText.inner_char (quoted : QuotedText) {char : Char}
    (member : char ∈ quoted.text) : isQuote char = false ∧ char ≠ ',' := by
  have plain := List.all_eq_true.mp quoted.plain char member
  simpa using plain

theorem word_fresh (word : Word) {char : Char}
    (outside : char ∈ ['=', '!', '<', '>', '[', ']', ',']) : char ∉ word.text :=
  fun member => (word_char_spec (word.word_char member)).2.2 outside

theorem word_unspaced (word : Word) : ' ' ∉ word.text := by
  intro member
  have inside := (word_char_spec (word.word_char member)).1
  exact absurd inside (by decide)

theorem quoted_fresh (quoted : QuotedText) : ',' ∉ quoted.source := by
  intro member
  have apart := (quote_spec quoted.marks).2
  rcases List.mem_cons.mp member with front | later
  · rw [← front] at apart
    exact absurd (by decide) apart
  · rcases List.mem_append.mp later with inside | back
    · exact (quoted.inner_char inside).2 rfl
    · rw [← List.mem_singleton.mp back] at apart
      exact absurd (by decide) apart

namespace Literal

variable (literal : Literal)

theorem comma_fresh : ',' ∉ literal.source := by
  cases literal with
  | quoted string => exact quoted_fresh string
  | bare word => exact word_fresh word (by decide)

theorem source_nonempty : literal.source ≠ [] := by
  cases literal with
  | quoted string => exact List.cons_ne_nil _ _
  | bare word => exact word.nonempty

theorem source_front {char : Char} (front : char ∈ literal.source.head?) :
    TextLines.isSpace char = false := by
  cases literal with
  | quoted string =>
    rw [← Option.some.inj front]
    exact (quote_spec string.marks).1
  | bare word => exact (word_char_spec (word.word_char (List.mem_of_mem_head? front))).1

theorem source_back {char : Char} (back : char ∈ literal.source.getLast?) :
    TextLines.isSpace char = false ∧ char ≠ ']' := by
  cases literal with
  | quoted string =>
    have last : string.source.getLast? = some string.quote := by
      rw [QuotedText.source, ← List.cons_append, List.getLast?_concat]
    rw [source, last] at back
    rw [← Option.some.inj back]
    have spec := quote_spec string.marks
    refine ⟨spec.1, ?_⟩
    intro same
    rw [same] at spec
    exact absurd (by decide) spec.2
  | bare word =>
    have spec := word_char_spec (word.word_char (List.mem_of_getLast? back))
    refine ⟨spec.1, ?_⟩
    intro same
    rw [same] at spec
    exact absurd (by decide) spec.2.2

theorem strip_source : TextLines.strip literal.source = literal.source :=
  TextSearch.trim_between (fun _ front => literal.source_front front)
    (fun _ back => (literal.source_back back).1)

theorem strip_blank_source : TextLines.strip (' ' :: literal.source) = literal.source := by
  have blank : TextLines.isSpace ' ' = true := by decide
  rw [TextSearch.strip_eq_trim, TextSearch.trim_front blank, ← TextSearch.strip_eq_trim,
    strip_source]

theorem strip_quotes_source : stripQuotes literal.source = literal.text := by
  cases literal with
  | quoted string =>
    have inside : stripQuotes string.text = string.text := by
      apply TextSearch.trim_between
      · intro char front
        exact (string.inner_char (List.mem_of_mem_head? front)).1
      · intro char back
        exact (string.inner_char (List.mem_of_getLast? back)).1
    rw [source, QuotedText.source, stripQuotes, TextSearch.trim_front string.marks,
      TextSearch.trim_back string.marks]
    exact inside
  | bare word =>
    apply TextSearch.trim_between
    · intro char front
      exact (word_char_spec (word.word_char (List.mem_of_mem_head? front))).2.1
    · intro char back
      exact (word_char_spec (word.word_char (List.mem_of_getLast? back))).2.1

end Literal

/-! ## How the conditions are read -/

section

variable {expr : List Char}

theorem blank_not_word (blank : ' ' ∈ expr) {words : List (List Char)}
    (unspaced : ∀ word ∈ words, ' ' ∉ word) :
    (words.any fun word => word == lower expr) = false := by
  have inside : ' ' ∈ lower expr := List.mem_map.mpr ⟨' ', blank, by decide⟩
  apply List.any_eq_false.mpr
  intro word listed same
  rw [← beq_iff_eq.mp same] at inside
  exact unspaced word listed inside

variable (numbers : NumberReader) (results : List (String × PyValue))

theorem evaluate_stripped (kept : TextLines.strip expr = expr) (blank : ' ' ∈ expr) :
    evaluateCondition numbers (some expr) results = evaluateOperator numbers expr results := by
  have nonempty : expr.isEmpty = false :=
    List.isEmpty_eq_false_iff.mpr (List.ne_nil_of_mem blank)
  have notTrue := blank_not_word blank (by decide : ∀ word ∈ trueWords, ' ' ∉ word)
  have notFalse := blank_not_word blank (by decide : ∀ word ∈ falseWords, ' ' ∉ word)
  rw [evaluateCondition]
  simp only [kept, nonempty, notTrue, notFalse, Bool.false_eq_true, if_false]

end

section

variable (numbers : NumberReader) (results : List (String × PyValue)) (path : Word)

theorem strip_from_path {rest : List Char}
    (back : ∀ char ∈ (path.text ++ rest).getLast?, TextLines.isSpace char = false) :
    TextLines.strip (path.text ++ rest) = path.text ++ rest := by
  apply TextSearch.trim_between _ back
  intro char front
  obtain ⟨first, others, split⟩ := List.exists_cons_of_ne_nil path.nonempty
  rw [split, List.cons_append, List.head?_cons] at front
  rw [← Option.some.inj front]
  apply (word_char_spec (path.word_char _)).1
  rw [split]
  exact List.mem_cons_self

theorem value_at_path : valueAt numbers (path.text ++ [' ']) results =
    resolvePath numbers path.text results := by
  have blank : TextLines.Blank [' '] := by
    intro char member
    rw [List.mem_singleton.mp member]
    decide
  rw [valueAt, TextLines.strip_append_blank blank, TextLines.strip_of_no_space]
  intro char member
  exact (word_char_spec (path.word_char member)).1

theorem operand_source (literal : Literal) :
    operand numbers (' ' :: literal.source) = reading numbers literal.text := by
  rw [operand, literal.strip_blank_source, literal.strip_quotes_source]

theorem last_of_comparison (op : Comparison) (literal : Literal) :
    (comparisonExpression path op literal.source).getLast? = literal.source.getLast? := by
  obtain ⟨last, isLast⟩ : ∃ last, literal.source.getLast? = some last :=
    Option.isSome_iff_exists.mp (List.getLast?_isSome.mpr literal.source_nonempty)
  obtain ⟨early, split⟩ := List.getLast?_eq_some_iff.mp isLast
  have reach : comparisonExpression path op literal.source =
      (path.text ++ (' ' :: (op.text ++ (' ' :: early)))) ++ [last] := by
    rw [comparisonExpression, split]
    simp
  rw [reach, split, List.getLast?_concat, List.getLast?_concat]

theorem evaluate_comparison (op : Comparison) (literal : Literal) :
    evaluateCondition numbers (some (comparisonExpression path op literal.source)) results =
      evaluateComparison numbers (comparisonExpression path op literal.source) results := by
  have last := last_of_comparison path op literal
  rw [evaluate_stripped, evaluateOperator, if_neg]
  · rw [last]
    intro bracket
    exact (literal.source_back bracket).2 rfl
  · apply strip_from_path
    intro char back
    change char ∈ (comparisonExpression path op literal.source).getLast? at back
    rw [last] at back
    exact (literal.source_back back).1
  · exact List.mem_append_right _ List.mem_cons_self

theorem path_blank_fresh {char : Char} (outside : char ∈ ['=', '!', '<', '>', '[', ']', ',']) :
    char ∉ path.text ++ [' '] := by
  intro member
  rcases List.mem_append.mp member with inside | blank
  · exact word_fresh path outside inside
  · rw [List.mem_singleton.mp blank] at outside
    exact absurd outside (by decide)

theorem evaluate_eq (literal : Literal) :
    evaluateCondition numbers (some (comparisonExpression path .eq literal.source)) results =
      (resolvePath numbers path.text results).map
        fun value => (reading numbers literal.text).equals value := by
  have split : TextSearch.cut Comparison.eq.text (comparisonExpression path .eq literal.source) =
        some (path.text ++ [' '], ' ' :: literal.source) := by
    have found := @TextSearch.cut_after '=' ['='] _ (path_blank_fresh path (by decide))
      (' ' :: literal.source)
    rw [List.append_assoc] at found
    exact found
  rw [evaluate_comparison, evaluateComparison, Comparison.all, List.findSome?_cons, split]
  dsimp only [Option.map_some]
  rw [value_at_path, operand_source]
  rfl

theorem cut_inequality (source : List Char) :
    TextSearch.cut Comparison.eq.text (comparisonExpression path .ne source) =
      (TextSearch.cut Comparison.eq.text source).map fun parts =>
        (path.text ++ (' ' :: ('!' :: '=' :: ' ' :: parts.1)), parts.2) := by
  have single : ['=', '='].isPrefixOf ('=' :: ' ' :: source) = false := rfl
  rw [comparisonExpression, Comparison.text, TextSearch.cut_skip (word_fresh path (by decide)),
    TextSearch.cut_step (by decide)]
  change (((TextSearch.cut ['=', '='] ('!' :: '=' :: ' ' :: source)).map _).map _) = _
  rw [TextSearch.cut_step (by decide), TextSearch.cut, single, if_neg Bool.false_ne_true,
    TextSearch.cut_step (by decide), Option.map_map, Option.map_map, Option.map_map,
    Option.map_map]
  rfl

theorem evaluate_ne (literal : Literal) :
    evaluateCondition numbers (some (comparisonExpression path .ne literal.source)) results =
      match TextSearch.cut Comparison.eq.text literal.source with
      | none => (resolvePath numbers path.text results).map
          fun value => !(reading numbers literal.text).equals value
      | some (before, after) =>
        (valueAt numbers (path.text ++ (' ' :: ('!' :: '=' :: ' ' :: before))) results).map
          fun value => (operand numbers after).equals value := by
  rw [evaluate_comparison, evaluateComparison, Comparison.all, List.findSome?_cons, cut_inequality]
  cases inside : TextSearch.cut Comparison.eq.text literal.source with
  | some parts =>
    dsimp only [Option.map_some]
    rfl
  | none =>
    have split : TextSearch.cut Comparison.ne.text (comparisonExpression path .ne literal.source) =
          some (path.text ++ [' '], ' ' :: literal.source) := by
      have found := @TextSearch.cut_after '!' ['='] _ (path_blank_fresh path (by decide))
        (' ' :: literal.source)
      rw [List.append_assoc] at found
      exact found
    rw [List.findSome?_cons, split]
    dsimp only [Option.map_some, Option.map_none]
    rw [value_at_path, operand_source]
    rfl

/-! ## The members of a list -/

theorem intercalate_blank (source : List Char) (sources : List (List Char)) :
    [',', ' '].intercalate (source :: sources) =
      [','].intercalate (source :: sources.map fun other => ' ' :: other) := by
  induction sources generalizing source with
  | nil => rfl
  | cons other sources ih =>
    rw [List.map_cons, List.intercalate_cons_cons, List.intercalate_cons_cons, ih]
    cases sources with
    | nil => simp
    | cons next sources => simp

theorem members_of_literals (literals : List Literal) :
    memberTexts ([',', ' '].intercalate (literals.map Literal.source) ++ [']']) =
      if literals = [] then [[]]
      else literals.map fun literal => TextLines.strip literal.text := by
  cases literals with
  | nil => decide
  | cons literal literals =>
    have pieces : ∀ piece ∈ literal.source :: (literals.map Literal.source).map
        (fun other => ' ' :: other), ',' ∉ piece := by
      intro piece member
      rcases List.mem_cons.mp member with same | later
      · rw [same]
        exact literal.comma_fresh
      · obtain ⟨source, listed, rfl⟩ := List.mem_map.mp later
        obtain ⟨other, _, rfl⟩ := List.mem_map.mp listed
        intro comma
        rcases List.mem_cons.mp comma with blank | inside
        · exact absurd blank (by decide)
        · exact other.comma_fresh inside
    rw [memberTexts, List.dropLast_concat, List.map_cons, intercalate_blank,
      List.splitOn_intercalate ',' pieces (List.cons_ne_nil _ _), if_neg (List.cons_ne_nil _ _),
      List.map_cons, List.map_cons, literal.strip_source, literal.strip_quotes_source,
      List.map_map, List.map_map]
    apply congrArg (List.cons _)
    apply List.map_congr_left
    intro other _
    rw [Function.comp, Function.comp, other.strip_blank_source, other.strip_quotes_source]

theorem evaluate_in (literals : List Literal) :
    evaluateCondition numbers (some (inExpression path literals)) results =
      (resolvePath numbers path.text results).map fun value =>
        (if literals = [] then [[]]
          else literals.map fun literal => TextLines.strip literal.text).any
            fun member => value.equal (.str (String.ofList member)) := by
  have last : (inExpression path literals).getLast? = some ']' := by
    rw [inExpression, ← List.append_assoc, ← List.append_assoc, List.getLast?_concat]
  have split : TextSearch.cut inText (inExpression path literals) =
      some (path.text, [',', ' '].intercalate (literals.map Literal.source) ++ [']']) :=
    TextSearch.cut_after (word_unspaced path) _
  have unspaced : TextLines.strip path.text = path.text := by
    apply TextLines.strip_of_no_space
    intro char member
    exact (word_char_spec (path.word_char member)).1
  rw [evaluate_stripped, evaluateOperator, if_pos last, split]
  · dsimp only
    rw [valueAt, unspaced, members_of_literals]
  · apply strip_from_path
    intro char back
    change char ∈ (inExpression path literals).getLast? at back
    rw [last] at back
    rw [← Option.some.inj back]
    decide
  · exact List.mem_append_right _ List.mem_cons_self

/-! ## Readings -/

theorem equal_str_iff (value : PyValue) (text : String) :
    value.equal (.str text) = true ↔ value = .str text := by
  cases value <;> simp [PyValue.equal, PyValue.number?]

theorem word_value_not_string {word : List Char × PyValue} (listed : word ∈ wordValues)
    (text : String) : word.2 ≠ .str text := by
  simp only [wordValues, List.mem_cons, List.not_mem_nil, or_false] at listed
  rcases listed with rfl | rfl | rfl | rfl | rfl | rfl <;> simp

theorem reading_str_iff (text : List Char) (value : String) :
    reading numbers text = .value (.str value) ↔
      ReadAsString numbers text ∧ String.ofList text = value := by
  constructor
  · intro read
    have itself : String.ofList text = value := by
      rw [reading] at read
      cases word : wordValues.find? fun word => word.1 == lower text with
      | some found =>
        rw [word] at read
        exact absurd (Operand.value.inj read)
          (word_value_not_string (List.mem_of_find?_eq_some word) value)
      | none =>
        rw [word] at read
        dsimp only at read
        cases number : numbers.float text with
        | none =>
          rw [number] at read
          exact PyValue.str.inj (Operand.value.inj read)
        | some number' =>
          rw [number] at read
          cases number' with
          | finite number =>
            have same := Operand.value.inj read
            split at same <;> cases same
          | infinite negative => cases read
          | nan => cases read
    refine ⟨?_, itself⟩
    rw [ReadAsString, itself]
    exact read
  · intro read
    rw [← read.2]
    exact read.1

theorem equals_str_iff (right : Operand) (value : String) :
    right.equals (.str value) = true ↔ right = .value (.str value) := by
  cases right with
  | value right =>
    cases right with
    | str text =>
      rw [Operand.equals, PyValue.equal_str, beq_iff_eq, Operand.value.injEq, PyValue.str.injEq]
      exact eq_comm
    | none | bool | int | float | list | dict =>
      simp [Operand.equals, PyValue.equal, PyValue.number?]
  | infinite negative => simp [Operand.equals]
  | nan => simp [Operand.equals]

/-! ## What the conditions have in common -/

theorem string_of_text_iff (text : List Char) (value : String) :
    String.ofList text = value ↔ text = value.toList := by
  constructor
  · rintro rfl
    exact String.toList_ofList.symm
  · rintro rfl
    exact String.ofList_toList

theorem members_string_iff (literals : List Literal) (value : String) :
    ((∃ literal ∈ literals, String.ofList (TextLines.strip literal.text) = value) ↔
        ∃ literal ∈ literals, ReadAsString numbers literal.text ∧
          String.ofList literal.text = value) ↔
      (∀ literal ∈ literals, String.ofList (TextLines.strip literal.text) = value →
        ReadAsString numbers value.toList ∧ ∃ same ∈ literals, String.ofList same.text = value) ∧
      ∀ literal ∈ literals, String.ofList literal.text = value →
        ReadAsString numbers value.toList → TextLines.strip value.toList = value.toList := by
  simp only [string_of_text_iff]
  constructor
  · intro alike
    constructor
    · intro literal listed stripped
      obtain ⟨same, sameListed, read, sameText⟩ := alike.mp ⟨literal, listed, stripped⟩
      rw [sameText] at read
      exact ⟨read, same, sameListed, sameText⟩
    · intro literal listed sameText read
      rw [← sameText] at read
      obtain ⟨other, _, stripped⟩ := alike.mpr ⟨literal, listed, read, sameText⟩
      rw [← stripped, TextSearch.strip_eq_trim, TextSearch.strip_eq_trim, TextSearch.trim_trim]
  · intro conditions
    obtain ⟨readAlike, unspaced⟩ := conditions
    constructor
    · intro member
      obtain ⟨literal, listed, stripped⟩ := member
      obtain ⟨read, same, sameListed, sameText⟩ := readAlike literal listed stripped
      rw [← sameText] at read
      exact ⟨same, sameListed, read, sameText⟩
    · intro equal
      obtain ⟨literal, listed, read, sameText⟩ := equal
      rw [sameText] at read
      refine ⟨literal, listed, ?_⟩
      rw [sameText]
      exact unspaced literal listed sameText read

theorem any_text_iff (literals : List Literal) (value : String) :
    ((literals.map fun literal => TextLines.strip literal.text).any fun member =>
        (PyValue.str value).equal (.str (String.ofList member))) = true ↔
      ∃ literal ∈ literals, String.ofList (TextLines.strip literal.text) = value := by
  rw [List.any_map, List.any_eq_true]
  apply exists_congr
  intro literal
  rw [Function.comp, PyValue.equal_str, beq_iff_eq, eq_comm]

theorem any_text_other {value : PyValue} (other : ∀ text, value ≠ .str text)
    (members : List (List Char)) :
    (members.any fun member => value.equal (.str (String.ofList member))) = false := by
  apply List.any_eq_false.mpr
  intro member _ equal
  exact other _ ((equal_str_iff value _).mp equal)

theorem never_equal_iff (literals : List Literal) (value : PyValue) : (false = true ↔
        ∃ literal ∈ literals, (reading numbers literal.text).equals value = true) ↔
      ∀ literal ∈ literals, (reading numbers literal.text).equals value = false := by
  constructor
  · intro never literal listed
    apply Bool.eq_false_iff.mpr
    intro equal
    exact Bool.false_ne_true (never.mpr ⟨literal, listed, equal⟩)
  · intro apart
    constructor
    · intro impossible
      exact absurd impossible Bool.false_ne_true
    · intro found
      obtain ⟨literal, listed, equal⟩ := found
      rw [apart literal listed] at equal
      exact equal

theorem members_alike_iff (literals : List Literal) (value : PyValue) :
    (((if literals = [] then [[]]
          else literals.map fun literal => TextLines.strip literal.text).any
            fun member => value.equal (.str (String.ofList member))) = true ↔
        ∃ literal ∈ literals, (reading numbers literal.text).equals value = true) ↔
      MembersAlike numbers literals value := by
  cases value with
  | str value =>
    simp only [equals_str_iff, reading_str_iff]
    cases literals with
    | nil => simp [MembersAlike]
    | cons literal rest =>
      have nonempty : (literal :: rest = [] → value ≠ "") ↔ True := by simp
      rw [if_neg (List.cons_ne_nil _ _), any_text_iff, members_string_iff, MembersAlike,
        nonempty, and_true]
  | none | bool | int | float | list | dict =>
    rw [any_text_other (by simp), never_equal_iff, MembersAlike]
    simp

theorem string_alike_iff (quoted : QuotedText) (value : PyValue) :
    ((reading numbers quoted.text).equals value = true ↔ value = .str (String.ofList quoted.text)) ↔
      StringAlike numbers quoted value := by
  by_cases plain : ReadAsString numbers quoted.text
  · refine iff_of_true ?_ (Or.inl plain)
    rw [plain]
    exact equal_str_iff value _
  · rw [StringAlike, or_iff_right plain]
    -- what is not read as a string does not equal that string
    have apart : value = .str (String.ofList quoted.text) →
        (reading numbers quoted.text).equals value = false := by
      rintro rfl
      apply Bool.eq_false_iff.mpr
      intro equal
      exact plain ((equals_str_iff _ _).mp equal)
    constructor
    · intro same
      constructor
      · intro itself
        have equal := same.mpr itself
        rw [apart itself] at equal
        cases equal
      · apply Bool.eq_false_iff.mpr
        intro equal
        have differs := apart (same.mp equal)
        rw [equal] at differs
        cases differs
    · intro neither
      rw [neither.2]
      exact iff_of_false Bool.false_ne_true neither.1

theorem membership_iff (literals : List Literal) :
    (evaluateCondition numbers (some (inExpression path literals)) results = some true ↔
        ∃ literal ∈ literals, evaluateCondition numbers
          (some (comparisonExpression path .eq literal.source)) results = some true) ↔
      ∀ value, resolvePath numbers path.text results = some value →
        MembersAlike numbers literals value := by
  simp only [evaluate_in, evaluate_eq]
  cases resolvePath numbers path.text results with
  | none => simp
  | some value =>
    simp only [Option.map_some, Option.some.injEq, forall_eq']
    exact members_alike_iff numbers literals value

theorem negation_iff (literal : Literal) :
    evaluateCondition numbers (some (comparisonExpression path .ne literal.source)) results =
        (evaluateCondition numbers
          (some (comparisonExpression path .eq literal.source)) results).map not ↔
      NegatedAlike numbers results path literal := by
  rw [evaluate_ne, evaluate_eq, NegatedAlike, Option.map_map]
  cases TextSearch.cut Comparison.eq.text literal.source with
  | none => exact iff_of_true rfl trivial
  | some parts => exact Iff.rfl

theorem string_iff (quoted : QuotedText) :
    (evaluateCondition numbers (some (comparisonExpression path .eq quoted.source)) results =
          some true ↔
        resolvePath numbers path.text results = some (.str (String.ofList quoted.text))) ↔
      ∀ value, resolvePath numbers path.text results = some value →
        StringAlike numbers quoted value := by
  have equality := evaluate_eq numbers results path (.quoted quoted)
  rw [Literal.source, Literal.text] at equality
  rw [equality]
  cases resolvePath numbers path.text results with
  | none => simp
  | some value =>
    simp only [Option.map_some, Option.some.injEq, forall_eq']
    exact string_alike_iff numbers quoted value

/-- Membership, inequality and quoted strings are what equality says exactly if
the literals are read alike. -/
theorem conditions_coherent_iff (numbers : NumberReader) (results : List (String × PyValue))
    (path : Word) (literals : List Literal) (literal : Literal) (quoted : QuotedText) :
    Coherent numbers results path literals literal quoted ↔
      ReadAlike numbers results path literals literal quoted := by
  constructor
  · intro coherent
    constructor
    · exact (membership_iff numbers results path literals).mp coherent.membership
    · exact (negation_iff numbers results path literal).mp coherent.negation
    · exact (string_iff numbers results path quoted).mp coherent.string
  · intro alike
    constructor
    · exact (membership_iff numbers results path literals).mpr alike.members
    · exact (negation_iff numbers results path literal).mpr alike.negated
    · exact (string_iff numbers results path quoted).mpr alike.string

end

def digitNumbers : NumberReader where
  float text :=
    if !text.isEmpty && text.all Char.isDigit then
      some (.finite (Nat.ofDigitChars 10 text 0))
    else none
  isdigit text := !text.isEmpty && text.all Char.isDigit
  int text := some (Nat.ofDigitChars 10 text 0)

/-- The number five equals five and the string of it, is no member of a list of
five, and neither equals a string with `==` in it nor differs from it. -/
theorem five_incoherent :
    let results : List (String × PyValue) := [("build", .dict [("count", .int 5)])]
    let path : Word := ⟨"build.count".toList, by decide, by decide⟩
    let five : Literal := .bare ⟨['5'], by decide, by decide⟩
    let quotedFive : QuotedText := ⟨'"', ['5'], by decide, by decide⟩
    let equation : Literal := .quoted ⟨'\'', "a==b".toList, by decide, by decide⟩
    let evaluate (expr : List Char) := evaluateCondition digitNumbers (some expr) results
    inExpression path [five] = "build.count in [5]".toList ∧
      evaluate "build.count in [5]".toList = some false ∧
      evaluate "build.count == 5".toList = some true ∧
      evaluate "build.count == \"5\"".toList = some true ∧
      evaluate "build.count == 'a==b'".toList = some false ∧
      evaluate "build.count != 'a==b'".toList = some false ∧
      ¬Coherent digitNumbers results path [five] equation quotedFive := by
  intro results path five quotedFive equation evaluate
  have inside : inExpression path [five] = "build.count in [5]".toList := by decide
  have member : evaluate "build.count in [5]".toList = some false := by decide +kernel
  have equal : evaluate "build.count == 5".toList = some true := by decide +kernel
  refine ⟨inside, member, equal, by decide +kernel, by decide +kernel, by decide +kernel, ?_⟩
  intro coherent
  have listed := coherent.membership.mpr ⟨five, List.mem_singleton_self five, equal⟩
  rw [inside] at listed
  exact absurd (member.symm.trans listed) (by decide)

end AiEnterpriseOs.Orchestration.Conditions
