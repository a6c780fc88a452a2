import AiEnterpriseOs.Library.MarkReplace
import AiEnterpriseOs.Services.DepartmentEdits

/-!
# Variables of YAML templates

A YAML template cannot be read with its variables in it, so numbered markers
stand for them while it is parsed. What the markers become is compared with the
plain substitution of the other templates.
-/

namespace AiEnterpriseOs.TemplateEngine

open Library MarkReplace Services

abbrev Key : Type := List Char

def marker : List Char := "__YTPL_".toList

/-- `_YAML_PLACEHOLDER.format(index)` -/
def placeholder (index : Nat) : List Char := marker ++ Nat.toDigits 10 index ++ ['_', '_']

section Handlers

variable (isWord : Char → Bool)

/-- The group of a match of `\{(\w+(?:\.\w+)*)\}` that starts here. -/
def variableAt : List Char → Option Key
  | '{' :: rest =>
    let key := rest.takeWhile fun char => isWord char || char = '.'
    match rest.drop key.length with
    | '}' :: _ => if (key.splitOn '.').all fun part => !part.isEmpty then some key else none
    | _ => none
  | _ => none

/-- `_VAR_PATTERN.sub` with markers; the second number counts what is left of a match. -/
def protectYamlVars : Nat → Nat → List Char → List Char × List Key
  | _, _, [] => ([], [])
  | count, left + 1, _ :: rest => protectYamlVars count left rest
  | count, 0, char :: rest =>
    match variableAt isWord (char :: rest) with
    | some key =>
      let (after, keys) := protectYamlVars (count + 1) (key.length + 1) rest
      (placeholder count ++ after, key :: keys)
    | none =>
      let (after, keys) := protectYamlVars count 0 rest
      (char :: after, keys)

def resolveParts : List (List Char) → YamlValue → YamlValue
  | [], val => val
  | part :: parts, .mapping entries =>
    resolveParts parts ((Mapping.get? entries (String.ofList part)).getD .null)
  | _ :: _, _ => .null

/-- `_resolve_key` -/
def resolveKey (context : Entries) (key : Key) : YamlValue :=
  resolveParts (key.splitOn '.') (.mapping context)

variable (repr : YamlValue → List Char)

/-- `val is None` -/
def isNone : YamlValue → Bool
  | .null => true
  | _ => false

/-- `str(val)`; only of a string is it known here what that is. -/
def str : YamlValue → List Char
  | .str text => text.toList
  | val => repr val

def substituteParts (group : List Char) : List (List Char) → YamlValue → List Char
  | [], val => if isNone val then group else str repr val
  | part :: parts, .mapping entries => substituteParts group parts
      ((Mapping.get? entries (String.ofList part)).getD (.str (String.ofList group)))
  | _ :: _, _ => group

def group (key : Key) : List Char := '{' :: key ++ ['}']

/-- What `substitute` puts in the place of a variable. -/
def substituted (context : Entries) (key : Key) : List Char :=
  substituteParts repr (group key) (key.splitOn '.') (.mapping context)

/-- `str(val) if val is not None else ""` -/
def embedded (val : YamlValue) : List Char :=
  if isNone val then [] else str repr val

variable (context : Entries)

/-- `resolve_yaml_placeholders` on a string, with the enumerated keys. -/
def resolveText : List (Key × Nat) → List Char → YamlValue
  | [], result => .str (String.ofList result)
  | (key, index) :: rest, result =>
    if placeholder index <:+: result then
      let val := resolveKey context key
      if result = placeholder index then if isNone val then .str (String.ofList result) else val
      else resolveText rest (replace (placeholder index) (embedded repr val) result)
    else resolveText rest result

variable (keys : List Key)

mutual

def resolveYamlPlaceholders : YamlValue → YamlValue
  | .str text => resolveText repr context keys.zipIdx text.toList
  | .mapping entries => .mapping (resolveEntries entries)
  | .list items => .list (resolveItems items)
  | obj => obj

def resolveItems : List YamlValue → List YamlValue
  | [] => []
  | item :: rest => resolveYamlPlaceholders item :: resolveItems rest

def resolveEntries : Entries → Entries
  | [] => []
  | (key, value) :: rest => (key, resolveYamlPlaceholders value) :: resolveEntries rest

end

/-- `YamlHandler.render`; nothing is returned where it raises. -/
def render (safeLoad : List Char → YamlLoad) (safeDump : YamlValue → List Char)
    (template : List Char) : Option (List Char) :=
  let (text, keys) := protectYamlVars isWord 0 0 template
  match safeLoad text with
  | .value .null => some []
  | .value data =>
    some (TextLines.strip (safeDump (resolveYamlPlaceholders repr context keys data)))
  | _ => none

end Handlers

/-! ## What is asked of a rendering -/

mutual

/-- The texts of a value. Those marked are strings in the places of values; the
others are in keys and sets, where nothing is resolved. -/
def texts : YamlValue → List (Bool × String)
  | .str text => [(true, text)]
  | .set scalars => scalars.map fun text => (false, text)
  | .list items => itemTexts items
  | .mapping entries => entryTexts entries
  | _ => []

def itemTexts : List YamlValue → List (Bool × String)
  | [] => []
  | item :: rest => texts item ++ itemTexts rest

def entryTexts : Entries → List (Bool × String)
  | [] => []
  | (key, value) :: rest =>
    (texts key).map (fun text => (false, text.2)) ++ texts value ++ entryTexts rest

end

def Unmarked (text : List Char) : Prop := ¬ marker <:+: text

def UnmarkedValue (value : YamlValue) : Prop := ∀ text ∈ texts value, Unmarked text.2.toList

inductive Piece where
  | char (char : Char)
  | var (index : Nat)
  deriving DecidableEq

def spell : Piece → List Char
  | .char char => [char]
  | .var index => placeholder index

/-- The characters and the variables of a parsed string, read from the left. -/
def pieces (count : Nat) : Nat → List Char → List Piece
  | _, [] => []
  | left + 1, _ :: rest => pieces count left rest
  | 0, char :: rest =>
    match (List.range count).find? fun index => placeholder index <+: char :: rest with
    | some index => .var index :: pieces count ((placeholder index).length - 1) rest
    | none => .char char :: pieces count 0 rest

/-- The first variables filled in, all at once. -/
def filled (put : Nat → List Char) (count : Nat) (tokens : List Piece) : List Piece :=
  tokens.flatMap fun
    | .char char => [.char char]
    | .var index => if index < count then (put index).map .char else [.var index]

section Spec

variable (repr : YamlValue → List Char) (context : Entries) (keys : List Key)

def valueOf (index : Nat) : YamlValue := (keys[index]?).elim .null (resolveKey context)

def plainText (index : Nat) : List Char := (keys[index]?).elim [] (substituted repr context)

def embeddedText (index : Nat) : List Char := embedded repr (valueOf context keys index)

/-- The text as it is after the passes for the first variables. -/
def passed (text : List Char) : Nat → List Char
  | 0 => text
  | index + 1 => replace (placeholder index) (embeddedText repr context keys index)
      (passed text index)

/-- A string becomes what the plain substitution makes of it, and each pass cuts
it at the marker of its variable, never in what another variable brought. -/
def RightText (text : List Char) : Prop :=
  str repr (resolveText repr context keys.zipIdx text) =
      textOf spell (filled (plainText repr context keys) keys.length
        (pieces keys.length 0 text)) ∧
    ∀ index < keys.length,
      cutAt (placeholder index) 0 (passed repr context keys text index) =
        ((filled (embeddedText repr context keys) index
          (pieces keys.length 0 text)).splitOn (.var index)).map (textOf spell)

def Right (data value : YamlValue) : Prop :=
  UnmarkedValue value ∧
    ∀ text, (true, text) ∈ texts data → RightText repr context keys text.toList

/-- Every variable of a string has a value, and the texts of the values make no
marker with what is around them, neither for a later pass nor at the end. -/
def SettledText (text : List Char) : Prop :=
  let tokens := pieces keys.length 0 text
  let plain := plainText repr context keys
  (∀ index, .var index ∈ tokens → isNone (valueOf context keys index) = false) ∧
    (∀ index < keys.length, MetAlone spell (.var index) (filled plain index tokens)) ∧
    Unmarked (textOf spell (filled plain keys.length tokens))

def Settled (data : YamlValue) : Prop :=
  (∀ text, (false, text) ∈ texts data → Unmarked text.toList) ∧
    ∀ text, (true, text) ∈ texts data → SettledText repr context keys text.toList

/-- The values that the template asks for are free of the marker. -/
def ContextFree : Prop :=
  ∀ key ∈ keys, UnmarkedValue (resolveKey context key) ∧
    Unmarked (embedded repr (resolveKey context key))

end Spec

/-! ## Pieces of a text -/

theorem marker_within (index : Nat) : marker <:+: placeholder index :=
  (List.append_assoc .. ▸ List.prefix_append marker _).isInfix

theorem placeholder_ne_nil (index : Nat) : placeholder index ≠ [] := by
  simp [placeholder]

@[simp] theorem text_chars (text : List Char) : textOf spell (text.map .char) = text := by
  simp [textOf, List.flatMap_map, spell]

theorem text_pieces (count : Nat) (text : List Char) :
    textOf spell (pieces count 0 text) = text := by
  suffices ∀ left, textOf spell (pieces count left text) = text.drop left from this 0
  intro left
  induction text generalizing left with
  | nil => simp [pieces, textOf]
  | cons char rest induction =>
    cases left with
    | succ left => exact induction left
    | zero =>
      rw [pieces]
      split
      · next index found =>
        have met : placeholder index <+: char :: rest := by simpa using List.find?_some found
        obtain ⟨back, spelled⟩ := met
        have text (tokens : List Piece) : textOf spell (.var index :: tokens) =
          placeholder index ++ textOf spell tokens := rfl
        have tail : rest.drop ((placeholder index).length - 1) = back := by
          have size : 0 < (placeholder index).length := List.length_pos_of_ne_nil
            (placeholder_ne_nil index)
          calc rest.drop ((placeholder index).length - 1)
              = (char :: rest).drop ((placeholder index).length - 1 + 1) := rfl
            _ = back := by rw [Nat.sub_add_cancel size, ← spelled, List.drop_left]
        rw [text, induction, tail, spelled]
        rfl
      · have text (tokens : List Piece) : textOf spell (.char char :: tokens) =
          char :: textOf spell tokens := rfl
        rw [text, induction]
        rfl

theorem index_of_piece {count index left : Nat} {text : List Char}
    (member : .var index ∈ pieces count left text) : index < count := by
  induction text generalizing left with
  | nil => simp [pieces] at member
  | cons char rest induction =>
    cases left with
    | succ left => exact induction member
    | zero =>
      rw [pieces] at member
      split at member
      · next found =>
        rcases List.mem_cons.mp member with same | later
        · cases same
          exact List.mem_range.mp (List.mem_of_find?_eq_some found)
        · exact induction later
      · rcases List.mem_cons.mp member with same | later
        · cases same
        · exact induction later

section

variable (put : Nat → List Char) (tokens : List Piece)

theorem filled_cons (count : Nat) (token : Piece) :
    filled put count (token :: tokens) = filled put count [token] ++ filled put count tokens := by
  simp [filled]

theorem filled_zero : filled put 0 tokens = tokens := by
  induction tokens with
  | nil => rfl
  | cons token tokens induction =>
    rw [filled_cons, induction]
    cases token <;> rfl

theorem fill_filled (index : Nat) :
    fill (.var index) ((put index).map .char) (filled put index tokens) =
      filled put (index + 1) tokens := by
  have both (front back : List Piece) (value : List Piece) :
      fill (.var index) value (front ++ back) =
        fill (.var index) value front ++ fill (.var index) value back := by
    simp [fill]
  have chars (text : List Char) (value : List Piece) :
      fill (.var index) value (text.map .char) = text.map .char := by
    induction text with
    | nil => rfl
    | cons char text induction => simpa [fill] using induction
  induction tokens with
  | nil => rfl
  | cons token tokens induction =>
    rw [filled_cons, both, induction, filled_cons put tokens (index + 1)]
    congr 1
    cases token with
    | char char => exact chars [char] _
    | var other =>
      rcases Nat.lt_trichotomy other index with before | same | after
      · simp only [filled, List.flatMap_singleton, if_pos before,
          if_pos (Nat.lt_succ_of_lt before)]
        exact chars (put other) _
      · simp only [same, filled, List.flatMap_singleton, if_neg (Nat.lt_irrefl index),
          if_pos (Nat.lt_succ_self index)]
        simp [fill]
      · have later : ¬ other < index + 1 := by omega
        simp only [filled, List.flatMap_singleton, if_neg (Nat.not_lt_of_lt after), if_neg later]
        simp [fill, Nat.ne_of_gt after]

theorem mem_of_filled {index count : Nat} (member : .var index ∈ filled put count tokens) :
    .var index ∈ tokens := by
  obtain ⟨token, inside, from_⟩ := List.mem_flatMap.mp member
  cases token with
  | char char => simp at from_
  | var other =>
    dsimp only at from_
    split at from_
    · simp at from_
    · cases List.mem_singleton.mp from_
      exact inside

end

theorem length_filled {first second : Nat → List Char} {count : Nat} {tokens : List Piece}
    (le : ∀ index, (first index).length ≤ (second index).length)
    (same : (textOf spell (filled first count tokens)).length =
      (textOf spell (filled second count tokens)).length) {index : Nat}
    (member : .var index ∈ tokens) (early : index < count) :
    (first index).length = (second index).length := by
  have size (put : Nat → List Char) (token : Piece) (rest : List Piece) :
      (textOf spell (filled put count (token :: rest))).length =
        (textOf spell (filled put count [token])).length +
          (textOf spell (filled put count rest)).length := by
    rw [filled_cons]
    simp [textOf]
  have one (token : Piece) : (textOf spell (filled first count [token])).length ≤
      (textOf spell (filled second count [token])).length := by
    cases token with
    | char char => exact Nat.le_refl _
    | var other =>
      simp only [filled, List.flatMap_singleton]
      split
      · simpa using le other
      · exact Nat.le_refl _
  have all (rest : List Piece) : (textOf spell (filled first count rest)).length ≤
      (textOf spell (filled second count rest)).length := by
    induction rest with
    | nil => exact Nat.le_refl _
    | cons token rest induction =>
      rw [size first, size second]
      exact Nat.add_le_add (one token) induction
  induction tokens with
  | nil => simp at member
  | cons token rest induction =>
    rw [size first, size second] at same
    have here := one token
    have later := all rest
    rcases List.mem_cons.mp member with rfl | member
    · have value (put : Nat → List Char) :
          textOf spell (filled put count [.var index]) = put index := by
        simp [filled, early]
      rw [value first, value second] at here same
      omega
    · exact induction (by omega) member

theorem filled_congr {first second : Nat → List Char} {tokens : List Piece}
    (same : ∀ index, .var index ∈ tokens → first index = second index) (count : Nat) :
    filled first count tokens = filled second count tokens := by
  refine List.flatMap_congr fun token member => ?_
  cases token with
  | char char => rfl
  | var index => simp only [same index member]

/-! ## The passes -/

section

variable (repr : YamlValue → List Char) (context : Entries) (keys : List Key)

theorem substitute_parts (group : List Char) (parts : List (List Char)) (val : YamlValue) :
    substituteParts repr group parts val =
      if isNone (resolveParts parts val) then group
      else embedded repr (resolveParts parts val) := by
  induction parts generalizing val with
  | nil => cases val <;> rfl
  | cons part parts induction =>
    cases val with
    | mapping entries =>
      rw [substituteParts, resolveParts]
      cases Mapping.get? entries (String.ofList part) with
      | some val => exact induction val
      | none => cases parts <;> simp [substituteParts, resolveParts, str, isNone]
    | _ => rfl

variable {repr context keys}

theorem plain_text {index : Nat} (inside : index < keys.length) :
    plainText repr context keys index =
      if isNone (valueOf context keys index) then group keys[index]
      else embeddedText repr context keys index := by
  simp only [plainText, embeddedText, valueOf, List.getElem?_eq_getElem inside, Option.elim_some]
  exact substitute_parts repr _ _ _

theorem embedded_le_plain (index : Nat) : (embeddedText repr context keys index).length ≤
    (plainText repr context keys index).length := by
  by_cases inside : index < keys.length
  · rw [plain_text inside]
    split
    · next null => simp [embeddedText, embedded, null]
    · exact Nat.le_refl _
  · simp [embeddedText, valueOf, inside, embedded, isNone]

theorem passed_unmarked {text : List Char} {index : Nat}
    (unmarked : Unmarked (passed repr context keys text index)) (more : Nat) :
    passed repr context keys text (index + more) = passed repr context keys text index := by
  induction more with
  | zero => rfl
  | succ more induction =>
    have unmet : ¬ placeholder (index + more) <:+: passed repr context keys text index :=
      fun met => unmarked ((marker_within _).trans met)
    exact (congrArg _ induction).trans (replace_of_absent unmet _)

/-- While the cuts are right, the text is spelled by the pieces filled in so far. -/
theorem passed_text {text : List Char} {count : Nat} (alone : ∀ index < count,
    MetAlone spell (.var index) (filled (embeddedText repr context keys) index
      (pieces keys.length 0 text))) :
    passed repr context keys text count = textOf spell
      (filled (embeddedText repr context keys) count (pieces keys.length 0 text)) := by
  induction count with
  | zero => rw [filled_zero, text_pieces]; rfl
  | succ count induction =>
    have earlier := induction fun index before => alone index (Nat.lt_succ_of_lt before)
    have replaced := replace_text spell (.var count) (placeholder_ne_nil count)
      (alone count (Nat.lt_succ_self count))
      ((embeddedText repr context keys count).map .char)
    rw [text_chars, fill_filled] at replaced
    rw [passed, earlier]
    exact replaced

theorem cuts_iff (text : List Char) (count : Nat) :
    (∀ index < count, cutAt (placeholder index) 0 (passed repr context keys text index) =
      ((filled (embeddedText repr context keys) index
        (pieces keys.length 0 text)).splitOn (.var index)).map (textOf spell)) ↔
    ∀ index < count, MetAlone spell (.var index)
      (filled (embeddedText repr context keys) index (pieces keys.length 0 text)) := by
  induction count with
  | zero => simp
  | succ count induction =>
    simp only [Nat.forall_lt_succ_right]
    rw [induction]
    refine and_congr_right fun alone => ?_
    rw [passed_text alone]
    exact cut_at_text_iff spell (.var count) (placeholder_ne_nil count) _

/-- How the loop over the keys ends: with the marker of a variable without a
value as all of the text, or with the text after all passes or a value that is
written so. -/
inductive Ended (repr : YamlValue → List Char) (context : Entries) (keys : List Key)
    (text : List Char) : YamlValue → Prop
  | left (index : Nat) (inside : index < keys.length)
      (null : isNone (valueOf context keys index) = true)
      (whole : passed repr context keys text index = placeholder index) :
      Ended repr context keys text (.str (String.ofList (placeholder index)))
  | value (key : Key) (member : key ∈ keys) (some : isNone (resolveKey context key) = false)
      (written : str repr (resolveKey context key) = passed repr context keys text keys.length) :
      Ended repr context keys text (resolveKey context key)
  | text : Ended repr context keys text
      (.str (String.ofList (passed repr context keys text keys.length)))

theorem resolve_ended (free : ContextFree repr context keys) (text : List Char) :
    Ended repr context keys text (resolveText repr context keys.zipIdx text) := by
  suffices ∀ rest index, keys.drop index = rest → index ≤ keys.length →
      Ended repr context keys text
        (resolveText repr context (rest.zipIdx index) (passed repr context keys text index)) from
    this keys 0 rfl (Nat.zero_le _)
  intro rest
  induction rest with
  | nil =>
    intro index drops le
    have last : index = keys.length := le_antisymm le (List.drop_eq_nil_iff.mp drops)
    exact last ▸ .text
  | cons key rest induction =>
    intro index drops le
    have here : keys[index]? = some key := by
      rw [← List.head?_drop, drops]
      rfl
    obtain ⟨inside, same⟩ := List.getElem?_eq_some_iff.mp here
    have value : valueOf context keys index = resolveKey context key := by simp [valueOf, here]
    have step : passed repr context keys text (index + 1) = replace (placeholder index)
        (embedded repr (resolveKey context key)) (passed repr context keys text index) := by
      rw [passed, embeddedText, value]
    have next := induction (index + 1) (by rw [← List.drop_drop, drops]; rfl) inside
    rw [List.zipIdx_cons, resolveText]
    by_cases met : placeholder index <:+: passed repr context keys text index
    · rw [if_pos met]
      by_cases whole : passed repr context keys text index = placeholder index
      · simp only [if_pos whole]
        cases null : isNone (resolveKey context key) with
        | true => exact whole ▸ .left index inside (value ▸ null) whole
        | false =>
          have member : key ∈ keys := same ▸ List.getElem_mem inside
          have brought : passed repr context keys text (index + 1) =
              embedded repr (resolveKey context key) := by
            rw [step, whole, replace_self (placeholder_ne_nil index)]
          -- A value brings no marker, so the passes that are not made would find nothing.
          have kept := passed_unmarked (brought ▸ (free key member).2) (keys.length - (index + 1))
          rw [Nat.add_sub_cancel' inside, brought, embedded, null] at kept
          exact .value key member null kept.symm
      · simpa only [if_neg whole, ← step] using next
    · rw [replace_of_absent met] at step
      rwa [if_neg met, ← step]

theorem unmarked_text_iff (text : List Char) :
    UnmarkedValue (.str (String.ofList text)) ↔ Unmarked text := by
  simp [UnmarkedValue, texts]

theorem mem_of_whole {index : Nat} {tokens : List Piece}
    (alone : MetAlone spell (.var index) tokens) (whole : textOf spell tokens = placeholder index) :
    .var index ∈ tokens := by
  by_contra absent
  have cuts := (cut_at_text_iff spell (.var index) (placeholder_ne_nil index) tokens).mpr alone
  have met := cut_at_met (placeholder_ne_nil index) []
  rw [List.append_nil] at met
  rw [List.splitOn_eq_singleton absent, whole] at cuts
  rw [show spell (.var index) = placeholder index from rfl, met] at cuts
  simp [cutAt] at cuts

theorem right_text_iff (free : ContextFree repr context keys) (text : List Char) :
    UnmarkedValue (resolveText repr context keys.zipIdx text) ∧ RightText repr context keys text ↔
      SettledText repr context keys text := by
  have ended := resolve_ended free text
  have agree (settled : ∀ index, .var index ∈ pieces keys.length 0 text →
      isNone (valueOf context keys index) = false) (count : Nat) :
      filled (plainText repr context keys) count (pieces keys.length 0 text) =
        filled (embeddedText repr context keys) count (pieces keys.length 0 text) :=
    filled_congr (fun index member => by
      rw [plain_text (index_of_piece member), settled index member]
      rfl) count
  rw [RightText, cuts_iff]
  simp only [SettledText]
  constructor
  · rintro ⟨unmarked, plain, alone⟩
    have after := passed_text alone
    have final : str repr (resolveText repr context keys.zipIdx text) =
        passed repr context keys text keys.length ∧
          Unmarked (passed repr context keys text keys.length) := by
      generalize resolveText repr context keys.zipIdx text = result at *
      cases ended with
      | left index inside null whole =>
        exact absurd (marker_within index) ((unmarked_text_iff _).mp unmarked)
      | value key member some written =>
        have brings := (free key member).2
        rw [embedded, some] at brings
        exact ⟨written, written ▸ brings⟩
      | text => exact ⟨String.toList_ofList, (unmarked_text_iff _).mp unmarked⟩
    have settled (index : Nat) (member : .var index ∈ pieces keys.length 0 text) :
        isNone (valueOf context keys index) = false := by
      have inside := index_of_piece member
      by_contra null
      rw [Bool.not_eq_false] at null
      have same := length_filled embedded_le_plain (by rw [← after, ← plain, final.1])
        member inside
      rw [plain_text inside, embeddedText, embedded, null] at same
      simp [group] at same
    rw [agree settled, ← after]
    refine ⟨settled, fun index inside => ?_, final.2⟩
    rw [agree settled]
    exact alone index inside
  · rintro ⟨settled, alone, unmarked⟩
    simp only [agree settled] at alone unmarked ⊢
    have after := passed_text alone
    rw [← after] at unmarked ⊢
    generalize resolveText repr context keys.zipIdx text = result at *
    cases ended with
    | left index inside null whole =>
      rw [passed_text fun earlier before => alone earlier (before.trans inside)] at whole
      have member := mem_of_filled _ _ (mem_of_whole (alone index inside) whole)
      rw [settled index member] at null
      cases null
    | value key member some written => exact ⟨(free key member).1, written, alone⟩
    | text => exact ⟨(unmarked_text_iff _).mpr unmarked, String.toList_ofList, alone⟩

/-! ## Renderings -/

section

variable (repr context keys) (holds : String → Prop)

/-- What a text of the data has to be like for a property of its resolution. -/
def Becomes (text : Bool × String) : Prop :=
  match text with
  | (true, text) => ∀ after ∈ texts (resolveText repr context keys.zipIdx text.toList), holds after.2
  | (false, text) => holds text

theorem becomes_fixed (fixed : List (Bool × String)) :
    (∀ text ∈ fixed.map (fun text => (false, text.2)), Becomes repr context keys holds text) ↔
      ∀ text ∈ fixed.map (fun text => (false, text.2)), holds text.2 := by
  simp [Becomes]

mutual

theorem resolved_texts (data : YamlValue) :
    (∀ text ∈ texts (resolveYamlPlaceholders repr context keys data), holds text.2) ↔
      ∀ text ∈ texts data, Becomes repr context keys holds text := by
  cases data with
  | str text => simp [resolveYamlPlaceholders, texts, Becomes]
  | mapping entries => exact resolved_entries entries
  | list items => exact resolved_items items
  | set scalars => simp [resolveYamlPlaceholders, texts, Becomes]
  | _ => simp [resolveYamlPlaceholders, texts]

theorem resolved_items (items : List YamlValue) :
    (∀ text ∈ itemTexts (resolveItems repr context keys items), holds text.2) ↔
      ∀ text ∈ itemTexts items, Becomes repr context keys holds text := by
  cases items with
  | nil => simp [resolveItems, itemTexts]
  | cons item rest =>
    simp only [resolveItems, itemTexts, List.forall_mem_append]
    exact and_congr (resolved_texts item) (resolved_items rest)

theorem resolved_entries (entries : Entries) :
    (∀ text ∈ entryTexts (resolveEntries repr context keys entries), holds text.2) ↔
      ∀ text ∈ entryTexts entries, Becomes repr context keys holds text := by
  match entries with
  | [] => simp [resolveEntries, entryTexts]
  | (key, value) :: rest =>
    simp only [resolveEntries, entryTexts, List.forall_mem_append]
    exact and_congr (and_congr (becomes_fixed repr context keys holds _).symm
      (resolved_texts value)) (resolved_entries rest)

end

end

theorem right_iff_settled (free : ContextFree repr context keys) (data : YamlValue) :
    Right repr context keys data (resolveYamlPlaceholders repr context keys data) ↔
      Settled repr context keys data := by
  have unmarked := resolved_texts repr context keys (fun text => Unmarked text.toList) data
  simp only [Right, UnmarkedValue, Settled, ← right_text_iff free]
  rw [unmarked]
  constructor
  · rintro ⟨becomes, right⟩
    exact ⟨fun text member => becomes _ member,
      fun text member => ⟨becomes _ member, right text member⟩⟩
  · rintro ⟨fixed, scalars⟩
    refine ⟨?_, fun text member => (scalars text member).2⟩
    rintro ⟨_ | _, text⟩ member
    · exact fixed text member
    · exact (scalars text member).1

end

section

variable (isWord : Char → Bool) (repr : YamlValue → List Char)
  (safeLoad : List Char → YamlLoad) (safeDump : YamlValue → List Char)

/-- What is read back from the rendering is as it should be. -/
def RendersRight (template : List Char) (context : Entries) (keys : List Key)
    (data : YamlValue) : Prop :=
  ∃ text value, render isWord repr context safeLoad safeDump template = some text ∧
    safeLoad text = .value value ∧ Right repr context keys data value

/-- A YAML template is rendered as the plain substitution would do it exactly if
no variable is in a key, all have values, and no value makes a marker with its
surroundings. -/
theorem renders_right_iff {template text : List Char} {context : Entries} {keys : List Key}
    {data : YamlValue} (marked : protectYamlVars isWord 0 0 template = (text, keys))
    (valid : safeLoad text = .value data) (free : ContextFree repr context keys)
    (empty : safeLoad [] = .value .null)
    (back : safeLoad (TextLines.strip (safeDump (resolveYamlPlaceholders repr context keys data))) =
      .value (resolveYamlPlaceholders repr context keys data)) :
    RendersRight isWord repr safeLoad safeDump template context keys data ↔
      Settled repr context keys data := by
  rw [← right_iff_settled free]
  have rendered : ∃ text, render isWord repr context safeLoad safeDump template = some text ∧
      safeLoad text = .value (resolveYamlPlaceholders repr context keys data) := by
    simp only [render, marked, valid]
    cases data with
    | null => exact ⟨[], rfl, empty⟩
    | _ => exact ⟨_, rfl, back⟩
  obtain ⟨text, renders, reads⟩ := rendered
  constructor
  · rintro ⟨other, value, same, read, right⟩
    cases renders.symm.trans same
    cases reads.symm.trans read
    exact right
  · exact fun right => ⟨text, _, renders, reads, right⟩

end

def sampleData : YamlValue := .mapping [(.str "a", .str "__YTPL_0__")]

def sampleLoad (text : List Char) : YamlLoad :=
  .value (if text = [] then .null else sampleData)

def sampleDump (_ : YamlValue) : List Char := "a: __YTPL_0__".toList

theorem unset_variable_free : ContextFree (fun _ => []) [] [['b']] := by
  intro key member
  cases List.mem_singleton.mp member
  have null : resolveKey [] ['b'] = .null := rfl
  rw [null]
  exact ⟨fun _ member => absurd member List.not_mem_nil, by unfold Unmarked; decide⟩

theorem unset_variable_renders_right_iff :
    RendersRight Char.isAlphanum (fun _ => []) sampleLoad sampleDump "a: {b}".toList [] [['b']]
        sampleData ↔ Settled (fun _ => []) [] [['b']] sampleData :=
  renders_right_iff _ _ _ _ (by decide : _ = (sampleDump .null, _)) rfl unset_variable_free rfl rfl

theorem unset_variable_leaves_marker : Unmarked "a: {b}".toList ∧
    ¬ RendersRight Char.isAlphanum (fun _ => []) sampleLoad sampleDump "a: {b}".toList []
      [['b']] sampleData := by
  refine ⟨by unfold Unmarked; decide, ?_⟩
  rintro ⟨text, value, renders, reads, unmarked, right⟩
  have same : text = sampleDump .null := Option.some.inj (renders.symm.trans (by decide))
  rw [same] at reads
  cases reads.symm.trans (rfl : sampleLoad (sampleDump .null) = .value sampleData)
  exact unmarked (true, "__YTPL_0__") (by decide) (by decide)

end AiEnterpriseOs.TemplateEngine
