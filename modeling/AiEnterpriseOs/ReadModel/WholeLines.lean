import AiEnterpriseOs.ReadModel.Replay

/-!
# Logs of whole lines

A log that consists of whole lines and is only appended to is cut cleanly
wherever an append ended.
-/

namespace AiEnterpriseOs.ReadModel

open Library Library.Connection
open Library.TextLines

section Text

/-- Nothing of a line is left open. -/
def EndsLine (text : List Char) : Prop :=
  text = [] ∨ ∃ front, text = front ++ ['\n']

theorem ends_line_append {first second : List Char} (firstEnds : EndsLine first)
    (secondEnds : EndsLine second) : EndsLine (first ++ second) := by
  cases secondEnds with
  | inl empty =>
    rw [empty, List.append_nil]
    exact firstEnds
  | inr last =>
    obtain ⟨front, same⟩ := last
    exact .inr ⟨first ++ front, by rw [same, List.append_assoc]⟩

theorem last_piece_closed {isEnd : Char → Bool} (newline : isEnd '\n' = true)
    {text : List Char} (ends : EndsLine text) : lastPiece isEnd text = [] := by
  rcases ends with rfl | ⟨front, rfl⟩
  · rfl
  · exact List.rtakeWhile_concat_neg _ _ _ (by simp [newline])

/-- Both ways to cut lines see the same ones. -/
def SameLines (text : List Char) : Prop :=
  fields splitlinesEnd text = fields universalNewline text

theorem fields_closed_append {isEnd : Char → Bool} (newline : isEnd '\n' = true)
    (carriage : isEnd '\r' = true) {first : List Char} (ends : EndsLine first)
    (second : List Char) :
    fields isEnd (first ++ second) = fields isEnd first ++ fields isEnd second := by
  refine fields_append newline carriage (.inl ?_)
  rw [last_piece_closed newline ends]
  intro char member
  cases member

theorem same_lines_append {first second : List Char} (ends : EndsLine first)
    (firstSame : SameLines first) (secondSame : SameLines second) :
    SameLines (first ++ second) := by
  rw [SameLines, fields_closed_append rfl rfl ends, fields_closed_append rfl rfl ends,
    firstSame, secondSame]

end Text

section Bytes

/-- Well-formed text of whole lines. -/
def WholeLines (bytes : Bytes) : Prop :=
  ∃ text, Utf8.decode bytes = some text ∧ EndsLine text

/-- Whole lines that no reader cuts further. -/
def PlainLines (bytes : Bytes) : Prop :=
  ∃ text, Utf8.decode bytes = some text ∧ EndsLine text ∧ SameLines text

theorem PlainLines.whole {bytes : Bytes} (plain : PlainLines bytes) : WholeLines bytes := by
  obtain ⟨text, decoded, ends, _⟩ := plain
  exact ⟨text, decoded, ends⟩

theorem plain_lines_nil : PlainLines [] := ⟨[], rfl, .inl rfl, rfl⟩

theorem whole_lines_append {first second : Bytes} (firstWhole : WholeLines first)
    (secondWhole : WholeLines second) : WholeLines (first ++ second) := by
  obtain ⟨head, headText, headEnds⟩ := firstWhole
  obtain ⟨tail, tailText, tailEnds⟩ := secondWhole
  refine ⟨head ++ tail, ?_, ends_line_append headEnds tailEnds⟩
  rw [Utf8.decode_append first second head headText, tailText, Option.map_some]

theorem plain_lines_append {first second : Bytes} (firstPlain : PlainLines first)
    (secondPlain : PlainLines second) : PlainLines (first ++ second) := by
  obtain ⟨head, headText, headEnds, headSame⟩ := firstPlain
  obtain ⟨tail, tailText, tailEnds, tailSame⟩ := secondPlain
  refine ⟨head ++ tail, ?_, ends_line_append headEnds tailEnds,
    same_lines_append headEnds headSame tailSame⟩
  rw [Utf8.decode_append first second head headText, tailText, Option.map_some]

theorem clean_cut_lines {front back : Bytes} (whole : WholeLines front)
    (plain : PlainLines back) : CleanCut front back := by
  obtain ⟨head, headText, headEnds⟩ := whole
  obtain ⟨tail, tailText, _, same⟩ := plain
  intro text _
  refine ⟨head, tail, headText, tailText, .inl ?_, same⟩
  rw [last_piece_closed rfl headEnds]
  intro char member
  cases member

end Bytes

section Rows

theorem read_append {env : ImportEnv} {front back : Bytes} {first second : List PyValue}
    (whole : WholeLines front)
    (frontRead : readJsonl env.loads (some front) = some first)
    (backRead : readJsonl env.loads (some back) = some second) :
    readJsonl env.loads (some (front ++ back)) = some (first ++ second) := by
  obtain ⟨head, headText, headEnds⟩ := whole
  obtain ⟨tail, tailText, tailRead⟩ := Option.bind_eq_some_iff.mp backRead
  rw [readJsonl, headText, Option.bind_some, textRecords] at frontRead
  rw [textRecords] at tailRead
  rw [readJsonl, Utf8.decode_append front back head headText, tailText,
    Option.map_some, Option.bind_some, textRecords, fields_closed_append rfl rfl headEnds,
    load_lines_append, frontRead, tailRead]
  rfl

variable (env : ImportEnv)

theorem apply_all_ignore (items rows : List EventRow) :
    (applyAll insertOrIgnoreEvent items rows).isSome = true := by
  induction items generalizing rows with
  | nil => rfl
  | cons item rest ih =>
    rw [apply_all_cons, insertOrIgnoreEvent, Option.bind_some]
    exact ih _

theorem insert_independent (source : Source) (items : List (stream env source).Row)
    (first second : List (stream env source).Stored)
    (inserted : (applyAll (stream env source).insert items first).isSome = true) :
    (applyAll (stream env source).insert items second).isSome = true := by
  cases source with
  | events => exact apply_all_ignore items second
  | metrics =>
    exact (apply_all_insert_metric env items second).mpr
      ((apply_all_insert_metric env items first).mp inserted)
  | providerUsage =>
    exact (apply_all_insert_usage items second).mpr
      ((apply_all_insert_usage items first).mp inserted)

theorem effect_independent (source : Source) (records : List PyValue)
    (first second : List (stream env source).Stored)
    (effect : (recordsEffect env source records first).isSome = true) :
    (recordsEffect env source records second).isSome = true := by
  unfold recordsEffect at effect ⊢
  cases parsed : collectRows (stream env source).parse records with
  | none =>
    rw [parsed] at effect
    cases effect
  | some rows =>
    rw [parsed, Option.bind_some] at effect
    exact insert_independent env source rows first second effect

theorem load_rows_append (source : Source) {front back : Bytes} (whole : WholeLines front)
    (frontLoads : (loadRows env source (some front)).isSome = true)
    (backLoads : (loadRows env source (some back)).isSome = true) :
    (loadRows env source (some (front ++ back))).isSome = true := by
  obtain ⟨rows, loaded⟩ := Option.isSome_iff_exists.mp frontLoads
  obtain ⟨others, othersLoaded⟩ := Option.isSome_iff_exists.mp backLoads
  obtain ⟨first, firstRead, firstEffect⟩ := Option.bind_eq_some_iff.mp loaded
  obtain ⟨second, secondRead, secondEffect⟩ := Option.bind_eq_some_iff.mp othersLoaded
  obtain ⟨parsed, collected, _⟩ := Option.bind_eq_some_iff.mp secondEffect
  rw [loadRows, read_append whole firstRead secondRead, Option.bind_some,
    records_effect_append, collected, Option.bind_some, firstEffect, Option.bind_some]
  exact effect_independent env source second [] rows (Option.isSome_of_eq_some secondEffect)

/-- A row that one record is imported as. -/
def ImportedAs (source : Source) (record : PyValue) (row : (stream env source).Stored) :
    Prop :=
  recordsEffect env source [record] [] = some [row]

theorem keyless_parse {source : Source} (keyless : source ≠ .events) {record : PyValue}
    {found : Option (stream env source).Row}
    (parsed : (stream env source).parse record = some found) :
    ∃ row, found = some row := by
  cases source with
  | events => exact absurd rfl keyless
  | metrics =>
    have mapped : (parseMetric env record).map some = some found := parsed
    obtain ⟨row, _, same⟩ := Option.map_eq_some_iff.mp mapped
    exact ⟨row, same.symm⟩
  | providerUsage =>
    have mapped : (parseProviderUsage env record).map some = some found := parsed
    obtain ⟨row, _, same⟩ := Option.map_eq_some_iff.mp mapped
    exact ⟨row, same.symm⟩

theorem insert_metric_appends {bound : PyValue × String} {rows next : List MetricRow}
    (inserted : insertMetric env bound rows = some next) :
    ∃ stored, next = rows ++ [stored] ∧
      ∀ others, insertMetric env bound others = some (others ++ [stored]) := by
  obtain ⟨timestamp, text, same⟩ := Option.map_eq_some_iff.mp inserted
  refine ⟨{ timestamp := timestamp, snapshot := bound.2 }, same.symm, fun others => ?_⟩
  rw [insertMetric, text, Option.map_some]

theorem insert_usage_appends {row : UsageRow} {rows next : List UsageRow}
    (inserted : insertUsage row rows = some next) :
    ∃ stored, next = rows ++ [stored] ∧
      ∀ others, insertUsage row others = some (others ++ [stored]) := by
  unfold insertUsage at inserted
  split at inserted
  · refine ⟨row, (Option.some.inj inserted).symm, fun others => ?_⟩
    rw [insertUsage, if_pos ‹_›]
  · cases inserted

theorem keyless_insert {source : Source} (keyless : source ≠ .events)
    {row : (stream env source).Row} {rows next : List (stream env source).Stored}
    (inserted : (stream env source).insert row rows = some next) :
    ∃ stored, next = rows ++ [stored] ∧
      ∀ others, (stream env source).insert row others = some (others ++ [stored]) := by
  cases source with
  | events => exact absurd rfl keyless
  | metrics => exact insert_metric_appends env inserted
  | providerUsage => exact insert_usage_appends inserted

theorem one_row_each {source : Source} (keyless : source ≠ .events)
    {records : List PyValue} {start rows : List (stream env source).Stored}
    (effect : recordsEffect env source records start = some rows) :
    ∃ new, rows = start ++ new ∧ List.Forall₂ (ImportedAs env source) records new := by
  induction records generalizing start with
  | nil =>
    have same : start = rows := Option.some.inj effect
    exact ⟨[], by rw [List.append_nil, same], .nil⟩
  | cons record rest ih =>
    obtain ⟨parsedRows, collected, applied⟩ := Option.bind_eq_some_iff.mp effect
    rw [collectRows] at collected
    cases parsed : (stream env source).parse record with
    | none =>
      rw [parsed] at collected
      cases collected
    | some found =>
      rw [parsed] at collected
      obtain ⟨row, rfl⟩ := keyless_parse env keyless parsed
      obtain ⟨others, restCollected, rfl⟩ := Option.map_eq_some_iff.mp collected
      rw [Option.toList_some, List.singleton_append, apply_all_cons] at applied
      obtain ⟨next, inserted, restApplied⟩ := Option.bind_eq_some_iff.mp applied
      obtain ⟨stored, rfl, anywhere⟩ := keyless_insert env keyless inserted
      have restEffect : recordsEffect env source rest (start ++ [stored]) = some rows := by
        rw [recordsEffect, restCollected, Option.bind_some, restApplied]
      obtain ⟨new, rfl, each⟩ := ih restEffect
      refine ⟨stored :: new, by simp, .cons ?_ each⟩
      rw [ImportedAs, recordsEffect, collectRows, parsed]
      simp only [collectRows, Option.map_some, Option.toList_some, List.append_nil,
        Option.bind_some, apply_all_cons, anywhere, List.nil_append]
      rfl

end Rows

end AiEnterpriseOs.ReadModel
