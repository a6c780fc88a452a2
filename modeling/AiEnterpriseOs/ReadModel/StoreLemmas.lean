import AiEnterpriseOs.ReadModel.Store

/-!
# Lemmas about the read model's tables

How the statements of one stream act on its table, and which rows can be
inserted.
-/

namespace AiEnterpriseOs.ReadModel

open Library Library.Connection

section StreamLaws

variable (env : ImportEnv)

@[simp] theorem stream_get_set (source : Source) (tables : Tables)
    (rows : List (stream env source).Stored) :
    (stream env source).get ((stream env source).set tables rows) = some rows := by
  cases source <;> rfl

@[simp] theorem stream_set_set (source : Source) (tables : Tables)
    (first second : List (stream env source).Stored) :
    (stream env source).set ((stream env source).set tables first) second =
      (stream env source).set tables second := by
  cases source <;> rfl

theorem stream_set_get {source : Source} {tables : Tables} {rows : List (stream env source).Stored}
    (stored : (stream env source).get tables = some rows) :
    (stream env source).set tables rows = tables := by
  cases source <;> (simp only [stream] at stored ⊢; rw [← stored])

theorem stream_get_other {source other : Source} (distinct : source ≠ other)
    (tables : Tables) (rows : List (stream env other).Stored) :
    (stream env source).get ((stream env other).set tables rows) =
      (stream env source).get tables := by
  cases source <;> cases other <;> first | rfl | exact absurd rfl distinct

theorem stream_get_schema (source : Source) {tables : Tables} (schema : tables.hasSchema = true) :
    ∃ rows, (stream env source).get tables = some rows := by
  simp only [Tables.hasSchema, Bool.and_eq_true, Option.isSome_iff_exists] at schema
  cases source
  · exact schema.1.1.2
  · exact schema.1.2
  · exact schema.2

theorem on_table (source : Source) {tables : Tables} {rows : List (stream env source).Stored}
    (stored : (stream env source).get tables = some rows)
    (change : List (stream env source).Stored → Option (List (stream env source).Stored)) :
    (stream env source).onTable change tables =
      (change rows).map ((stream env source).set tables) := by
  rw [Stream.onTable, stored, Option.bind_some]

theorem apply_all_on_table {Row : Type} (source : Source)
    (insert : Row → List (stream env source).Stored → Option (List (stream env source).Stored))
    (items : List Row) {tables : Tables} {rows : List (stream env source).Stored}
    (stored : (stream env source).get tables = some rows) :
    applyAll (fun row => (stream env source).onTable (insert row)) items tables =
      (applyAll insert items rows).map ((stream env source).set tables) := by
  induction items generalizing tables rows with
  | nil =>
    have same := stream_set_get env stored
    simp only [applyAll, List.foldlM_nil, Option.pure_def, Option.map_some, same]
  | cons item rest ih =>
    rw [apply_all_cons, apply_all_cons, on_table env source stored]
    cases insert item rows with
    | none => rfl
    | some changed =>
      rw [Option.map_some, Option.bind_some, Option.bind_some,
        ih (stream_get_set env source tables changed)]
      congr 1
      funext final
      exact stream_set_set env source tables changed final

end StreamLaws

section Insertable

theorem apply_all_insert_event (items rows : List EventRow)
    (distinct : (rows.map EventRow.eventId).Nodup) :
    (applyAll insertEvent items rows).isSome = true ↔
      ((rows ++ items).map EventRow.eventId).Nodup := by
  induction items generalizing rows with
  | nil => simpa [applyAll] using distinct
  | cons item rest ih =>
    rw [apply_all_cons, insertEvent]
    by_cases taken : (rows.any fun other => other.eventId = item.eventId) = true
    · rw [if_pos taken, Option.bind_none]
      simp only [List.any_eq_true, decide_eq_true_eq] at taken
      obtain ⟨other, member, same⟩ := taken
      constructor
      · intro impossible
        cases impossible
      · intro nodup
        rw [List.map_append, List.nodup_append] at nodup
        exact absurd same (nodup.2.2 _ (List.mem_map_of_mem member) _ (by simp))
    · rw [if_neg taken, Option.bind_some]
      have fresh : ∀ other ∈ rows, other.eventId ≠ item.eventId := by
        simpa using taken
      have extended : ((rows ++ [item]).map EventRow.eventId).Nodup := by
        rw [List.map_append, List.nodup_append]
        refine ⟨distinct, by simp, ?_⟩
        intro id member other otherMember
        obtain ⟨row, rowMember, rfl⟩ := List.mem_map.mp member
        simp only [List.map_cons, List.map_nil, List.mem_singleton] at otherMember
        rw [otherMember]
        exact fresh row rowMember
      rw [ih _ extended, List.append_assoc, List.singleton_append]

theorem apply_all_insert_metric (env : ImportEnv) (items : List (PyValue × String))
    (rows : List MetricRow) :
    (applyAll (insertMetric env) items rows).isSome = true ↔
      ∀ item ∈ items, (bindText env item.1).isSome = true := by
  induction items generalizing rows with
  | nil => simp [applyAll]
  | cons item rest ih =>
    rw [apply_all_cons, insertMetric]
    cases bound : bindText env item.1 with
    | none => simp [bound]
    | some timestamp =>
      rw [Option.map_some, Option.bind_some, ih]
      simp [bound]

theorem apply_all_insert_usage (items rows : List UsageRow) :
    (applyAll insertUsage items rows).isSome = true ↔ ∀ item ∈ items, item.binds = true := by
  induction items generalizing rows with
  | nil => simp [applyAll]
  | cons item rest ih =>
    rw [apply_all_cons, insertUsage]
    by_cases binds : item.binds = true
    · rw [if_pos binds, Option.bind_some, ih]
      simp [binds]
    · rw [if_neg binds]
      simp [binds]

theorem apply_all_insert_info (items : List (String × MetaValue)) (tables : Tables)
    (info : OrderedDict String MetaValue) (stored : tables.info = some info)
    (fresh : ∀ item ∈ items, info.get? item.1 = none)
    (distinct : (items.map Prod.fst).Nodup) :
    applyAll insertInfo items tables = some { tables with info := some (info.setAll items) } := by
  induction items generalizing tables info with
  | nil =>
    rw [OrderedDict.setAll, List.foldl_nil, ← stored]
    rfl
  | cons item rest ih =>
    have absent : info.get? item.1 = none := fresh item List.mem_cons_self
    rw [List.map_cons, List.nodup_cons] at distinct
    rw [apply_all_cons, insertInfo, stored, Option.bind_some, absent,
      if_neg (by simp), Option.bind_some]
    refine ih { tables with info := some (info.set item.1 item.2) }
      (info.set item.1 item.2) rfl ?_ distinct.2
    intro other member
    rw [OrderedDict.get_set, if_neg]
    · exact fresh other (List.mem_cons_of_mem _ member)
    · intro same
      apply distinct.1
      rw [← same]
      exact List.mem_map_of_mem member

/-- Every parsed row can be inserted: the event ids are distinct and every
value can be bound. -/
def ParsedRows.Insertable (env : ImportEnv) (rows : ParsedRows) : Prop :=
  (rows.events.map EventRow.eventId).Nodup ∧
    (∀ item ∈ rows.metrics, (bindText env item.1).isSome = true) ∧
    ∀ item ∈ rows.providerUsage, item.binds = true

end Insertable

end AiEnterpriseOs.ReadModel
