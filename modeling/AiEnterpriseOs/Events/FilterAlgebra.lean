import AiEnterpriseOs.Events.Priorities
import AiEnterpriseOs.Events.Bus
import AiEnterpriseOs.Library.Formula

/-!
# The algebra of filters

A filter is a boolean combination of its leaves. A priority filter compares the texts of the
priorities, which are not in the order of their urgency.
-/

namespace AiEnterpriseOs.Events

open Library

/-- `~self`. -/
def EventFilter.invert (self : EventFilter) : EventFilter := .notFilter self

inductive FilterLeaf where
  | types (eventTypes : List EventType)
  | priority (minPriority : EventPriority)
  | sources (names : List String)
  | tags (requiredTags : List String)
  | payload (conditions : List (String × PyValue))

namespace FilterLeaf

def filter : FilterLeaf → EventFilter
  | .types eventTypes => .typeFilter eventTypes
  | .priority minPriority => .priorityFilter minPriority
  | .sources names => .sourceFilter names
  | .tags requiredTags => .tagFilter requiredTags
  | .payload conditions => .payloadFilter conditions

/-- What the leaf is for. Among the priorities, those that are served no later are accepted. -/
def Accepts (event : Event) : FilterLeaf → Prop
  | .types eventTypes => event.metadata.eventType ∈ eventTypes
  | .priority minPriority => priorityOrder event.metadata.priority ≤ priorityOrder minPriority
  | .sources names => event.metadata.source ∈ names
  | .tags requiredTags => ∀ tag ∈ requiredTags, tag ∈ event.metadata.tags
  | .payload conditions => ∀ condition ∈ conditions,
      ∃ stored, PyValue.field event.payload condition.1 = some stored ∧
        stored.equal condition.2 = true

end FilterLeaf

namespace EventFilter

mutual

def formula : EventFilter → Formula FilterLeaf
  | .typeFilter eventTypes => .atom (.types eventTypes)
  | .priorityFilter minPriority => .atom (.priority minPriority)
  | .sourceFilter sources => .atom (.sources sources)
  | .tagFilter requiredTags => .atom (.tags requiredTags)
  | .payloadFilter conditions => .atom (.payload conditions)
  | .andFilter filters => .all (formulas filters)
  | .orFilter filters => .any (formulas filters)
  | .notFilter inner => .not (formula inner)

def formulas : List EventFilter → List (Formula FilterLeaf)
  | [] => []
  | filter :: rest => formula filter :: formulas rest

end

end EventFilter

/-- A filter, or a chain of them. -/
inductive FilterExpression where
  | single (filter : EventFilter)
  | chain (filters : FilterChain)

namespace FilterExpression

def passes (event : Event) : FilterExpression → Bool
  | .single filter => filter.matchesEvent event
  | .chain filters => filters.passes event

def formula : FilterExpression → Formula FilterLeaf
  | .single filter => filter.formula
  | .chain filters => .all (EventFilter.formulas filters.filters)

/-- The expression is the boolean combination of its leaves, and each leaf accepts what it
is for. -/
structure Evaluates (expression : FilterExpression) (event : Event) : Prop where
  combined : expression.passes event = true ↔
    expression.formula.Holds fun leaf => leaf.filter.matchesEvent event = true
  leaves : ∀ leaf ∈ expression.formula.atoms,
    leaf.filter.matchesEvent event = true ↔ leaf.Accepts event

end FilterExpression

/-- The texts of the priorities are in the order of their urgency. -/
def TextsAgree (priority minPriority : EventPriority) : Prop :=
  priority = minPriority ∨ priority ≠ .background ∧ minPriority ≠ .background ∧
      ¬(priority = .normal ∧ minPriority = .low) ∧ ¬(priority = .low ∧ minPriority = .normal)

section Evaluation

theorem texts_agree_iff (priority minPriority : EventPriority) :
    (priority.value ≤ minPriority.value ↔
      priorityOrder priority ≤ priorityOrder minPriority) ↔ TextsAgree priority minPriority := by
  cases priority <;> cases minPriority <;> simp only [TextsAgree] <;> decide

variable (event : Event)

namespace EventFilter

mutual

theorem matches_iff : ∀ filter : EventFilter, filter.matchesEvent event = true ↔
    filter.formula.Holds fun leaf => leaf.filter.matchesEvent event = true
  | .typeFilter _ => Iff.rfl
  | .priorityFilter _ => Iff.rfl
  | .sourceFilter _ => Iff.rfl
  | .tagFilter _ => Iff.rfl
  | .payloadFilter _ => Iff.rfl
  | .andFilter filters => all_match_iff filters
  | .orFilter filters => any_matches_iff filters
  | .notFilter inner => by
      rw [matchesEvent, formula, Formula.Holds, ← matches_iff inner, Bool.not_eq_true',
        Bool.not_eq_true]

theorem all_match_iff : ∀ filters : List EventFilter, allMatch event filters = true ↔
    Formula.HoldsAll (fun leaf => leaf.filter.matchesEvent event = true) (formulas filters)
  | [] => iff_of_true rfl trivial
  | filter :: rest => by
      rw [allMatch, Bool.and_eq_true, matches_iff filter, all_match_iff rest]
      rfl

theorem any_matches_iff : ∀ filters : List EventFilter, anyMatches event filters = true ↔
    Formula.HoldsAny (fun leaf => leaf.filter.matchesEvent event = true) (formulas filters)
  | [] => iff_of_false nofun id
  | filter :: rest => by
      rw [anyMatches, Bool.or_eq_true, matches_iff filter, any_matches_iff rest]
      rfl

end

end EventFilter

theorem expression_combined (expression : FilterExpression) : expression.passes event = true ↔
      expression.formula.Holds fun leaf => leaf.filter.matchesEvent event = true := by
  cases expression with
  | single filter => exact filter.matches_iff event
  | chain filters =>
    show filters.passes event = true ↔ Formula.HoldsAll _ (EventFilter.formulas filters.filters)
    rw [← EventFilter.all_match_iff, FilterChain.passes]
    cases filters.filters with
    | nil => exact Iff.rfl
    | cons filter rest => exact Iff.rfl

theorem leaf_accepts_iff (leaf : FilterLeaf) :
    (leaf.filter.matchesEvent event = true ↔ leaf.Accepts event) ↔
      ∀ minPriority, leaf = .priority minPriority →
        TextsAgree event.metadata.priority minPriority := by
  cases leaf with
  | types eventTypes =>
    exact iff_of_true (by simp [FilterLeaf.filter, EventFilter.matchesEvent, FilterLeaf.Accepts])
      nofun
  | sources names =>
    exact iff_of_true (by simp [FilterLeaf.filter, EventFilter.matchesEvent, FilterLeaf.Accepts])
      nofun
  | tags requiredTags =>
    exact iff_of_true (by simp [FilterLeaf.filter, EventFilter.matchesEvent, FilterLeaf.Accepts])
      nofun
  | payload conditions =>
    exact iff_of_true (by
      simp [FilterLeaf.filter, EventFilter.matchesEvent, FilterLeaf.Accepts, Option.any_eq_true])
      nofun
  | priority minPriority =>
    rw [FilterLeaf.filter, EventFilter.matchesEvent, decide_eq_true_iff, FilterLeaf.Accepts,
      texts_agree_iff]
    simp

/-- A filter expression evaluates as it should exactly if the texts of its priorities are in
the order of urgency with that of the event, and then it is the boolean combination of what
its leaves are for. -/
theorem filter_evaluates_iff (expression : FilterExpression) : (expression.Evaluates event ↔
      ∀ minPriority, .priority minPriority ∈ expression.formula.atoms →
        TextsAgree event.metadata.priority minPriority) ∧
      (expression.Evaluates event → (expression.passes event = true ↔
          expression.formula.Holds (FilterLeaf.Accepts event))) := by
  constructor
  · constructor
    · intro evaluates minPriority member
      exact (leaf_accepts_iff event _).mp (evaluates.leaves _ member) minPriority rfl
    · intro agree
      refine ⟨expression_combined event expression, ?_⟩
      intro leaf member
      apply (leaf_accepts_iff event leaf).mpr
      intro minPriority same
      exact agree minPriority (same ▸ member)
  · intro evaluates
    exact evaluates.combined.trans (Formula.holds_congr _ evaluates.leaves)

/-- A filter for at least LOW rejects a NORMAL event. -/
theorem low_filter_rejects_normal :
    let event : Event := .sample "e" "test" .normal
    let expression : FilterExpression := .single (.priorityFilter .low)
    priorityOrder .normal < priorityOrder .low ∧ expression.passes event = false ∧
      ¬expression.Evaluates event := by
  refine ⟨by decide, by decide, ?_⟩
  intro evaluates
  have agree := (leaf_accepts_iff _ _).mp
    (evaluates.leaves (.priority .low) (List.mem_singleton_self _)) .low rfl
  simp [TextsAgree, Event.sample] at agree

end Evaluation

end AiEnterpriseOs.Events
