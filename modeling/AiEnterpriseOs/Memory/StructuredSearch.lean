import Mathlib.Data.List.Infix
import Mathlib.Algebra.Order.Ring.Star
import Mathlib.Data.Rat.Star
import AiEnterpriseOs.Library.Ranking
import AiEnterpriseOs.Library.StableSort
import AiEnterpriseOs.Memory.Summary
import AiEnterpriseOs.Memory.Upkeep

/-!
# Structured search

The store filters, ranks and cuts off; what is left is scored by another
formula and sorted again. Scores are exact sums of the decimals that the code
adds up.
-/

namespace AiEnterpriseOs.Memory

open Library

variable {Value : Type}

/-- What a search takes from texts: `str.lower`, the text of a value that is
one, and `str` of a content. -/
structure SearchText (Value : Type) where
  lower : String → String
  asText : Value → Option String
  contentText : OrderedDict String Value → String

/-- `needle in text`. -/
def containsText (needle text : String) : Bool :=
  decide (needle.toList <:+: text.toList)

/-- `text.startswith(needle)`. -/
def startsWithText (needle text : String) : Bool :=
  needle.toList.isPrefixOf text.toList

/-- `text.find(needle)`, none for -1. -/
def findText (needle text : String) : Option Nat :=
  (List.range (text.toList.length + 1)).find? fun start =>
    needle.toList.isPrefixOf (text.toList.drop start)

def searchFields : List String := ["title", "name", "description", "text"]

structure SearchQuery (Value : Type) where
  query : String := ""
  memoryType : Option MemoryType := none
  memoryNamespace : Option MemoryNamespace := none
  tags : List String := []
  source : Option String := none
  minImportance : Rat := 0
  maxResults : Nat := 20
  includeArchived : Bool := false
  startDate : Option Time := none
  endDate : Option Time := none
  parentId : Option String := none
  metadataFilter : OrderedDict String Value := OrderedDict.empty
  importanceBounds : 0 ≤ minImportance ∧ minImportance ≤ 1 := by norm_num
  resultBounds : 1 ≤ maxResults ∧ maxResults ≤ 1000 := by norm_num

/-- A single search result with relevance score. -/
structure SearchResult (Value : Type) where
  entry : MemoryEntry Value
  score : Rat
  matchedFields : List String
  snippet : String
  scoreBounds : 0 ≤ score ∧ score ≤ 1

section Scores

variable (text : SearchText Value) (entry : MemoryEntry Value)

/-- `entry.content.get(field, "")`, if it is a text. -/
def fieldText (field : String) : Option String :=
  match entry.content.get? field with
  | none => some ""
  | some value => text.asText value

/-- Compute text relevance score for an entry; the query is in lower case. -/
def computeRelevance (query : String) : Rat :=
  let summary := text.lower entry.summary
  let score : Rat := if containsText query summary then
    1 + if startsWithText query summary then 1 / 2 else 0 else 0
  let score := entry.tags.foldl (fun score tag =>
    score + if containsText query (text.lower tag) then (4 / 5 : Rat) else 0) score
  let score := searchFields.foldl (fun score field =>
    score + match fieldText text entry field with
      | none => (0 : Rat)
      | some value =>
        if containsText query (text.lower value) then
          3 / 5 + if startsWithText query (text.lower value) then 3 / 10 else 0
        else 0) score
  let source := text.lower entry.source
  let score := score + if containsText query source then (2 / 5 : Rat) else 0
  let content := text.lower (text.contentText entry.content)
  score + if containsText query content then (3 / 10 : Rat) else 0

/-- The part of the score that the query text gives. -/
def textScore (query : String) : Rat :=
  let summary := text.lower entry.summary
  let score : Rat := if containsText query summary then
    2 / 5 + if startsWithText query summary then 1 / 5 else 0 else 0
  let score := entry.tags.foldl (fun score tag =>
    score + if containsText query (text.lower tag) then (3 / 10 : Rat) else 0) score
  let score := searchFields.foldl (fun score field =>
    score + match fieldText text entry field with
      | none => (0 : Rat)
      | some value =>
        (if containsText query (text.lower value) then 1 / 4 else 0) +
          if startsWithText query (text.lower value) then 3 / 20 else 0) score
  let source := text.lower entry.source
  let score := score + if containsText query source then (1 / 5 : Rat) else 0
  let content := text.lower (text.contentText entry.content)
  score + if containsText query content then (1 / 10 : Rat) else 0

/-- Compute relevance score for an entry against query. -/
def computeScore (now : Time) (query : String) : Rat :=
  let score := entry.importance * (3 / 10)
  let score := if query = "" then score
    else score + textScore text entry (text.lower query)
  let age := entry.ageDays now
  let score := score + if age < 7 then 1 / 10 else if age < 30 then 1 / 20 else 0
  let score := score + min (entry.version * (1 / 100)) (1 / 20)
  min score 1

def getMatchedFields (query : String) : List String :=
  if query = "" then []
  else
    let query := text.lower query
    let summary := if containsText query (text.lower entry.summary) then ["summary"] else []
    let tags := if entry.tags.any fun tag => containsText query (text.lower tag) then ["tags"]
      else []
    let fields := searchFields.filter fun field =>
      (fieldText text entry field).any fun value => containsText query (text.lower value)
    let source := if containsText query (text.lower entry.source) then ["source"] else []
    summary ++ tags ++ fields ++ source

/-- The text around a match, with dots where something is cut off. -/
def snippetAround (whole : String) (found length : Nat) : String :=
  let start := found - 50
  let stop := min whole.length (found + length + 50)
  let snippet := String.ofList ((whole.toList.drop start).take (stop - start))
  let snippet := if 0 < start then "..." ++ snippet else snippet
  if stop < whole.length then snippet ++ "..." else snippet

/-- Generate a context snippet highlighting matches. -/
def generateSnippet (query : String) : String :=
  let whole := if entry.summary = "" then text.contentText entry.content else entry.summary
  if query = "" then clip 200 whole
  else
    match findText (text.lower query) (text.lower whole) with
    | none => clip 200 whole
    | some found => snippetAround whole found query.length

end Scores

/-- A result is validated when it is built. -/
def SearchResult.create (entry : MemoryEntry Value) (score : Rat)
    (matchedFields : List String) (snippet : String) : Option (SearchResult Value) :=
  if bounds : 0 ≤ score ∧ score ≤ 1 then
    some
      { entry := entry
        score := score
        matchedFields := matchedFields
        snippet := snippet
        scoreBounds := bounds }
  else none

/-- `store.search` with the source's relevance. -/
def MemoryEnv.withRelevance (env : MemoryEnv Value) (text : SearchText Value) :
    MemoryEnv Value :=
  { env with relevance := fun entry query => computeRelevance text entry (text.lower query) }

/-- What a structured search hands to the store: neither the source nor the
dates nor the metadata filter. -/
def SearchQuery.filters (query : SearchQuery Value) : SearchFilters Value where
  query := query.query
  memoryNamespace := (query.memoryNamespace.map MemoryNamespace.value).getD ""
  memoryType := (query.memoryType.map MemoryType.value).getD ""
  tags := query.tags
  minImportance := query.minImportance
  includeArchived := query.includeArchived
  parentId := query.parentId.getD ""
  limit := query.maxResults

/-- The result for an entry that the store has found. -/
def SearchQuery.result (text : SearchText Value) (now : Time) (query : SearchQuery Value)
    (entry : MemoryEntry Value) : Option (SearchResult Value) :=
  SearchResult.create entry (computeScore text entry now query.query)
    (getMatchedFields text entry query.query) (generateSnippet text entry query.query)

def MemoryStore.searchStructured (env : MemoryEnv Value) (text : SearchText Value)
    (now : Time) (query : SearchQuery Value) (store : MemoryStore Value) :
    Option (List (SearchResult Value)) :=
  let entries := store.search (env.withRelevance text) query.filters
  (entries.mapM (query.result text now)).map (sortedDown SearchResult.score)

/-! ## What a query asks for -/

section Asked

variable (env : MemoryEnv Value) (text : SearchText Value)

/-- The query text, in lower case, occurs in the entry. -/
def textMatches (entry : MemoryEntry Value) (query : String) : Bool :=
  containsText query (text.lower entry.summary) ||
    (entry.tags.any fun tag => containsText query (text.lower tag)) ||
    (searchFields.any fun field =>
      (fieldText text entry field).any fun value => containsText query (text.lower value)) ||
    containsText query (text.lower entry.source) ||
    containsText query (text.lower (text.contentText entry.content))

/-- The entry meets every filter of the query. -/
def SearchQuery.satisfied (query : SearchQuery Value) (entry : MemoryEntry Value) : Bool :=
  (query.includeArchived || !entry.archived) &&
    (query.memoryNamespace.all fun space => decide (entry.memoryNamespace = space)) &&
    (query.memoryType.all fun type => decide (entry.memoryType = type)) &&
    (query.tags.all fun tag => decide (tag ∈ entry.tags)) &&
    (query.source.all fun source => decide (entry.source = source)) &&
    decide (query.minImportance ≤ entry.importance) &&
    (query.startDate.all fun start => decide (start ≤ entry.createdAt)) &&
    (query.endDate.all fun stop => decide (entry.createdAt ≤ stop)) &&
    (query.parentId.all fun parentId =>
      decide (parentId = "") || decide (entry.parentId = some parentId)) &&
    (query.metadataFilter.entries.all fun filter => metadataMatches env filter entry) &&
    (decide (query.query = "") || textMatches text entry (text.lower query.query))

namespace MemoryStore

/-- The entry is listed under a key of an index. -/
def lists (store : MemoryStore Value) (kind : IndexKind) (key : String)
    (entry : MemoryEntry Value) : Bool :=
  decide (entry.id ∈ ((store.index kind).bucket key).ids)

/-- The entry passes the filters that the store applies before it ranks. -/
def passesFilters (store : MemoryStore Value) (query : SearchQuery Value)
    (entry : MemoryEntry Value) : Bool :=
  (query.includeArchived || !entry.archived) && (query.memoryNamespace.all fun space =>
      store.lists .namespaceIndex space.value entry) &&
    (query.memoryType.all fun type => store.lists .typeIndex type.value entry) &&
    (query.tags.all fun tag => store.lists .tagIndex tag entry) &&
    (!decide (0 < query.minImportance) || decide (query.minImportance ≤ entry.importance)) &&
    query.parentId.all fun parentId =>
      decide (parentId = "") || store.lists .parentIndex parentId entry

/-- The entries that the store ranks. -/
def candidates (store : MemoryStore Value) (query : SearchQuery Value) : List (MemoryEntry Value) :=
  store.getAll.filter fun entry => store.passesFilters query entry &&
    (decide (query.query = "") || textMatches text entry (text.lower query.query))

end MemoryStore

/-- The order of the store: relevance where there is a query text, importance
and creation where there is none. -/
def SearchQuery.RanksBefore (query : SearchQuery Value) (left right : MemoryEntry Value) :
    Prop :=
  if query.query = "" then Memory.RanksBefore left right
  else computeRelevance text right (text.lower query.query) ≤
    computeRelevance text left (text.lower query.query)

instance (query : SearchQuery Value) : DecidableRel (query.RanksBefore text) := by
  intro left right
  unfold SearchQuery.RanksBefore
  infer_instance

end Asked

section Relevance

theorem sum_pos_iff {left right : Rat} (leftNonneg : 0 ≤ left) (rightNonneg : 0 ≤ right) :
    0 < left + right ↔ 0 < left ∨ 0 < right := by
  constructor
  · intro positive
    by_contra neither
    rw [not_or, not_lt, not_lt] at neither
    exact absurd positive (not_lt.mpr (add_nonpos neither.1 neither.2))
  · rintro (first | second)
    · exact add_pos_of_pos_of_nonneg first rightNonneg
    · exact add_pos_of_nonneg_of_pos leftNonneg second

theorem bonuses_pos_iff {Item : Type} (bonus : Item → Rat)
    (nonneg : ∀ item, 0 ≤ bonus item) (items : List Item) {score : Rat} (start : 0 ≤ score) :
    0 ≤ items.foldl (fun score item => score + bonus item) score ∧
      (0 < items.foldl (fun score item => score + bonus item) score ↔
        0 < score ∨ ∃ item ∈ items, 0 < bonus item) := by
  induction items generalizing score with
  | nil => exact ⟨start, by simp⟩
  | cons item rest ih =>
    obtain ⟨sum_nonneg, sum_pos⟩ := ih (add_nonneg start (nonneg item))
    refine ⟨sum_nonneg, ?_⟩
    rw [List.foldl_cons, sum_pos, sum_pos_iff start (nonneg item), or_assoc]
    simp

theorem bonus_cases (test : Bool) {bonus : Rat} (positive : 0 < bonus) :
    0 ≤ (if test then bonus else 0) ∧ (0 < (if test then bonus else 0) ↔ test = true) := by
  cases test with
  | true => exact ⟨le_of_lt positive, iff_of_true positive rfl⟩
  | false => exact ⟨le_refl _, iff_of_false (lt_irrefl _) Bool.false_ne_true⟩

variable {text : SearchText Value}

theorem field_bonus_cases (entry : MemoryEntry Value) (query field : String) :
    let bonus := match fieldText text entry field with
      | none => (0 : Rat)
      | some value =>
        if containsText query (text.lower value) then
          3 / 5 + if startsWithText query (text.lower value) then 3 / 10 else 0
        else 0
    0 ≤ bonus ∧ (0 < bonus ↔ ((fieldText text entry field).any fun value =>
      containsText query (text.lower value)) = true) := by
  cases fieldText text entry field with
  | none => exact ⟨le_refl _, iff_of_false (lt_irrefl _) Bool.false_ne_true⟩
  | some value =>
    apply bonus_cases
    split <;> norm_num

theorem relevance_pos_iff (entry : MemoryEntry Value) (query : String) :
    0 < computeRelevance text entry query ↔ textMatches text entry query = true := by
  have summary_bonus : (0 : Rat) < 1 +
      if startsWithText query (text.lower entry.summary) then 1 / 2 else 0 := by
    split <;> norm_num
  obtain ⟨summary_nonneg, summary_pos⟩ :=
    bonus_cases (containsText query (text.lower entry.summary)) summary_bonus
  have tag_bonus : ∀ tag, _ := fun tag =>
    @bonus_cases (containsText query (text.lower tag)) (4 / 5) (by norm_num)
  obtain ⟨tags_nonneg, tags_pos⟩ := bonuses_pos_iff _ (fun tag => (tag_bonus tag).1)
    entry.tags summary_nonneg
  obtain ⟨fields_nonneg, fields_pos⟩ := bonuses_pos_iff _
    (fun field => (field_bonus_cases entry query field).1) searchFields tags_nonneg
  obtain ⟨source_nonneg, source_pos⟩ :=
    @bonus_cases (containsText query (text.lower entry.source)) (2 / 5) (by norm_num)
  obtain ⟨content_nonneg, content_pos⟩ :=
    @bonus_cases (containsText query (text.lower (text.contentText entry.content))) (3 / 10)
      (by norm_num)
  unfold computeRelevance textMatches
  dsimp only
  rw [sum_pos_iff (add_nonneg fields_nonneg source_nonneg) content_nonneg,
    sum_pos_iff fields_nonneg source_nonneg, fields_pos, tags_pos, summary_pos, source_pos,
    content_pos]
  simp only [Bool.or_eq_true, List.any_eq_true, (tag_bonus _).2,
    (field_bonus_cases entry query _).2]

end Relevance

/-! ## What the store finds -/

namespace MemoryStore

variable {env : MemoryEnv Value} {text : SearchText Value}

theorem namespace_value_ne (space : MemoryNamespace) : space.value ≠ "" := by
  cases space <;> decide

theorem type_value_ne (type : MemoryType) : type.value ≠ "" := by
  cases type <;> decide

theorem filter_entries_passes (query : SearchQuery Value) (store : MemoryStore Value)
    (entries : List (MemoryEntry Value)) :
    filterEntries (env.withRelevance text) (fun kind key entry => store.lists kind key entry)
        query.filters entries =
      entries.filter (store.passesFilters query) := by
  have space : ∀ entry, (decide ((query.memoryNamespace.map MemoryNamespace.value).getD "" = "") ||
        store.lists .namespaceIndex ((query.memoryNamespace.map MemoryNamespace.value).getD "")
          entry) =
        query.memoryNamespace.all fun space =>
          store.lists .namespaceIndex space.value entry := by
    intro entry
    cases query.memoryNamespace with
    | none => rfl
    | some space => simp [namespace_value_ne]
  have type : ∀ entry, (decide ((query.memoryType.map MemoryType.value).getD "" = "") ||
      store.lists .typeIndex ((query.memoryType.map MemoryType.value).getD "") entry) =
        query.memoryType.all fun type => store.lists .typeIndex type.value entry := by
    intro entry
    cases query.memoryType with
    | none => rfl
    | some type => simp [type_value_ne]
  have parent : ∀ entry, (decide (query.parentId.getD "" = "") ||
      store.lists .parentIndex (query.parentId.getD "") entry) = query.parentId.all fun parentId =>
          decide (parentId = "") || store.lists .parentIndex parentId entry := by
    intro entry
    cases query.parentId <;> rfl
  unfold filterEntries
  simp only [List.filter_filter]
  apply List.filter_congr
  intro entry _
  rw [passesFilters, ← space entry, ← type entry, ← parent entry, Bool.eq_iff_iff]
  simp only [Bool.and_eq_true, SearchQuery.filters, List.all_nil]
  tauto

theorem search_candidates (query : SearchQuery Value) (store : MemoryStore Value) :
    store.search (env.withRelevance text) query.filters =
      ((store.candidates text query).insertionSort (query.RanksBefore text)).take
        query.maxResults := by
  have slice : ∀ entries : List (MemoryEntry Value),
      sliceLimit query.filters.limit entries = entries.take query.maxResults := by
    intro entries
    exact if_pos (Int.natCast_nonneg _)
  have found : store.search (env.withRelevance text) query.filters =
      rankEntries (env.withRelevance text) query.filters
        (store.getAll.filter (store.passesFilters query)) :=
    congrArg _ (filter_entries_passes query store store.getAll)
  have split : store.candidates text query =
      (store.getAll.filter (store.passesFilters query)).filter fun entry =>
        decide (query.query = "") || textMatches text entry (text.lower query.query) := by
    rw [List.filter_filter, candidates]
    apply List.filter_congr
    intro entry _
    exact Bool.and_comm _ _
  have asked : query.filters.query = query.query := rfl
  rw [found, rankEntries, slice, slice, split, asked]
  by_cases textless : query.query = ""
  · have all : ((store.getAll.filter (store.passesFilters query)).filter fun entry =>
        decide (query.query = "") || textMatches text entry (text.lower query.query)) =
          store.getAll.filter (store.passesFilters query) := by
      apply List.filter_eq_self.mpr
      intro entry _
      rw [decide_eq_true textless, Bool.true_or]
    rw [if_pos textless, all]
    congr 1
    apply insertion_sort_congr
    intro left right
    rw [SearchQuery.RanksBefore, if_pos textless]
  · have scored : ((store.getAll.filter (store.passesFilters query)).filter fun entry =>
        decide (query.query = "") || textMatches text entry (text.lower query.query)) =
          (store.getAll.filter (store.passesFilters query)).filter fun entry =>
            0 < (env.withRelevance text).relevance entry query.query := by
      apply List.filter_congr
      intro entry _
      rw [decide_eq_false textless, Bool.false_or, Bool.eq_iff_iff, decide_eq_true_eq]
      exact (relevance_pos_iff entry _).symm
    rw [if_neg textless, scored]
    congr 1
    apply insertion_sort_congr
    intro left right
    rw [SearchQuery.RanksBefore, if_neg textless]
    rfl

end MemoryStore

/-! ## What is returned -/

section Results

variable {text : SearchText Value} {now : Time} {query : SearchQuery Value}

theorem score_le_one (entry : MemoryEntry Value) : computeScore text entry now query.query ≤ 1 :=
  min_le_right _ _

theorem result_is_some_iff (entry : MemoryEntry Value) :
    (query.result text now entry).isSome = true ↔ 0 ≤ computeScore text entry now query.query := by
  unfold SearchQuery.result SearchResult.create
  by_cases valid : 0 ≤ computeScore text entry now query.query
  · rw [dif_pos ⟨valid, score_le_one entry⟩]
    exact iff_of_true rfl valid
  · rw [dif_neg fun bounds => valid bounds.1]
    exact iff_of_false Bool.false_ne_true valid

theorem result_fields {entry : MemoryEntry Value} {result : SearchResult Value}
    (built : query.result text now entry = some result) :
    result.entry = entry ∧ result.score = computeScore text entry now query.query := by
  unfold SearchQuery.result SearchResult.create at built
  split at built
  · cases built
    exact ⟨rfl, rfl⟩
  · cases built

variable {env : MemoryEnv Value} {store : MemoryStore Value}

theorem structured_results {found : List (MemoryEntry Value)}
    (searched : store.search (env.withRelevance text) query.filters = found)
    (results : List (SearchResult Value))
    (returned : store.searchStructured env text now query = some results) :
    results.map SearchResult.entry =
        sortedDown (fun entry => computeScore text entry now query.query) found ∧
      ∀ result ∈ results, result.score = computeScore text result.entry now query.query := by
  unfold MemoryStore.searchStructured at returned
  rw [searched] at returned
  obtain ⟨built, all, sorted⟩ := Option.map_eq_some_iff.mp returned
  have scores : ∀ result ∈ built,
      result.score = computeScore text result.entry now query.query := by
    intro result member
    obtain ⟨entry, _, here⟩ := mem_of_mapM all member
    rw [(result_fields here).1, (result_fields here).2]
  have entries := map_of_mapM (fun _ _ here => (result_fields here).1) all
  rw [← sorted, ← entries]
  constructor
  · apply List.map_insertionSort
    intro left leftMember right rightMember
    rw [scores left leftMember, scores right rightMember]
  · intro result member
    exact scores result ((List.mem_insertionSort _).mp member)

theorem structured_returned_iff {found : List (MemoryEntry Value)}
    (searched : store.search (env.withRelevance text) query.filters = found) :
    (∃ results, store.searchStructured env text now query = some results) ↔
      ∀ entry ∈ found, 0 ≤ computeScore text entry now query.query := by
  rw [← Option.isSome_iff_exists, MemoryStore.searchStructured, searched, Option.isSome_map,
    mapM_is_some_iff]
  simp only [result_is_some_iff]

end Results

/-! ## The best of all entries that satisfy the query -/

section Best

variable (env : MemoryEnv Value) (text : SearchText Value) (now : Time) (query : SearchQuery Value)

namespace MemoryStore

variable (store : MemoryStore Value)

/-- A structured search returns the best of the entries that satisfy the
query, best first, each with its score. -/
def ReturnsBest : Prop :=
  ∃ results, store.searchStructured env text now query = some results ∧
    (∀ result ∈ results, result.score = computeScore text result.entry now query.query) ∧
      IsTop (fun entry => computeScore text entry now query.query) query.maxResults
        (store.getAll.filter (query.satisfied env text)) (results.map SearchResult.entry)

/-- The order in which the store lists its entries. -/
def ListedBefore (left right : MemoryEntry Value) : Prop :=
  store.entries.keys.idxOf left.id < store.entries.keys.idxOf right.id

instance : DecidableRel store.ListedBefore :=
  fun _ _ => inferInstanceAs (Decidable (_ < _))

/-- An entry that the store ranks, and fewer than `max_results` come before it. -/
def Takes (entry : MemoryEntry Value) : Prop :=
  entry ∈ store.candidates text query ∧ (store.candidates text query).countP (fun other =>
      StablyBefore (query.RanksBefore text) store.ListedBefore other entry) < query.maxResults

/-- What the store takes satisfies the query and scores no less than zero, and
what it does not take leaves it with `max_results` others, none of which
scores less. -/
structure TakesBest : Prop where
  taken : ∀ entry, store.Takes text query entry →
    query.satisfied env text entry = true ∧ 0 ≤ computeScore text entry now query.query
  left : ∀ entry ∈ store.getAll, query.satisfied env text entry = true →
    ¬store.Takes text query entry → query.maxResults ≤ (store.candidates text query).length ∧
        ∀ other, store.Takes text query other →
          computeScore text entry now query.query ≤ computeScore text other now query.query

variable {env text now query store}

theorem query_ranks_total (left right : MemoryEntry Value) :
    query.RanksBefore text left right ∨ query.RanksBefore text right left := by
  unfold SearchQuery.RanksBefore
  split
  · exact ranks_before_total left right
  · exact le_total _ _

theorem query_ranks_trans (first second third : MemoryEntry Value)
    (before : query.RanksBefore text first second)
    (after : query.RanksBefore text second third) : query.RanksBefore text first third := by
  unfold SearchQuery.RanksBefore at *
  by_cases textless : query.query = ""
  · rw [if_pos textless] at *
    exact ranks_before_trans first second third before after
  · rw [if_neg textless] at *
    exact le_trans after before

theorem listed_in_order (keyed : store.Keyed) : store.getAll.Pairwise store.ListedBefore := by
  have places := pairwise_idx_of keyed.distinct_ids
  rw [List.pairwise_map, keyed.ids_listed] at places
  exact places

theorem found_iff (keyed : store.Keyed) (entry : MemoryEntry Value) :
    entry ∈ ((store.candidates text query).insertionSort (query.RanksBefore text)).take
        query.maxResults ↔ store.Takes text query entry := by
  have asymmetric : ∀ left right, store.ListedBefore left right →
      ¬store.ListedBefore right left := fun _ _ before => Nat.lt_asymm before
  have inOrder : (store.candidates text query).Pairwise store.ListedBefore :=
    (listed_in_order keyed).sublist List.filter_sublist
  constructor
  · intro found
    have candidate := (List.mem_insertionSort _).mp (List.mem_of_mem_take found)
    refine ⟨candidate, ?_⟩
    rw [mem_take_sorted_iff query_ranks_total query_ranks_trans asymmetric inOrder candidate]
      at found
    exact found
  · rintro ⟨candidate, few⟩
    rw [mem_take_sorted_iff query_ranks_total query_ranks_trans asymmetric inOrder candidate]
    exact few

theorem returns_best_iff (keyed : store.Keyed) :
    store.ReturnsBest env text now query ↔ store.TakesBest env text now query := by
  let found := ((store.candidates text query).insertionSort (query.RanksBefore text)).take
    query.maxResults
  have searched : store.search (env.withRelevance text) query.filters = found :=
    search_candidates query store
  have all_distinct : store.getAll.Nodup := List.Nodup.of_map _ keyed.distinct_ids
  have found_distinct : found.Nodup := by
    apply List.Nodup.sublist (List.take_sublist _ _)
    exact (List.perm_insertionSort _ _).nodup_iff.mpr (all_distinct.filter _)
  have few : found.length ≤ query.maxResults := List.length_take_le _ _
  have full : found.length = query.maxResults ↔
      query.maxResults ≤ (store.candidates text query).length := by
    rw [List.length_take, List.length_insertionSort]
    omega
  have top := @is_top_sorted_iff _ _ _ (fun entry => computeScore text entry now query.query)
    _ _ _ (all_distinct.filter (query.satisfied env text)) found_distinct few
  have satisfying : ∀ entry, entry ∈ store.getAll.filter (query.satisfied env text) ↔
      entry ∈ store.getAll ∧ query.satisfied env text entry = true :=
    fun entry => List.mem_filter
  have taken : ∀ entry, entry ∈ found ↔ store.Takes text query entry := found_iff keyed
  simp only [satisfying, taken, full] at top
  have scored := @structured_returned_iff _ _ now _ _ _ _ searched
  simp only [taken] at scored
  constructor
  · rintro ⟨results, returned, _, best⟩
    rw [(structured_results searched results returned).1, top] at best
    refine { taken := ?_, left := ?_ }
    · intro entry takes
      exact ⟨(best.1 entry takes).2, scored.mp ⟨results, returned⟩ entry takes⟩
    · intro entry listed satisfied untaken
      exact best.2 entry ⟨listed, satisfied⟩ untaken
  · rintro ⟨served, left⟩
    obtain ⟨results, returned⟩ := scored.mpr fun entry takes => (served entry takes).2
    obtain ⟨entries, scores⟩ := structured_results searched results returned
    refine ⟨results, returned, scores, ?_⟩
    rw [entries, top]
    constructor
    · intro entry takes
      have listed : entry ∈ store.getAll := List.mem_of_mem_filter takes.1
      exact ⟨listed, (served entry takes).1⟩
    · rintro entry ⟨listed, satisfied⟩ untaken
      exact left entry listed satisfied untaken

end MemoryStore

end Best

def asciiText : SearchText PyValue where
  lower := String.toLower
  asText
    | .str text => some text
    | _ => none
  contentText _ := "\x7b\x7d"

/-- An entry from one source. -/
def sourceInputs : List (MemoryInput PyValue) :=
  [{ op := .save { content := OrderedDict.empty, source := "mail" }, now := 0 }]

end AiEnterpriseOs.Memory
