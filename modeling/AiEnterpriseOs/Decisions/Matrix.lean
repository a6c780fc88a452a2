import AiEnterpriseOs.Library.OrderedDict
import AiEnterpriseOs.Library.Ranking
import AiEnterpriseOs.Library.StableSort
import Mathlib.Algebra.Order.Ring.Rat

/-!
# The decision matrix

Options are weighed against criteria. The scores are kept under the ids of the
options, with a hash in place of a missing one, and the ranking orders these
keys.
-/

namespace AiEnterpriseOs.Decisions

open Library

structure MatrixCriterion where
  weight : Rat
  description : String
  isBeneficial : Bool

/-- An option as the matrix reads it: its `id`, where `some none` is an explicit
`None`, the number `option.get(name, 0)` of every criterion, and `str(option)`. -/
structure MatrixOption (Name : Type*) where
  id : Option (Option Name)
  score : String → Rat
  text : String

structure OptionDetail (Name : Type*) where
  criterionScores : OrderedDict String Rat
  totalScore : Rat
  optionData : MatrixOption Name

structure MatrixResults (Name : Type*) where
  scores : OrderedDict (Option Name) Rat
  ranking : List (Option Name)
  details : Option (OrderedDict (Option Name) (OptionDetail Name))
  method : String
  criteriaUsed : Option (List String)

structure DecisionMatrix where
  criteria : OrderedDict String MatrixCriterion

namespace DecisionMatrix

def addCriterion (matrix : DecisionMatrix) (name : String) (weight : Rat)
    (description : String) (isBeneficial : Bool) : DecisionMatrix :=
  { criteria := matrix.criteria.set name
      { weight := weight, description := description, isBeneficial := isBeneficial } }

def effectiveWeights (matrix : DecisionMatrix) (weights : Option (OrderedDict String Rat)) :
    OrderedDict String Rat :=
  let own := OrderedDict.empty.setAll
    (matrix.criteria.entries.map fun entry => (entry.1, entry.2.weight))
  match weights with
  | none => own
  | some overrides => if overrides.entries = [] then own else overrides

section

variable {Name : Type*}

def weightedScore (effective : OrderedDict String Rat) (option : MatrixOption Name)
    (entry : String × MatrixCriterion) : Rat :=
  let rawScore := option.score entry.1
  let weight := effective.getD entry.1 entry.2.weight
  (if entry.2.isBeneficial then rawScore else 1 - rawScore) * weight

/-- The inner loop of `evaluate`. -/
def scoreOption (matrix : DecisionMatrix) (effective : OrderedDict String Rat)
    (option : MatrixOption Name) : OrderedDict String Rat × Rat :=
  matrix.criteria.entries.foldl (fun sums entry =>
      let weighted := weightedScore effective option entry
      (sums.1.set entry.1 weighted, sums.2 + weighted))
    (OrderedDict.empty, 0)

variable [DecidableEq Name] (hashText : String → Name)

def optionId (option : MatrixOption Name) : Option Name :=
  option.id.getD (some (hashText option.text))

/-- The outer loop of `evaluate`. -/
def scoreOptions (matrix : DecisionMatrix) (effective : OrderedDict String Rat)
    (options : List (MatrixOption Name)) :
    OrderedDict (Option Name) Rat × OrderedDict (Option Name) (OptionDetail Name) :=
  options.foldl (fun tables option =>
      let optionId := optionId hashText option
      let sums := matrix.scoreOption effective option
      (tables.1.set optionId sums.2, tables.2.set optionId
          { criterionScores := sums.1, totalScore := sums.2, optionData := option }))
    (OrderedDict.empty, OrderedDict.empty)

def evaluate (matrix : DecisionMatrix) (options : List (MatrixOption Name))
    (weights : Option (OrderedDict String Rat)) : MatrixResults Name :=
  if matrix.criteria.entries = [] then
    { scores := OrderedDict.empty
      ranking := []
      details := none
      method := "no_criteria"
      criteriaUsed := none }
  else
    let tables := matrix.scoreOptions hashText (matrix.effectiveWeights weights) options
    { scores := tables.1
      ranking := sortedDown (fun key => tables.1.getD key 0) tables.1.keys
      details := some tables.2
      method := "weighted_sum"
      criteriaUsed := some matrix.criteria.keys }

def getTopOption (matrix : DecisionMatrix) (options : List (MatrixOption Name))
    (weights : Option (OrderedDict String Rat)) : Option (MatrixOption Name) :=
  match (matrix.evaluate hashText options weights).ranking with
  | [] => none
  | topId :: _ => options.find? fun option => option.id.join = topId

def getOptionScore (matrix : DecisionMatrix) (option : MatrixOption Name)
    (weights : Option (OrderedDict String Rat)) : Rat :=
  (matrix.evaluate hashText [option] weights).scores.getD (optionId hashText option) 0

end

section Ranking

variable {Name : Type*}

/-- The sum that an option is ranked by. -/
def weightedSum (matrix : DecisionMatrix) (weights : Option (OrderedDict String Rat))
    (option : MatrixOption Name) : Rat :=
  matrix.criteria.entries.foldr
    (fun entry total => weightedScore (matrix.effectiveWeights weights) option entry + total) 0

theorem score_option_total (matrix : DecisionMatrix)
    (weights : Option (OrderedDict String Rat)) (option : MatrixOption Name) :
    (matrix.scoreOption (matrix.effectiveWeights weights) option).2 =
      matrix.weightedSum weights option := by
  have run : ∀ (entries : List (String × MatrixCriterion)) (sums : OrderedDict String Rat × Rat),
      (entries.foldl (fun sums entry =>
          let weighted := weightedScore (matrix.effectiveWeights weights) option entry
          (sums.1.set entry.1 weighted, sums.2 + weighted)) sums).2 =
        sums.2 + entries.foldr (fun entry total =>
            weightedScore (matrix.effectiveWeights weights) option entry + total) 0 := by
    intro entries
    induction entries with
    | nil =>
      intro sums
      exact (add_zero sums.2).symm
    | cons entry rest ih =>
      intro sums
      rw [List.foldl_cons, ih, List.foldr_cons, ← add_assoc]
  exact (run matrix.criteria.entries (OrderedDict.empty, 0)).trans (zero_add _)

variable [DecidableEq Name] (hashText : String → Name)

theorem scores_eq (matrix : DecisionMatrix) (options : List (MatrixOption Name))
    (weights : Option (OrderedDict String Rat)) :
    (matrix.scoreOptions hashText (matrix.effectiveWeights weights) options).1 =
      OrderedDict.empty.setAll (options.map fun option =>
          (optionId hashText option, matrix.weightedSum weights option)) := by
  rw [OrderedDict.setAll, List.foldl_map]
  unfold scoreOptions
  generalize (OrderedDict.empty : OrderedDict (Option Name) Rat) = scores
  generalize (OrderedDict.empty : OrderedDict (Option Name) (OptionDetail Name)) = details
  induction options generalizing scores details with
  | nil => rfl
  | cons option rest ih =>
    rw [List.foldl_cons, List.foldl_cons, ih, score_option_total]

variable {hashText}

theorem ranking_nodup (matrix : DecisionMatrix) (options : List (MatrixOption Name))
    (weights : Option (OrderedDict String Rat)) :
    (matrix.evaluate hashText options weights).ranking.Nodup := by
  unfold evaluate
  split
  · exact List.nodup_nil
  · exact (List.perm_insertionSort _ _).nodup_iff.mpr
      (matrix.scoreOptions hashText (matrix.effectiveWeights weights) options).1.distinct

theorem ranking_of_distinct {matrix : DecisionMatrix} (nonempty : matrix.criteria.entries ≠ [])
    {options : List (MatrixOption Name)}
    (distinct : (options.map (optionId hashText)).Nodup)
    (weights : Option (OrderedDict String Rat)) :
    (matrix.evaluate hashText options weights).ranking =
      (sortedDown (matrix.weightedSum weights) options).map (optionId hashText) := by
  have pairs : (OrderedDict.empty.setAll (options.map fun option =>
        (optionId hashText option, matrix.weightedSum weights option))).entries =
      options.map fun option =>
        (optionId hashText option, matrix.weightedSum weights option) := by
    apply OrderedDict.entries_setAll_fresh
    rw [OrderedDict.empty, List.nil_append, List.map_map]
    exact distinct
  rw [evaluate, if_neg nonempty]
  simp only [scores_eq]
  generalize OrderedDict.empty.setAll (options.map fun option =>
      (optionId hashText option, matrix.weightedSum weights option)) = scores at pairs ⊢
  have keys : scores.keys = options.map (optionId hashText) := by
    rw [OrderedDict.keys, pairs, List.map_map]
    rfl
  have score : ∀ option ∈ options,
      scores.getD (optionId hashText option) 0 = matrix.weightedSum weights option := by
    intro option member
    have found : scores.get? (optionId hashText option) =
        some (matrix.weightedSum weights option) := by
      rw [OrderedDict.get_eq_some_iff, pairs]
      exact List.mem_map_of_mem member
    rw [OrderedDict.getD, found, Option.getD_some]
  rw [keys, sortedDown, sortedDown]
  symm
  apply List.map_insertionSort
  intro left leftMember right rightMember
  rw [score left leftMember, score right rightMember]

variable (hashText)

/-- What the ranking is for: an arrangement of the options by falling sums. -/
def RanksOptions (matrix : DecisionMatrix) (options : List (MatrixOption Name))
    (weights : Option (OrderedDict String Rat)) : Prop :=
  ∃ arranged : List (MatrixOption Name), arranged.Perm options ∧
    arranged.map (optionId hashText) = (matrix.evaluate hashText options weights).ranking ∧
    arranged.Pairwise fun left right =>
      matrix.weightedSum weights right ≤ matrix.weightedSum weights left

/-- What the top option is for. -/
def FindsTop (matrix : DecisionMatrix) (options : List (MatrixOption Name))
    (weights : Option (OrderedDict String Rat)) : Prop :=
  ∃ top ∈ options, matrix.getTopOption hashText options weights = some top ∧
    ∀ option ∈ options, matrix.weightedSum weights option ≤ matrix.weightedSum weights top

/-- The first option of the greatest sum carries an id; where this id is `None`,
every option before it carries one too. -/
def LabelledTop (matrix : DecisionMatrix) (options : List (MatrixOption Name))
    (weights : Option (OrderedDict String Rat)) : Prop :=
  ∃ before top after, options = before ++ top :: after ∧
    (∀ option ∈ before, matrix.weightedSum weights option < matrix.weightedSum weights top) ∧
    (∀ option ∈ after, matrix.weightedSum weights option ≤ matrix.weightedSum weights top) ∧
    top.id ≠ none ∧ (top.id = some none → ∀ option ∈ before, option.id ≠ none)

variable {hashText}

theorem ranks_options_iff {matrix : DecisionMatrix} (nonempty : matrix.criteria.entries ≠ [])
    (options : List (MatrixOption Name)) (weights : Option (OrderedDict String Rat)) :
    RanksOptions hashText matrix options weights ↔ (options.map (optionId hashText)).Nodup := by
  constructor
  · rintro ⟨arranged, same, keys, _⟩
    have distinct := @ranking_nodup Name _ hashText matrix options weights
    rw [← keys] at distinct
    exact (same.map (optionId hashText)).nodup_iff.mp distinct
  · intro distinct
    refine ⟨sortedDown (matrix.weightedSum weights) options, ?_, ?_, ?_⟩
    · exact List.perm_insertionSort _ options
    · exact (ranking_of_distinct nonempty distinct weights).symm
    · exact sorted_down_pairwise options

omit [DecidableEq Name] in
theorem option_id_of_id {option : MatrixOption Name} {name : Option Name}
    (labelled : option.id = some name) : optionId hashText option = name := by
  rw [optionId, labelled, Option.getD_some]

omit [DecidableEq Name] in
theorem option_id_of_get {option : MatrixOption Name} {name : Name}
    (get : option.id.join = some name) : optionId hashText option = some name :=
  option_id_of_id (Option.join_eq_some_iff.mp get)

theorem get_top_option_eq {matrix : DecisionMatrix} (nonempty : matrix.criteria.entries ≠ [])
    {options before after : List (MatrixOption Name)} {top : MatrixOption Name}
    {weights : Option (OrderedDict String Rat)}
    (distinct : (options.map (optionId hashText)).Nodup)
    (split : options = before ++ top :: after)
    (below : ∀ option ∈ before, matrix.weightedSum weights option < matrix.weightedSum weights top)
    (above : ∀ option ∈ after, matrix.weightedSum weights option ≤ matrix.weightedSum weights top) :
    matrix.getTopOption hashText options weights =
      options.find? fun option => option.id.join = optionId hashText top := by
  have head := head_sorted_down split below above
  rw [getTopOption, ranking_of_distinct nonempty distinct]
  cases sorted : sortedDown (matrix.weightedSum weights) options with
  | nil =>
    rw [sorted] at head
    cases head
  | cons first rest =>
    rw [sorted] at head
    cases head
    rfl

omit [DecidableEq Name] in
theorem top_labelled_of_get {options : List (MatrixOption Name)} {found top : MatrixOption Name}
    (distinct : (options.map (optionId hashText)).Nodup) (member : found ∈ options)
    (topMember : top ∈ options) (get : found.id.join = optionId hashText top) :
    top.id ≠ none := by
  intro missing
  -- a key made from the text is the id of no other option
  have key : optionId hashText top = some (hashText top.text) := by
    rw [optionId, missing, Option.getD_none]
  rw [key] at get
  have same : found = top := by
    apply List.inj_on_of_nodup_map distinct member topMember
    rw [option_id_of_get get, key]
  rw [same, missing] at get
  cases get

theorem lookup_passes {options before after : List (MatrixOption Name)}
    {top : MatrixOption Name} (distinct : (options.map (optionId hashText)).Nodup)
    (split : options = before ++ top :: after) (labelled : top.id ≠ none)
    (explicit : top.id = some none → ∀ option ∈ before, option.id ≠ none) :
    before.find? (fun option => option.id.join = optionId hashText top) = none := by
  obtain ⟨name, id⟩ := Option.ne_none_iff_exists'.mp labelled
  have key : optionId hashText top = name := option_id_of_id id
  rw [List.find?_eq_none]
  intro other early same
  have get : other.id.join = name := by
    rw [← key]
    exact of_decide_eq_true same
  have apart : optionId hashText other ≠ optionId hashText top := by
    rw [split, List.map_append, List.map_cons, List.nodup_append] at distinct
    exact distinct.2.2 _ (List.mem_map_of_mem early) _ List.mem_cons_self
  rw [key] at apart
  cases name with
  | some text => exact apart (option_id_of_get get)
  | none =>
    obtain ⟨own, present⟩ := Option.ne_none_iff_exists'.mp (explicit id other early)
    rw [present] at get
    exact apart ((option_id_of_id present).trans get)

theorem labelled_top_of_finds {matrix : DecisionMatrix}
    (nonempty : matrix.criteria.entries ≠ []) {options : List (MatrixOption Name)}
    {weights : Option (OrderedDict String Rat)}
    (distinct : (options.map (optionId hashText)).Nodup)
    (finds : FindsTop hashText matrix options weights) : LabelledTop matrix options weights := by
  obtain ⟨found, member, lookup, greatest⟩ := finds
  obtain ⟨option, rest, cons⟩ := List.exists_cons_of_ne_nil (List.ne_nil_of_mem member)
  have selected : firstMax (matrix.weightedSum weights) options =
      some (firstMaxFrom (matrix.weightedSum weights) option rest) := by
    rw [cons]
    rfl
  obtain ⟨before, after, split, below, above⟩ := first_max_split _ selected
  generalize firstMaxFrom (matrix.weightedSum weights) option rest = top
    at split below above
  rw [get_top_option_eq nonempty distinct split below above] at lookup
  have topMember : top ∈ options := by
    rw [split]
    exact List.mem_append_right _ List.mem_cons_self
  have get : found.id.join = optionId hashText top := by
    simpa using List.find?_some lookup
  refine ⟨before, top, after, split, below, above,
    top_labelled_of_get distinct member topMember get, ?_⟩
  intro explicit other early missing
  -- the lookup stops before the top option
  have stops : (before.find? fun option => option.id.join = optionId hashText top).isSome =
      true := by
    rw [List.find?_isSome]
    refine ⟨other, early, ?_⟩
    rw [missing, option_id_of_id explicit]
    rfl
  obtain ⟨first, firstFound⟩ := Option.isSome_iff_exists.mp stops
  rw [split, List.find?_append, firstFound, Option.some_or] at lookup
  cases lookup
  have smaller := below found (List.mem_of_find?_eq_some firstFound)
  exact absurd (greatest top topMember) (not_le_of_gt smaller)

theorem finds_top_of_labelled {matrix : DecisionMatrix}
    (nonempty : matrix.criteria.entries ≠ []) {options : List (MatrixOption Name)}
    {weights : Option (OrderedDict String Rat)}
    (distinct : (options.map (optionId hashText)).Nodup)
    (labelledTop : LabelledTop matrix options weights) :
    FindsTop hashText matrix options weights := by
  obtain ⟨before, top, after, split, below, above, labelled, explicit⟩ := labelledTop
  have topMember : top ∈ options := by
    rw [split]
    exact List.mem_append_right _ List.mem_cons_self
  refine ⟨top, topMember, ?_, ?_⟩
  · obtain ⟨name, id⟩ := Option.ne_none_iff_exists'.mp labelled
    have passes := lookup_passes distinct split labelled explicit
    rw [get_top_option_eq nonempty distinct split below above, split, List.find?_append,
      passes, Option.none_or, List.find?_cons_of_pos]
    rw [option_id_of_id id, id]
    exact decide_eq_true rfl
  · intro option member
    rw [split, List.mem_append, List.mem_cons] at member
    rcases member with early | rfl | late
    · exact le_of_lt (below option early)
    · exact le_rfl
    · exact above option late

theorem finds_top_iff {matrix : DecisionMatrix} (nonempty : matrix.criteria.entries ≠ [])
    {options : List (MatrixOption Name)} {weights : Option (OrderedDict String Rat)}
    (distinct : (options.map (optionId hashText)).Nodup) :
    FindsTop hashText matrix options weights ↔ LabelledTop matrix options weights :=
  ⟨labelled_top_of_finds nonempty distinct, finds_top_of_labelled nonempty distinct⟩

/-- The ranking and the top option are right exactly if no key stands for two
options and the top option is labelled. -/
theorem matrix_ranks_iff {matrix : DecisionMatrix} (nonempty : matrix.criteria.entries ≠ [])
    (options : List (MatrixOption Name)) (weights : Option (OrderedDict String Rat)) :
    (RanksOptions hashText matrix options weights ∧
        (options ≠ [] → FindsTop hashText matrix options weights)) ↔
      (options.map (optionId hashText)).Nodup ∧
        (options ≠ [] → LabelledTop matrix options weights) := by
  rw [ranks_options_iff nonempty]
  apply and_congr_right
  intro distinct
  apply forall_congr'
  intro _
  exact finds_top_iff nonempty distinct

end Ranking

/-- Two labelled options are ranked. -/
theorem matrix_ranks_labelled :
    let matrix := DecisionMatrix.addCriterion { criteria := .empty } "value" 1 "" true
    let low : MatrixOption String := { id := some (some "low"), score := fun _ => 1, text := "" }
    let high : MatrixOption String := { id := some (some "high"), score := fun _ => 2, text := "" }
    RanksOptions (fun _ => "0") matrix [low, high] none ∧
      ([low, high] ≠ [] → FindsTop (fun _ => "0") matrix [low, high] none) := by
  intro matrix low high
  refine (matrix_ranks_iff (by decide) [low, high] none).mpr ⟨by decide, fun _ => ?_⟩
  refine ⟨[low], high, [], rfl, ?_, by simp, by simp [high], by simp [high]⟩
  intro option member
  rw [List.mem_singleton.mp member]
  decide +kernel

/-- The only option is the best one, and is not found without an id. -/
theorem unlabelled_option_lost :
    let matrix := DecisionMatrix.addCriterion { criteria := .empty } "value" 1 "" true
    let only : MatrixOption String :=
      { id := none, score := fun _ => 1, text := "\x7b'value': 1\x7d" }
    let hashText : String → String := fun _ => "-2718281828459045235"
    (matrix.getTopOption hashText [only] none).isNone = true ∧
      ¬ (RanksOptions hashText matrix [only] none ∧
        ([only] ≠ [] → FindsTop hashText matrix [only] none)) := by
  intro matrix only hashText
  have lost : (matrix.getTopOption hashText [only] none).isNone = true := by decide +kernel
  refine ⟨lost, ?_⟩
  rintro ⟨_, finds⟩
  obtain ⟨top, _, found, _⟩ := finds (by simp)
  rw [found] at lost
  cases lost

end DecisionMatrix

end AiEnterpriseOs.Decisions
