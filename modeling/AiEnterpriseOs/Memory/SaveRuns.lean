import AiEnterpriseOs.Library.Ranking
import AiEnterpriseOs.Memory.IndexExactness

/-!
# Runs of saves

What an engine that starts with an empty memory holds after a run of saves, and
which of the saves a search without a text query returns.
-/

namespace AiEnterpriseOs.Memory

open Library

/-! ## Identifiers -/

theorem after_last_separator {Symbol : Type*} {separator : Symbol}
    {left left' right right' : List Symbol} (clear : separator ∉ right)
    (clear' : separator ∉ right')
    (same : left ++ separator :: right = left' ++ separator :: right') :
    right = right' := by
  rcases List.append_eq_append_iff.mp same with
    ⟨between, _, tails⟩ | ⟨between, _, tails⟩
  · cases between with
    | nil => exact (List.cons.inj tails).2
    | cons head rest =>
      exfalso
      apply clear
      rw [(List.cons.inj tails).2]
      exact List.mem_append_right _ List.mem_cons_self
  · cases between with
    | nil => exact (List.cons.inj tails).2.symm
    | cons head rest =>
      exfalso
      apply clear'
      rw [(List.cons.inj tails).2]
      exact List.mem_append_right _ List.mem_cons_self

theorem counter_text_clear (counter : Nat) : '_' ∉ (counterText counter).toList := by
  rw [counterText, String.toList_ofList, List.leftpad, List.mem_append, not_or]
  constructor
  · intro padded
    exact absurd (List.eq_of_mem_replicate padded) (by decide)
  · exact Nat.underscore_not_in_toDigits

theorem counter_text_value (counter : Nat) :
    Nat.ofDigitChars 10 (counterText counter).toList 0 = counter := by
  rw [counterText, String.toList_ofList, List.leftpad, Nat.ofDigitChars_append,
    Nat.ofDigitChars_replicate_zero, Nat.mul_zero, Nat.ofDigitChars_ten_toDigits]

theorem memory_id_counter {now now' : Time} {counter counter' : Nat}
    (same : memoryId now counter = memoryId now' counter') : counter = counter' := by
  have text : ∀ (now : Time) (counter : Nat), (memoryId now counter).toList =
      ("mem_" ++ toString now).toList ++ '_' :: (counterText counter).toList := by
    intro now counter
    rw [memoryId, String.toList_append, String.toList_append, List.append_assoc]
    rfl
  have texts := congrArg String.toList same
  rw [text, text] at texts
  have counters := after_last_separator (counter_text_clear counter)
    (counter_text_clear counter') texts
  rw [← counter_text_value counter, ← counter_text_value counter', counters]

/-! ## The memory after the saves -/

section Runs

variable {Value : Type}

/-- A call of `save`, and the time it is made. -/
structure TimedSave (Value : Type) where
  fields : SaveFields Value
  now : Time

variable (env : MemoryEnv Value) (config : MemoryConfig)

def saveStep (engine : MemoryEngine Value) (save : TimedSave Value) : MemoryEngine Value :=
  (engine.save env config save.fields save.now).state

/-- An engine with an empty memory, with or without a file behind it. -/
def emptyEngine (onDisk : Bool) : MemoryEngine Value :=
  MemoryEngine.openEngine (if onDisk then some {} else none)

def saveRuns (onDisk : Bool) (saves : List (TimedSave Value)) : MemoryEngine Value :=
  runInputs (saveStep env config) (emptyEngine onDisk) saves

/-- The entry that the save at a position of the run builds. -/
def builtEntry (save : TimedSave Value × Nat) : MemoryEntry Value :=
  save.1.fields.entry config save.1.now (save.2 + 1)

def savedEntry (save : TimedSave Value × Nat) : MemoryEntry Value :=
  (builtEntry config save).summarized env

/-- The saves of a run that are not refused, with their positions. -/
def validSaves (saves : List (TimedSave Value)) : List (TimedSave Value × Nat) :=
  saves.zipIdx.filter fun save => (builtEntry config save).validates

theorem saved_entry_fields (save : TimedSave Value × Nat) : ∃ summary, savedEntry env config save =
      { builtEntry config save with summary := summary } :=
  MemoryEntry.summarized_fields env (builtEntry config save)

theorem saved_entry_id (save : TimedSave Value × Nat) :
    (savedEntry env config save).id = memoryId save.1.now (save.2 + 1) := by
  obtain ⟨summary, built⟩ := saved_entry_fields env config save
  rw [built]
  rfl

/-- The memory after a run holds the entries of the valid saves in their order. -/
structure SavesHeld (saves : List (TimedSave Value)) (engine : MemoryEngine Value) : Prop where
  counter : engine.counter = saves.length
  entries : engine.store.entries.entries = (validSaves config saves).map fun save =>
    ((savedEntry env config save).id, savedEntry env config save)
  indexed : engine.store.WellIndexed

theorem zip_idx_concat {Item : Type} (items : List Item) (item : Item) :
    (items ++ [item]).zipIdx = items.zipIdx ++ [(item, items.length)] := by
  rw [List.zipIdx_append, Nat.zero_add]
  rfl

theorem zip_idx_increasing {Item : Type} (items : List Item) :
    items.zipIdx.Pairwise fun left right => left.2 < right.2 := by
  induction items using List.reverseRecOn with
  | nil => exact List.Pairwise.nil
  | append_singleton items item ih =>
    rw [zip_idx_concat]
    apply List.pairwise_append.mpr
    refine ⟨ih, List.pairwise_singleton _ _, ?_⟩
    intro left member right last
    rw [List.mem_singleton.mp last]
    have bound := List.snd_lt_of_mem_zipIdx member
    omega

theorem empty_saves_held (onDisk : Bool) : SavesHeld env config [] (emptyEngine onDisk) := by
  have indexed : ∀ disk : Option (LogFile Value), (∀ file ∈ disk, file.allLines = []) →
      (MemoryStore.openStore disk).WellIndexed := by
    intro disk empty
    apply MemoryStore.open_well_indexed
    intro file onDisk kind entry listed
    rw [empty file onDisk] at listed
    cases listed
  cases onDisk with
  | true =>
    refine ⟨rfl, rfl, indexed (some {}) ?_⟩
    intro file opened
    cases opened
    rfl
  | false =>
    refine ⟨rfl, rfl, indexed none ?_⟩
    intro file opened
    cases opened

theorem saved_id_fresh (saves : List (TimedSave Value)) (save : TimedSave Value) :
    (savedEntry env config (save, saves.length)).id ∉ ((validSaves config saves).map fun save =>
        ((savedEntry env config save).id, savedEntry env config save)).map Prod.fst := by
  intro listed
  obtain ⟨pair, member, same⟩ := List.mem_map.mp listed
  obtain ⟨earlier, valid, rfl⟩ := List.mem_map.mp member
  have bound := List.snd_lt_of_mem_zipIdx (List.mem_filter.mp valid).1
  dsimp only at same
  rw [saved_entry_id, saved_entry_id] at same
  have counters := memory_id_counter same
  dsimp only at counters
  omega

theorem save_step_held {saves : List (TimedSave Value)} {engine : MemoryEngine Value}
    (held : SavesHeld env config saves engine) (save : TimedSave Value) :
    SavesHeld env config (saves ++ [save]) (saveStep env config engine save) := by
  have built : engine.newEntry config save.fields save.now =
      builtEntry config (save, saves.length) := by
    rw [MemoryEngine.newEntry, held.counter]
    rfl
  have extended : validSaves config (saves ++ [save]) = validSaves config saves ++
      if (builtEntry config (save, saves.length)).validates then [(save, saves.length)]
      else [] := by
    rw [validSaves, zip_idx_concat, List.filter_append, List.filter_singleton, Bool.cond_eq_ite]
    rfl
  rcases MemoryEngine.save_cases env config save.fields save.now engine with
    ⟨valid, saved⟩ | ⟨invalid, refused⟩
  · rw [built] at valid saved
    have fresh := saved_id_fresh env config saves save
    rw [← held.entries] at fresh
    have step : saveStep env config engine save =
        { engine with
          counter := engine.counter + 1
          store :=
            (engine.store.save env (savedEntry env config (save, saves.length))).state } := by
      rw [saveStep, saved]
      rfl
    rw [step]
    constructor
    · rw [List.length_append, List.length_singleton]
      exact congrArg Nat.succ held.counter
    · dsimp only
      rw [extended, if_pos valid, List.map_append, ← held.entries, MemoryStore.save_entries]
      exact OrderedDict.assign_fresh _ fresh
    · apply held.indexed.save
      intro old found
      exact absurd ((OrderedDict.mem_keys_iff _ _).mpr ⟨old, found⟩) fresh
  · rw [built] at invalid
    have step : saveStep env config engine save =
        { engine with counter := engine.counter + 1 } := by
      rw [saveStep, refused]
      rfl
    rw [step]
    constructor
    · rw [List.length_append, List.length_singleton]
      exact congrArg Nat.succ held.counter
    · dsimp only
      rw [extended, invalid, held.entries]
      simp
    · exact held.indexed

theorem save_runs_held (onDisk : Bool) (saves : List (TimedSave Value)) :
    SavesHeld env config saves (saveRuns env config onDisk saves) := by
  induction saves using List.reverseRecOn with
  | nil => exact empty_saves_held env config onDisk
  | append_singleton saves save ih =>
    rw [saveRuns, run_inputs_append]
    exact save_step_held env config ih save

/-! ## Searching the saves -/

/-- Whether a search lists one save before another: the more important first, then the
later, then the one made first. -/
def FoundBefore (left right : TimedSave Value × Nat) : Prop :=
  let important := fun save : TimedSave Value × Nat =>
    save.1.fields.importance.getD config.defaultImportance
  important right < important left ∨
    important right = important left ∧
      (right.1.now < left.1.now ∨ right.1.now = left.1.now ∧ left.2 < right.2)

instance : DecidableRel (@FoundBefore Value config) := by
  intro left right
  unfold FoundBefore
  infer_instance

theorem found_before_asymmetric (left right : TimedSave Value × Nat)
    (before : FoundBefore config left right) : ¬FoundBefore config right left := by
  unfold FoundBefore at before ⊢
  dsimp only at before ⊢
  rintro (more | ⟨same, newer | ⟨now, later⟩⟩)
  · rcases before with less | ⟨equal, _⟩
    · exact absurd more (lt_asymm less)
    · exact absurd equal.symm (ne_of_lt more)
  · rcases before with less | ⟨_, older | ⟨now, _⟩⟩
    · exact absurd same (ne_of_gt less)
    · exact absurd newer (lt_asymm older)
    · exact absurd now.symm (ne_of_lt newer)
  · rcases before with less | ⟨_, older | ⟨_, earlier⟩⟩
    · exact absurd same (ne_of_gt less)
    · exact absurd now.symm (ne_of_lt older)
    · omega

/-- The saves that are listed in a namespace as of a type. -/
def listedSaves (space : MemoryNamespace) (type : MemoryType)
    (saves : List (TimedSave Value)) : List (TimedSave Value × Nat) :=
  (validSaves config saves).filter fun save =>
    decide (save.1.fields.memoryNamespace = space) && decide (save.1.fields.memoryType = type)

def NotAfter (left right : TimedSave Value × Nat) : Prop :=
  RanksBefore (builtEntry config left) (builtEntry config right)

instance : DecidableRel (@NotAfter Value config) := by
  intro left right
  unfold NotAfter
  infer_instance

/-- The saves in the order in which a search lists them. -/
def foundOrder (space : MemoryNamespace) (type : MemoryType)
    (saves : List (TimedSave Value)) : List (TimedSave Value × Nat) :=
  (listedSaves config space type saves).insertionSort (NotAfter config)

theorem found_order_sorted (space : MemoryNamespace) (type : MemoryType)
    (saves : List (TimedSave Value)) :
    (foundOrder config space type saves).Pairwise (FoundBefore config) := by
  have total : ∀ left right : TimedSave Value × Nat,
      NotAfter config left right ∨ NotAfter config right left :=
    fun left right => ranks_before_total (builtEntry config left) (builtEntry config right)
  have transitive : ∀ first second third : TimedSave Value × Nat,
      NotAfter config first second → NotAfter config second third →
        NotAfter config first third :=
    fun _ _ _ before after => ranks_before_trans _ _ _ before after
  have listed : (listedSaves config space type saves).Pairwise fun left right => left.2 < right.2 :=
    ((zip_idx_increasing saves).sublist List.filter_sublist).sublist List.filter_sublist
  have stable := pairwise_stable_sort (NotAfter config) (fun left right => left.2 < right.2)
    total transitive _ listed
  apply stable.imp
  rintro left right ⟨more | ⟨same, newer⟩, first⟩
  · exact .inl more
  · rcases lt_or_eq_of_le newer with older | now
    · exact .inr ⟨same, .inl older⟩
    · exact .inr ⟨same, .inr ⟨now, first (.inr ⟨same.symm, le_of_eq now.symm⟩)⟩⟩

theorem namespace_value_injective {left right : MemoryNamespace}
    (same : left.value = right.value) : left = right := by
  cases left <;> cases right <;> first | rfl | exact absurd same (by decide)

theorem type_value_injective {left right : MemoryType}
    (same : left.value = right.value) : left = right := by
  cases left <;> cases right <;> first | rfl | exact absurd same (by decide)

/-- A search of a namespace for a type. -/
def listingFilters (space : MemoryNamespace) (type : MemoryType) (limit : Nat) :
    SearchFilters Value where
  memoryNamespace := space.value
  memoryType := type.value
  limit := limit

theorem passes_listing (space : MemoryNamespace) (type : MemoryType) (limit : Nat)
    (saves : List (TimedSave Value)) :
    filterEntries env (fun kind key entry => decide (key ∈ entry.indexKeys kind))
        (listingFilters space type limit)
        ((validSaves config saves).map (savedEntry env config)) =
      (listedSaves config space type saves).map (savedEntry env config) := by
  have named : space.value ≠ "" ∧ type.value ≠ "" := by
    constructor
    · cases space <;> decide
    · cases type <;> decide
  unfold filterEntries listedSaves
  simp only [List.filter_filter, List.filter_map]
  congr 1
  apply List.filter_congr
  intro save _
  obtain ⟨summary, built⟩ := saved_entry_fields env config save
  have inSpace : space.value = save.1.fields.memoryNamespace.value ↔
      save.1.fields.memoryNamespace = space :=
    ⟨fun same => (namespace_value_injective same).symm, fun same => by rw [same]⟩
  have ofType : type.value = save.1.fields.memoryType.value ↔ save.1.fields.memoryType = type :=
    ⟨fun same => (type_value_injective same).symm, fun same => by rw [same]⟩
  simp [listingFilters, built, MemoryEntry.indexKeys, named.1, named.2, inSpace, ofType,
    builtEntry, SaveFields.entry, Bool.and_comm]

theorem search_listing (onDisk : Bool) (space : MemoryNamespace) (type : MemoryType)
    (limit : Nat) (saves : List (TimedSave Value)) :
    (saveRuns env config onDisk saves).store.search env (listingFilters space type limit) =
      ((foundOrder config space type saves).take limit).map (savedEntry env config) := by
  have held := save_runs_held env config onDisk saves
  have stored : (saveRuns env config onDisk saves).store.getAll =
      (validSaves config saves).map (savedEntry env config) := by
    rw [MemoryStore.getAll, OrderedDict.values, held.entries, List.map_map]
    rfl
  have ranks : ∀ left ∈ listedSaves config space type saves,
      ∀ right ∈ listedSaves config space type saves, (NotAfter config left right ↔
        RanksBefore (savedEntry env config left) (savedEntry env config right)) := by
    intro left _ right _
    obtain ⟨_, leftBuilt⟩ := saved_entry_fields env config left
    obtain ⟨_, rightBuilt⟩ := saved_entry_fields env config right
    rw [leftBuilt, rightBuilt]
    rfl
  rw [held.indexed.search, MemoryStore.scan, stored, passes_listing]
  change (((listedSaves config space type saves).map _).insertionSort RanksBefore).take limit = _
  rw [← List.map_insertionSort (NotAfter config) RanksBefore _ _ ranks, List.map_take]
  rfl

end Runs

end AiEnterpriseOs.Memory
