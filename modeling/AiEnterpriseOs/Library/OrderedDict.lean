import Mathlib.Data.List.Induction
import Mathlib.Data.List.Nodup

/-!
# Insertion-ordered dictionaries

A dictionary keeps its keys in the order of their first insertion. Assigning
to a present key replaces the value in place; assigning to an absent key
appends. The key list of a dictionary never repeats, so an invalid table
cannot be built.
-/

namespace AiEnterpriseOs.Library

structure OrderedDict (Key Value : Type*) where
  entries : List (Key × Value)
  distinct : (entries.map Prod.fst).Nodup

namespace OrderedDict

variable {Key Value : Type*} [DecidableEq Key]

def empty : OrderedDict Key Value where
  entries := []
  distinct := List.nodup_nil

instance : Inhabited (OrderedDict Key Value) := ⟨empty⟩

instance [DecidableEq Value] : DecidableEq (OrderedDict Key Value) :=
  fun left right =>
    decidable_of_iff (left.entries = right.entries) (by
      cases left
      cases right
      simp)

def keys (dict : OrderedDict Key Value) : List Key := dict.entries.map Prod.fst

def values (dict : OrderedDict Key Value) : List Value := dict.entries.map Prod.snd

def lookup (key : Key) : List (Key × Value) → Option Value
  | [] => none
  | entry :: rest => if entry.1 = key then some entry.2 else lookup key rest

def get? (dict : OrderedDict Key Value) (key : Key) : Option Value :=
  lookup key dict.entries

def getD (dict : OrderedDict Key Value) (key : Key) (fallback : Value) : Value :=
  (dict.get? key).getD fallback

def assign (key : Key) (value : Value) : List (Key × Value) → List (Key × Value)
  | [] => [(key, value)]
  | entry :: rest =>
    if entry.1 = key then (key, value) :: rest
    else entry :: assign key value rest

theorem assign_keys (key : Key) (value : Value) (entries : List (Key × Value)) :
    (assign key value entries).map Prod.fst =
      if key ∈ entries.map Prod.fst then entries.map Prod.fst
      else entries.map Prod.fst ++ [key] := by
  induction entries with
  | nil => simp [assign]
  | cons entry rest ih =>
    by_cases same : entry.1 = key
    · simp [assign, same]
    · have other : key ≠ entry.1 := fun equal => same equal.symm
      simp only [assign, if_neg same, List.map_cons, ih, List.mem_cons]
      by_cases present : key ∈ rest.map Prod.fst
      · simp [present]
      · simp [present, other]

def set (dict : OrderedDict Key Value) (key : Key) (value : Value) : OrderedDict Key Value where
  entries := assign key value dict.entries
  distinct := by
    rw [assign_keys]
    split
    · exact dict.distinct
    next absent =>
      exact List.Nodup.append dict.distinct (List.nodup_singleton key) (by simpa using absent)

def erase (dict : OrderedDict Key Value) (key : Key) : OrderedDict Key Value where
  entries := dict.entries.filter (fun entry => entry.1 ≠ key)
  distinct := dict.distinct.sublist (List.filter_sublist.map _)

/-- In-place mutation of the object stored under a key. -/
def modify (dict : OrderedDict Key Value) (key : Key) (change : Value → Value) :
    OrderedDict Key Value :=
  match dict.get? key with
  | none => dict
  | some value => dict.set key (change value)

def setAll (dict : OrderedDict Key Value) (items : List (Key × Value)) :
    OrderedDict Key Value :=
  items.foldl (fun table item => table.set item.1 item.2) dict

@[simp] theorem get_empty (key : Key) : (empty : OrderedDict Key Value).get? key = none := rfl

theorem lookup_assign (key other : Key) (value : Value) (entries : List (Key × Value)) :
    lookup other (assign key value entries) =
      if other = key then some value else lookup other entries := by
  induction entries with
  | nil => simp [assign, lookup, eq_comm]
  | cons entry rest ih =>
    by_cases same : entry.1 = key
    · by_cases hit : other = key
      · simp [assign, same, lookup, hit]
      · have miss : key ≠ other := fun equal => hit equal.symm
        simp [assign, same, lookup, hit, miss]
    · by_cases hit : other = key
      · subst hit
        simp [assign, same, lookup, ih]
      · simp [assign, same, lookup, ih, hit]

theorem get_set (dict : OrderedDict Key Value) (key other : Key) (value : Value) :
    (dict.set key value).get? other =
      if other = key then some value else dict.get? other :=
  lookup_assign key other value dict.entries

@[simp] theorem get_set_self (dict : OrderedDict Key Value) (key : Key)
    (value : Value) : (dict.set key value).get? key = some value := by
  rw [get_set, if_pos rfl]

theorem get_set_other (dict : OrderedDict Key Value) {key other : Key}
    (value : Value) (different : other ≠ key) :
    (dict.set key value).get? other = dict.get? other := by
  rw [get_set, if_neg different]

theorem getD_set (dict : OrderedDict Key Value) (key other : Key) (value fallback : Value) :
    (dict.set key value).getD other fallback =
      if other = key then value else dict.getD other fallback := by
  rw [getD, get_set]
  split <;> rfl

theorem lookup_filter (key other : Key) (entries : List (Key × Value)) :
    lookup other (entries.filter (fun entry => entry.1 ≠ key)) =
      if other = key then none else lookup other entries := by
  induction entries with
  | nil => simp [lookup]
  | cons entry rest ih =>
    by_cases dropped : entry.1 = key
    · by_cases hit : other = key
      · simpa [List.filter_cons, dropped, lookup, hit] using ih
      · have miss : key ≠ other := fun equal => hit equal.symm
        simpa [List.filter_cons, dropped, lookup, hit, miss] using ih
    · by_cases hit : other = key
      · subst hit
        simpa [List.filter_cons, dropped, lookup] using ih
      · by_cases found : entry.1 = other
        · simp [found, lookup, hit]
        · simpa [List.filter_cons, dropped, lookup, found, hit] using ih

theorem get_erase (dict : OrderedDict Key Value) (key other : Key) : (dict.erase key).get? other =
      if other = key then none else dict.get? other :=
  lookup_filter key other dict.entries

theorem get_modify (dict : OrderedDict Key Value) (key other : Key) (change : Value → Value) :
    (dict.modify key change).get? other =
      if other = key then (dict.get? key).map change else dict.get? other := by
  unfold modify
  cases found : dict.get? key with
  | none =>
    by_cases hit : other = key
    · simp [hit, found]
    · simp [hit]
  | some value => simp [get_set]

theorem assign_assign (key : Key) (first second : Value) (entries : List (Key × Value)) :
    assign key second (assign key first entries) = assign key second entries := by
  induction entries with
  | nil => simp [assign]
  | cons entry rest ih =>
    by_cases same : entry.1 = key
    · simp [assign, same]
    · simp [assign, same, ih]

theorem set_set (dict : OrderedDict Key Value) (key : Key) (first second : Value) :
    (dict.set key first).set key second = dict.set key second := by
  simp only [set, assign_assign]

theorem modify_absent {dict : OrderedDict Key Value} {key : Key}
    (absent : dict.get? key = none) (change : Value → Value) :
    dict.modify key change = dict := by
  rw [modify, absent]

theorem modify_modify (dict : OrderedDict Key Value) (key : Key) (first second : Value → Value) :
    (dict.modify key first).modify key second = dict.modify key (second ∘ first) := by
  cases found : dict.get? key with
  | none => rw [modify_absent found, modify_absent found, modify_absent found]
  | some value =>
    simp only [modify, found, get_set_self, set_set, Function.comp_apply]

theorem lookup_eq_some_iff {key : Key} {value : Value}
    {entries : List (Key × Value)} (distinct : (entries.map Prod.fst).Nodup) :
    lookup key entries = some value ↔ (key, value) ∈ entries := by
  induction entries with
  | nil => simp [lookup]
  | cons entry rest ih =>
    rw [List.map_cons, List.nodup_cons] at distinct
    obtain ⟨fresh, restDistinct⟩ := distinct
    by_cases same : entry.1 = key
    · have absent : (key, value) ∉ rest := by
        intro member
        apply fresh
        rw [same]
        exact List.mem_map.mpr ⟨(key, value), member, rfl⟩
      rw [lookup, if_pos same, List.mem_cons]
      constructor
      · intro found
        left
        exact Prod.ext same.symm (Option.some.inj found).symm
      · rintro (equal | member)
        · rw [← equal]
        · exact absurd member absent
    · rw [lookup, if_neg same, ih restDistinct, List.mem_cons]
      constructor
      · exact Or.inr
      · rintro (equal | member)
        · exact absurd (by rw [← equal]) same
        · exact member

theorem get_eq_some_iff (dict : OrderedDict Key Value) (key : Key) (value : Value) :
    dict.get? key = some value ↔ (key, value) ∈ dict.entries :=
  lookup_eq_some_iff dict.distinct

theorem erase_absent {dict : OrderedDict Key Value} {key : Key}
    (absent : dict.get? key = none) : dict.erase key = dict := by
  have kept : dict.entries.filter (fun entry => entry.1 ≠ key) = dict.entries := by
    apply List.filter_eq_self.mpr
    intro entry member
    rw [decide_eq_true_eq]
    intro same
    have found : dict.get? key = some entry.2 := by
      rw [get_eq_some_iff, ← same]
      exact member
    rw [absent] at found
    cases found
  cases dict
  rw [erase, mk.injEq]
  exact kept

theorem assign_present {key : Key} {value : Value} {entries : List (Key × Value)}
    (present : lookup key entries = some value) : assign key value entries = entries := by
  induction entries with
  | nil => cases present
  | cons entry rest ih =>
    by_cases here : entry.1 = key
    · rw [lookup, if_pos here] at present
      rw [assign, if_pos here, ← here, ← Option.some.inj present]
    · rw [lookup, if_neg here] at present
      rw [assign, if_neg here, ih present]

/-- Assigning to a key leaves the dictionary as it is just where the key has
the value already. -/
theorem set_eq_self_iff (dict : OrderedDict Key Value) (key : Key) (value : Value) :
    dict.set key value = dict ↔ dict.get? key = some value := by
  constructor
  · intro same
    rw [← same, get_set_self]
  · intro present
    cases dict
    rw [set, mk.injEq]
    exact assign_present present

theorem filter_entries (dict : OrderedDict Key Value) (key : Key) :
    (dict.entries.filter fun entry => entry.1 = key) =
      (dict.get? key).toList.map fun value => (key, value) := by
  have byLookup : ∀ entries : List (Key × Value), (entries.map Prod.fst).Nodup →
      (entries.filter fun entry => entry.1 = key) =
        (lookup key entries).toList.map fun value => (key, value) := by
    intro entries
    induction entries with
    | nil => exact fun _ => rfl
    | cons entry rest ih =>
      intro distinct
      obtain ⟨fresh, restDistinct⟩ := List.nodup_cons.mp distinct
      by_cases same : entry.1 = key
      · have others : (rest.filter fun entry => entry.1 = key) = [] := by
          refine List.filter_eq_nil_iff.mpr fun other member hit => fresh ?_
          rw [same, ← of_decide_eq_true hit]
          exact List.mem_map_of_mem member
        rw [List.filter_cons_of_pos (by simpa using same), others, lookup, if_pos same]
        exact congrArg (fun pair => [pair]) (Prod.ext same rfl)
      · rw [List.filter_cons_of_neg (by simpa using same), lookup, if_neg same, ih restDistinct]
  exact byLookup dict.entries dict.distinct

theorem mem_values_iff (dict : OrderedDict Key Value) (value : Value) :
    value ∈ dict.values ↔ ∃ key, dict.get? key = some value := by
  simp [values, get_eq_some_iff]

theorem mem_keys_iff (dict : OrderedDict Key Value) (key : Key) :
    key ∈ dict.keys ↔ ∃ value, dict.get? key = some value := by
  simp [keys, get_eq_some_iff]

theorem get_eq_none_iff (dict : OrderedDict Key Value) (key : Key) :
    dict.get? key = none ↔ key ∉ dict.keys := by
  rw [mem_keys_iff, Option.eq_none_iff_forall_ne_some, not_exists]

theorem mem_values_erase {dict : OrderedDict Key Value} {key : Key}
    {value : Value} (member : value ∈ (dict.erase key).values) :
    value ∈ dict.values := by
  obtain ⟨other, found⟩ := (mem_values_iff _ _).mp member
  rw [get_erase] at found
  split at found
  · cases found
  · exact (mem_values_iff _ _).mpr ⟨other, found⟩

theorem mem_values_set {dict : OrderedDict Key Value} {key : Key}
    {stored value : Value} (member : value ∈ (dict.set key stored).values) :
    value = stored ∨ value ∈ dict.values := by
  obtain ⟨other, found⟩ := (mem_values_iff _ _).mp member
  rw [get_set] at found
  split at found
  · exact Or.inl (Option.some.inj found).symm
  · exact Or.inr ((mem_values_iff _ _).mpr ⟨other, found⟩)

section Each

variable {holds : Key → Value → Prop} {dict : OrderedDict Key Value}

theorem forall_set {key : Key} {value : Value} (fits : holds key value)
    (others : ∀ other stored, dict.get? other = some stored → holds other stored) :
    ∀ other stored, (dict.set key value).get? other = some stored → holds other stored := by
  intro other stored found
  rw [get_set] at found
  split at found
  next here =>
    cases found
    rw [here]
    exact fits
  · exact others other stored found

theorem forall_erase (key : Key)
    (others : ∀ other stored, dict.get? other = some stored → holds other stored) :
    ∀ other stored, (dict.erase key).get? other = some stored → holds other stored := by
  intro other stored found
  rw [get_erase] at found
  split at found
  · cases found
  · exact others other stored found

theorem forall_modify {key : Key} {change : Value → Value}
    (fits : ∀ stored, dict.get? key = some stored → holds key (change stored))
    (others : ∀ other stored, dict.get? other = some stored → holds other stored) :
    ∀ other stored, (dict.modify key change).get? other = some stored →
      holds other stored := by
  intro other stored found
  rw [get_modify] at found
  split at found
  next here =>
    obtain ⟨old, present, changed⟩ := Option.map_eq_some_iff.mp found
    rw [here, ← changed]
    exact fits old present
  · exact others other stored found

end Each

/-- Every key of a uniformly valued assignment list carries that value,
whatever repetitions the list has. -/
theorem get_setAll_const (dict : OrderedDict Key Value) (keyList : List Key)
    (value : Value) (key : Key) :
    (dict.setAll (keyList.map (fun item => (item, value)))).get? key =
      if key ∈ keyList then some value else dict.get? key := by
  induction keyList generalizing dict with
  | nil => rfl
  | cons item rest ih =>
    change ((dict.set item value).setAll _).get? key = _
    rw [ih, get_set]
    by_cases later : key ∈ rest
    · simp [later]
    · by_cases here : key = item
      · simp [here]
      · simp [later, here]

@[simp] theorem setAll_nil (dict : OrderedDict Key Value) : dict.setAll [] = dict := rfl

@[simp] theorem setAll_append (dict : OrderedDict Key Value) (first second : List (Key × Value)) :
    dict.setAll (first ++ second) = (dict.setAll first).setAll second := by
  simp [setAll, List.foldl_append]

@[simp] theorem setAll_single (dict : OrderedDict Key Value)
    (item : Key × Value) : dict.setAll [item] = dict.set item.1 item.2 := rfl

theorem get_setAll_cases {dict : OrderedDict Key Value}
    {items : List (Key × Value)} {key : Key} {value : Value}
    (found : (dict.setAll items).get? key = some value) :
    (key, value) ∈ items ∨ dict.get? key = some value := by
  induction items using List.reverseRecOn with
  | nil => exact Or.inr found
  | append_singleton items item ih =>
    rw [setAll_append, setAll_single, get_set] at found
    by_cases here : key = item.1
    · rw [if_pos here] at found
      left
      rw [here, ← Option.some.inj found]
      exact List.mem_append_right _ List.mem_cons_self
    · rw [if_neg here] at found
      exact (ih found).imp_left (List.mem_append_left _)

theorem get_setAll_present (dict : OrderedDict Key Value)
    {items : List (Key × Value)} {item : Key × Value} (member : item ∈ items) :
    ∃ value, (dict.setAll items).get? item.1 = some value := by
  induction items using List.reverseRecOn with
  | nil => cases member
  | append_singleton items last ih =>
    rw [setAll_append, setAll_single]
    by_cases here : item.1 = last.1
    · exact ⟨last.2, by rw [here, get_set_self]⟩
    · have early : item ∈ items := by
        rcases List.mem_append.mp member with early | late
        · exact early
        · rw [List.mem_singleton.mp late] at here
          exact absurd rfl here
      obtain ⟨value, found⟩ := ih early
      exact ⟨value, by rw [get_set_other _ _ here, found]⟩

theorem get_setAll_rest (dict : OrderedDict Key Value) (items : List (Key × Value)) (key : Key) :
    (dict.setAll items).get? key = ((empty.setAll items).get? key).or (dict.get? key) := by
  induction items using List.reverseRecOn with
  | nil => rfl
  | append_singleton items item ih =>
    rw [setAll_append, setAll_append, setAll_single, setAll_single, get_set, get_set]
    by_cases here : key = item.1
    · rw [if_pos here, if_pos here, Option.some_or]
    · rw [if_neg here, if_neg here]
      exact ih

theorem get_setAll_find (items : List (Key × Value)) (key : Key) : (empty.setAll items).get? key =
      (items.reverse.find? fun item => item.1 = key).map Prod.snd := by
  induction items using List.reverseRecOn with
  | nil => rfl
  | append_singleton items last ih =>
    rw [setAll_append, setAll_single, get_set, List.reverse_append, List.reverse_singleton,
      List.singleton_append, List.find?_cons]
    by_cases here : key = last.1
    · simp [here]
    · rw [if_neg here, ih, decide_eq_false fun same => here same.symm]

/-- Of the assignments to a key, listed in a strict order, the last one
counts. -/
theorem get_setAll_last {Item : Type*} (pair : Item → Key × Value) {before : Item → Item → Prop}
    (asymmetric : ∀ left right, before left right → ¬before right left)
    {items : List Item} (sorted : items.Pairwise before) (key : Key) (value : Value) :
    (empty.setAll (items.map pair)).get? key = some value ↔
      ∃ item ∈ items, pair item = (key, value) ∧
        ∀ other ∈ items, (pair other).1 = key → other = item ∨ before other item := by
  induction items using List.reverseRecOn with
  | nil => simp
  | append_singleton items last ih =>
    obtain ⟨itemsSorted, _, below⟩ := List.pairwise_append.mp sorted
    have behind : ∀ item ∈ items, before item last :=
      fun item member => below item member last (List.mem_singleton_self last)
    rw [List.map_append, List.map_singleton, setAll_append, setAll_single, get_set]
    by_cases here : key = (pair last).1
    · rw [if_pos here, Option.some.injEq]
      constructor
      · intro same
        refine ⟨last, List.mem_append_right _ (List.mem_singleton_self last),
          Prod.ext here.symm same, ?_⟩
        intro other member _
        rcases List.mem_append.mp member with early | late
        · exact Or.inr (behind other early)
        · exact Or.inl (List.mem_singleton.mp late)
      · rintro ⟨item, member, same, final⟩
        rcases List.mem_append.mp member with early | late
        · have lastOnly := final last
            (List.mem_append_right _ (List.mem_singleton_self last)) here.symm
          rcases lastOnly with equal | reversed
          · rw [equal, same]
          · exact absurd reversed (asymmetric _ _ (behind item early))
        · rw [← List.mem_singleton.mp late, same]
    · rw [if_neg here, ih itemsSorted]
      constructor
      · rintro ⟨item, member, same, final⟩
        refine ⟨item, List.mem_append_left _ member, same, ?_⟩
        intro other listed sameKey
        rcases List.mem_append.mp listed with early | late
        · exact final other early sameKey
        · rw [List.mem_singleton.mp late] at sameKey
          exact absurd sameKey.symm here
      · rintro ⟨item, member, same, final⟩
        have early : item ∈ items := by
          rcases List.mem_append.mp member with early | late
          · exact early
          · rw [List.mem_singleton.mp late] at same
            exact absurd (congrArg Prod.fst same).symm here
        exact ⟨item, early, same, fun other listed sameKey =>
          final other (List.mem_append_left _ listed) sameKey⟩

theorem assign_fresh {key : Key} (value : Value) {entries : List (Key × Value)}
    (fresh : key ∉ entries.map Prod.fst) :
    assign key value entries = entries ++ [(key, value)] := by
  induction entries with
  | nil => rfl
  | cons entry rest ih =>
    rw [List.map_cons, List.mem_cons, not_or] at fresh
    rw [assign, if_neg (fun same => fresh.1 same.symm), ih fresh.2]
    rfl

theorem entries_setAll_fresh (dict : OrderedDict Key Value) (items : List (Key × Value))
    (distinct : ((dict.entries ++ items).map Prod.fst).Nodup) :
    (dict.setAll items).entries = dict.entries ++ items := by
  induction items generalizing dict with
  | nil => simp
  | cons item rest ih =>
    have fresh : item.1 ∉ dict.entries.map Prod.fst := by
      intro present
      rw [List.map_append, List.nodup_append] at distinct
      exact distinct.2.2 _ present _ (by simp) rfl
    have appended : (dict.set item.1 item.2).entries = dict.entries ++ [item] :=
      assign_fresh item.2 fresh
    change ((dict.set item.1 item.2).setAll rest).entries = _
    rw [ih, appended, List.append_assoc]
    · rfl
    · rwa [appended, List.append_assoc]

theorem setAll_entries (dict : OrderedDict Key Value) : empty.setAll dict.entries = dict := by
  have same : (empty.setAll dict.entries).entries = dict.entries :=
    entries_setAll_fresh empty dict.entries dict.distinct
  cases rebuilt : empty.setAll dict.entries
  rw [rebuilt] at same
  cases dict
  cases same
  rfl

theorem keys_set (dict : OrderedDict Key Value) (key : Key) (value : Value) :
    (dict.set key value).keys =
      if key ∈ dict.keys then dict.keys else dict.keys ++ [key] :=
  assign_keys key value dict.entries

theorem keys_set_fresh (dict : OrderedDict Key Value) {key : Key} (value : Value)
    (fresh : key ∉ dict.keys) : (dict.set key value).keys = dict.keys ++ [key] := by
  rw [keys_set, if_neg fresh]

theorem mem_keys_set (dict : OrderedDict Key Value) (key other : Key) (value : Value) :
    other ∈ (dict.set key value).keys ↔ other = key ∨ other ∈ dict.keys := by
  rw [mem_keys_iff, mem_keys_iff, get_set]
  by_cases same : other = key
  · simp [same]
  · simp [same]

theorem keys_erase (dict : OrderedDict Key Value) (key : Key) :
    (dict.erase key).keys = dict.keys.erase key := by
  rw [keys, keys, List.Nodup.erase_eq_filter dict.distinct, List.filter_map]
  apply congrArg (List.map Prod.fst)
  apply List.filter_congr
  intro entry _
  rw [Function.comp, bne, beq_eq_decide, decide_not]

theorem eq_empty_of_keys {Key Value : Type*} {dict : OrderedDict Key Value}
    (none_left : dict.keys = []) : dict = empty := by
  obtain ⟨entries, distinct⟩ := dict
  have gone : entries = [] := List.map_eq_nil_iff.mp none_left
  cases gone
  rfl

theorem values_set_fresh (dict : OrderedDict Key Value) {key : Key} (value : Value)
    (fresh : key ∉ dict.keys) : (dict.set key value).values = dict.values ++ [value] := by
  change (assign key value dict.entries).map Prod.snd = dict.entries.map Prod.snd ++ [value]
  rw [assign_fresh value fresh, List.map_append]
  rfl

theorem find_values {dict : OrderedDict Key Value} {keyOf : Value → Key}
    (named : ∀ key value, dict.get? key = some value → keyOf value = key) (key : Key) :
    dict.values.find? (fun value => decide (keyOf value = key)) = dict.get? key := by
  have inList : ∀ entries : List (Key × Value), (∀ item ∈ entries, keyOf item.2 = item.1) →
      (entries.map Prod.snd).find? (fun value => decide (keyOf value = key)) =
        lookup key entries := by
    intro entries each
    induction entries with
    | nil => rfl
    | cons item rest ih =>
      have later := ih fun other member => each other (List.mem_cons_of_mem _ member)
      rw [List.map_cons, List.find?_cons, lookup, each item List.mem_cons_self]
      by_cases here : item.1 = key
      · simp [here]
      · simp [here, later]
  apply inList
  intro item member
  exact named item.1 item.2 ((get_eq_some_iff _ _ _).mpr member)

theorem mem_keys_erase (dict : OrderedDict Key Value) (key other : Key) :
    other ∈ (dict.erase key).keys ↔ other ≠ key ∧ other ∈ dict.keys := by
  rw [keys_erase]
  exact dict.distinct.mem_erase_iff

theorem keys_modify (dict : OrderedDict Key Value) (key : Key) (change : Value → Value) :
    (dict.modify key change).keys = dict.keys := by
  unfold modify
  cases found : dict.get? key with
  | none => rfl
  | some value =>
    have present : key ∈ dict.keys := (mem_keys_iff _ _).mpr ⟨value, found⟩
    dsimp only
    rw [keys_set, if_pos present]

theorem lookup_map {Other : Type*} (change : Value → Other) (key : Key)
    (entries : List (Key × Value)) :
    lookup key (entries.map fun item => (item.1, change item.2)) =
      (lookup key entries).map change := by
  induction entries with
  | nil => rfl
  | cons entry rest ih =>
    by_cases here : entry.1 = key
    · simp [lookup, here]
    · simp [lookup, here, ih]

theorem get_setAll_map {Other : Type*} (dict : OrderedDict Key Value)
    (change : Value → Other) (key : Key) :
    (empty.setAll (dict.entries.map fun item => (item.1, change item.2))).get? key =
      (dict.get? key).map change := by
  have sameKeys : (dict.entries.map fun item => (item.1, change item.2)).map
      Prod.fst = dict.entries.map Prod.fst := by
    simp [Function.comp_def]
  have written := entries_setAll_fresh (empty : OrderedDict Key Other)
    (dict.entries.map fun item => (item.1, change item.2)) (by
      change (List.map Prod.fst (List.map _ dict.entries)).Nodup
      rw [sameKeys]
      exact dict.distinct)
  rw [get?, written]
  exact lookup_map change key dict.entries

end OrderedDict

end AiEnterpriseOs.Library
