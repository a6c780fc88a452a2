import AiEnterpriseOs.Library.OrderedDict
import Mathlib.Algebra.BigOperators.Group.List.Basic
import Mathlib.Algebra.GroupWithZero.Nat
import Mathlib.Data.List.Count
import Mathlib.Data.List.Dedup

/-!
# Grouping items into rows

Items are placed in groups and folded into the row of their group, in the
order in which the groups come up. Placing an item or folding it may fail,
and some items have no place.
-/

namespace AiEnterpriseOs.Library

section

variable {Item Key Row : Type*} [DecidableEq Key]
variable (place : Item → Option (Option Key)) (fresh : Row)
variable (fold : Row → Item → Option Row)

def groupInto (rows : OrderedDict Key Row) : List Item → Option (OrderedDict Key Row)
  | [] => some rows
  | item :: rest =>
    (place item).bind fun
      | none => groupInto rows rest
      | some key =>
        (fold (rows.getD key fresh) item).bind fun row =>
          groupInto (rows.set key row) rest

/-- The items of one group, in their order. -/
def members (key : Key) (items : List Item) : List Item :=
  items.filter fun item => place item = some (some key)

variable {place fresh fold}

theorem members_cons_self {key : Key} {item : Item} (placed : place item = some (some key))
    (rest : List Item) : members place key (item :: rest) = item :: members place key rest := by
  rw [members, List.filter_cons_of_pos (by simpa using placed), members]

theorem members_cons_other {key : Key} {item : Item} (elsewhere : place item ≠ some (some key))
    (rest : List Item) : members place key (item :: rest) = members place key rest := by
  rw [members, List.filter_cons_of_neg (by simpa using elsewhere), members]

theorem members_append (key : Key) (first second : List Item) :
    members place key (first ++ second) = members place key first ++ members place key second := by
  rw [members, members, members, List.filter_append]

theorem group_into_get {rows grouped : OrderedDict Key Row} {items : List Item}
    (result : groupInto place fresh fold rows items = some grouped) (key : Key) :
    grouped.get? key =
      if members place key items = [] then rows.get? key
      else (members place key items).foldlM fold (rows.getD key fresh) := by
  induction items generalizing rows with
  | nil =>
    rw [← Option.some.inj result]
    rfl
  | cons item rest ih =>
    obtain ⟨placed, place_item, continues⟩ := Option.bind_eq_some_iff.mp result
    cases placed with
    | none =>
      rw [members_cons_other (by rw [place_item]; nofun), ih continues]
    | some other =>
      obtain ⟨row, folded, restResult⟩ := Option.bind_eq_some_iff.mp continues
      rw [ih restResult]
      by_cases same : key = other
      · subst same
        rw [members_cons_self place_item, if_neg (List.cons_ne_nil _ _),
          OrderedDict.get_set_self, List.foldlM_cons, folded]
        split
        next empty => rw [empty]; rfl
        next => rw [OrderedDict.getD, OrderedDict.get_set_self]; rfl
      · have elsewhere : place item ≠ some (some key) := by
          rw [place_item]
          exact fun equal => same (Option.some.inj (Option.some.inj equal)).symm
        rw [members_cons_other elsewhere, OrderedDict.getD, OrderedDict.getD,
          OrderedDict.get_set_other rows row same]

theorem group_into_present {rows grouped : OrderedDict Key Row} {items : List Item}
    (result : groupInto place fresh fold rows items = some grouped) {key : Key}
    (present : (rows.get? key).isSome = true ∨ members place key items ≠ []) :
    (grouped.get? key).isSome = true := by
  induction items generalizing rows with
  | nil =>
    rw [← Option.some.inj result]
    exact present.resolve_right fun nonempty => nonempty rfl
  | cons item rest ih =>
    obtain ⟨placed, place_item, continues⟩ := Option.bind_eq_some_iff.mp result
    cases placed with
    | none =>
      rw [members_cons_other (by rw [place_item]; nofun)] at present
      exact ih continues present
    | some other =>
      obtain ⟨row, folded, restResult⟩ := Option.bind_eq_some_iff.mp continues
      apply ih restResult
      by_cases same : key = other
      · subst same
        left
        rw [OrderedDict.get_set_self]
        rfl
      · have elsewhere : place item ≠ some (some key) := by
          rw [place_item]
          exact fun equal => same (Option.some.inj (Option.some.inj equal)).symm
        rw [members_cons_other elsewhere] at present
        rw [OrderedDict.get_set_other rows row same]
        exact present

theorem sum_indicator {keys : List Key} (distinct : keys.Nodup) {key : Key}
    (member : key ∈ keys) : (keys.map fun other => if key = other then 1 else 0).sum = 1 := by
  induction keys with
  | nil => cases member
  | cons other rest ih =>
    obtain ⟨fresh, restDistinct⟩ := List.nodup_cons.mp distinct
    rw [List.map_cons, List.sum_cons]
    by_cases same : key = other
    · subst same
      have others : (rest.map fun other => if key = other then 1 else 0) = rest.map fun _ => 0 := by
        apply List.map_congr_left
        intro other otherMember
        have distinctKeys : key ≠ other := fun equal => fresh (equal ▸ otherMember)
        rw [if_neg distinctKeys]
      rw [if_pos rfl, others]
      simp
    · rw [if_neg same, ih restDistinct ((List.mem_cons.mp member).resolve_left same)]

/-- Every item is a member of exactly one group. -/
theorem total_members {keys : List Key} (distinct : keys.Nodup) {items : List Item}
    (covered : ∀ item ∈ items, ∃ key ∈ keys, place item = some (some key)) :
    (keys.map fun key => (members place key items).length).sum = items.length := by
  induction items with
  | nil => simp [members]
  | cons item rest ih =>
    rw [List.forall_mem_cons] at covered
    obtain ⟨⟨key, member, placed⟩, restCovered⟩ := covered
    have counts : (keys.map fun other => (members place other (item :: rest)).length) =
        keys.map fun other =>
          (if key = other then 1 else 0) + (members place other rest).length := by
      apply List.map_congr_left
      intro other _
      by_cases same : key = other
      · rw [if_pos same, members_cons_self (same ▸ placed), List.length_cons, Nat.add_comm]
      · have elsewhere : place item ≠ some (some other) := by
          rw [placed]
          exact fun equal => same (Option.some.inj (Option.some.inj equal))
        rw [if_neg same, members_cons_other elsewhere, Nat.zero_add]
    rw [counts, List.sum_map_add, sum_indicator distinct member, ih restCovered,
      List.length_cons, Nat.add_comm]

/-- Where failing does not depend on the row, grouping fails on the items
that fail by themselves. -/
theorem group_into_some_iff {defined : Item → Prop}
    (independent : ∀ row item, (fold row item).isSome = true ↔ defined item)
    (rows : OrderedDict Key Row) (items : List Item) :
    (groupInto place fresh fold rows items).isSome = true ↔
      ∀ item ∈ items, (place item).isSome = true ∧
        (∀ key, place item = some (some key) → defined item) := by
  induction items generalizing rows with
  | nil => simp [groupInto]
  | cons item rest ih =>
    rw [groupInto, List.forall_mem_cons]
    cases placed : place item with
    | none => simp
    | some found =>
      cases found with
      | none => simp [ih]
      | some key =>
        have defined_iff := independent (rows.getD key fresh) item
        rw [Option.bind_some]
        cases folded : fold (rows.getD key fresh) item with
        | none =>
          rw [folded] at defined_iff
          have undefined : ¬defined item := by simpa using defined_iff
          simp [undefined, folded]
        | some row =>
          rw [folded] at defined_iff
          have isDefined : defined item := by simpa using defined_iff
          simp [ih, isDefined, folded]

end

theorem filter_named {Item Result : Type*} [DecidableEq Item] (name : Result → Item)
    (results : Item → Option Result)
    (named : ∀ item result, results item = some result → name result = item)
    (items : List Item) (distinct : items.Nodup) (item : Item) (member : item ∈ items) :
    (items.filterMap results).filter (fun result => name result = item) =
      (results item).toList := by
  induction items with
  | nil => cases member
  | cons head rest ih =>
    obtain ⟨new, restDistinct⟩ := List.nodup_cons.mp distinct
    have elsewhere : (rest.filterMap results).filter (fun result => name result = head) = [] := by
      rw [List.filter_eq_nil_iff]
      intro result found
      obtain ⟨other, listed, same⟩ := List.mem_filterMap.mp found
      rw [named other result same]
      intro isHead
      exact new (of_decide_eq_true isHead ▸ listed)
    rw [List.filterMap_cons]
    cases found : results head with
    | none =>
      rcases List.mem_cons.mp member with here | later
      · rw [here, elsewhere, found]
        rfl
      · exact ih restDistinct later
    | some result =>
      have isNamed := named head result found
      rcases List.mem_cons.mp member with here | later
      · rw [here, List.filter_cons_of_pos (by simpa using isNamed), elsewhere, found]
        rfl
      · have other : name result ≠ item := by
          rw [isNamed]
          intro same
          exact new (same ▸ later)
        rw [List.filter_cons_of_neg (by simpa using other)]
        exact ih restDistinct later

end AiEnterpriseOs.Library

/-!
## Tables of lists

A key without an entry has the empty list. Appending makes the entry, removing
takes the first occurrence and keeps the entry.
-/

namespace AiEnterpriseOs.Library

namespace OrderedDict

variable {Key Item : Type*} [DecidableEq Key]

def listed (table : OrderedDict Key (List Item)) (key : Key) : List Item := table.getD key []

def append (table : OrderedDict Key (List Item)) (key : Key) (item : Item) :
    OrderedDict Key (List Item) :=
  table.set key (table.listed key ++ [item])

def remove [DecidableEq Item] (table : OrderedDict Key (List Item)) (item : Item) (key : Key) :
    OrderedDict Key (List Item) :=
  if item ∈ table.listed key then table.set key ((table.listed key).erase item) else table

@[simp] theorem listed_empty (key : Key) :
    (empty : OrderedDict Key (List Item)).listed key = [] := rfl

theorem listed_append (table : OrderedDict Key (List Item)) (key other : Key) (item : Item) :
    (table.append key item).listed other =
      if other = key then table.listed key ++ [item] else table.listed other :=
  getD_set table key other _ []

theorem count_append_each [DecidableEq Item] (item other : Item) (key : Key) (keys : List Key)
    (table : OrderedDict Key (List Item)) :
    ((keys.foldl (fun table key => table.append key item) table).listed key).count other =
      (table.listed key).count other + if other = item then keys.count key else 0 := by
  induction keys generalizing table with
  | nil => simp
  | cons first rest ih =>
    rw [List.foldl_cons, ih, listed_append, List.count_cons]
    by_cases here : key = first
    · by_cases own : other = item
      · simp [here, own, List.count_append]
        omega
      · have apart : (item == other) = false := by simpa using Ne.symm own
        simp [here, own, apart, List.count_append, List.count_singleton]
    · have apart : (first == key) = false := by simpa using Ne.symm here
      simp [here, apart]

theorem listed_append_all (key other : Key) (items : List Item)
    (table : OrderedDict Key (List Item)) :
    (items.foldl (fun table item => table.append key item) table).listed other =
      if other = key then table.listed key ++ items else table.listed other := by
  induction items generalizing table with
  | nil =>
    split
    next same => simp [same]
    · rfl
  | cons item rest ih =>
    rw [List.foldl_cons, ih, listed_append, listed_append, if_pos rfl]
    split
    · rw [List.append_assoc, List.singleton_append]
    · rfl

theorem get_raise_each (key other : Key) (items : List Item) (table : OrderedDict Key Int)
    {number : Int} (found : table.get? key = some number) :
    (items.foldl (fun table _ => table.set key (table.getD key 0 + 1)) table).get? other =
      if other = key then some (number + items.length) else table.get? other := by
  induction items generalizing table number with
  | nil =>
    split
    next same => simp [same, found]
    · rfl
  | cons item rest ih =>
    have raised : (table.set key (table.getD key 0 + 1)).get? key = some (number + 1) := by
      rw [get_set_self, getD, found, Option.getD_some]
    rw [List.foldl_cons, ih _ raised, List.length_cons, Int.natCast_succ]
    split
    · congr 1
      omega
    next different => rw [get_set_other _ _ different]

theorem listed_erase (table : OrderedDict Key (List Item)) (key other : Key) :
    (table.erase key).listed other =
      if other = key then [] else table.listed other := by
  rw [listed, getD, get_erase]
  split <;> rfl

section Remove

variable [DecidableEq Item]

theorem listed_remove (table : OrderedDict Key (List Item)) (item : Item) (key other : Key) :
    (table.remove item key).listed other =
      if other = key then (table.listed key).erase item else table.listed other := by
  unfold remove
  split
  · exact getD_set table key other _ []
  next absent =>
    split
    next same => rw [same, List.erase_of_not_mem absent]
    · rfl

theorem get_remove_each_none_iff (item : Item) (key : Key) (keys : List Key)
    (table : OrderedDict Key (List Item)) :
    (keys.foldl (fun table => table.remove item) table).get? key = none ↔
      table.get? key = none := by
  induction keys generalizing table with
  | nil => exact Iff.rfl
  | cons first rest ih =>
    rw [List.foldl_cons, ih]
    unfold remove
    split
    next present =>
      rw [get_set]
      split
      next same =>
        refine iff_of_false (Option.some_ne_none _) ?_
        intro absent
        rw [listed, getD, ← same, absent] at present
        cases present
      · exact Iff.rfl
    · exact Iff.rfl

theorem count_remove_each (item other : Item) (key : Key) (keys : List Key)
    (table : OrderedDict Key (List Item)) :
    ((keys.foldl (fun table => table.remove item) table).listed key).count other =
      if other = item then (table.listed key).count item - keys.count key
      else (table.listed key).count other := by
  induction keys generalizing table with
  | nil =>
    rw [List.foldl_nil, List.count_nil, Nat.sub_zero]
    split
    next same => rw [same]
    · rfl
  | cons first rest ih =>
    rw [List.foldl_cons, ih, listed_remove]
    by_cases here : key = first
    · rw [if_pos here, here, List.count_erase, List.count_erase, List.count_cons_self]
      split
      · simp only [beq_self_eq_true, if_true]
        omega
      next different =>
        have apart : (item == other) = false := by simpa using Ne.symm different
        rw [apart, if_neg Bool.false_ne_true, Nat.sub_zero]
    · rw [if_neg here, List.count_cons_of_ne (Ne.symm here)]

theorem listed_remove_each (item : Item) {key : Key} {keys : List Key}
    (unnamed : key ∉ keys) (table : OrderedDict Key (List Item)) :
    (keys.foldl (fun table => table.remove item) table).listed key = table.listed key := by
  induction keys generalizing table with
  | nil => rfl
  | cons first rest ih =>
    rw [List.mem_cons, not_or] at unnamed
    rw [List.foldl_cons, ih unnamed.2, listed_remove, if_neg unnamed.1]

end Remove

end OrderedDict

end AiEnterpriseOs.Library

/-!
## Tallies

Items counted into the row of their key, which is started by the first of them. The rows are
in the order of the first items of the keys.
-/

namespace AiEnterpriseOs.Library

section Listed

variable {Key : Type*} [DecidableEq Key]

/-- Each name once, where it comes first. -/
def listed (names : List Key) : List Key := names.reverse.dedup.reverse

theorem listed_concat (names : List Key) (name : Key) : listed (names ++ [name]) =
      if name ∈ listed names then listed names else listed names ++ [name] := by
  have present : name ∈ listed names ↔ name ∈ names.reverse := by
    rw [listed, List.mem_reverse, List.mem_dedup]
  rw [listed, List.reverse_append, List.reverse_singleton, List.singleton_append, List.dedup_cons]
  by_cases again : name ∈ names.reverse
  · rw [if_pos again, if_pos (present.mpr again), listed]
  · rw [if_neg again, if_neg (present.not.mpr again), listed, List.reverse_cons]

@[simp] theorem mem_listed (names : List Key) (name : Key) :
    name ∈ listed names ↔ name ∈ names := by
  rw [listed, List.mem_reverse, List.mem_dedup, List.mem_reverse]

theorem listed_map {Name : Type*} [DecidableEq Name] {name : Key → Name}
    (injective : Function.Injective name) (keys : List Key) :
    listed (keys.map name) = (listed keys).map name := by
  rw [listed, listed, ← List.map_reverse, List.dedup_map_of_injective injective, List.map_reverse]

end Listed

variable {Item Key Row : Type*} [DecidableEq Key]
variable (key : Item → Key) (fresh : Item → Row) (add : Row → Item → Row)

def countIn (rows : OrderedDict Key Row) (item : Item) : OrderedDict Key Row :=
  rows.set (key item) (add (rows.getD (key item) (fresh item)) item)

def tally (items : List Item) : OrderedDict Key Row :=
  items.foldl (countIn key fresh add) .empty

variable {key fresh add}

theorem tally_concat (items : List Item) (item : Item) : tally key fresh add (items ++ [item]) =
      countIn key fresh add (tally key fresh add items) item := by
  rw [tally, List.foldl_append]
  rfl

theorem tally_keys (items : List Item) :
    (tally key fresh add items).keys = listed (items.map key) := by
  induction items using List.reverseRecOn with
  | nil => rfl
  | append_singleton items item ih =>
    rw [tally_concat, countIn, OrderedDict.keys_set, List.map_append, List.map_singleton,
      listed_concat, ih]

theorem tally_get {start : Key → Row} (items : List Item)
    (starts : ∀ item ∈ items, fresh item = start (key item)) {name : Key}
    (present : name ∈ items.map key) :
    (tally key fresh add items).get? name =
      some ((items.filter fun item => key item = name).foldl add (start name)) := by
  induction items using List.reverseRecOn with
  | nil => cases present
  | append_singleton items item ih =>
    have earlier := fun other member => starts other (List.mem_append_left [item] member)
    have last := starts item (List.mem_append_right items (List.mem_singleton_self item))
    rw [tally_concat, countIn, OrderedDict.get_set, List.filter_append]
    by_cases here : name = key item
    · have row : (tally key fresh add items).getD (key item) (fresh item) =
          (items.filter fun other => key other = key item).foldl add (start (key item)) := by
        by_cases before : key item ∈ items.map key
        · rw [OrderedDict.getD, ← here, ih earlier (here ▸ before)]
          rfl
        · have absent : (tally key fresh add items).get? (key item) = none := by
            have outside : key item ∉ (tally key fresh add items).keys := by
              rw [tally_keys, mem_listed]
              exact before
            rw [OrderedDict.mem_keys_iff] at outside
            exact Option.eq_none_iff_forall_ne_some.mpr fun value found =>
              outside ⟨value, found⟩
          have none_here : (items.filter fun other => key other = key item) = [] := by
            rw [List.filter_eq_nil_iff]
            intro other member same
            exact before (List.mem_map.mpr ⟨other, member, of_decide_eq_true same⟩)
          rw [OrderedDict.getD, absent, none_here, last]
          rfl
      rw [if_pos here, here, row, List.filter_cons_of_pos (by simp), List.filter_nil,
        List.foldl_append]
      rfl
    · have before : name ∈ items.map key := by
        rw [List.map_append, List.mem_append] at present
        rcases present with early | late
        · exact early
        · exact absurd (List.mem_singleton.mp late) here
      have elsewhere : ([item].filter fun other => key other = name) = [] := by
        rw [List.filter_eq_nil_iff]
        intro other member same
        rw [List.mem_singleton.mp member] at same
        exact here (of_decide_eq_true same).symm
      rw [if_neg here, ih earlier before, elsewhere, List.append_nil]

theorem tally_values {start : Key → Row} (items : List Item)
    (starts : ∀ item ∈ items, fresh item = start (key item)) :
    (tally key fresh add items).values = (listed (items.map key)).map fun name =>
      (items.filter fun item => key item = name).foldl add (start name) := by
  have keys : (tally key fresh add items).keys = listed (items.map key) := tally_keys items
  rw [← keys, OrderedDict.values, OrderedDict.keys, List.map_map]
  apply List.map_congr_left
  intro entry member
  have found : (tally key fresh add items).get? entry.1 = some entry.2 :=
    (OrderedDict.get_eq_some_iff _ _ _).mpr member
  have present : entry.1 ∈ items.map key := by
    rw [← mem_listed, ← keys, OrderedDict.mem_keys_iff]
    exact ⟨_, found⟩
  rw [tally_get items starts present] at found
  exact (Option.some.inj found).symm

end AiEnterpriseOs.Library
