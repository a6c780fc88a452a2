import AiEnterpriseOs.Library.OrderedDict
import AiEnterpriseOs.Library.Ranking
import Mathlib.Data.List.Basic
import Mathlib.Data.List.DropRight
import Mathlib.Data.List.Nodup
import Mathlib.Logic.Function.Basic

/-!
# The last items of a growing list

A window of the last `limit` items of a list to which items are appended, the
dictionary that holds it by erasing the keys of older items, and the greatest
item of such a window.
-/

namespace AiEnterpriseOs.Library

section

variable {Item : Type*}

theorem rtake_rtake (items : List Item) {fewer limit : Nat} (less : fewer ≤ limit) :
    (items.rtake limit).rtake fewer = items.rtake fewer := by
  simp only [List.rtake_eq_reverse_take_reverse, List.reverse_reverse, List.take_take]
  rw [min_eq_left less]

theorem rtake_concat (items : List Item) (item : Item) (limit : Nat) :
    (items.rtake limit ++ [item]).rtake limit = (items ++ [item]).rtake limit := by
  cases limit with
  | zero => simp only [List.rtake_zero]
  | succ limit =>
    rw [List.rtake_concat_succ, List.rtake_concat_succ, rtake_rtake items limit.le_succ]

theorem length_rtake_le (items : List Item) (limit : Nat) : (items.rtake limit).length ≤ limit := by
  rw [List.rtake, List.length_drop]
  omega

theorem rtake_sublist (items : List Item) (limit : Nat) : (items.rtake limit).Sublist items :=
  List.drop_sublist _ items

theorem getLast_rtake (items : List Item) {limit : Nat} (some_kept : 1 ≤ limit) :
    (items.rtake limit).getLast? = items.getLast? := by
  cases items using List.reverseRecOn with
  | nil => rw [List.rtake_nil]
  | append_singleton early last =>
    obtain ⟨fewer, rfl⟩ := Nat.exists_eq_add_of_le' some_kept
    rw [List.rtake_concat_succ, List.getLast?_concat, List.getLast?_concat]

theorem map_rtake {Value : Type*} (value : Item → Value) (items : List Item) (limit : Nat) :
    (items.rtake limit).map value = (items.map value).rtake limit := by
  rw [List.rtake, List.rtake, List.map_drop, List.length_map]

theorem filter_apart_take {Name : Type*} [DecidableEq Name] (name : Item → Name)
    {items : List Item} (distinct : (items.map name).Nodup) (count : Nat) :
    (items.filter fun item => name item ∉ (items.take count).map name) =
      items.drop count := by
  have parts := List.take_append_drop count items
  have apart : ((items.take count).map name).Disjoint ((items.drop count).map name) := by
    rw [← parts, List.map_append] at distinct
    exact List.disjoint_of_nodup_append distinct
  generalize items.take count = early at parts apart ⊢
  generalize items.drop count = late at parts apart ⊢
  rw [← parts, List.filter_append]
  have none_early : (early.filter fun item => name item ∉ early.map name) = [] := by
    apply List.filter_eq_nil_iff.mpr
    intro item member kept
    exact of_decide_eq_true kept (List.mem_map_of_mem member)
  have all_late : (late.filter fun item => name item ∉ early.map name) = late := by
    apply List.filter_eq_self.mpr
    intro item member
    apply decide_eq_true
    intro shared
    exact apart shared (List.mem_map_of_mem member)
  rw [none_early, all_late, List.nil_append]

theorem last_exceeds_map_iff {Value : Type*} (value : Item → Value)
    (less : Value → Value → Prop) (items : List Item) :
    (∀ early last, items.map value = early ++ [last] → ∀ other ∈ early, less other last) ↔
      ∀ early last, items = early ++ [last] → ∀ item ∈ early, less (value item) (value last) := by
  constructor
  · intro exceeds early last split item member
    apply exceeds (early.map value) (value last) _ _ (List.mem_map_of_mem member)
    rw [split, List.map_append]
    rfl
  · intro exceeds early last split other member
    cases items using List.reverseRecOn with
    | nil =>
      cases early with
      | nil => cases split
      | cons head rest => cases split
    | append_singleton first final =>
      rw [List.map_append] at split
      obtain ⟨sameEarly, sameLast⟩ := List.append_inj' split rfl
      rw [← sameEarly] at member
      rw [← List.singleton_inj.mp sameLast]
      obtain ⟨item, listed, rfl⟩ := List.mem_map.mp member
      exact exceeds first final rfl item listed

/-- The first maximum of distinct items is the last of them exactly if it
exceeds all others. -/
theorem first_max_eq_last_iff {Key : Type*} [LinearOrder Key] (key : Item → Key)
    {items : List Item} (distinct : items.Nodup) :
    firstMax key items = items.getLast? ↔
      ∀ early last, items = early ++ [last] → ∀ item ∈ early, key item < key last := by
  constructor
  · intro isLast early last split item member
    rw [split, List.getLast?_concat, ← split] at isLast
    obtain ⟨before, after, parts, below, _⟩ := first_max_split key isLast
    -- the list is distinct, so that nothing follows its last item's first place
    cases after using List.reverseRecOn with
    | nil =>
      have sameEarly : early = before := List.append_cancel_right (split.symm.trans parts)
      exact below item (sameEarly ▸ member)
    | append_singleton between other =>
      have reached : items = (before ++ last :: between) ++ [other] := by
        rw [parts, List.append_assoc]
        rfl
      have sameLast : last = other :=
        List.singleton_inj.mp (List.append_inj_right' (split.symm.trans reached) rfl)
      rw [reached, List.nodup_append] at distinct
      exact absurd sameLast (distinct.2.2 last
        (List.mem_append_right _ List.mem_cons_self) other (List.mem_singleton_self other))
  · intro exceeds
    cases selected : firstMax key items with
    | none =>
      cases items with
      | nil => rfl
      | cons item rest => cases selected
    | some best =>
      obtain ⟨before, after, parts, _, above⟩ := first_max_split key selected
      cases after using List.reverseRecOn with
      | nil => rw [parts, List.getLast?_concat]
      | append_singleton between last =>
        have split : items = (before ++ best :: between) ++ [last] := by
          rw [parts, List.append_assoc]
          rfl
        have less := exceeds _ last split best (List.mem_append_right _ List.mem_cons_self)
        have atMost := above last (List.mem_append_right _ (List.mem_singleton_self last))
        exact absurd less (not_lt.mpr atMost)

end

namespace OrderedDict

variable {Key Value : Type*} [DecidableEq Key] {name : Value → Key}

theorem values_erase_named {dict : OrderedDict Key Value}
    (named : ∀ entry ∈ dict.entries, name entry.2 = entry.1) (key : Key) :
    (dict.erase key).values = dict.values.filter fun value => name value ≠ key := by
  rw [values, values, erase, List.filter_map]
  apply congrArg (List.map Prod.snd)
  apply List.filter_congr
  intro entry member
  rw [Function.comp, named entry member]

theorem entries_erase_named {dict : OrderedDict Key Value}
    (named : ∀ entry ∈ dict.entries, name entry.2 = entry.1) (key : Key) :
    ∀ entry ∈ (dict.erase key).entries, name entry.2 = entry.1 := by
  intro entry member
  exact named entry (List.mem_filter.mp member).1

end OrderedDict

end AiEnterpriseOs.Library

/-!
## Keys in the order of their last use

A list of keys, each with the moment of its last use, the least recent first.
Using a key moves it to the end, at a moment later than all others.
-/

namespace AiEnterpriseOs.Library

variable {Key : Type*}

/-- The keys stand in the order of their last uses, all before the present
moment. -/
structure ByUse (usedAt : Key → Nat) (clock : Nat) (keys : List Key) : Prop where
  ordered : keys.Pairwise fun left right => usedAt left < usedAt right
  past : ∀ key ∈ keys, usedAt key < clock

namespace ByUse

variable {usedAt : Key → Nat} {clock : Nat} {keys : List Key}

theorem empty (usedAt : Key → Nat) (clock : Nat) : ByUse usedAt clock ([] : List Key) where
  ordered := List.Pairwise.nil
  past := by
    intro key member
    cases member

theorem later (order : ByUse usedAt clock keys) : ByUse usedAt (clock + 1) keys where
  ordered := order.ordered
  past key member := Nat.lt_succ_of_lt (order.past key member)

theorem sublist (order : ByUse usedAt clock keys) {fewer : List Key}
    (part : fewer.Sublist keys) : ByUse usedAt clock fewer where
  ordered := order.ordered.sublist part
  past key member := order.past key (part.subset member)

theorem first_least (order : ByUse usedAt clock keys) {first : Key} {rest : List Key}
    (split : keys = first :: rest) {other : Key} (member : other ∈ keys)
    (apart : other ≠ first) : usedAt first < usedAt other := by
  rw [split] at member
  have ordered := order.ordered
  rw [split] at ordered
  rcases List.mem_cons.mp member with same | later
  · exact absurd same apart
  · exact (List.pairwise_cons.mp ordered).1 other later

variable [DecidableEq Key]

/-- A use of a key that is not among them. -/
theorem unlisted (order : ByUse usedAt clock keys) {key : Key} (absent : key ∉ keys) :
    ByUse (Function.update usedAt key clock) (clock + 1) keys := by
  have same : ∀ other ∈ keys, Function.update usedAt key clock other = usedAt other := by
    intro other member
    apply Function.update_of_ne
    rintro rfl
    exact absent member
  constructor
  · apply order.ordered.imp_of_mem
    intro left right leftMember rightMember before
    rw [same left leftMember, same right rightMember]
    exact before
  · intro other member
    rw [same other member]
    exact Nat.lt_succ_of_lt (order.past other member)

theorem concat (order : ByUse usedAt clock keys) {key : Key} (absent : key ∉ keys) :
    ByUse (Function.update usedAt key clock) (clock + 1) (keys ++ [key]) := by
  have others := order.unlisted absent
  constructor
  · rw [List.pairwise_append]
    refine ⟨others.ordered, List.pairwise_singleton _ _, ?_⟩
    intro left leftMember right rightMember
    rw [List.mem_singleton.mp rightMember, Function.update_self]
    have apart : left ≠ key := fun same => absent (same ▸ leftMember)
    rw [Function.update_of_ne apart]
    exact order.past left leftMember
  · intro other member
    rcases List.mem_append.mp member with early | late
    · exact others.past other early
    · rw [List.mem_singleton.mp late, Function.update_self]
      exact Nat.lt_succ_self clock

theorem erase_concat (order : ByUse usedAt clock keys) (distinct : keys.Nodup) (key : Key) :
    ByUse (Function.update usedAt key clock) (clock + 1) (keys.erase key ++ [key]) :=
  (order.sublist List.erase_sublist).concat distinct.not_mem_erase

theorem last (order : ByUse usedAt clock keys) (distinct : keys.Nodup) {key : Key}
    (isLast : keys.getLast? = some key) :
    ByUse (Function.update usedAt key clock) (clock + 1) keys := by
  obtain ⟨early, rfl⟩ := List.getLast?_eq_some_iff.mp isLast
  have absent : key ∉ early := by
    rw [List.nodup_append] at distinct
    intro member
    exact distinct.2.2 key member key (List.mem_singleton_self key) rfl
  exact (order.sublist (List.sublist_append_left early [key])).concat absent

end ByUse

end AiEnterpriseOs.Library

/-!
## Queues with a limit

An item joins at the end of the queue, and the oldest ones leave it beyond the
limit.
-/

namespace AiEnterpriseOs.Library.BoundedQueue

variable {Item : Type*} (limit : Nat)

def push (held : List Item) (item : Item) : List Item :=
  (held ++ [item]).drop (held.length + 1 - limit)

def pushAll (held items : List Item) : List Item := items.foldl (push limit) held

/-- How many leave the front, counting the new ones among them. -/
def displaced (held joined : Nat) : Nat := if joined = 0 then 0 else held + joined - limit

theorem push_all_eq (held items : List Item) : pushAll limit held items =
      (held ++ items).drop (displaced limit held.length items.length) := by
  induction items generalizing held with
  | nil => simp [pushAll, displaced]
  | cons item rest ih =>
    have later := ih (push limit held item)
    rw [pushAll, List.foldl_cons, ← pushAll, later, push, List.length_drop,
      ← List.drop_append_of_le_length (by simp), List.drop_drop, List.append_assoc]
    simp only [displaced, List.length_append, List.length_cons, List.length_nil,
      List.singleton_append, Nat.add_one_ne_zero, if_false]
    congr 1
    split <;> omega

theorem push_all_append (held first second : List Item) :
    pushAll limit held (first ++ second) = pushAll limit (pushAll limit held first) second :=
  List.foldl_append

theorem push_all_split (held items : List Item) : pushAll limit held items =
      held.drop (displaced limit held.length items.length) ++
        items.drop (displaced limit held.length items.length - held.length) := by
  rw [push_all_eq, List.drop_append]

end AiEnterpriseOs.Library.BoundedQueue
