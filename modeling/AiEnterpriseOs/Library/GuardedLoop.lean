import Mathlib.Data.List.Basic

/-!
# Loops over a collection that may not grow

A loop over a collection looks before each step whether the collection has
still the size that it had at the start, and stops with an error where it has
not. A body that only adds items ends such a loop unless it adds none.
-/

namespace AiEnterpriseOs.Library

namespace GuardedLoop

variable {Item : Type*}

section

variable (body : Item → List Item → List Item)

/-- The loop with the items that are still to come, `none` where it raises. -/
def run (size : Nat) : List Item → List Item → Option (List Item)
  | [], items => if items.length = size then some items else none
  | item :: rest, items =>
    if items.length = size then run size rest (body item items) else none

theorem run_changed {size : Nat} (remaining : List Item) {items : List Item}
    (changed : items.length ≠ size) : run body size remaining items = none := by
  cases remaining with
  | nil => exact if_neg changed
  | cons item rest => exact if_neg changed

variable {body}

theorem run_unchanged {items : List Item} (remaining : List Item)
    (unchanged : ∀ item ∈ remaining, body item items = items) :
    run body items.length remaining items = some items := by
  induction remaining with
  | nil => exact if_pos rfl
  | cons item rest ih =>
    rw [run, if_pos rfl, unchanged item List.mem_cons_self]
    apply ih
    intro other member
    exact unchanged other (List.mem_cons_of_mem _ member)

theorem run_grows (grows : ∀ item items, items <+: body item items) {items : List Item}
    {remaining : List Item} {item : Item} (member : item ∈ remaining)
    (adds : body item items ≠ items) : run body items.length remaining items = none := by
  induction remaining with
  | nil => cases member
  | cons head rest ih =>
    rw [run, if_pos rfl]
    by_cases kept : body head items = items
    · rw [kept]
      apply ih
      rcases List.mem_cons.mp member with rfl | later
      · exact absurd kept adds
      · exact later
    · apply run_changed
      intro same
      exact kept ((grows head items).eq_of_length same.symm).symm

end

section AddNew

variable [DecidableEq Item]

/-- The items that are not there yet are added one after the other. -/
def addNew (news items : List Item) : List Item :=
  news.foldl (fun items item => if item ∈ items then items else items ++ [item]) items

theorem add_new_extends (news items : List Item) : items <+: addNew news items := by
  unfold addNew
  induction news generalizing items with
  | nil => exact List.prefix_rfl
  | cons item rest ih =>
    rw [List.foldl_cons]
    split
    · exact ih items
    · exact (List.prefix_append items [item]).trans (ih _)

theorem mem_add_new {news : List Item} {item : Item} (member : item ∈ news)
    (items : List Item) : item ∈ addNew news items := by
  induction news generalizing items with
  | nil => cases member
  | cons head rest ih =>
    rcases List.mem_cons.mp member with rfl | later
    · apply (add_new_extends rest _).subset
      beta_reduce
      split
      · assumption
      · exact List.mem_append_right _ List.mem_cons_self
    · exact ih later _

theorem add_new_eq_self_iff (news items : List Item) :
    addNew news items = items ↔ ∀ item ∈ news, item ∈ items := by
  constructor
  · intro same item member
    rw [← same]
    exact mem_add_new member items
  · intro known
    induction news with
    | nil => rfl
    | cons head rest ih =>
      rw [addNew, List.foldl_cons, if_pos (known head List.mem_cons_self)]
      apply ih
      intro item member
      exact known item (List.mem_cons_of_mem _ member)

end AddNew

end GuardedLoop

end AiEnterpriseOs.Library
