import Mathlib.Data.List.Basic

/-!
# Last writes

A list of items that each may set a value. Written one after the other, the last one
that sets it leaves its value.
-/

namespace AiEnterpriseOs.Library

variable {Item Value : Type*} (setting : Item → Option Value)

def lastSetting (items : List Item) : Option Value := (items.filterMap setting).getLast?

/-- The item sets the value and no later one does. -/
def SetsLast (items : List Item) (last : Item) : Prop :=
  ∃ before after, items = before ++ last :: after ∧ setting last ≠ none ∧
    ∀ other ∈ after, setting other = none

variable {setting}

theorem last_setting_nil : lastSetting setting [] = none := rfl

theorem last_setting_cons (item : Item) (rest : List Item) :
    lastSetting setting (item :: rest) = (lastSetting setting rest).or (setting item) := by
  rw [lastSetting, lastSetting, List.filterMap_cons]
  cases setting item with
  | none => rw [Option.or_none]
  | some value =>
    dsimp only
    rw [List.getLast?_cons]
    cases (rest.filterMap setting).getLast? <;> rfl

theorem last_setting_none_iff (items : List Item) :
    lastSetting setting items = none ↔ ∀ item ∈ items, setting item = none := by
  rw [lastSetting, List.getLast?_eq_none_iff, List.filterMap_eq_nil_iff]

theorem last_setting_iff (items : List Item) (value : Value) :
    lastSetting setting items = some value ↔
      ∃ last, SetsLast setting items last ∧ setting last = some value := by
  induction items with
  | nil =>
    refine iff_of_false nofun ?_
    intro found
    obtain ⟨last, sets, _⟩ := found
    obtain ⟨before, after, split, _⟩ := sets
    exact absurd split (by simp)
  | cons item rest ih =>
    rw [last_setting_cons]
    constructor
    · intro found
      cases later : lastSetting setting rest with
      | none =>
        rw [later, Option.none_or] at found
        refine ⟨item, ⟨[], rest, rfl, ?_, (last_setting_none_iff rest).mp later⟩, found⟩
        rw [found]
        exact Option.some_ne_none value
      | some kept =>
        rw [later, Option.some_or] at found
        obtain ⟨last, sets, same⟩ := ih.mp (later.trans found)
        obtain ⟨before, after, split, clear⟩ := sets
        exact ⟨last, ⟨item :: before, after, by rw [split]; rfl, clear⟩, same⟩
    · intro found
      obtain ⟨last, sets, same⟩ := found
      obtain ⟨before, after, split, sets, clear⟩ := sets
      cases before with
      | nil =>
        obtain ⟨head, tail⟩ := List.cons.inj split
        rw [tail, (last_setting_none_iff after).mpr clear, Option.none_or, head, same]
      | cons first before =>
        obtain ⟨_, tail⟩ := List.cons.inj split
        rw [ih.mpr ⟨last, ⟨before, after, tail, sets, clear⟩, same⟩, Option.some_or]

theorem sets_last_mem {items : List Item} {last : Item} (sets : SetsLast setting items last) :
    last ∈ items := by
  obtain ⟨before, after, split, _⟩ := sets
  rw [split]
  exact List.mem_append_right before List.mem_cons_self

end AiEnterpriseOs.Library

/-!
## Overwriting from the start

A text written at the start of a file covers as much of its content as it is long.
-/

namespace AiEnterpriseOs.Library

variable {Item : Type*}

def overwrite (content text : List Item) : List Item := text ++ content.drop text.length

def overwriteAll (content : List Item) (texts : List (List Item)) : List Item :=
  texts.foldl overwrite content

theorem overwrite_get (content text : List Item) (offset : Nat) :
    (overwrite content text)[offset]? = text[offset]?.or content[offset]? := by
  rw [overwrite, List.getElem?_append]
  split
  next within =>
    rw [List.getElem?_eq_getElem within, Option.some_or]
  next beyond =>
    have reached : text.length + (offset - text.length) = offset := by omega
    have past : text[offset]? = none := List.getElem?_eq_none (by omega)
    rw [past, Option.none_or, List.getElem?_drop, reached]

theorem overwrite_all_get (content : List Item) (texts : List (List Item)) (offset : Nat) :
    (overwriteAll content texts)[offset]? =
      (lastSetting (fun text : List Item => text[offset]?) texts).or content[offset]? := by
  induction texts generalizing content with
  | nil => rw [overwriteAll, List.foldl_nil, last_setting_nil, Option.none_or]
  | cons text rest ih =>
    have later := ih (overwrite content text)
    rw [overwriteAll] at later ⊢
    rw [List.foldl_cons, later, overwrite_get, last_setting_cons, Option.or_assoc]

/-- At each offset the last of the texts that reaches it has there what this one has. -/
def StandsWhole (text : List Item) (texts : List (List Item)) : Prop :=
  ∀ offset : Nat, lastSetting (fun other : List Item => other[offset]?) texts = text[offset]?

theorem overwrite_all_eq_iff (text : List Item) (texts : List (List Item)) :
    overwriteAll [] texts = text ↔ StandsWhole text texts := by
  rw [List.ext_getElem?_iff, StandsWhole]
  apply forall_congr'
  intro offset
  rw [overwrite_all_get, List.getElem?_nil, Option.or_none]

end AiEnterpriseOs.Library
