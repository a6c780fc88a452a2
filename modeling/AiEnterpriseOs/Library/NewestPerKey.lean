import AiEnterpriseOs.Library.OrderedDict
import Mathlib.Order.Basic
import Mathlib.Order.Lattice

/-!
# The newest item of each key

Items pass one by one; an item takes the place of the one kept under its key
if its stamp is later. What is kept in the end is, under each key, the first
of the items with the latest stamp.
-/

namespace AiEnterpriseOs.Library

theorem find_last_iff {Item : Type*} {wanted : Item → Bool} {items : List Item} {item : Item} :
    items.reverse.find? wanted = some item ↔
      wanted item = true ∧ ∃ early late, items = early ++ item :: late ∧
        ∀ later ∈ late, wanted later = false := by
  rw [List.find?_eq_some_iff_append]
  apply and_congr_right
  intro _
  constructor
  · rintro ⟨after, before, split, unwanted⟩
    refine ⟨before.reverse, after.reverse, ?_, ?_⟩
    · have back := congrArg List.reverse split
      rwa [List.reverse_reverse, List.reverse_append, List.reverse_cons, List.append_assoc,
        List.singleton_append] at back
    · intro later member
      simpa using unwanted later (List.mem_reverse.mp member)
  · rintro ⟨early, late, split, unwanted⟩
    refine ⟨late.reverse, early.reverse, ?_, ?_⟩
    · rw [split, List.reverse_append, List.reverse_cons, List.append_assoc, List.singleton_append]
    · intro later member
      simpa using unwanted later (List.mem_reverse.mp member)

section

variable {Item Key Stamp : Type*} [LinearOrder Stamp] (key : Item → Key) (stamp : Item → Stamp)

/-- No other item of the key is later, and none before it is as late. -/
def NewestOf (items : List Item) (item : Item) : Prop :=
  ∃ early late, items = early ++ item :: late ∧
    (∀ other ∈ early, key other = key item → stamp other < stamp item) ∧
    ∀ other ∈ late, key other = key item → stamp other ≤ stamp item

theorem newest_of_mem {items : List Item} {item : Item}
    (newest : NewestOf key stamp items item) : item ∈ items := by
  obtain ⟨early, late, rfl, _⟩ := newest
  exact List.mem_append_right _ List.mem_cons_self

theorem newest_of_upper {items : List Item} {item : Item} (newest : NewestOf key stamp items item) :
    ∀ other ∈ items, key other = key item → stamp other ≤ stamp item := by
  obtain ⟨early, late, rfl, before, after⟩ := newest
  intro other member same
  rcases List.mem_append.mp member with earlier | later
  · exact le_of_lt (before other earlier same)
  · rcases List.mem_cons.mp later with rfl | later
    · exact le_rfl
    · exact after other later same

/-- With one more item at the end, the newest of a key is that item if it is
later than all of the key, and otherwise what it was. -/
theorem newest_of_append_iff (items : List Item) (last item : Item) :
    NewestOf key stamp (items ++ [last]) item ↔
      (NewestOf key stamp items item ∧ (key last = key item → stamp last ≤ stamp item)) ∨
        (item = last ∧ ∀ other ∈ items, key other = key last → stamp other < stamp last) := by
  constructor
  · rintro ⟨early, late, split, before, after⟩
    rcases List.eq_nil_or_concat' late with rfl | ⟨front, final, rfl⟩
    · obtain ⟨same, single⟩ := List.append_inj' split rfl
      cases single
      right
      rw [same]
      exact ⟨rfl, before⟩
    · rw [← List.cons_append, ← List.append_assoc] at split
      obtain ⟨same, single⟩ := List.append_inj' split rfl
      cases single
      left
      refine ⟨⟨early, front, same, before, ?_⟩, ?_⟩
      · intro other member
        exact after other (List.mem_append_left _ member)
      · exact after last (List.mem_append_right _ (List.mem_singleton_self _))
  · rintro (⟨⟨early, late, rfl, before, after⟩, bounded⟩ | ⟨rfl, before⟩)
    · refine ⟨early, late ++ [last], by simp, before, ?_⟩
      intro other member same
      rcases List.mem_append.mp member with listed | final
      · exact after other listed same
      · rw [List.mem_singleton.mp final] at same ⊢
        exact bounded same
    · exact ⟨items, [], rfl, before, List.forall_mem_nil _⟩

variable [DecidableEq Key]

def keepNewer (kept : OrderedDict Key Item) (item : Item) : OrderedDict Key Item :=
  match kept.get? (key item) with
  | none => kept.set (key item) item
  | some current =>
    if stamp current < stamp item then kept.set (key item) item else kept

def newestPerKey (items : List Item) : OrderedDict Key Item :=
  items.foldl (keepNewer key stamp) OrderedDict.empty

theorem keep_newer_elsewhere (kept : OrderedDict Key Item) {item : Item} {wanted : Key}
    (other : wanted ≠ key item) :
    (keepNewer key stamp kept item).get? wanted = kept.get? wanted := by
  unfold keepNewer
  split
  · exact OrderedDict.get_set_other _ _ other
  · split
    · exact OrderedDict.get_set_other _ _ other
    · rfl

theorem mem_keep_newer {kept : OrderedDict Key Item} {item other : Item}
    (member : other ∈ (keepNewer key stamp kept item).values) :
    other = item ∨ other ∈ kept.values := by
  unfold keepNewer at member
  split at member
  · exact OrderedDict.mem_values_set member
  · split at member
    · exact OrderedDict.mem_values_set member
    · exact Or.inr member

theorem newest_per_key_append (items : List Item) (last : Item) :
    newestPerKey key stamp (items ++ [last]) =
      keepNewer key stamp (newestPerKey key stamp items) last := by
  rw [newestPerKey, List.foldl_append]
  rfl

theorem get_newest_none_iff (items : List Item) (wanted : Key) :
    (newestPerKey key stamp items).get? wanted = none ↔ ∀ item ∈ items, key item ≠ wanted := by
  induction items using List.reverseRecOn with
  | nil => exact iff_of_true rfl (List.forall_mem_nil _)
  | append_singleton items last ih =>
    rw [newest_per_key_append, List.forall_mem_append, List.forall_mem_singleton, ← ih]
    by_cases here : wanted = key last
    · subst here
      rw [keepNewer]
      cases kept : (newestPerKey key stamp items).get? (key last) with
      | none => simp
      | some current =>
        dsimp only
        split
        · simp
        · simp [kept]
    · rw [keep_newer_elsewhere key stamp _ here]
      exact (and_iff_left fun same => here same.symm).symm

theorem get_newest_iff (items : List Item) (wanted : Key) (item : Item) :
    (newestPerKey key stamp items).get? wanted = some item ↔
      key item = wanted ∧ NewestOf key stamp items item := by
  induction items using List.reverseRecOn generalizing wanted item with
  | nil =>
    apply iff_of_false
    · exact nofun
    · rintro ⟨_, newest⟩
      cases newest_of_mem key stamp newest
  | append_singleton items last ih =>
    rw [newest_per_key_append, newest_of_append_iff]
    by_cases here : wanted = key last
    · subst here
      rw [keepNewer]
      cases kept : (newestPerKey key stamp items).get? (key last) with
      | none =>
        have absent := (get_newest_none_iff key stamp items (key last)).mp kept
        rw [OrderedDict.get_set_self, Option.some.injEq]
        constructor
        · rintro rfl
          exact ⟨rfl, Or.inr ⟨rfl, fun other member same =>
            absurd same (absent other member)⟩⟩
        · rintro ⟨same, ⟨newest, _⟩ | ⟨rfl, _⟩⟩
          · exact absurd same (absent item (newest_of_mem key stamp newest))
          · rfl
      | some current =>
        obtain ⟨currentKey, currentNewest⟩ := (ih (key last) current).mp kept
        have unique : ∀ other, key other = key last →
            NewestOf key stamp items other → other = current := by
          intro other same newest
          exact (Option.some.inj (kept.symm.trans ((ih (key last) other).mpr ⟨same, newest⟩))).symm
        dsimp only
        split
        next later =>
          rw [OrderedDict.get_set_self, Option.some.injEq]
          constructor
          · rintro rfl
            refine ⟨rfl, Or.inr ⟨rfl, fun other member same => ?_⟩⟩
            exact lt_of_le_of_lt (newest_of_upper key stamp currentNewest other member
              (same.trans currentKey.symm)) later
          · rintro ⟨same, ⟨newest, bounded⟩ | ⟨rfl, _⟩⟩
            · rw [unique item same newest] at bounded
              exact absurd (bounded currentKey.symm) (not_le_of_gt later)
            · rfl
        next notLater =>
          rw [kept, Option.some.injEq]
          constructor
          · rintro rfl
            exact ⟨currentKey, Or.inl ⟨currentNewest, fun _ => le_of_not_gt notLater⟩⟩
          · rintro ⟨same, ⟨newest, _⟩ | ⟨rfl, before⟩⟩
            · exact (unique item same newest).symm
            · exact absurd (before current (newest_of_mem key stamp currentNewest)
                currentKey) notLater
    · rw [keep_newer_elsewhere key stamp _ here, ih]
      apply and_congr_right
      rintro rfl
      constructor
      · exact fun newest => Or.inl ⟨newest, fun equal => absurd equal.symm here⟩
      · rintro (⟨newest, _⟩ | ⟨rfl, _⟩)
        · exact newest
        · exact absurd rfl here

theorem mem_newest_iff (items : List Item) (item : Item) :
    item ∈ (newestPerKey key stamp items).values ↔ NewestOf key stamp items item := by
  rw [OrderedDict.mem_values_iff]
  constructor
  · rintro ⟨wanted, found⟩
    exact ((get_newest_iff key stamp items wanted item).mp found).2
  · intro newest
    exact ⟨key item, (get_newest_iff key stamp items _ item).mpr ⟨rfl, newest⟩⟩

theorem newest_values_nodup (items : List Item) : (newestPerKey key stamp items).values.Nodup := by
  have keyed : (newestPerKey key stamp items).values.map key =
      (newestPerKey key stamp items).keys := by
    rw [OrderedDict.values, OrderedDict.keys, List.map_map]
    apply List.map_congr_left
    intro entry member
    have found := (OrderedDict.get_eq_some_iff _ _ _).mpr member
    exact ((get_newest_iff key stamp items _ _).mp found).1
  apply List.Nodup.of_map key
  rw [keyed]
  exact (newestPerKey key stamp items).distinct

/-- The items that none of their key follow. -/
def lastPerKey : List Item → List Item
  | [] => []
  | item :: rest =>
    if rest.any (fun later => key later = key item) then lastPerKey rest
    else item :: lastPerKey rest

theorem last_per_key_sublist (items : List Item) : (lastPerKey key items).Sublist items := by
  induction items with
  | nil => exact List.Sublist.refl []
  | cons item rest ih =>
    rw [lastPerKey]
    split
    · exact ih.cons item
    · exact ih.cons_cons item

theorem mem_last_per_key_iff (items : List Item) (item : Item) :
    item ∈ lastPerKey key items ↔ ∃ early late, items = early ++ item :: late ∧
      ∀ later ∈ late, key later ≠ key item := by
  induction items with
  | nil => simp [lastPerKey]
  | cons head rest ih =>
    have within : (∃ early late, rest = early ++ item :: late ∧
        ∀ later ∈ late, key later ≠ key item) →
        ∃ early late, head :: rest = early ++ item :: late ∧
          ∀ later ∈ late, key later ≠ key item := by
      rintro ⟨early, late, split, others⟩
      exact ⟨head :: early, late, by rw [split, List.cons_append], others⟩
    have later_any : (rest.any fun later => key later = key head) = true ↔
        ∃ later ∈ rest, key later = key head := by simp
    rw [lastPerKey]
    split
    next followed =>
      obtain ⟨later, member, same⟩ := later_any.mp followed
      rw [ih]
      constructor
      · exact within
      · rintro ⟨early, late, split, others⟩
        cases early with
        | nil =>
          obtain ⟨rfl, rfl⟩ := List.cons.inj split
          exact absurd same (others later member)
        | cons first early => exact ⟨early, late, (List.cons.inj split).2, others⟩
    next alone =>
      rw [List.mem_cons, ih]
      constructor
      · rintro (rfl | listed)
        · exact ⟨[], rest, rfl, fun later member same =>
            alone (later_any.mpr ⟨later, member, same⟩)⟩
        · exact within listed
      · rintro ⟨early, late, split, others⟩
        cases early with
        | nil => exact Or.inl (List.cons.inj split).1.symm
        | cons first early =>
          exact Or.inr ⟨early, late, (List.cons.inj split).2, others⟩

theorem newest_perm_last {items : List Item}
    (rising : items.Pairwise fun left right => stamp left < stamp right) :
    (newestPerKey key stamp items).values.Perm (lastPerKey key items) := by
  have apart : items.Nodup := rising.imp fun less same => absurd (same ▸ less) (lt_irrefl _)
  rw [List.perm_ext_iff_of_nodup (newest_values_nodup key stamp items)
    (apart.sublist (last_per_key_sublist key items))]
  intro item
  rw [mem_newest_iff, mem_last_per_key_iff]
  apply exists_congr
  intro early
  apply exists_congr
  intro late
  apply and_congr_right
  rintro rfl
  obtain ⟨_, lateRising, across⟩ := List.pairwise_append.mp rising
  have after := (List.pairwise_cons.mp lateRising).1
  constructor
  · rintro ⟨_, bounded⟩ later member same
    exact absurd (after later member) (not_lt_of_ge (bounded later member same))
  · intro others
    constructor
    · exact fun other member _ => across other member item List.mem_cons_self
    · exact fun other member same => absurd same (others other member)

end

end AiEnterpriseOs.Library
