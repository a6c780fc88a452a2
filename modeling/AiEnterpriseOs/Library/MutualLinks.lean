import AiEnterpriseOs.Library.OrderedDict

/-!
# Mutual links between the entries of a table

Every entry lists the keys that it is linked to. The links are mutual when of
any two entries of the table either lists the other or neither does; an entry
may list keys that the table no longer has.
-/

namespace AiEnterpriseOs.Library

variable {Key Entry : Type*} [DecidableEq Key]

def Mutual (linksOf : Entry → List Key) (table : OrderedDict Key Entry) : Prop :=
  ∀ first second firstEntry secondEntry, table.get? first = some firstEntry →
    table.get? second = some secondEntry →
      (second ∈ linksOf firstEntry ↔ first ∈ linksOf secondEntry)

namespace Mutual

variable {linksOf : Entry → List Key} {table : OrderedDict Key Entry}

theorem empty : Mutual linksOf (OrderedDict.empty : OrderedDict Key Entry) := by
  intro first second firstEntry secondEntry found
  rw [OrderedDict.get_empty] at found
  cases found

theorem erase (paired : Mutual linksOf table) (key : Key) : Mutual linksOf (table.erase key) := by
  intro first second firstEntry secondEntry firstFound secondFound
  rw [OrderedDict.get_erase] at firstFound secondFound
  split at firstFound
  · cases firstFound
  · split at secondFound
    · cases secondFound
    · exact paired first second firstEntry secondEntry firstFound secondFound

theorem replace (paired : Mutual linksOf table) {key : Key} {old entry : Entry}
    (found : table.get? key = some old) (same : linksOf entry = linksOf old) :
    Mutual linksOf (table.set key entry) := by
  have before : ∀ other now, (table.set key entry).get? other = some now →
      ∃ stored, table.get? other = some stored ∧ linksOf now = linksOf stored := by
    apply OrderedDict.forall_set
    · exact ⟨old, found, same⟩
    · exact fun other now stored => ⟨now, stored, rfl⟩
  intro first second firstEntry secondEntry firstFound secondFound
  obtain ⟨firstOld, firstStored, firstSame⟩ := before first firstEntry firstFound
  obtain ⟨secondOld, secondStored, secondSame⟩ := before second secondEntry secondFound
  rw [firstSame, secondSame]
  exact paired first second firstOld secondOld firstStored secondStored

theorem enter (paired : Mutual linksOf table) {key : Key} {entry : Entry}
    (alone : linksOf entry = [])
    (unlisted : ∀ other stored, table.get? other = some stored → key ∉ linksOf stored) :
    Mutual linksOf (table.set key entry) := by
  intro first second firstEntry secondEntry firstFound secondFound
  rw [OrderedDict.get_set] at firstFound secondFound
  split at firstFound
  next firstHere =>
    cases firstFound
    split at secondFound
    next secondHere =>
      cases secondFound
      rw [firstHere, secondHere]
    · rw [alone, firstHere]
      exact iff_of_false (List.not_mem_nil) (unlisted second secondEntry secondFound)
  · split at secondFound
    next secondHere =>
      cases secondFound
      rw [alone, secondHere]
      exact iff_of_false (unlisted first firstEntry firstFound) (List.not_mem_nil)
    · exact paired first second firstEntry secondEntry firstFound secondFound

variable {link : Key → Entry → Entry}

theorem mem_given (links : ∀ key entry other,
      other ∈ linksOf (link key entry) ↔ other ∈ linksOf entry ∨ other = key)
    {source target key : Key} {now : Entry}
    (found : (table.modify source (link target)).get? key = some now) :
    ∃ stored, table.get? key = some stored ∧ ∀ other, other ∈ linksOf now ↔
      other ∈ linksOf stored ∨ key = source ∧ other = target := by
  rw [OrderedDict.get_modify] at found
  split at found
  next here =>
    obtain ⟨stored, before, given⟩ := Option.map_eq_some_iff.mp found
    refine ⟨stored, ?_, ?_⟩
    · rw [here]
      exact before
    · intro other
      rw [← given, links]
      simp [here]
  next elsewhere =>
    refine ⟨now, found, ?_⟩
    intro other
    simp [elsewhere]

theorem linked (paired : Mutual linksOf table) (links : ∀ key entry other,
      other ∈ linksOf (link key entry) ↔ other ∈ linksOf entry ∨ other = key)
    (source target : Key) :
    Mutual linksOf ((table.modify source (link target)).modify target (link source)) := by
  intro first second firstEntry secondEntry firstFound secondFound
  obtain ⟨firstHalf, firstKept, firstLists⟩ := mem_given links firstFound
  obtain ⟨secondHalf, secondKept, secondLists⟩ := mem_given links secondFound
  obtain ⟨firstOld, firstStored, firstListed⟩ := mem_given links firstKept
  obtain ⟨secondOld, secondStored, secondListed⟩ := mem_given links secondKept
  have before := paired first second firstOld secondOld firstStored secondStored
  rw [firstLists, secondLists, firstListed, secondListed, before]
  tauto

end Mutual

end AiEnterpriseOs.Library
