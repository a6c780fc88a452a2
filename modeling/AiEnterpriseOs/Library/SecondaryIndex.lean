import AiEnterpriseOs.Library.OrderedDict

/-!
# Secondary indices over a keyed table

A secondary index keeps, for every attribute key, the set of ids of the table
entries that have the attribute. It is exact when the buckets say no more and
no less than the table does. Replacing an entry keeps the index exact when
every attribute the old entry had is either dropped from the index or had by
the new entry as well.
-/

namespace AiEnterpriseOs.Library

/-- A set of ids; none occurs twice. -/
structure IdSet (Id : Type*) where
  ids : List Id
  distinct : ids.Nodup

namespace IdSet

variable {Id : Type*} [DecidableEq Id]

def empty : IdSet Id where
  ids := []
  distinct := List.nodup_nil

def add (set : IdSet Id) (id : Id) : IdSet Id where
  ids := set.ids.insert id
  distinct := set.distinct.insert

def discard (set : IdSet Id) (id : Id) : IdSet Id where
  ids := set.ids.erase id
  distinct := set.distinct.erase id

@[simp] theorem mem_add (set : IdSet Id) (id other : Id) :
    other ∈ (set.add id).ids ↔ other = id ∨ other ∈ set.ids :=
  List.mem_insert_iff

@[simp] theorem mem_discard (set : IdSet Id) (id other : Id) :
    other ∈ (set.discard id).ids ↔ other ≠ id ∧ other ∈ set.ids :=
  set.distinct.mem_erase_iff

end IdSet

structure SecondaryIndex (Key Id : Type*) where
  buckets : OrderedDict Key (IdSet Id)

namespace SecondaryIndex

variable {Key Id Entry : Type*} [DecidableEq Key] [DecidableEq Id]

def empty : SecondaryIndex Key Id := { buckets := OrderedDict.empty }

def bucket (index : SecondaryIndex Key Id) (key : Key) : IdSet Id :=
  index.buckets.getD key IdSet.empty

def add (index : SecondaryIndex Key Id) (id : Id) (key : Key) :
    SecondaryIndex Key Id :=
  { buckets := index.buckets.set key ((index.bucket key).add id) }

def discard (index : SecondaryIndex Key Id) (id : Id) (key : Key) :
    SecondaryIndex Key Id :=
  { buckets := index.buckets.modify key fun set => set.discard id }

def addAll (index : SecondaryIndex Key Id) (id : Id) (keys : List Key) :
    SecondaryIndex Key Id :=
  keys.foldl (fun index key => index.add id key) index

def discardAll (index : SecondaryIndex Key Id) (id : Id) (keys : List Key) :
    SecondaryIndex Key Id :=
  keys.foldl (fun index key => index.discard id key) index

omit [DecidableEq Id] in
@[simp] theorem mem_bucket_empty (key : Key) (id : Id) :
    id ∉ ((empty : SecondaryIndex Key Id).bucket key).ids := by
  simp [bucket, empty, OrderedDict.getD, IdSet.empty]

theorem mem_bucket_add (index : SecondaryIndex Key Id) (id other : Id) (key at_ : Key) :
    other ∈ ((index.add id key).bucket at_).ids ↔
      other ∈ (index.bucket at_).ids ∨ other = id ∧ at_ = key := by
  by_cases here : at_ = key
  · subst here
    simp [add, bucket, OrderedDict.getD, or_comm]
  · simp [add, bucket, OrderedDict.getD, OrderedDict.get_set, here]

theorem mem_bucket_discard (index : SecondaryIndex Key Id) (id other : Id) (key at_ : Key) :
    other ∈ ((index.discard id key).bucket at_).ids ↔
      other ∈ (index.bucket at_).ids ∧ ¬(other = id ∧ at_ = key) := by
  by_cases here : at_ = key
  · subst here
    cases found : index.buckets.get? at_ with
    | none =>
      simp [discard, bucket, OrderedDict.getD, OrderedDict.get_modify, found, IdSet.empty]
    | some set =>
      simp [discard, bucket, OrderedDict.getD, OrderedDict.get_modify, found, and_comm]
  · simp [discard, bucket, OrderedDict.getD, OrderedDict.get_modify, here]

theorem mem_bucket_add_all (index : SecondaryIndex Key Id) (id other : Id)
    (keys : List Key) (key : Key) :
    other ∈ ((index.addAll id keys).bucket key).ids ↔
      other ∈ (index.bucket key).ids ∨ other = id ∧ key ∈ keys := by
  induction keys generalizing index with
  | nil => simp [addAll]
  | cons first rest ih =>
    change other ∈ (((index.add id first).addAll id rest).bucket key).ids ↔ _
    rw [ih, mem_bucket_add, List.mem_cons]
    tauto

theorem mem_bucket_discard_all (index : SecondaryIndex Key Id) (id other : Id)
    (keys : List Key) (key : Key) :
    other ∈ ((index.discardAll id keys).bucket key).ids ↔
      other ∈ (index.bucket key).ids ∧ ¬(other = id ∧ key ∈ keys) := by
  induction keys generalizing index with
  | nil => simp [discardAll]
  | cons first rest ih =>
    change other ∈ (((index.discard id first).discardAll id rest).bucket key).ids ↔ _
    rw [ih, mem_bucket_discard, List.mem_cons]
    tauto

/-! ## Exactness -/

section Exact

variable (keysOf : Entry → List Key)

/-- The buckets hold exactly the ids of the entries that have their key. -/
def Exact (index : SecondaryIndex Key Id) (table : OrderedDict Id Entry) : Prop :=
  ∀ key id, id ∈ (index.bucket key).ids ↔ ∃ entry, table.get? id = some entry ∧ key ∈ keysOf entry

variable {keysOf} {index : SecondaryIndex Key Id} {table : OrderedDict Id Entry}

theorem exact_empty :
    Exact keysOf (empty : SecondaryIndex Key Id) (OrderedDict.empty : OrderedDict Id Entry) := by
  intro key id
  simp

theorem Exact.congr (exact : Exact keysOf index table)
    {other : OrderedDict Id Entry} (same : ∀ id, other.get? id = table.get? id) :
    Exact keysOf index other := by
  intro key id
  rw [same id]
  exact exact key id

theorem Exact.modify (exact : Exact keysOf index table) (id : Id) (change : Entry → Entry)
    (sameKeys : ∀ entry, table.get? id = some entry → keysOf (change entry) = keysOf entry) :
    Exact keysOf index (table.modify id change) := by
  intro key other
  rw [exact key other, OrderedDict.get_modify]
  by_cases here : other = id
  · subst here
    cases found : table.get? other with
    | none => simp
    | some entry => simp [sameKeys entry found]
  · simp [here]

theorem Exact.replace_same (exact : Exact keysOf index table) {id : Id} {old entry : Entry}
    (found : table.get? id = some old) (same : keysOf entry = keysOf old) :
    Exact keysOf index (table.set id entry) := by
  intro key other
  rw [exact key other, OrderedDict.get_set]
  by_cases here : other = id
  · simp [here, found, same]
  · simp [here]

/-- A replaced entry: what the index drops for it and what it has now cover
what it had. -/
theorem Exact.replace (exact : Exact keysOf index table) (id : Id)
    (entry : Entry) (dropped : List Key)
    (covered : ∀ old, table.get? id = some old → ∀ key ∈ keysOf old,
      key ∈ dropped ∨ key ∈ keysOf entry) :
    Exact keysOf ((index.discardAll id dropped).addAll id (keysOf entry)) (table.set id entry) := by
  intro key other
  rw [mem_bucket_add_all, mem_bucket_discard_all, exact key other, OrderedDict.get_set]
  by_cases here : other = id
  · subst here
    simp only [true_and, if_true, Option.some.injEq, exists_eq_left']
    constructor
    · rintro (⟨⟨old, stored, had⟩, kept⟩ | has)
      · exact (covered old stored key had).resolve_left kept
      · exact has
    · exact Or.inr
  · simp [here]

theorem Exact.erase (exact : Exact keysOf index table) (id : Id) (dropped : List Key)
    (covered : ∀ old, table.get? id = some old → ∀ key ∈ keysOf old, key ∈ dropped) :
    Exact keysOf (index.discardAll id dropped) (table.erase id) := by
  intro key other
  rw [mem_bucket_discard_all, exact key other, OrderedDict.get_erase]
  by_cases here : other = id
  · subst here
    simp only [true_and, if_true, reduceCtorEq, false_and, exists_false,
      iff_false, not_and, not_not]
    rintro ⟨old, stored, had⟩
    exact covered old stored key had
  · simp [here]

/-! ## Indices collected from a log -/

/-- Index and table after adding every line of a log in turn. -/
def collect (keysOf : Entry → List Key) (lines : List (Id × Entry)) :
    SecondaryIndex Key Id :=
  lines.foldl (fun index line => index.addAll line.1 (keysOf line.2)) empty

theorem mem_bucket_collect (lines : List (Id × Entry)) (key : Key) (id : Id) :
    id ∈ ((collect keysOf lines).bucket key).ids ↔
      ∃ line ∈ lines, line.1 = id ∧ key ∈ keysOf line.2 := by
  induction lines using List.reverseRecOn with
  | nil => simp [collect]
  | append_singleton lines line ih =>
    have added : collect keysOf (lines ++ [line]) =
        (collect keysOf lines).addAll line.1 (keysOf line.2) := by
      simp [collect]
    rw [added, mem_bucket_add_all, ih]
    constructor
    · rintro (⟨early, member, found⟩ | ⟨same, has⟩)
      · exact ⟨early, List.mem_append_left _ member, found⟩
      · exact ⟨line, List.mem_append_right _ List.mem_cons_self, same.symm, has⟩
    · rintro ⟨other, member, same, has⟩
      rcases List.mem_append.mp member with early | late
      · exact Or.inl ⟨other, early, same, has⟩
      · rw [List.mem_singleton.mp late] at same has
        exact Or.inr ⟨same.symm, has⟩

/-- An index collected from a log never drops a key, so it is exact when the
last line of every id still has the keys of the earlier ones. -/
theorem exact_collect (lines : List (Id × Entry)) (covered : ∀ line ∈ lines, ∀ last,
      (OrderedDict.empty.setAll lines).get? line.1 = some last →
        ∀ key ∈ keysOf line.2, key ∈ keysOf last) :
    Exact keysOf (collect keysOf lines) (OrderedDict.empty.setAll lines) := by
  intro key id
  rw [mem_bucket_collect]
  constructor
  · rintro ⟨line, member, rfl, has⟩
    obtain ⟨last, stored⟩ := OrderedDict.get_setAll_present OrderedDict.empty member
    exact ⟨last, stored, covered line member last stored key has⟩
  · rintro ⟨entry, stored, has⟩
    rcases OrderedDict.get_setAll_cases stored with listed | initial
    · exact ⟨(id, entry), listed, rfl, has⟩
    · rw [OrderedDict.get_empty] at initial
      cases initial

theorem exact_collect_entries (table : OrderedDict Id Entry) :
    Exact keysOf (collect keysOf table.entries) table := by
  have exact : Exact keysOf (collect keysOf table.entries)
      (OrderedDict.empty.setAll table.entries) := by
    apply exact_collect
    intro line member last stored key has
    rw [OrderedDict.setAll_entries,
      (OrderedDict.get_eq_some_iff table line.1 line.2).mpr member] at stored
    cases stored
    exact has
  rw [OrderedDict.setAll_entries] at exact
  exact exact

theorem mem_keys_add_all (index : SecondaryIndex Key Id) (id : Id) (keys : List Key) (key : Key) :
    key ∈ (index.addAll id keys).buckets.keys ↔ key ∈ index.buckets.keys ∨ key ∈ keys := by
  induction keys generalizing index with
  | nil => simp [addAll]
  | cons first rest ih =>
    change key ∈ ((index.add id first).addAll id rest).buckets.keys ↔ _
    rw [ih, add, OrderedDict.mem_keys_set, List.mem_cons]
    tauto

theorem mem_keys_collect (lines : List (Id × Entry)) (key : Key) :
    key ∈ (collect keysOf lines : SecondaryIndex Key Id).buckets.keys ↔
      ∃ line ∈ lines, key ∈ keysOf line.2 := by
  induction lines using List.reverseRecOn with
  | nil => simp [collect, empty, OrderedDict.keys, OrderedDict.empty]
  | append_singleton lines line ih =>
    have added : collect keysOf (lines ++ [line]) =
        (collect keysOf lines).addAll line.1 (keysOf line.2) := by
      simp [collect]
    rw [added, mem_keys_add_all, ih]
    simp only [List.mem_append, List.mem_singleton, or_and_right, exists_or, exists_eq_left]

theorem Exact.mem_keys_collect_iff (exact : Exact keysOf index table) (key : Key) :
    key ∈ (collect keysOf table.entries : SecondaryIndex Key Id).buckets.keys ↔
      ∃ id, id ∈ (index.bucket key).ids := by
  rw [mem_keys_collect]
  constructor
  · rintro ⟨line, member, has⟩
    refine ⟨line.1, (exact key line.1).mpr ⟨line.2, ?_, has⟩⟩
    exact (OrderedDict.get_eq_some_iff table line.1 line.2).mpr member
  · rintro ⟨id, listed⟩
    obtain ⟨entry, stored, has⟩ := (exact key id).mp listed
    exact ⟨(id, entry), (OrderedDict.get_eq_some_iff table id entry).mp stored, has⟩

/-! ## Reading entries through an index -/

/-- The entries a bucket leads to. -/
def select (index : SecondaryIndex Key Id) (table : OrderedDict Id Entry)
    (key : Key) : List Entry :=
  (index.bucket key).ids.filterMap table.get?

theorem Exact.select_perm (exact : Exact keysOf index table) (key : Key) :
    (index.select table key).Perm (table.values.filter fun entry => key ∈ keysOf entry) := by
  have sameIds : (index.bucket key).ids.Perm
      ((table.entries.filter fun item => key ∈ keysOf item.2).map Prod.fst) := by
    apply (List.perm_ext_iff_of_nodup (index.bucket key).distinct ?_).mpr
    · intro id
      rw [exact key id]
      simp [OrderedDict.get_eq_some_iff]
    · exact table.distinct.sublist (List.filter_sublist.map _)
  have scanned : ((table.entries.filter fun item => key ∈ keysOf item.2).map
      Prod.fst).filterMap table.get? = table.values.filter fun entry => key ∈ keysOf entry := by
    rw [List.filterMap_map, OrderedDict.values, List.filter_map]
    have read : ∀ item ∈ table.entries.filter (fun item => key ∈ keysOf item.2),
        (table.get? ∘ Prod.fst) item = some item.2 := by
      intro item member
      exact (table.get_eq_some_iff item.1 item.2).mpr (List.mem_of_mem_filter member)
    rw [List.filterMap_congr read, ← List.filterMap_eq_map]
    rfl
  rw [← scanned]
  exact sameIds.filterMap _

end Exact

/-! ## Entering an id again -/

theorem keys_add (index : SecondaryIndex Key Id) (id : Id) (key : Key) :
    (index.add id key).buckets.keys =
      if key ∈ index.buckets.keys then index.buckets.keys
      else index.buckets.keys ++ [key] :=
  index.buckets.keys_set key _

theorem keys_discard (index : SecondaryIndex Key Id) (id : Id) (key : Key) :
    (index.discard id key).buckets.keys = index.buckets.keys :=
  index.buckets.keys_modify key _

theorem keys_discard_all (index : SecondaryIndex Key Id) (id : Id) (keys : List Key) :
    (index.discardAll id keys).buckets.keys = index.buckets.keys := by
  induction keys generalizing index with
  | nil => rfl
  | cons key rest ih =>
    change ((index.discard id key).discardAll id rest).buckets.keys = _
    rw [ih, keys_discard]

theorem keys_add_all_present {index : SecondaryIndex Key Id} {keys : List Key}
    (present : ∀ key ∈ keys, key ∈ index.buckets.keys) (id : Id) :
    (index.addAll id keys).buckets.keys = index.buckets.keys := by
  induction keys generalizing index with
  | nil => rfl
  | cons key rest ih =>
    have same : (index.add id key).buckets.keys = index.buckets.keys := by
      rw [keys_add, if_pos (present key List.mem_cons_self)]
    change ((index.add id key).addAll id rest).buckets.keys = _
    rw [ih, same]
    intro other member
    rw [same]
    exact present other (List.mem_cons_of_mem _ member)

omit [DecidableEq Id] in
theorem key_of_listed {index : SecondaryIndex Key Id} {key : Key} {id : Id}
    (listed : id ∈ (index.bucket key).ids) : key ∈ index.buckets.keys := by
  rw [OrderedDict.mem_keys_iff]
  cases found : index.buckets.get? key with
  | none =>
    rw [bucket, OrderedDict.getD, found] at listed
    cases listed
  | some set => exact ⟨set, rfl⟩

/-- The same keys in the same order, with the same sets of ids. -/
structure Same (left right : SecondaryIndex Key Id) : Prop where
  keys : left.buckets.keys = right.buckets.keys
  members : ∀ key id, id ∈ (left.bucket key).ids ↔ id ∈ (right.bucket key).ids

omit [DecidableEq Id] in
theorem Same.refl (index : SecondaryIndex Key Id) : Same index index where
  keys := rfl
  members _ _ := Iff.rfl

/-- An id taken out under some keys and entered under others leaves the index
as it was just where it is listed under the others, and under none of the first
that are not among them. -/
theorem reentered_same_iff (index : SecondaryIndex Key Id) (id : Id) (dropped entered : List Key) :
    Same ((index.discardAll id dropped).addAll id entered) index ↔
      (∀ key ∈ entered, id ∈ (index.bucket key).ids) ∧
        ∀ key ∈ dropped, id ∈ (index.bucket key).ids → key ∈ entered := by
  constructor
  · intro same
    constructor
    · intro key member
      apply (same.members key id).mp
      rw [mem_bucket_add_all]
      exact Or.inr ⟨rfl, member⟩
    · intro key member listed
      have kept := (same.members key id).mpr listed
      rw [mem_bucket_add_all, mem_bucket_discard_all] at kept
      rcases kept with ⟨_, undropped⟩ | ⟨_, again⟩
      · exact absurd ⟨rfl, member⟩ undropped
      · exact again
  · rintro ⟨listed, covered⟩
    constructor
    · rw [keys_add_all_present, keys_discard_all]
      intro key member
      rw [keys_discard_all]
      exact key_of_listed (listed key member)
    · intro key other
      rw [mem_bucket_add_all, mem_bucket_discard_all]
      constructor
      · rintro (⟨kept, _⟩ | ⟨same, member⟩)
        · exact kept
        · rw [same]
          exact listed key member
      · intro kept
        by_cases taken : other = id ∧ key ∈ dropped
        · rw [taken.1] at kept
          exact Or.inr ⟨taken.1, covered key taken.2 kept⟩
        · exact Or.inl ⟨kept, taken⟩

end SecondaryIndex

end AiEnterpriseOs.Library
