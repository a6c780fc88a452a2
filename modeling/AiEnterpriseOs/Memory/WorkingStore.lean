import AiEnterpriseOs.Library.Outcome
import AiEnterpriseOs.Library.RecentWindow
import AiEnterpriseOs.Library.Runs
import AiEnterpriseOs.Memory.Models

/-!
# Working memory

The cache of working memory: the entries by id, and the ids in the order in
which they are given up. Reading an entry moves its id to the end of that
order; putting an id that is cached already leaves it where it stands.
-/

namespace AiEnterpriseOs.Memory

open Library

variable {Value : Type}

structure InMemoryStore (Value : Type) where
  maxSize : Nat := 100
  cache : OrderedDict String (MemoryEntry Value) := OrderedDict.empty
  accessOrder : OrderedDict String Time := OrderedDict.empty

/-- `order.move_to_end(key)`, for a key that may be missing. -/
def moveToEnd (order : OrderedDict String Time) (key : String) : OrderedDict String Time :=
  match order.get? key with
  | none => order
  | some time => (order.erase key).set key time

namespace InMemoryStore

variable (store : InMemoryStore Value)

def count : Nat := store.cache.keys.length

/-- Get entry with LRU tracking. -/
def get (now : Time) (id : String) : InMemoryStore Value × Option (MemoryEntry Value) :=
  match store.cache.get? id with
  | none => (store, none)
  | some entry =>
    ({ store with
        cache := store.cache.modify id (MemoryEntry.touch now)
        accessOrder := moveToEnd store.accessOrder id }, some (entry.touch now))

/-- Give up the first id of the access order; there must be one. -/
def evict : Outcome (InMemoryStore Value) :=
  match store.accessOrder.keys with
  | [] => .raising store
  | oldest :: _ =>
    .returning { store with
      cache := store.cache.erase oldest
      accessOrder := store.accessOrder.erase oldest }

/-- Enter an entry, over an older one of its id if there is one. -/
def enter (now : Time) (entry : MemoryEntry Value) : InMemoryStore Value :=
  { store with
    cache := store.cache.set entry.id entry
    accessOrder := store.accessOrder.set entry.id (entry.accessedAt.getD now) }

/-- Store entry with tier management. -/
def put (now : Time) (entry : MemoryEntry Value) (tier : String) : Outcome (InMemoryStore Value) :=
  let entry := { entry with tier := tier }
  let cleared := if store.maxSize ≤ store.count then store.evict else .returning store
  cleared.andThen fun store => .returning (store.enter now entry)

def delete (id : String) : InMemoryStore Value :=
  match store.cache.get? id with
  | none => store
  | some _ =>
    { store with
      cache := store.cache.erase id
      accessOrder := store.accessOrder.erase id }

def clear : InMemoryStore Value :=
  { store with
    cache := OrderedDict.empty
    accessOrder := OrderedDict.empty }

end InMemoryStore

inductive CacheOp (Value : Type) where
  | put (entry : MemoryEntry Value) (tier : String)
  | get (id : String)
  | delete (id : String)
  | clear

structure CacheInput (Value : Type) where
  op : CacheOp Value
  now : Time

/-- A cache, with the number of calls so far and the call by which each id was
last put or read. -/
structure CacheRun (Value : Type) where
  store : InMemoryStore Value
  clock : Nat := 0
  usedAt : String → Nat := fun _ => 0

namespace CacheRun

def start (maxSize : Nat) : CacheRun Value where
  store := { maxSize := maxSize }

def step (run : CacheRun Value) (input : CacheInput Value) : CacheRun Value where
  store := match input.op with
    | .put entry tier => (run.store.put input.now entry tier).state
    | .get id => (run.store.get input.now id).1
    | .delete id => run.store.delete id
    | .clear => run.store.clear
  clock := run.clock + 1
  usedAt := match input.op with
    | .put entry _ => Function.update run.usedAt entry.id run.clock
    | .get id => Function.update run.usedAt id run.clock
    | _ => run.usedAt

/-- An entry leaves the cache when it is deleted or the cache is cleared, and
else only when a new id is put into a full cache and all other entries have been
put or read since. -/
def LeavesRightly (run : CacheRun Value) (input : CacheInput Value) : Prop :=
  ∀ id ∈ run.store.cache.keys, id ∉ (run.step input).store.cache.keys →
    match input.op with
    | .put entry _ => entry.id ∉ run.store.cache.keys ∧ run.store.count = run.store.maxSize ∧
        ∀ other ∈ run.store.cache.keys, other ≠ id → run.usedAt id < run.usedAt other
    | .get _ => False
    | .delete deleted => id = deleted
    | .clear => True

/-- An id that is cached already is put again only where it stands last in the
access order, or, in a full cache, first. -/
def PutsInPlace (run : CacheRun Value) (input : CacheInput Value) : Prop :=
  match input.op with
  | .put entry _ => entry.id ∈ run.store.cache.keys →
      if run.store.maxSize ≤ run.store.count then
        run.store.accessOrder.keys.head? = some entry.id
      else run.store.accessOrder.keys.getLast? = some entry.id
  | _ => True

end CacheRun

/-! ## Size and keys -/

theorem keys_move_to_end (order : OrderedDict String Time) {key : String}
    (present : key ∈ order.keys) :
    (moveToEnd order key).keys = order.keys.erase key ++ [key] := by
  obtain ⟨time, found⟩ := (OrderedDict.mem_keys_iff _ _).mp present
  have absent : key ∉ (order.erase key).keys := by
    rw [OrderedDict.mem_keys_erase]
    exact fun both => both.1 rfl
  rw [moveToEnd, found]
  dsimp only
  rw [OrderedDict.keys_set_fresh _ _ absent, OrderedDict.keys_erase]

theorem mem_keys_move_to_end (order : OrderedDict String Time) (key other : String) :
    other ∈ (moveToEnd order key).keys ↔ other ∈ order.keys := by
  unfold moveToEnd
  cases found : order.get? key with
  | none => rfl
  | some time =>
    have present : key ∈ order.keys := (OrderedDict.mem_keys_iff _ _).mpr ⟨time, found⟩
    dsimp only
    rw [OrderedDict.mem_keys_set, OrderedDict.mem_keys_erase]
    by_cases here : other = key
    · simp [here, present]
    · simp [here]

namespace InMemoryStore

/-- No more entries than the capacity, and an access order for just these. -/
structure Sound (store : InMemoryStore Value) : Prop where
  capacity : 1 ≤ store.maxSize
  bound : store.count ≤ store.maxSize
  keys : ∀ id, id ∈ store.accessOrder.keys ↔ id ∈ store.cache.keys

variable {store : InMemoryStore Value}

theorem Sound.get (sound : store.Sound) (now : Time) (id : String) :
    (store.get now id).1.Sound := by
  unfold InMemoryStore.get
  cases cached : store.cache.get? id with
  | none => exact sound
  | some entry =>
    refine { capacity := sound.capacity, bound := ?_, keys := ?_ }
    · unfold count
      rw [OrderedDict.keys_modify]
      exact sound.bound
    · intro other
      rw [mem_keys_move_to_end, OrderedDict.keys_modify, sound.keys other]

theorem Sound.erase (sound : store.Sound) (id : String) :
    Sound { store with
      cache := store.cache.erase id
      accessOrder := store.accessOrder.erase id } where
  capacity := sound.capacity
  bound := by
    unfold count
    rw [OrderedDict.keys_erase]
    exact le_trans List.erase_sublist.length_le sound.bound
  keys other := by
    rw [OrderedDict.mem_keys_erase, OrderedDict.mem_keys_erase, sound.keys other]

theorem Sound.delete (sound : store.Sound) (id : String) : (store.delete id).Sound := by
  unfold InMemoryStore.delete
  split
  · exact sound
  · exact sound.erase id

theorem Sound.clear (sound : store.Sound) : store.clear.Sound where
  capacity := sound.capacity
  bound := Nat.zero_le _
  keys _ := Iff.rfl

theorem get_keys (store : InMemoryStore Value) (now : Time) (id : String) :
    (store.get now id).1.cache.keys = store.cache.keys := by
  unfold InMemoryStore.get
  split
  · rfl
  · exact OrderedDict.keys_modify _ _ _

theorem mem_keys_delete (store : InMemoryStore Value) (deleted id : String) :
    id ∈ (store.delete deleted).cache.keys ↔ id ≠ deleted ∧ id ∈ store.cache.keys := by
  unfold InMemoryStore.delete
  split
  next absent =>
    constructor
    · intro cached
      refine ⟨?_, cached⟩
      rintro rfl
      obtain ⟨entry, found⟩ := (OrderedDict.mem_keys_iff _ _).mp cached
      rw [absent] at found
      cases found
    · exact fun both => both.2
  · exact OrderedDict.mem_keys_erase _ _ _

theorem Sound.oldest (sound : store.Sound) (full : store.maxSize ≤ store.count) :
    ∃ oldest rest, store.accessOrder.keys = oldest :: rest ∧ oldest ∈ store.cache.keys := by
  cases order : store.accessOrder.keys with
  | nil =>
    have none_cached : store.cache.keys = [] := by
      apply List.eq_nil_iff_forall_not_mem.mpr
      intro id cached
      have listed := (sound.keys id).mpr cached
      rw [order] at listed
      cases listed
    have capacity := sound.capacity
    rw [count, none_cached, List.length_nil] at full
    omega
  | cons oldest rest =>
    refine ⟨oldest, rest, rfl, (sound.keys oldest).mp ?_⟩
    rw [order]
    exact List.mem_cons_self

theorem Sound.put_cases (sound : store.Sound) (now : Time) (entry : MemoryEntry Value)
    (tier : String) :
    (store.maxSize ≤ store.count ∧ ∃ oldest rest, store.accessOrder.keys = oldest :: rest ∧
        oldest ∈ store.cache.keys ∧
        store.put now entry tier = .returning (enter
          { store with
            cache := store.cache.erase oldest
            accessOrder := store.accessOrder.erase oldest }
          now { entry with tier := tier })) ∨
      (store.count < store.maxSize ∧
        store.put now entry tier = .returning (store.enter now { entry with tier := tier })) := by
  unfold put
  by_cases full : store.maxSize ≤ store.count
  · obtain ⟨oldest, rest, order, cached⟩ := sound.oldest full
    refine Or.inl ⟨full, oldest, rest, order, cached, ?_⟩
    rw [if_pos full, evict, order]
    rfl
  · refine Or.inr ⟨Nat.lt_of_not_le full, ?_⟩
    rw [if_neg full]
    rfl

theorem enter_count_le (store : InMemoryStore Value) (now : Time) (entry : MemoryEntry Value) :
    (store.enter now entry).count ≤ store.count + 1 := by
  unfold count enter
  rw [OrderedDict.keys_set]
  split
  · exact Nat.le_succ _
  · exact le_of_eq (List.length_append)

theorem enter_keys (sound : ∀ id, id ∈ store.accessOrder.keys ↔ id ∈ store.cache.keys)
    (now : Time) (entry : MemoryEntry Value) (id : String) :
    id ∈ (store.enter now entry).accessOrder.keys ↔ id ∈ (store.enter now entry).cache.keys := by
  unfold enter
  rw [OrderedDict.mem_keys_set, OrderedDict.mem_keys_set, sound id]

theorem Sound.put (sound : store.Sound) (now : Time) (entry : MemoryEntry Value)
    (tier : String) : (store.put now entry tier).state.Sound := by
  rcases sound.put_cases now entry tier with ⟨full, oldest, rest, _, cached, written⟩ |
    ⟨spare, written⟩
  · rw [written]
    have left := sound.erase oldest
    refine { capacity := sound.capacity, bound := ?_, keys := enter_keys left.keys now _ }
    refine le_trans (enter_count_le _ _ _) ?_
    have fewer := List.length_erase_of_mem cached
    have positive := List.length_pos_of_mem cached
    have bound := sound.bound
    change (store.cache.erase oldest).keys.length + 1 ≤ store.maxSize
    rw [OrderedDict.keys_erase, fewer]
    unfold count at bound
    omega
  · rw [written]
    refine { capacity := sound.capacity, bound := ?_, keys := enter_keys sound.keys now _ }
    exact le_trans (enter_count_le _ _ _) spare

end InMemoryStore

/-! ## The order of use -/

namespace CacheRun

/-- The access order is the order of the last uses. -/
structure Tracked (run : CacheRun Value) : Prop where
  sound : run.store.Sound
  order : ByUse run.usedAt run.clock run.store.accessOrder.keys

theorem start_sound {maxSize : Nat} (capacity : 1 ≤ maxSize) :
    (start maxSize : CacheRun Value).store.Sound where
  capacity := capacity
  bound := Nat.zero_le _
  keys _ := Iff.rfl

theorem step_sound (run : CacheRun Value) (input : CacheInput Value)
    (sound : run.store.Sound) : (run.step input).store.Sound := by
  obtain ⟨op, now⟩ := input
  cases op with
  | put entry tier => exact sound.put now entry tier
  | get id => exact sound.get now id
  | delete id => exact sound.delete id
  | clear => exact sound.clear

variable {run : CacheRun Value}

theorem Tracked.put (tracked : run.Tracked) {now : Time} {entry : MemoryEntry Value}
    {tier : String} (inPlace : run.PutsInPlace { op := .put entry tier, now := now }) :
    (run.step { op := .put entry tier, now := now }).Tracked := by
  refine { sound := step_sound run _ tracked.sound, order := ?_ }
  have listed := tracked.sound.keys entry.id
  change ByUse (Function.update run.usedAt entry.id run.clock) (run.clock + 1)
    (run.store.put now entry tier).state.accessOrder.keys
  rcases tracked.sound.put_cases now entry tier with
    ⟨full, oldest, rest, order, _, written⟩ | ⟨spare, written⟩
  · rw [written]
    have absent : entry.id ∉ (run.store.accessOrder.erase oldest).keys := by
      rw [OrderedDict.mem_keys_erase]
      rintro ⟨apart, present⟩
      have first := inPlace (listed.mp present)
      rw [if_pos full, order, List.head?_cons, Option.some.injEq] at first
      exact apart first.symm
    change ByUse _ _ ((run.store.accessOrder.erase oldest).set entry.id _).keys
    rw [OrderedDict.keys_set_fresh _ _ absent]
    rw [OrderedDict.keys_erase] at absent ⊢
    exact (tracked.order.sublist List.erase_sublist).concat absent
  · rw [written]
    change ByUse _ _ (run.store.accessOrder.set entry.id _).keys
    by_cases present : entry.id ∈ run.store.accessOrder.keys
    · rw [OrderedDict.keys_set, if_pos present]
      have last := inPlace (listed.mp present)
      rw [if_neg (Nat.not_le_of_lt spare)] at last
      exact tracked.order.last run.store.accessOrder.distinct last
    · rw [OrderedDict.keys_set_fresh _ _ present]
      exact tracked.order.concat present

theorem Tracked.get (tracked : run.Tracked) (now : Time) (id : String) :
    (run.step { op := .get id, now := now }).Tracked := by
  refine { sound := step_sound run _ tracked.sound, order := ?_ }
  change ByUse (Function.update run.usedAt id run.clock) (run.clock + 1)
    (run.store.get now id).1.accessOrder.keys
  unfold InMemoryStore.get
  cases cached : run.store.cache.get? id with
  | none =>
    apply tracked.order.unlisted
    rw [tracked.sound.keys, OrderedDict.mem_keys_iff, cached]
    rintro ⟨entry, found⟩
    cases found
  | some entry =>
    have present : id ∈ run.store.accessOrder.keys :=
      (tracked.sound.keys id).mpr ((OrderedDict.mem_keys_iff _ _).mpr ⟨entry, cached⟩)
    dsimp only
    rw [keys_move_to_end _ present]
    exact tracked.order.erase_concat run.store.accessOrder.distinct id

theorem Tracked.delete (tracked : run.Tracked) (now : Time) (id : String) :
    (run.step { op := .delete id, now := now }).Tracked := by
  refine { sound := step_sound run _ tracked.sound, order := ?_ }
  change ByUse run.usedAt (run.clock + 1) (run.store.delete id).accessOrder.keys
  unfold InMemoryStore.delete
  split
  · exact tracked.order.later
  · dsimp only
    rw [OrderedDict.keys_erase]
    exact (tracked.order.sublist List.erase_sublist).later

theorem Tracked.step {input : CacheInput Value} (tracked : run.Tracked)
    (inPlace : run.PutsInPlace input) : (run.step input).Tracked := by
  obtain ⟨op, now⟩ := input
  cases op with
  | put entry tier => exact tracked.put inPlace
  | get id => exact tracked.get now id
  | delete id => exact tracked.delete now id
  | clear =>
    exact { sound := tracked.sound.clear, order := ByUse.empty _ _ }

theorem Tracked.put_leaves (tracked : run.Tracked) {now : Time} {entry : MemoryEntry Value}
    {tier : String} (inPlace : run.PutsInPlace { op := .put entry tier, now := now }) :
    run.LeavesRightly { op := .put entry tier, now := now } := by
  intro id cached gone
  change id ∉ (run.store.put now entry tier).state.cache.keys at gone
  rcases tracked.sound.put_cases now entry tier with
    ⟨full, oldest, rest, order, _, written⟩ | ⟨_, written⟩
  · rw [written] at gone
    change id ∉ ((run.store.cache.erase oldest).set entry.id _).keys at gone
    rw [OrderedDict.mem_keys_set, OrderedDict.mem_keys_erase, not_or] at gone
    have victim : id = oldest := by
      by_contra stays
      exact gone.2 ⟨stays, cached⟩
    refine ⟨?_, le_antisymm tracked.sound.bound full, ?_⟩
    · intro present
      have first := inPlace present
      rw [if_pos full, order, List.head?_cons, Option.some.injEq] at first
      exact gone.1 (victim.trans first)
    · intro other present apart
      rw [victim] at apart ⊢
      exact tracked.order.first_least order ((tracked.sound.keys other).mpr present) apart
  · rw [written] at gone
    change id ∉ (run.store.cache.set entry.id _).keys at gone
    rw [OrderedDict.mem_keys_set] at gone
    exact absurd (Or.inr cached) gone

theorem Tracked.leaves {input : CacheInput Value} (tracked : run.Tracked)
    (inPlace : run.PutsInPlace input) : run.LeavesRightly input := by
  obtain ⟨op, now⟩ := input
  cases op with
  | put entry tier => exact tracked.put_leaves inPlace
  | get read =>
    intro id cached gone
    change id ∉ (run.store.get now read).1.cache.keys at gone
    rw [InMemoryStore.get_keys] at gone
    exact gone cached
  | delete deleted =>
    intro id cached gone
    change id ∉ (run.store.delete deleted).cache.keys at gone
    rw [InMemoryStore.mem_keys_delete] at gone
    by_contra stays
    exact gone ⟨stays, cached⟩
  | clear =>
    intro id _ _
    trivial

theorem step_max_size (run : CacheRun Value) (input : CacheInput Value)
    (sound : run.store.Sound) : (run.step input).store.maxSize = run.store.maxSize := by
  obtain ⟨op, now⟩ := input
  cases op with
  | put entry tier =>
    change (run.store.put now entry tier).state.maxSize = _
    rcases sound.put_cases now entry tier with ⟨_, oldest, rest, _, _, written⟩ | ⟨_, written⟩
    · rw [written]
      rfl
    · rw [written]
      rfl
  | get id =>
    change (run.store.get now id).1.maxSize = _
    unfold InMemoryStore.get
    split <;> rfl
  | delete id =>
    change (run.store.delete id).maxSize = _
    unfold InMemoryStore.delete
    split <;> rfl
  | clear => rfl

end CacheRun

/-- Whatever is put, read, deleted and cleared, the cache keeps to its size and
the access order to the cached ids. Where what is cached is put again only in
place, only the least recently used entry of a full cache makes room, for a new
one. -/
theorem working_store_lru {maxSize : Nat} (capacity : 1 ≤ maxSize)
    (inputs : List (CacheInput Value)) :
    (∀ early late, inputs = early ++ late →
      let store := (runInputs CacheRun.step (.start maxSize) early).store
      store.count ≤ maxSize ∧ ∀ id, id ∈ store.accessOrder.keys ↔ id ∈ store.cache.keys) ∧
      (StepsMeet CacheRun.step CacheRun.PutsInPlace (.start maxSize) inputs →
        StepsMeet CacheRun.step CacheRun.LeavesRightly (.start maxSize) inputs) := by
  constructor
  · intro early late _ store
    have sound : store.Sound ∧ store.maxSize = maxSize := by
      apply @invariant_of_steps _ _ CacheRun.step
        (fun run : CacheRun Value => run.store.Sound ∧ run.store.maxSize = maxSize)
      · rintro run input ⟨sound, size⟩
        exact ⟨run.step_sound input sound, (run.step_max_size input sound).trans size⟩
      · exact ⟨CacheRun.start_sound capacity, rfl⟩
    have bound := sound.1.bound
    rw [sound.2] at bound
    exact ⟨bound, sound.1.keys⟩
  · apply StepsMeet.of_invariant CacheRun.step
    · exact fun _ _ tracked inPlace => CacheRun.Tracked.step tracked inPlace
    · exact fun _ _ tracked inPlace => CacheRun.Tracked.leaves tracked inPlace
    · exact { sound := CacheRun.start_sound capacity, order := ByUse.empty _ _ }

def putNamed (id : String) : CacheInput Unit where
  op := .put { id := id, createdAt := 0 } "working"
  now := 0

/-- Two entries, of which the older is read; a third takes the place of the
other. -/
def readingInputs : List (CacheInput Unit) :=
  [putNamed "a", putNamed "b", { op := .get "a", now := 1 }, putNamed "c"]

theorem reading_keeps :
    (runInputs CacheRun.step (.start 2) readingInputs).store.cache.keys = ["a", "c"] ∧
      StepsMeet CacheRun.step CacheRun.LeavesRightly (.start 2) readingInputs := by
  refine ⟨by decide +kernel, (working_store_lru (by decide) readingInputs).2 ?_⟩
  refine ⟨?_, ?_, trivial, ?_, trivial⟩
  · intro cached
    cases cached
  · intro cached
    exact absurd cached (by decide +kernel)
  · intro cached
    exact absurd cached (by decide +kernel)

/-- A full cache gives up an entry for one that it has already. -/
def repeatedInputs : List (CacheInput Unit) :=
  [putNamed "a", putNamed "b", putNamed "b"]

theorem repeated_put_evicts :
    ¬StepsMeet CacheRun.step CacheRun.LeavesRightly (.start 2) repeatedInputs := by
  rintro ⟨_, _, leaves, _⟩
  have evicted := leaves "a" (by decide +kernel) (by decide +kernel)
  exact absurd evicted.1 (by decide +kernel)

end AiEnterpriseOs.Memory
