import AiEnterpriseOs.Memory.RetentionScans

/-!
# Running the upkeep twice

`cleanup_expired` and `apply_tier_management` with the counts that they report,
and a second run of each at the same instant.
-/

namespace AiEnterpriseOs.Memory

open Library

variable {Value : Type}

/-- A store and the changes counted so far. -/
structure Counted (Count Value : Type) where
  store : MemoryStore Value
  count : Count

namespace Counted

variable {Count : Type}

/-- An operation of the store, counted once it has returned. -/
def andCount (run : Counted Count Value) (outcome : Outcome (MemoryStore Value))
    (add : Count → Count) : Outcome (Counted Count Value) where
  state :=
    { store := outcome.state
      count := if outcome.returned then add run.count else run.count }
  returned := outcome.returned

end Counted

/-- The dict that `apply_tier_management` returns. -/
structure TierResults where
  promoted : Nat := 0
  demoted : Nat := 0
  expired : Nat := 0
  deriving DecidableEq, Repr

namespace TierResults

def addPromoted (results : TierResults) : TierResults :=
  { results with promoted := results.promoted + 1 }

def addDemoted (results : TierResults) : TierResults :=
  { results with demoted := results.demoted + 1 }

def addExpired (results : TierResults) : TierResults :=
  { results with expired := results.expired + 1 }

def total (results : TierResults) : Nat :=
  results.promoted + results.demoted + results.expired

theorem total_add_promoted (results : TierResults) :
    results.addPromoted.total = results.total + 1 := by
  simp only [addPromoted, total]
  omega

theorem total_add_demoted (results : TierResults) :
    results.addDemoted.total = results.total + 1 := by
  simp only [addDemoted, total]
  omega

theorem total_add_expired (results : TierResults) :
    results.addExpired.total = results.total + 1 := by
  simp only [addExpired, total]
  omega

theorem total_eq_zero_iff (results : TierResults) : results.total = 0 ↔ results = {} := by
  obtain ⟨promoted, demoted, expired⟩ := results
  simp [total, and_assoc]

end TierResults

namespace MemoryEntry

/-- The entry is promoted under tier management. -/
def Promotes (promoteThreshold : Rat) (entry : MemoryEntry Value) : Prop :=
  entry.tier = "working" ∧ promoteThreshold ≤ entry.importance

/-- The entry is demoted, if it is not promoted. -/
def Demotes (demoteThreshold : Rat) (entry : MemoryEntry Value) : Prop :=
  (entry.tier = "short_term" ∨ entry.tier = "long_term") ∧ entry.importance < demoteThreshold

instance (promoteThreshold : Rat) (entry : MemoryEntry Value) :
    Decidable (entry.Promotes promoteThreshold) :=
  inferInstanceAs (Decidable (_ ∧ _))

instance (demoteThreshold : Rat) (entry : MemoryEntry Value) :
    Decidable (entry.Demotes demoteThreshold) :=
  inferInstanceAs (Decidable (_ ∧ _))

/-- Tier management moves the entry to another tier. -/
def Moves (promoteThreshold demoteThreshold : Rat) (entry : MemoryEntry Value) : Prop :=
  entry.Promotes promoteThreshold ∨ entry.Demotes demoteThreshold

end MemoryEntry

namespace MemoryStore

section Upkeep

variable (env : MemoryEnv Value) (now : Time)

/-- Retire a listed entry whose deadline has passed, and count it. -/
def cleanupCounted (entry : MemoryEntry Value) (run : Counted Nat Value) :
    Outcome (Counted Nat Value) :=
  match run.store.get entry.id with
  | none => .returning run
  | some live =>
    if live.expired now then
      run.andCount (run.store.amend env live.id (MemoryEntry.retired now)) (· + 1)
    else .returning run

/-- Clean up expired memories; the number of entries archived is returned. -/
def countCleanup (store : MemoryStore Value) : Outcome (Counted Nat Value) :=
  Outcome.forEach (cleanupCounted env now) store.getAll { store := store, count := 0 }

section Tiers

variable (archivePath : Bool) (promoteThreshold demoteThreshold : Rat)

/-- Promotion or demotion of one entry; an archiver with an archive file writes
the demoted entry there too. -/
def moveCounted (entry : MemoryEntry Value) (run : Counted TierResults Value) :
    Outcome (Counted TierResults Value) :=
  match run.store.get entry.id with
  | none => .returning run
  | some live =>
    if live.Promotes promoteThreshold then
      run.andCount (run.store.amend env live.id MemoryEntry.promoted) TierResults.addPromoted
    else if live.Demotes demoteThreshold then
      run.andCount ((run.store.mutate live.id (MemoryEntry.retired now)).archiveWithFile
          env now archivePath live.id)
        TierResults.addDemoted
    else .returning run

/-- Expiry of one entry, and of all others with it. -/
def expireCounted (entry : MemoryEntry Value) (run : Counted TierResults Value) :
    Outcome (Counted TierResults Value) :=
  match run.store.get entry.id with
  | none => .returning run
  | some live =>
    if live.expired now then
      run.andCount ((run.store.amend env live.id (MemoryEntry.retired now)).andThen
          (cleanupExpired env now))
        TierResults.addExpired
    else .returning run

def tierCounted (entry : MemoryEntry Value) (run : Counted TierResults Value) :
    Outcome (Counted TierResults Value) :=
  (moveCounted env now archivePath promoteThreshold demoteThreshold entry run).andThen
    (expireCounted env now entry)

/-- Run tier management, counting promoted, demoted and expired entries. -/
def countTiers (store : MemoryStore Value) : Outcome (Counted TierResults Value) :=
  Outcome.forEach (tierCounted env now archivePath promoteThreshold demoteThreshold)
    store.getAll { store := store, count := {} }

end Tiers

theorem count_cleanup_store (store : MemoryStore Value) :
    (store.countCleanup env now).map Counted.store = store.cleanupExpired env now := by
  unfold countCleanup cleanupExpired
  apply Outcome.for_each_map
  intro entry run
  unfold cleanupCounted cleanupEntry
  cases run.store.get entry.id with
  | none => rfl
  | some live =>
    dsimp only
    split
    · rfl
    · rfl

end Upkeep

end MemoryStore

/-! ## A run that reports nothing -/

namespace Counted

variable {Count : Type} {add : Count → Count}

theorem and_count_grows (weight : Count → Nat)
    (raises : ∀ count, weight (add count) = weight count + 1)
    (run : Counted Count Value) (outcome : Outcome (MemoryStore Value)) :
    weight run.count ≤ weight (run.andCount outcome add).state.count := by
  unfold andCount
  dsimp only
  split
  · rw [raises]
    exact Nat.le_succ _
  · exact Nat.le_refl _

theorem and_count_counts (weight : Count → Nat)
    (raises : ∀ count, weight (add count) = weight count + 1)
    {run : Counted Count Value} {outcome : Outcome (MemoryStore Value)}
    (returned : (run.andCount outcome add).returned = true) :
    weight run.count < weight (run.andCount outcome add).state.count := by
  have this : outcome.returned = true := returned
  unfold andCount
  dsimp only
  rw [if_pos this, raises]
  exact Nat.lt_succ_self _

/-- An entry is still stored and meets a test. -/
def Finds (test : MemoryEntry Value → Prop) (entry : MemoryEntry Value)
    (run : Counted Count Value) : Prop :=
  ∃ live, run.store.get entry.id = some live ∧ test live

theorem finds_listed_iff {test : MemoryEntry Value → Prop} {store : MemoryStore Value}
    (keyed : store.Keyed) (count : Count) :
    (∀ entry ∈ store.getAll, ¬Finds test entry { store := store, count := count }) ↔
      ∀ entry ∈ store.getAll, ¬test entry := by
  apply forall_congr'
  intro entry
  apply imp_congr_right
  intro listed
  simp only [Finds, keyed.get_listed listed, Option.some.injEq, exists_eq_left']

end Counted

namespace MemoryEntry

/-- Tier management has something to do with the entry. -/
def Due (now : Time) (promoteThreshold demoteThreshold : Rat) (entry : MemoryEntry Value) : Prop :=
  entry.Moves promoteThreshold demoteThreshold ∨ entry.expired now = true

end MemoryEntry

namespace MemoryStore

section Idle

variable {env : MemoryEnv Value} {now : Time}

theorem cleanup_idle {entry : MemoryEntry Value} {run : Counted Nat Value}
    (quiet : ¬run.Finds (fun live => live.expired now = true) entry) :
    cleanupCounted env now entry run = .returning run := by
  unfold cleanupCounted
  cases stored : run.store.get entry.id with
  | none => rfl
  | some live =>
    have waits : ¬live.expired now = true := fun expired => quiet ⟨live, stored, expired⟩
    exact if_neg waits

theorem cleanup_grows (entry : MemoryEntry Value) (run : Counted Nat Value) :
    run.count ≤ (cleanupCounted env now entry run).state.count := by
  unfold cleanupCounted
  split
  · exact Nat.le_refl _
  · split
    · exact Counted.and_count_grows id (fun _ => rfl) run _
    · exact Nat.le_refl _

theorem cleanup_counts {entry : MemoryEntry Value} {run : Counted Nat Value}
    (due : run.Finds (fun live => live.expired now = true) entry)
    (returned : (cleanupCounted env now entry run).returned = true) :
    run.count < (cleanupCounted env now entry run).state.count := by
  obtain ⟨live, stored, expired⟩ := due
  simp only [cleanupCounted, stored, if_pos expired] at returned ⊢
  exact Counted.and_count_counts id (fun _ => rfl) returned

theorem cleanup_reports_nothing_iff {store : MemoryStore Value} (keyed : store.Keyed) :
    (store.countCleanup env now).returned = true ∧ (store.countCleanup env now).state.count = 0 ↔
      ∀ entry ∈ store.getAll, ¬entry.expired now = true := by
  have uncounted := Outcome.for_each_uncounted_iff (cleanupCounted env now)
    (Counted.Finds fun live => live.expired now = true) Counted.count
    (fun _ _ => cleanup_idle) cleanup_grows (fun _ _ => cleanup_counts) store.getAll
    { store := store, count := 0 }
  exact uncounted.trans (Counted.finds_listed_iff keyed _)

section Tiers

variable {archivePath : Bool} {promoteThreshold demoteThreshold : Rat}

theorem move_grows (entry : MemoryEntry Value) (run : Counted TierResults Value) :
    run.count.total ≤ (moveCounted env now archivePath promoteThreshold demoteThreshold
      entry run).state.count.total := by
  unfold moveCounted
  split
  · exact Nat.le_refl _
  · split
    · exact Counted.and_count_grows TierResults.total TierResults.total_add_promoted run _
    · split
      · exact Counted.and_count_grows TierResults.total TierResults.total_add_demoted run _
      · exact Nat.le_refl _

theorem expire_grows (entry : MemoryEntry Value) (run : Counted TierResults Value) :
    run.count.total ≤ (expireCounted env now entry run).state.count.total := by
  unfold expireCounted
  split
  · exact Nat.le_refl _
  · split
    · exact Counted.and_count_grows TierResults.total TierResults.total_add_expired run _
    · exact Nat.le_refl _

theorem tier_grows (entry : MemoryEntry Value) (run : Counted TierResults Value) :
    run.count.total ≤ (tierCounted env now archivePath promoteThreshold demoteThreshold
      entry run).state.count.total := by
  unfold tierCounted
  apply Outcome.and_then_state (fun after : Counted TierResults Value =>
    run.count.total ≤ after.count.total) (move_grows entry run) fun _ above => above
  intro after above
  exact Nat.le_trans above (expire_grows entry after)

theorem move_idle {entry live : MemoryEntry Value} {run : Counted TierResults Value}
    (stored : run.store.get entry.id = some live) (stays : ¬live.Promotes promoteThreshold)
    (rests : ¬live.Demotes demoteThreshold) :
    moveCounted env now archivePath promoteThreshold demoteThreshold entry run =
      .returning run := by
  simp only [moveCounted, stored, if_neg stays, if_neg rests]

theorem expire_idle {entry live : MemoryEntry Value} {run : Counted TierResults Value}
    (stored : run.store.get entry.id = some live) (waits : ¬live.expired now = true) :
    expireCounted env now entry run = .returning run := by
  simp only [expireCounted, stored, if_neg waits]

theorem tier_idle {entry : MemoryEntry Value} {run : Counted TierResults Value}
    (quiet : ¬run.Finds (MemoryEntry.Due now promoteThreshold demoteThreshold) entry) :
    tierCounted env now archivePath promoteThreshold demoteThreshold entry run =
      .returning run := by
  cases stored : run.store.get entry.id with
  | none => simp only [tierCounted, moveCounted, expireCounted, stored, Outcome.returning_and_then]
  | some live =>
    have rests : ¬live.Due now promoteThreshold demoteThreshold :=
      fun due => quiet ⟨live, stored, due⟩
    simp only [MemoryEntry.Due, MemoryEntry.Moves, not_or] at rests
    rw [tierCounted, move_idle stored rests.1.1 rests.1.2, Outcome.returning_and_then,
      expire_idle stored rests.2]

theorem tier_counts {entry : MemoryEntry Value} {run : Counted TierResults Value}
    (due : run.Finds (MemoryEntry.Due now promoteThreshold demoteThreshold) entry)
    (returned : (tierCounted env now archivePath promoteThreshold demoteThreshold entry
      run).returned = true) :
    run.count.total < (tierCounted env now archivePath promoteThreshold demoteThreshold
      entry run).state.count.total := by
  obtain ⟨live, stored, due⟩ := due
  obtain ⟨first, sequence⟩ := Outcome.and_then_returned returned
  rw [tierCounted, sequence]
  rw [tierCounted, sequence] at returned
  by_cases moves : live.Moves promoteThreshold demoteThreshold
  · refine Nat.lt_of_lt_of_le ?_ (expire_grows entry _)
    by_cases promotes : live.Promotes promoteThreshold
    · simp only [moveCounted, stored, if_pos promotes] at first ⊢
      exact Counted.and_count_counts TierResults.total TierResults.total_add_promoted first
    · have demotes := moves.resolve_left promotes
      simp only [moveCounted, stored, if_neg promotes, if_pos demotes] at first ⊢
      exact Counted.and_count_counts TierResults.total TierResults.total_add_demoted first
  · have expired := due.resolve_left moves
    rw [MemoryEntry.Moves, not_or] at moves
    rw [move_idle stored moves.1 moves.2, Outcome.returning_state] at returned ⊢
    simp only [expireCounted, stored, if_pos expired] at returned ⊢
    exact Counted.and_count_counts TierResults.total TierResults.total_add_expired returned

theorem tiers_report_nothing_iff {store : MemoryStore Value} (keyed : store.Keyed) :
    let outcome := store.countTiers env now archivePath promoteThreshold demoteThreshold
    outcome.returned = true ∧ outcome.state.count = {} ↔
      ∀ entry ∈ store.getAll, ¬entry.Due now promoteThreshold demoteThreshold := by
  intro outcome
  have uncounted := Outcome.for_each_uncounted_iff
    (tierCounted env now archivePath promoteThreshold demoteThreshold)
    (Counted.Finds (MemoryEntry.Due now promoteThreshold demoteThreshold))
    (fun run => run.count.total)
    (fun _ _ => tier_idle) tier_grows (fun _ _ => tier_counts) store.getAll
    { store := store, count := {} }
  rw [← TierResults.total_eq_zero_iff]
  exact uncounted.trans (Counted.finds_listed_iff keyed _)

theorem cleanup_quiet {store : MemoryStore Value} (keyed : store.Keyed)
    (quiet : ∀ entry ∈ store.getAll, ¬entry.expired now = true) :
    store.countCleanup env now = .returning { store := store, count := 0 } := by
  apply Outcome.for_each_idle
  intro entry listed
  exact cleanup_idle ((Counted.finds_listed_iff keyed 0).mpr quiet entry listed)

theorem tiers_quiet {store : MemoryStore Value} (keyed : store.Keyed)
    (quiet : ∀ entry ∈ store.getAll, ¬entry.Due now promoteThreshold demoteThreshold) :
    store.countTiers env now archivePath promoteThreshold demoteThreshold =
      .returning { store := store, count := {} } := by
  apply Outcome.for_each_idle
  intro entry listed
  exact tier_idle ((Counted.finds_listed_iff keyed ({} : TierResults)).mpr quiet entry listed)

end Tiers

end Idle

/-! ## What the first run leaves -/

/-- The same entries are stored, with the same deadlines. -/
structure KeepsDeadlines (before after : MemoryStore Value) : Prop where
  keyed : after.Keyed
  deadlines : ∀ id, (after.get id).map (fun entry => entry.expiresAt) =
    (before.get id).map fun entry => entry.expiresAt

section Deadlines

variable {env : MemoryEnv Value} {now : Time} {before store : MemoryStore Value}

theorem KeepsDeadlines.amend (kept : KeepsDeadlines before store)
    {change : MemoryEntry Value → MemoryEntry Value} (routine : Routine change)
    (deadline : ∀ entry, (change entry).expiresAt = entry.expiresAt) (id : String) :
    KeepsDeadlines before (store.amend env id change).state where
  keyed := Keyed.amend kept.keyed id change routine.id
  deadlines other := by
    rw [amend_get routine kept.keyed, ← kept.deadlines other]
    split
    next here =>
      rw [here, Option.map_map]
      congr 1
      funext entry
      exact deadline entry
    · rfl

theorem Routine.of_retirement (now : Time) : Routine (@MemoryEntry.retired Value now) :=
  ⟨fun _ => rfl, fun _ => rfl, fun _ => rfl, fun _ => rfl⟩

theorem Routine.of_promotion : Routine (@MemoryEntry.promoted Value) :=
  ⟨fun _ => rfl, fun _ => rfl, fun _ => rfl, fun _ => rfl⟩

theorem archive_live_false (change : MemoryEntry Value → MemoryEntry Value) (id : String)
    (store : MemoryStore Value) :
    store.archiveLive env false change id = store.amend env id change :=
  Outcome.and_then_returning _

theorem demotion_live (archivePath : Bool) (id : String) (store : MemoryStore Value) :
    (store.mutate id (MemoryEntry.retired now)).archiveWithFile env now archivePath id =
      store.archiveLive env archivePath
        (MemoryEntry.archiveAt now ∘ MemoryEntry.retired now) id := by
  rw [archiveWithFile, MemoryStore.archive, amend_mutate]
  rfl

theorem KeepsDeadlines.cleanup (kept : KeepsDeadlines before store) :
    KeepsDeadlines before (store.cleanupExpired env now).state := by
  apply Outcome.for_each_state (KeepsDeadlines before) _ _ _ store kept
  intro entry _ store kept
  unfold cleanupEntry
  split
  · exact kept
  · split
    · exact kept.amend (Routine.of_retirement now) (fun _ => rfl) _
    · exact kept

theorem KeepsDeadlines.moveCounted {run : Counted TierResults Value}
    (kept : KeepsDeadlines before run.store) (archivePath : Bool)
    (promoteThreshold demoteThreshold : Rat) (entry : MemoryEntry Value) :
    KeepsDeadlines before (moveCounted env now archivePath promoteThreshold
      demoteThreshold entry run).state.store := by
  unfold MemoryStore.moveCounted
  split
  · exact kept
  next live _ =>
    split
    · exact kept.amend Routine.of_promotion (fun _ => rfl) _
    · split
      · rw [demotion_live]
        change KeepsDeadlines before (archiveLive env archivePath _ live.id run.store).state
        rw [archive_live_state]
        exact kept.amend ((Routine.of_archive now).comp (Routine.of_retirement now))
          (fun _ => rfl) _
      · exact kept

theorem KeepsDeadlines.expireCounted {run : Counted TierResults Value}
    (kept : KeepsDeadlines before run.store) (entry : MemoryEntry Value) :
    KeepsDeadlines before (expireCounted env now entry run).state.store := by
  unfold MemoryStore.expireCounted
  split
  · exact kept
  next live _ =>
    split
    · apply Outcome.and_then_state (KeepsDeadlines before)
        (kept.amend (Routine.of_retirement now) (fun _ => rfl) live.id) fun _ kept => kept
      exact fun _ kept => kept.cleanup
    · exact kept

theorem KeepsDeadlines.tiers (kept : KeepsDeadlines before store) (archivePath : Bool)
    (promoteThreshold demoteThreshold : Rat) :
    KeepsDeadlines before (store.countTiers env now archivePath promoteThreshold
      demoteThreshold).state.store := by
  unfold countTiers
  apply Outcome.for_each_state fun run : Counted TierResults Value =>
    KeepsDeadlines before run.store
  · intro entry _ run kept
    apply Outcome.and_then_state (fun run : Counted TierResults Value =>
      KeepsDeadlines before run.store)
      (kept.moveCounted archivePath promoteThreshold demoteThreshold entry) fun _ kept => kept
    exact fun _ kept => kept.expireCounted entry
  · exact kept

theorem unexpired_of_same {after : MemoryStore Value}
    (same : ∀ id, (after.get id).map (fun entry => entry.expiresAt) =
      (before.get id).map fun entry => entry.expiresAt)
    (quiet : ∀ entry ∈ before.getAll, ¬entry.expired now = true) :
    ∀ entry ∈ after.getAll, ¬entry.expired now = true := by
  intro entry listed
  obtain ⟨id, stored⟩ := (OrderedDict.mem_values_iff _ _).mp listed
  have deadlines := same id
  rw [MemoryStore.get, stored, Option.map_some] at deadlines
  obtain ⟨other, found, deadline⟩ := Option.map_eq_some_iff.mp deadlines.symm
  have waits := quiet other ((OrderedDict.mem_values_iff _ _).mpr ⟨id, found⟩)
  unfold MemoryEntry.expired at waits ⊢
  rw [← deadline]
  exact waits

theorem KeepsDeadlines.expired_iff (kept : KeepsDeadlines before store) :
    (∀ entry ∈ store.getAll, ¬entry.expired now = true) ↔
      ∀ entry ∈ before.getAll, ¬entry.expired now = true :=
  ⟨unexpired_of_same fun id => (kept.deadlines id).symm, unexpired_of_same kept.deadlines⟩

end Deadlines

/-! ## What the first run moves -/

section Moves

variable (env : MemoryEnv Value) (onDisk archivePath : Bool) (now : Time)
  (promoteThreshold demoteThreshold : Rat)

/-- What becomes of an entry that has not expired. -/
def movedEntry (entry : MemoryEntry Value) : MemoryEntry Value :=
  if entry.Promotes promoteThreshold then entry.promoted
  else if entry.Demotes demoteThreshold then (entry.retired now).archiveAt now
  else entry

/-- The entry is moved, and the write of the move is refused. -/
def moveRefused (entry : MemoryEntry Value) : Bool :=
  if entry.Promotes promoteThreshold then onDisk && (env.dump entry).isNone
  else if entry.Demotes demoteThreshold then
    (onDisk || archivePath) && (env.dump entry).isNone
  else false

/-- What a run makes of the entries still to come. -/
def movedUntil : List (MemoryEntry Value) → List (MemoryEntry Value)
  | [] => []
  | entry :: rest =>
    movedEntry now promoteThreshold demoteThreshold entry ::
      if moveRefused env onDisk archivePath promoteThreshold demoteThreshold entry then rest
      else movedUntil rest

end Moves

section Walk

variable {env : MemoryEnv Value} {onDisk : Bool} (archivePath : Bool) (now : Time)
  (promoteThreshold demoteThreshold : Rat) {kept rest : List (MemoryEntry Value)}
  {entry : MemoryEntry Value} {run : Counted TierResults Value}

theorem moved_expired (entry : MemoryEntry Value) :
    (movedEntry now promoteThreshold demoteThreshold entry).expired now =
      entry.expired now := by
  unfold movedEntry
  split
  · rfl
  · split <;> rfl

theorem Scanning.moves (scanning : Scanning env onDisk kept (entry :: rest) run.store) :
    let outcome := moveCounted env now archivePath promoteThreshold demoteThreshold entry run
    outcome.returned = !moveRefused env onDisk archivePath promoteThreshold demoteThreshold entry ∧
      Scanning env onDisk (kept ++ [entry]) rest outcome.state.store ∧
      outcome.state.store.get entry.id =
        some (movedEntry now promoteThreshold demoteThreshold entry) ∧
      ∀ id, id ≠ entry.id → outcome.state.store.get id = run.store.get id := by
  have stored := scanning.listed entry List.mem_cons_self
  unfold moveRefused movedEntry
  simp only [moveCounted, stored]
  by_cases promotes : entry.Promotes promoteThreshold
  · simp only [if_pos promotes]
    have promoted := scanning.amended Routine.of_promotion false
    rw [Bool.or_false, archive_live_false] at promoted
    exact promoted
  · simp only [if_neg promotes]
    by_cases demotes : entry.Demotes demoteThreshold
    · simp only [if_pos demotes, demotion_live]
      exact scanning.amended ((Routine.of_archive now).comp (Routine.of_retirement now)) archivePath
    · simp only [if_neg demotes]
      exact ⟨rfl, scanning.pass scanning.keyed rfl stored rfl fun _ _ => rfl, stored,
        fun _ _ => rfl⟩

theorem Scanning.tier_moves (scanning : Scanning env onDisk kept (entry :: rest) run.store)
    (waits : ¬entry.expired now = true) :
    tierCounted env now archivePath promoteThreshold demoteThreshold entry run =
      moveCounted env now archivePath promoteThreshold demoteThreshold entry run := by
  obtain ⟨_, _, moved, _⟩ := scanning.moves archivePath now promoteThreshold demoteThreshold
  apply Outcome.and_then_idle
  apply expire_idle moved
  rw [moved_expired]
  exact waits

theorem moved_until_turns (kept rest : List (MemoryEntry Value)) :
    (movedUntil env onDisk archivePath now promoteThreshold demoteThreshold rest).map some =
      Outcome.turns
        (fun _ _ entry => moveRefused env onDisk archivePath promoteThreshold demoteThreshold entry)
        (fun kept entry => kept ++ [entry]) some
        (fun entry => some (movedEntry now promoteThreshold demoteThreshold entry)) kept rest := by
  induction rest generalizing kept with
  | nil => rfl
  | cons entry rest ih =>
    rw [movedUntil, Outcome.turns, ← ih, List.map_cons, apply_ite (List.map _)]

theorem Scanning.tiers (scanning : Scanning env onDisk kept rest run.store)
    (wait : ∀ entry ∈ rest, ¬entry.expired now = true) :
    let after := (Outcome.forEach
      (tierCounted env now archivePath promoteThreshold demoteThreshold) rest run).state.store
    (rest.map fun entry => after.get entry.id) =
        (movedUntil env onDisk archivePath now promoteThreshold demoteThreshold rest).map some ∧
      ∀ id, (∀ entry ∈ rest, entry.id ≠ id) → after.get id = run.store.get id := by
  intro after
  rw [moved_until_turns _ _ _ _ kept]
  apply Outcome.for_each_turns MemoryEntry.id
    (fun run : Counted TierResults Value => MemoryStore.get run.store) _
    (fun kept rest run => Scanning env onDisk kept rest run.store ∧
      ∀ entry ∈ rest, ¬entry.expired now = true)
  · intro kept rest run holds entry member
    exact holds.1.listed entry member
  · intro kept entry rest run holds other member
    exact holds.1.apart other (List.mem_append_right _ member)
  · intro kept entry rest run holds
    obtain ⟨returned, passed, here, others⟩ :=
      holds.1.moves archivePath now promoteThreshold demoteThreshold
    rw [holds.1.tier_moves archivePath now promoteThreshold demoteThreshold
      (holds.2 entry List.mem_cons_self)]
    refine ⟨returned, ⟨passed, ?_⟩, here, others⟩
    exact fun other member => holds.2 other (List.mem_cons_of_mem _ member)
  · exact ⟨scanning, wait⟩

theorem mem_tiers_iff {store : MemoryStore Value} (keyed : store.Keyed)
    (wait : ∀ entry ∈ store.getAll, ¬entry.expired now = true) (entry : MemoryEntry Value) :
    entry ∈ (store.countTiers env now archivePath promoteThreshold
        demoteThreshold).state.store.getAll ↔
      entry ∈ movedUntil env store.disk.isSome archivePath now promoteThreshold
        demoteThreshold store.getAll := by
  have scanning : Scanning env store.disk.isSome [] store.getAll
      ({ store := store, count := {} } : Counted TierResults Value).store := .start keyed
  obtain ⟨moved, untouched⟩ :=
    scanning.tiers archivePath now promoteThreshold demoteThreshold wait
  have listed : some entry ∈ (movedUntil env store.disk.isSome archivePath now
      promoteThreshold demoteThreshold store.getAll).map some ↔
        entry ∈ movedUntil env store.disk.isSome archivePath now promoteThreshold
          demoteThreshold store.getAll := by simp
  rw [← listed, ← moved, List.mem_map]
  constructor
  · intro member
    obtain ⟨id, found⟩ := (OrderedDict.mem_values_iff _ _).mp member
    by_cases here : ∃ other ∈ store.getAll, other.id = id
    · obtain ⟨other, present, sameId⟩ := here
      refine ⟨other, present, ?_⟩
      rw [sameId]
      exact found
    · have absent := untouched id fun other present sameId => here ⟨other, present, sameId⟩
      have stored : store.get id = some entry := absent.symm.trans found
      refine absurd ⟨entry, ?_, keyed id entry stored⟩ here
      exact (OrderedDict.mem_values_iff _ _).mpr ⟨id, stored⟩
  · rintro ⟨other, _, found⟩
    exact (OrderedDict.mem_values_iff _ _).mpr ⟨other.id, found⟩

end Walk

section Settled

variable {env : MemoryEnv Value} {onDisk archivePath : Bool} {now : Time}
  {promoteThreshold demoteThreshold : Rat}

theorem moved_moves_iff (entry : MemoryEntry Value) :
    (movedEntry now promoteThreshold demoteThreshold entry).Moves promoteThreshold demoteThreshold ↔
      entry.Promotes promoteThreshold ∧ entry.importance < demoteThreshold := by
  unfold movedEntry
  by_cases promotes : entry.Promotes promoteThreshold
  · rw [if_pos promotes, and_iff_right promotes]
    simp [MemoryEntry.Moves, MemoryEntry.Promotes, MemoryEntry.Demotes, MemoryEntry.promoted]
  · rw [if_neg promotes]
    refine iff_of_false ?_ fun both => promotes both.1
    by_cases demotes : entry.Demotes demoteThreshold
    · rw [if_pos demotes]
      simp [MemoryEntry.Moves, MemoryEntry.Promotes, MemoryEntry.Demotes,
        MemoryEntry.archiveAt, MemoryEntry.retired]
    · rw [if_neg demotes]
      exact not_or.mpr ⟨promotes, demotes⟩

theorem moved_until_rests_iff {entries : List (MemoryEntry Value)} :
    (∀ entry ∈ movedUntil env onDisk archivePath now promoteThreshold demoteThreshold
        entries, ¬entry.Moves promoteThreshold demoteThreshold) ↔
      (∀ entry ∈ entries, entry.Promotes promoteThreshold → demoteThreshold ≤ entry.importance) ∧
      entries.Pairwise fun entry other =>
        moveRefused env onDisk archivePath promoteThreshold demoteThreshold entry = true →
          ¬other.Moves promoteThreshold demoteThreshold := by
  induction entries with
  | nil => simp [movedUntil]
  | cons entry rest ih =>
    have head : ¬(entry.Promotes promoteThreshold ∧ entry.importance < demoteThreshold) ↔
        (entry.Promotes promoteThreshold → demoteThreshold ≤ entry.importance) := by
      rw [not_and, not_lt]
    rw [movedUntil, List.forall_mem_cons, List.forall_mem_cons, List.pairwise_cons,
      moved_moves_iff, head, and_assoc]
    apply and_congr_right
    intro _
    by_cases refused : moveRefused env onDisk archivePath promoteThreshold demoteThreshold
        entry = true
    · rw [if_pos refused]
      constructor
      · intro rest_stays
        refine ⟨?_, fun other member _ => rest_stays other member, ?_⟩
        · intro other member promotes
          exact absurd (Or.inl promotes) (rest_stays other member)
        · apply List.pairwise_of_forall_mem_list
          intro _ _ other member _
          exact rest_stays other member
      · intro settled other member
        exact settled.2.1 other member refused
    · rw [if_neg refused, ih]
      constructor
      · rintro ⟨once, last⟩
        exact ⟨once, fun _ _ this => absurd this refused, last⟩
      · rintro ⟨once, _, last⟩
        exact ⟨once, last⟩

end Settled

section Idempotent

variable (env : MemoryEnv Value) (archivePath : Bool) (now : Time)
  (promoteThreshold demoteThreshold : Rat)

/-- A second cleanup at the same instant reports zero and leaves the store as
it is. -/
def CleanupIdempotent (store : MemoryStore Value) : Prop :=
  let first := (store.countCleanup env now).state.store
  let second := first.countCleanup env now
  (second.returned = true ∧ second.state.count = 0) ∧ second.state.store = first

/-- A second run of tier management at the same instant reports zeros and
leaves the store as it is. -/
def TiersIdempotent (store : MemoryStore Value) : Prop :=
  let first := (store.countTiers env now archivePath promoteThreshold demoteThreshold).state.store
  let second := first.countTiers env now archivePath promoteThreshold demoteThreshold
  (second.returned = true ∧ second.state.count = {}) ∧ second.state.store = first

/-- Nothing has expired, what is promoted has enough importance to stay, and
no move comes after one whose write is refused. -/
structure SettlesAtOnce (store : MemoryStore Value) : Prop where
  unexpired : ∀ entry ∈ store.getAll, ¬entry.expired now = true
  stays : ∀ entry ∈ store.getAll, entry.Promotes promoteThreshold →
    demoteThreshold ≤ entry.importance
  last : store.getAll.Pairwise fun entry other =>
    moveRefused env store.disk.isSome archivePath promoteThreshold demoteThreshold entry =
      true → ¬other.Moves promoteThreshold demoteThreshold

variable {env archivePath now promoteThreshold demoteThreshold}

theorem cleanup_idempotent_iff {store : MemoryStore Value} (keyed : store.Keyed) :
    store.CleanupIdempotent env now ↔ ∀ entry ∈ store.getAll, ¬entry.expired now = true := by
  have kept : KeepsDeadlines store (store.countCleanup env now).state.store := by
    have cleaned := count_cleanup_store env now store
    have state := congrArg Outcome.state cleaned
    change (store.countCleanup env now).state.store = _ at state
    rw [state]
    exact KeepsDeadlines.cleanup ⟨keyed, fun _ => rfl⟩
  rw [← kept.expired_iff, ← @cleanup_reports_nothing_iff _ env _ _ kept.keyed]
  constructor
  · exact fun idempotent => idempotent.1
  · intro quiet
    refine ⟨quiet, ?_⟩
    rw [cleanup_quiet kept.keyed ((cleanup_reports_nothing_iff kept.keyed).mp quiet)]
    rfl

theorem tiers_idempotent_iff {store : MemoryStore Value} (keyed : store.Keyed) :
    store.TiersIdempotent env archivePath now promoteThreshold demoteThreshold ↔
      store.SettlesAtOnce env archivePath now promoteThreshold demoteThreshold := by
  let first := (store.countTiers env now archivePath promoteThreshold demoteThreshold).state.store
  have kept : KeepsDeadlines store first :=
    KeepsDeadlines.tiers ⟨keyed, fun _ => rfl⟩ archivePath promoteThreshold demoteThreshold
  have quiet : store.TiersIdempotent env archivePath now promoteThreshold demoteThreshold ↔
      ∀ entry ∈ first.getAll, ¬entry.Due now promoteThreshold demoteThreshold := by
    refine Iff.trans ?_ (@tiers_report_nothing_iff _ env _ archivePath _ _ _ kept.keyed)
    constructor
    · exact fun idempotent => idempotent.1
    · intro reports
      refine ⟨reports, ?_⟩
      change (first.countTiers env now archivePath promoteThreshold
        demoteThreshold).state.store = first
      rw [tiers_quiet kept.keyed ((tiers_report_nothing_iff kept.keyed).mp reports)]
      rfl
  have parts : (∀ entry ∈ first.getAll, ¬entry.Due now promoteThreshold demoteThreshold) ↔
      (∀ entry ∈ store.getAll, ¬entry.expired now = true) ∧
        ∀ entry ∈ first.getAll, ¬entry.Moves promoteThreshold demoteThreshold := by
    rw [← kept.expired_iff, and_comm, ← forall₂_and]
    simp only [MemoryEntry.Due, not_or]
  rw [quiet, parts]
  constructor
  · rintro ⟨wait, rests⟩
    have settled := moved_until_rests_iff.mp fun entry member =>
      rests entry ((mem_tiers_iff archivePath now promoteThreshold demoteThreshold keyed wait
        entry).mpr member)
    exact ⟨wait, settled.1, settled.2⟩
  · rintro ⟨wait, stays, last⟩
    refine ⟨wait, ?_⟩
    intro entry member
    rw [mem_tiers_iff archivePath now promoteThreshold demoteThreshold keyed wait] at member
    exact moved_until_rests_iff.mpr ⟨stays, last⟩ entry member

end Idempotent

end MemoryStore

/-- On every store that a run reaches, the cleanup is idempotent at an instant
just where nothing has expired, and tier management just where it settles at
once. -/
theorem upkeep_idempotent_iff (env : MemoryEnv Value) (archivePath : Bool)
    (config : MemoryConfig) (disk : Option (LogFile Value))
    (inputs : List (MemoryInput Value)) (now : Time)
    (promoteThreshold demoteThreshold : Rat) :
    let store := (MemoryEngine.runs env config (MemoryEngine.openEngine disk) inputs).store
    (store.CleanupIdempotent env now ↔ ∀ entry ∈ store.getAll, ¬entry.expired now = true) ∧
      (store.TiersIdempotent env archivePath now promoteThreshold demoteThreshold ↔
        store.SettlesAtOnce env archivePath now promoteThreshold demoteThreshold) := by
  intro store
  have keyed : store.Keyed := MemoryEngine.runs_keyed config disk inputs
  exact ⟨MemoryStore.cleanup_idempotent_iff keyed, MemoryStore.tiers_idempotent_iff keyed⟩

/-- An entry whose deadline is the instant it is saved. -/
def deadlineInputs : List (MemoryInput PyValue) :=
  [{ op := .saveEntry { id := "mem", createdAt := 0, expiresAt := some 0 }, now := 0 }]

/-- What has expired is archived and counted each time. -/
theorem expired_counted_twice :
    let store := (MemoryEngine.runs textEnv {} (MemoryEngine.openEngine none) deadlineInputs).store
    ¬store.CleanupIdempotent textEnv 1 ∧
      ¬store.TiersIdempotent textEnv false 1 (7 / 10) (1 / 20) := by
  intro store
  constructor
  · intro idempotent
    have uncounted := idempotent.1.2
    revert uncounted
    decide +kernel
  · intro idempotent
    have uncounted := idempotent.1.2
    revert uncounted
    decide +kernel

end AiEnterpriseOs.Memory
