import AiEnterpriseOs.Library.RecentWindow
import AiEnterpriseOs.Orchestration.Checkpoint

/-!
# The most recent checkpoints

The manager has no counter of creations: the cap orders the checkpoints of a
pipeline by their time alone, and the lookup by time and then by stage and task.
-/

namespace AiEnterpriseOs.Orchestration

open Library

/-- A call of `create` at the clock reading `now`. -/
structure CreateCall where
  plan : OrchestrationPlan
  state : ExecutionState
  stageIndex : Nat
  taskIndex : Nat
  now : Time
  fault : CheckpointFault

/-- What the two orders can see of a call, and of its checkpoint. -/
abbrev CheckpointTrace := String × Time × Nat × Nat

def CreateCall.trace (call : CreateCall) : CheckpointTrace :=
  (call.plan.pipeline.id, call.now, call.stageIndex, call.taskIndex)

def Checkpoint.trace (checkpoint : Checkpoint) : CheckpointTrace :=
  (checkpoint.pipelineId, checkpoint.createdAt, checkpoint.stageIndex, checkpoint.taskIndex)

def creatingCalls (calls : List CreateCall) (pipelineId : String) : List CreateCall :=
  (calls.filter fun call => call.fault ≠ .build).filter fun call =>
    call.plan.pipeline.id = pipelineId

namespace CheckpointManager

/-- A manager after some calls, and the checkpoints that they returned. -/
def createAll (manager : CheckpointManager) (calls : List CreateCall) :
    CheckpointManager × List Checkpoint :=
  calls.foldl (fun reached call =>
      let (manager, made) := reached.1.create call.plan call.state call.stageIndex
        call.taskIndex call.now call.fault
      (manager, reached.2 ++ made.toList))
    (manager, [])

/-- For each pipeline the manager holds the last `cap` of the created
checkpoints, and gives out the last one. -/
def KeepsRecent (manager : CheckpointManager) (created : List Checkpoint) (cap : Nat) : Prop :=
  ∀ pipelineId, manager.matching pipelineId =
        (created.filter fun checkpoint => checkpoint.pipelineId = pipelineId).rtake cap ∧
      manager.latest pipelineId =
        (created.filter fun checkpoint => checkpoint.pipelineId = pipelineId).getLast?

/-- Among the last `cap` creations of a pipeline, those at the time of the last
one are of earlier stages, or of earlier tasks of its stage. -/
def IndicesRise (calls : List CreateCall) (cap : Nat) : Prop :=
  ∀ pipelineId early last, (creatingCalls calls pipelineId).rtake cap = early ++ [last] →
    ∀ call ∈ early, call.now = last.now →
      toLex (call.stageIndex, call.taskIndex) < toLex (last.stageIndex, last.taskIndex)

/-- The table lists checkpoints under their ids, all of which have been given out. -/
structure Numbered (manager : CheckpointManager) : Prop where
  named : ∀ entry ∈ manager.checkpoints.entries, entry.2.id = entry.1
  given : ∀ key ∈ manager.checkpoints.keys, key < manager.nextId

/-- After calls at rising times: what was created, and what the table holds of it. -/
structure Windowed (cap : Int) (calls : List CreateCall)
    (reached : CheckpointManager × List Checkpoint) : Prop where
  capped : reached.1.config.maxCheckpointsPerPipeline = cap
  numbered : reached.1.Numbered
  traced : reached.2.map Checkpoint.trace =
    (calls.filter fun call => call.fault ≠ .build).map CreateCall.trace
  distinct : (reached.2.map Checkpoint.id).Nodup
  given : ∀ checkpoint ∈ reached.2, checkpoint.id < reached.1.nextId
  window : ∀ pipelineId, reached.1.matching pipelineId =
    (reached.2.filter fun checkpoint => checkpoint.pipelineId = pipelineId).rtake cap.toNat

section

variable {manager : CheckpointManager}

theorem values_erase_all (dropped : List Checkpoint) {table : OrderedDict CheckpointId Checkpoint}
    (named : ∀ entry ∈ table.entries, entry.2.id = entry.1) :
    (dropped.foldl (fun table old => table.erase old.id) table).values =
      table.values.filter fun checkpoint => checkpoint.id ∉ dropped.map Checkpoint.id := by
  induction dropped generalizing table with
  | nil => simp
  | cons old rest ih =>
    rw [List.foldl_cons, ih (OrderedDict.entries_erase_named named old.id),
      OrderedDict.values_erase_named named, List.filter_filter]
    apply List.filter_congr
    intro checkpoint _
    rw [List.map_cons]
    simp only [List.mem_cons, not_or, ← Bool.decide_and, and_comm]

theorem named_erase_all (dropped : List Checkpoint) {table : OrderedDict CheckpointId Checkpoint}
    (named : ∀ entry ∈ table.entries, entry.2.id = entry.1) :
    ∀ entry ∈ (dropped.foldl (fun table old => table.erase old.id) table).entries,
      entry.2.id = entry.1 := by
  induction dropped generalizing table with
  | nil => exact named
  | cons old rest ih => exact ih (OrderedDict.entries_erase_named named old.id)

theorem keys_erase_all (dropped : List Checkpoint) {table : OrderedDict CheckpointId Checkpoint}
    {key : CheckpointId}
    (member : key ∈ (dropped.foldl (fun table old => table.erase old.id) table).keys) :
    key ∈ table.keys := by
  induction dropped generalizing table with
  | nil => exact member
  | cons old rest ih => exact ((OrderedDict.mem_keys_erase table old.id key).mp (ih member)).2

theorem ids_nodup (numbered : manager.Numbered) :
    (manager.checkpoints.values.map Checkpoint.id).Nodup := by
  have keys : manager.checkpoints.values.map Checkpoint.id = manager.checkpoints.keys := by
    rw [OrderedDict.values, OrderedDict.keys, List.map_map]
    exact List.map_congr_left numbered.named
  rw [keys]
  exact manager.checkpoints.distinct

theorem matching_enforce_cap (numbered : manager.Numbered) (pipelineId other : String) :
    (manager.enforceCap pipelineId).matching other =
      (manager.matching other).filter fun checkpoint =>
        checkpoint.id ∉ (manager.overCap pipelineId).map Checkpoint.id := by
  rw [matching, enforceCap, values_erase_all _ numbered.named, List.filter_filter, matching,
    List.filter_filter]
  apply List.filter_congr
  intro checkpoint _
  exact Bool.and_comm _ _

theorem mem_over_cap {pipelineId : String} {checkpoint : Checkpoint}
    (dropped : checkpoint ∈ manager.overCap pipelineId) :
    checkpoint ∈ manager.matching pipelineId := by
  unfold overCap at dropped
  dsimp only at dropped
  split at dropped
  · cases dropped
  · split at dropped
    · exact (List.mem_insertionSort _).mp (List.mem_of_mem_take dropped)
    · cases dropped

theorem over_cap_ordered {pipelineId : String}
    (positive : 1 ≤ manager.config.maxCheckpointsPerPipeline)
    (ordered : (manager.matching pipelineId).Pairwise fun left right =>
      left.createdAt ≤ right.createdAt) :
    manager.overCap pipelineId = (manager.matching pipelineId).take
      ((manager.matching pipelineId).length - manager.config.maxCheckpointsPerPipeline.toNat) := by
  unfold overCap
  dsimp only
  rw [if_neg (by omega), ordered.insertionSort_eq]
  split
  · rfl
  next within =>
    have none_beyond : (manager.matching pipelineId).length -
        manager.config.maxCheckpointsPerPipeline.toNat = 0 := by omega
    rw [none_beyond, List.take_zero]

theorem enforce_cap_own (numbered : manager.Numbered) {pipelineId : String}
    (positive : 1 ≤ manager.config.maxCheckpointsPerPipeline)
    (ordered : (manager.matching pipelineId).Pairwise fun left right =>
      left.createdAt ≤ right.createdAt) :
    (manager.enforceCap pipelineId).matching pipelineId =
      (manager.matching pipelineId).rtake manager.config.maxCheckpointsPerPipeline.toNat := by
  rw [matching_enforce_cap numbered, over_cap_ordered positive ordered]
  apply filter_apart_take
  exact (ids_nodup numbered).sublist (List.filter_sublist.map _)

theorem enforce_cap_other (numbered : manager.Numbered) {pipelineId other : String}
    (apart : other ≠ pipelineId) :
    (manager.enforceCap pipelineId).matching other = manager.matching other := by
  rw [matching_enforce_cap numbered]
  apply List.filter_eq_self.mpr
  intro checkpoint member
  apply decide_eq_true
  intro shared
  obtain ⟨old, dropped, sameId⟩ := List.mem_map.mp shared
  obtain ⟨held, ofOther⟩ := (mem_matching manager other checkpoint).mp member
  obtain ⟨oldHeld, ofOwn⟩ := (mem_matching manager pipelineId old).mp (mem_over_cap dropped)
  have same : old = checkpoint :=
    List.inj_on_of_nodup_map (ids_nodup numbered) oldHeld held sameId
  exact apart (ofOther.symm.trans (same ▸ ofOwn))

theorem numbered_enforce_cap (numbered : manager.Numbered) (pipelineId : String) :
    (manager.enforceCap pipelineId).Numbered where
  named := named_erase_all (manager.overCap pipelineId) numbered.named
  given key member := numbered.given key (keys_erase_all (manager.overCap pipelineId) member)

/-- The manager with a new checkpoint, before the cap. -/
def stored (manager : CheckpointManager) (checkpoint : Checkpoint) : CheckpointManager :=
  { manager with
    nextId := manager.nextId + 1
    checkpoints := manager.checkpoints.set checkpoint.id checkpoint }

theorem fresh_key (numbered : manager.Numbered) : manager.nextId ∉ manager.checkpoints.keys :=
  fun member => Nat.lt_irrefl _ (numbered.given _ member)

theorem matching_stored (numbered : manager.Numbered) {checkpoint : Checkpoint}
    (next : checkpoint.id = manager.nextId) (pipelineId : String) :
    (manager.stored checkpoint).matching pipelineId = manager.matching pipelineId ++
        [checkpoint].filter fun checkpoint => checkpoint.pipelineId = pipelineId := by
  rw [matching, stored, OrderedDict.values_set_fresh _ _ (next ▸ fresh_key numbered),
    List.filter_append, matching]

theorem numbered_stored (numbered : manager.Numbered) {checkpoint : Checkpoint}
    (next : checkpoint.id = manager.nextId) : (manager.stored checkpoint).Numbered := by
  have entries : (manager.stored checkpoint).checkpoints.entries =
      manager.checkpoints.entries ++ [(checkpoint.id, checkpoint)] :=
    OrderedDict.assign_fresh checkpoint (next ▸ fresh_key numbered)
  constructor
  · intro entry member
    rw [entries] at member
    rcases List.mem_append.mp member with old | new
    · exact numbered.named entry old
    · rw [List.mem_singleton.mp new]
  · intro key member
    rcases (OrderedDict.mem_keys_set _ _ _ _).mp member with new | old
    · rw [new, next]
      exact Nat.lt_succ_self _
    · exact Nat.lt_succ_of_lt (numbered.given key old)

theorem persist_table (manager : CheckpointManager) (checkpoint : Checkpoint)
    (fault : CheckpointFault) :
    (manager.persist checkpoint fault).checkpoints = manager.checkpoints ∧
      (manager.persist checkpoint fault).config = manager.config ∧
      (manager.persist checkpoint fault).nextId = manager.nextId := by
  unfold persist
  split
  · exact ⟨rfl, rfl, rfl⟩
  · split
    · exact ⟨rfl, rfl, rfl⟩
    · exact ⟨rfl, rfl, rfl⟩

theorem numbered_persist (numbered : manager.Numbered) (checkpoint : Checkpoint)
    (fault : CheckpointFault) : (manager.persist checkpoint fault).Numbered := by
  obtain ⟨table, _, next⟩ := persist_table manager checkpoint fault
  constructor
  · rw [table]
    exact numbered.named
  · rw [table, next]
    exact numbered.given

theorem matching_persist (manager : CheckpointManager) (checkpoint : Checkpoint)
    (fault : CheckpointFault) (pipelineId : String) :
    (manager.persist checkpoint fault).matching pipelineId = manager.matching pipelineId := by
  rw [matching, (persist_table manager checkpoint fault).1, matching]

def snapshot (manager : CheckpointManager) (call : CreateCall) : Checkpoint where
  id := manager.nextId
  pipelineId := call.plan.pipeline.id
  planId := call.plan.id
  state := call.state
  stageIndex := call.stageIndex
  taskIndex := call.taskIndex
  createdAt := call.now

theorem create_built (manager : CheckpointManager) {call : CreateCall}
    (builds : call.fault ≠ .build) :
    manager.create call.plan call.state call.stageIndex call.taskIndex call.now call.fault =
      ((((manager.stored (manager.snapshot call)).enforceCap call.plan.pipeline.id).persist
        (manager.snapshot call) call.fault), some (manager.snapshot call)) := by
  rw [create, if_neg builds]
  rfl

theorem create_failed (manager : CheckpointManager) {call : CreateCall}
    (fails : call.fault = .build) :
    manager.create call.plan call.state call.stageIndex call.taskIndex call.now call.fault =
      ({ manager with nextId := manager.nextId + 1 }, none) := by
  rw [create, if_pos fails]

end

section

variable {cap : Int} {calls : List CreateCall} {reached : CheckpointManager × List Checkpoint}

theorem created_ordered {created : List Checkpoint} (traced : created.map Checkpoint.trace =
      (calls.filter fun call => call.fault ≠ .build).map CreateCall.trace)
    (ordered : calls.Pairwise fun left right => left.now ≤ right.now) :
    created.Pairwise fun left right => left.createdAt ≤ right.createdAt := by
  have traces : ((calls.filter fun call => call.fault ≠ .build).map CreateCall.trace).Pairwise
      fun left right => left.2.1 ≤ right.2.1 :=
    List.pairwise_map.mpr (ordered.sublist List.filter_sublist)
  rw [← traced, List.pairwise_map] at traces
  exact traces

theorem windowed_start (config : CheckpointConfig)
    (memory : Option (OrderedDict CheckpointId Checkpoint)) :
    Windowed config.maxCheckpointsPerPipeline [] ({ config := config, memory := memory }, []) where
  capped := rfl
  numbered := by
    constructor
    · intro entry member
      cases member
    · intro key member
      cases member
  traced := rfl
  distinct := List.nodup_nil
  given := by
    intro checkpoint member
    cases member
  window pipelineId := (List.rtake_nil _).symm

theorem windowed_failed (before : Windowed cap calls reached) {call : CreateCall}
    (fails : call.fault = .build) :
    Windowed cap (calls ++ [call])
      ({ reached.1 with nextId := reached.1.nextId + 1 }, reached.2) where
  capped := before.capped
  numbered := ⟨before.numbered.named, fun key member =>
    Nat.lt_succ_of_lt (before.numbered.given key member)⟩
  traced := by
    have nothing : ([call].filter fun call => call.fault ≠ .build) = [] :=
      List.filter_cons_of_neg (by simpa using fails)
    rw [List.filter_append, nothing, List.append_nil]
    exact before.traced
  distinct := before.distinct
  given checkpoint member := Nat.lt_succ_of_lt (before.given checkpoint member)
  window := before.window

theorem traced_built {manager : CheckpointManager} {created : List Checkpoint}
    (before : Windowed cap calls (manager, created)) {call : CreateCall}
    (builds : call.fault ≠ .build) :
    (created ++ [manager.snapshot call]).map Checkpoint.trace =
      ((calls ++ [call]).filter fun call => call.fault ≠ .build).map CreateCall.trace := by
  have this_call : ([call].filter fun call => call.fault ≠ .build) = [call] :=
    List.filter_cons_of_pos (by simpa using builds)
  rw [List.filter_append, this_call, List.map_append, List.map_append, before.traced]
  rfl

theorem window_built {manager : CheckpointManager} {created : List Checkpoint}
    (before : Windowed cap calls (manager, created)) (positive : 1 ≤ cap) {call : CreateCall}
    (builds : call.fault ≠ .build)
    (ordered : (calls ++ [call]).Pairwise fun left right => left.now ≤ right.now)
    (pipelineId : String) :
    ((manager.stored (manager.snapshot call)).enforceCap call.plan.pipeline.id).matching
        pipelineId =
      ((created ++ [manager.snapshot call]).filter fun checkpoint =>
        checkpoint.pipelineId = pipelineId).rtake cap.toNat := by
  have numbered := numbered_stored before.numbered (rfl : (manager.snapshot call).id = _)
  have joined := matching_stored before.numbered (rfl : (manager.snapshot call).id = _) pipelineId
  rw [before.window pipelineId] at joined
  dsimp only at joined
  rw [List.filter_append]
  by_cases own : call.plan.pipeline.id = pipelineId
  · have here : ([manager.snapshot call].filter fun checkpoint =>
        checkpoint.pipelineId = pipelineId) = [manager.snapshot call] :=
      List.filter_cons_of_pos (decide_eq_true own)
    rw [here] at joined
    have windowOrdered : ((manager.stored (manager.snapshot call)).matching pipelineId).Pairwise
        fun left right => left.createdAt ≤ right.createdAt := by
      rw [joined]
      apply List.Pairwise.sublist _ (created_ordered (traced_built before builds) ordered)
      exact ((rtake_sublist _ _).trans List.filter_sublist).append (List.Sublist.refl _)
    have kept := enforce_cap_own numbered (before.capped.symm ▸ positive) windowOrdered
    have sameCap : (manager.stored (manager.snapshot call)).config.maxCheckpointsPerPipeline =
        cap := before.capped
    rw [joined, sameCap, rtake_concat] at kept
    rw [own, kept, here]
  · have elsewhere : ([manager.snapshot call].filter fun checkpoint =>
        checkpoint.pipelineId = pipelineId) = [] :=
      List.filter_cons_of_neg (fun same => own (of_decide_eq_true same))
    rw [elsewhere, List.append_nil] at joined ⊢
    rw [enforce_cap_other numbered (Ne.symm own), joined]

theorem windowed_built {manager : CheckpointManager} {created : List Checkpoint}
    (before : Windowed cap calls (manager, created)) (positive : 1 ≤ cap) {call : CreateCall}
    (builds : call.fault ≠ .build)
    (ordered : (calls ++ [call]).Pairwise fun left right => left.now ≤ right.now) :
    Windowed cap (calls ++ [call])
      (((manager.stored (manager.snapshot call)).enforceCap call.plan.pipeline.id).persist
        (manager.snapshot call) call.fault, created ++ [manager.snapshot call]) := by
  have numbered := numbered_stored before.numbered (rfl : (manager.snapshot call).id = _)
  obtain ⟨_, config, next⟩ := persist_table
    ((manager.stored (manager.snapshot call)).enforceCap call.plan.pipeline.id)
    (manager.snapshot call) call.fault
  constructor
  · dsimp only
    rw [config]
    exact before.capped
  · exact numbered_persist (numbered_enforce_cap numbered _) _ _
  · exact traced_built before builds
  · rw [List.map_append, List.nodup_append]
    refine ⟨before.distinct, List.nodup_singleton _, ?_⟩
    intro old oldMember new newMember same
    obtain ⟨checkpoint, listed, rfl⟩ := List.mem_map.mp oldMember
    rw [List.mem_singleton.mp newMember] at same
    exact absurd same (Nat.ne_of_lt (before.given checkpoint listed))
  · intro checkpoint member
    dsimp only
    rw [next]
    rcases List.mem_append.mp member with old | new
    · exact Nat.lt_succ_of_lt (before.given checkpoint old)
    · rw [List.mem_singleton.mp new]
      exact Nat.lt_succ_self _
  · intro pipelineId
    rw [matching_persist]
    exact window_built before positive builds ordered pipelineId

theorem windowed_all (config : CheckpointConfig)
    (memory : Option (OrderedDict CheckpointId Checkpoint))
    (positive : 1 ≤ config.maxCheckpointsPerPipeline) (calls : List CreateCall)
    (ordered : calls.Pairwise fun left right => left.now ≤ right.now) :
    Windowed config.maxCheckpointsPerPipeline calls
      (createAll { config := config, memory := memory } calls) := by
  induction calls using List.reverseRecOn with
  | nil => exact windowed_start config memory
  | append_singleton calls call ih =>
    have before := ih (ordered.sublist (List.sublist_append_left _ _))
    rw [createAll, List.foldl_append, ← createAll, List.foldl_cons, List.foldl_nil]
    by_cases fails : call.fault = .build
    · rw [create_failed _ fails]
      simp only [Option.toList_none, List.append_nil]
      exact windowed_failed before fails
    · rw [create_built _ fails]
      exact windowed_built before positive fails ordered

theorem traced_window (windowed : Windowed cap calls reached) (pipelineId : String) :
    (reached.1.matching pipelineId).map Checkpoint.trace =
      ((creatingCalls calls pipelineId).rtake cap.toNat).map CreateCall.trace := by
  have traced : (reached.2.filter fun checkpoint => checkpoint.pipelineId = pipelineId).map
      Checkpoint.trace = (creatingCalls calls pipelineId).map CreateCall.trace := by
    have parts := congrArg (List.filter fun trace : CheckpointTrace => trace.1 = pipelineId)
      windowed.traced
    rw [List.filter_map, List.filter_map] at parts
    exact parts
  rw [windowed.window, map_rtake, map_rtake, traced]

theorem matching_nodup (windowed : Windowed cap calls reached) (pipelineId : String) :
    (reached.1.matching pipelineId).Nodup :=
  List.Nodup.of_map _
    ((ids_nodup windowed.numbered).sublist (List.filter_sublist.map Checkpoint.id))

/-- `sortKey` from what it sees of a checkpoint. -/
def traceKey (trace : CheckpointTrace) : Time ×ₗ (Nat ×ₗ Nat) :=
  toLex (trace.2.1, toLex trace.2.2)

theorem latest_last_iff (windowed : Windowed cap calls reached) (pipelineId : String) :
    reached.1.latest pipelineId = (reached.1.matching pipelineId).getLast? ↔
      ∀ early last, (creatingCalls calls pipelineId).rtake cap.toNat = early ++ [last] →
        ∀ call ∈ early, traceKey call.trace < traceKey last.trace := by
  rw [latest, first_max_eq_last_iff sortKey (matching_nodup windowed pipelineId)]
  exact (last_exceeds_map_iff Checkpoint.trace
    (fun left right => traceKey left < traceKey right) _).symm.trans
      ((traced_window windowed pipelineId) ▸ last_exceeds_map_iff CreateCall.trace
        (fun left right => traceKey left < traceKey right) _)

theorem trace_key_lt_iff {call last : CreateCall} (before : call.now ≤ last.now) :
    traceKey call.trace < traceKey last.trace ↔ (call.now = last.now →
        toLex (call.stageIndex, call.taskIndex) < toLex (last.stageIndex, last.taskIndex)) := by
  rw [traceKey, traceKey, Prod.Lex.toLex_lt_toLex]
  constructor
  · intro less same
    cases less with
    | inl earlier => exact absurd same (ne_of_lt earlier)
    | inr indices => exact indices.2
  · intro indices
    cases lt_or_eq_of_le before with
    | inl earlier => exact Or.inl earlier
    | inr same => exact Or.inr ⟨same, indices same⟩

end

/-- A capped manager whose clock does not go back keeps the most recent
checkpoints, and gives out the last one exactly if the indices rise. -/
theorem keeps_recent_iff (config : CheckpointConfig)
    (memory : Option (OrderedDict CheckpointId Checkpoint))
    (positive : 1 ≤ config.maxCheckpointsPerPipeline) (calls : List CreateCall)
    (ordered : calls.Pairwise fun left right => left.now ≤ right.now) :
    let reached := createAll { config := config, memory := memory } calls
    reached.1.KeepsRecent reached.2 config.maxCheckpointsPerPipeline.toNat ↔
      IndicesRise calls config.maxCheckpointsPerPipeline.toNat := by
  intro reached
  have windowed : Windowed config.maxCheckpointsPerPipeline calls reached :=
    windowed_all config memory positive calls ordered
  have someKept : 1 ≤ config.maxCheckpointsPerPipeline.toNat := by omega
  apply forall_congr'
  intro pipelineId
  rw [← getLast_rtake _ someKept, ← windowed.window, and_iff_right rfl, latest_last_iff windowed]
  apply forall_congr'
  intro early
  apply forall_congr'
  intro last
  apply forall_congr'
  intro split
  apply forall_congr'
  intro call
  apply forall_congr'
  intro member
  apply trace_key_lt_iff
  have inOrder : (early ++ [last]).Pairwise fun left right => left.now ≤ right.now := by
    rw [← split]
    apply List.Pairwise.sublist _ ordered
    exact (rtake_sublist _ _).trans (List.filter_sublist.trans List.filter_sublist)
  exact (List.pairwise_append.mp inOrder).2.2 call member last (List.mem_singleton_self last)

/-- A manager of one checkpoint per pipeline keeps and gives out the last one,
also at one moment. -/
theorem keeps_recent_single :
    let call (taskIndex : Nat) : CreateCall :=
      { plan := { id := "plan", pipeline := { id := "nightly" } }
        state := { pipelineId := "nightly", planId := "plan" }
        stageIndex := 0
        taskIndex := taskIndex
        now := 0
        fault := .none }
    let reached := createAll { config := { maxCheckpointsPerPipeline := 1 } } [call 1, call 0]
    reached.1.KeepsRecent reached.2 1 := by
  intro call reached
  apply (keeps_recent_iff { maxCheckpointsPerPipeline := 1 } none (le_refl _) [call 1, call 0]
    (by simp [call])).mpr
  intro pipelineId early last split other member
  have short := length_rtake_le (creatingCalls [call 1, call 0] pipelineId) 1
  change (creatingCalls [call 1, call 0] pipelineId).rtake 1 = early ++ [last] at split
  rw [split, List.length_append, List.length_singleton] at short
  rw [List.eq_nil_of_length_eq_zero (by omega : early.length = 0)] at member
  cases member

/-- The second checkpoint of one moment, of an earlier task, is not given out. -/
theorem earlier_task_hidden :
    let call (taskIndex : Nat) : CreateCall :=
      { plan := { id := "plan", pipeline := { id := "nightly" } }
        state := { pipelineId := "nightly", planId := "plan" }
        stageIndex := 0
        taskIndex := taskIndex
        now := 0
        fault := .none }
    let reached := createAll {} [call 1, call 0]
    reached.2.map Checkpoint.id = [0, 1] ∧ (reached.1.latest "nightly").map Checkpoint.id = some 0 ∧
      ¬ reached.1.KeepsRecent reached.2 10 := by
  intro call reached
  have found : (reached.1.latest "nightly").map Checkpoint.id = some 0 := by decide +kernel
  refine ⟨by decide +kernel, found, ?_⟩
  intro keeps
  have last : ((reached.2.filter fun checkpoint =>
      checkpoint.pipelineId = "nightly").getLast?).map Checkpoint.id = some 1 := by
    decide +kernel
  rw [(keeps "nightly").2, last] at found
  cases found

end CheckpointManager

end AiEnterpriseOs.Orchestration
