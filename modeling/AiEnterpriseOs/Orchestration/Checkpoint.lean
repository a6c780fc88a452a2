import AiEnterpriseOs.Orchestration.Models
import AiEnterpriseOs.Library.Ranking

/-!
# Checkpoint management for pipeline recovery

Checkpoints are kept in an insertion-ordered table, capped per pipeline, and
optionally mirrored to the memory engine, from which `restore` can read them
back by id.
-/

namespace AiEnterpriseOs.Orchestration

open Library

structure CheckpointConfig where
  enabled : Bool := true
  autoCheckpointOnTaskCompleted : Bool := true
  autoCheckpointOnStageCompleted : Bool := true
  intervalTasks : Int := 1
  persistToMemory : Bool := true
  maxCheckpointsPerPipeline : Int := 10
  deriving DecidableEq

/-- Failures that `create` can meet: the snapshot itself, which raises, or
its mirror in the memory engine, which is logged and ignored. -/
inductive CheckpointFault where
  | none
  | build
  | persist
  deriving DecidableEq, Repr

/-- `memory` holds the mirrored checkpoint entries of the memory engine, when
there is one. -/
structure CheckpointManager where
  config : CheckpointConfig := {}
  memory : Option (OrderedDict CheckpointId Checkpoint) := none
  checkpoints : OrderedDict CheckpointId Checkpoint := OrderedDict.empty
  nextId : CheckpointId := 0

/-- Deterministic ordering: created_at, then stage/task index. -/
def sortKey (checkpoint : Checkpoint) : Time ×ₗ (Nat ×ₗ Nat) :=
  toLex (checkpoint.createdAt, toLex (checkpoint.stageIndex, checkpoint.taskIndex))

namespace CheckpointManager

def matching (manager : CheckpointManager) (pipelineId : String) :
    List Checkpoint :=
  manager.checkpoints.values.filter fun checkpoint =>
    checkpoint.pipelineId = pipelineId

/-- Checkpoints dropped by the cap: the oldest ones beyond it. -/
def overCap (manager : CheckpointManager) (pipelineId : String) :
    List Checkpoint :=
  let cap := manager.config.maxCheckpointsPerPipeline
  let found := manager.matching pipelineId
  if cap ≤ 0 then []
  else if cap < found.length then
    (found.insertionSort fun left right =>
      left.createdAt ≤ right.createdAt).take (found.length - cap.toNat)
  else []

def enforceCap (manager : CheckpointManager) (pipelineId : String) :
    CheckpointManager :=
  { manager with
    checkpoints := (manager.overCap pipelineId).foldl
      (fun table old => table.erase old.id) manager.checkpoints }

def persist (manager : CheckpointManager) (checkpoint : Checkpoint)
    (fault : CheckpointFault) : CheckpointManager :=
  match manager.memory with
  | none => manager
  | some entries =>
    if manager.config.persistToMemory ∧ fault ≠ .persist then
      { manager with memory := some (entries.set checkpoint.id checkpoint) }
    else manager

/-- Snapshot the current execution state; `none` when building it raises. -/
def create (manager : CheckpointManager) (plan : OrchestrationPlan)
    (state : ExecutionState) (stageIndex taskIndex : Nat) (now : Time)
    (fault : CheckpointFault) : CheckpointManager × Option Checkpoint :=
  if fault = .build then
    ({ manager with nextId := manager.nextId + 1 }, none)
  else
    let checkpoint : Checkpoint :=
      { id := manager.nextId
        pipelineId := plan.pipeline.id
        planId := plan.id
        state := state
        stageIndex := stageIndex
        taskIndex := taskIndex
        createdAt := now }
    let stored : CheckpointManager :=
      { manager with
        nextId := manager.nextId + 1
        checkpoints := manager.checkpoints.set checkpoint.id checkpoint }
    ((stored.enforceCap plan.pipeline.id).persist checkpoint fault, some checkpoint)

/-- A checkpoint by id; one read back from memory is kept in the table. -/
def restore (manager : CheckpointManager) (checkpointId : CheckpointId) :
    CheckpointManager × Option Checkpoint :=
  match manager.checkpoints.get? checkpointId with
  | some checkpoint => (manager, some checkpoint)
  | none =>
    match manager.memory.bind fun entries => entries.get? checkpointId with
    | some restored =>
      ({ manager with
         checkpoints := manager.checkpoints.set restored.id restored },
        some restored)
    | none => (manager, none)

/-- The most recent checkpoint of a pipeline. -/
def latest (manager : CheckpointManager) (pipelineId : String) :
    Option Checkpoint :=
  firstMax sortKey (manager.matching pipelineId)

/-- The table holds the checkpoint, or the memory mirror does. -/
def Holds (manager : CheckpointManager) (checkpoint : Checkpoint) : Prop :=
  checkpoint ∈ manager.checkpoints.values ∨
    ∃ entries, manager.memory = some entries ∧ checkpoint ∈ entries.values

theorem mem_matching (manager : CheckpointManager) (pipelineId : String) (checkpoint : Checkpoint) :
    checkpoint ∈ manager.matching pipelineId ↔ checkpoint ∈ manager.checkpoints.values ∧
        checkpoint.pipelineId = pipelineId := by
  simp [matching]

theorem latest_held {manager : CheckpointManager} {pipelineId : String} {checkpoint : Checkpoint}
    (found : manager.latest pipelineId = some checkpoint) :
    checkpoint ∈ manager.checkpoints.values ∧ checkpoint.pipelineId = pipelineId :=
  (mem_matching manager pipelineId checkpoint).mp (first_max_mem sortKey found)

theorem mem_values_erase_all {table : OrderedDict CheckpointId Checkpoint}
    {dropped : List Checkpoint} {checkpoint : Checkpoint}
    (member : checkpoint ∈ (dropped.foldl (fun table old => table.erase old.id) table).values) :
    checkpoint ∈ table.values := by
  induction dropped generalizing table with
  | nil => exact member
  | cons old rest ih => exact OrderedDict.mem_values_erase (ih member)

theorem holds_enforce_cap {manager : CheckpointManager} {pipelineId : String}
    {checkpoint : Checkpoint}
    (held : (manager.enforceCap pipelineId).Holds checkpoint) :
    manager.Holds checkpoint := by
  rcases held with table | mirror
  · exact Or.inl (mem_values_erase_all table)
  · exact Or.inr mirror

theorem holds_persist {manager : CheckpointManager}
    {mirrored checkpoint : Checkpoint} {fault : CheckpointFault}
    (held : (manager.persist mirrored fault).Holds checkpoint) :
    checkpoint = mirrored ∨ manager.Holds checkpoint := by
  unfold persist at held
  split at held
  · exact Or.inr held
  next entries present =>
    split at held
    · rcases held with table | ⟨extended, found, member⟩
      · exact Or.inr (Or.inl table)
      · cases found
        rcases OrderedDict.mem_values_set member with same | old
        · exact Or.inl same
        · exact Or.inr (Or.inr ⟨entries, present, old⟩)
    · exact Or.inr held

theorem holds_create {manager : CheckpointManager} {plan : OrchestrationPlan}
    {state : ExecutionState} {stageIndex taskIndex : Nat} {now : Time}
    {fault : CheckpointFault} {checkpoint : Checkpoint}
    (held : (manager.create plan state stageIndex taskIndex now fault).1.Holds checkpoint) :
    (manager.create plan state stageIndex taskIndex now fault).2 =
        some checkpoint ∨ manager.Holds checkpoint := by
  by_cases build : fault = .build
  · subst build
    exact Or.inr held
  · simp only [create, if_neg build] at held ⊢
    rcases holds_persist held with same | capped
    · exact Or.inl (congrArg some same.symm)
    · rcases holds_enforce_cap capped with table | mirror
      · rcases OrderedDict.mem_values_set table with same | old
        · exact Or.inl (congrArg some same.symm)
        · exact Or.inr (Or.inl old)
      · exact Or.inr (Or.inr mirror)

theorem create_snapshot {manager stored : CheckpointManager}
    {plan : OrchestrationPlan} {state : ExecutionState}
    {stageIndex taskIndex : Nat} {now : Time} {fault : CheckpointFault}
    {checkpoint : Checkpoint}
    (created : manager.create plan state stageIndex taskIndex now fault =
      (stored, some checkpoint)) :
    checkpoint =
      { id := manager.nextId
        pipelineId := plan.pipeline.id
        planId := plan.id
        state := state
        stageIndex := stageIndex
        taskIndex := taskIndex
        createdAt := now } := by
  unfold create at created
  split at created
  · cases created
  · cases created
    rfl

theorem holds_restore {manager : CheckpointManager}
    {checkpointId : CheckpointId} {checkpoint : Checkpoint}
    (held : (manager.restore checkpointId).1.Holds checkpoint) :
    manager.Holds checkpoint := by
  unfold restore at held
  split at held
  · exact held
  · split at held
    next restored found =>
      rcases held with table | mirror
      · rcases OrderedDict.mem_values_set table with same | old
        · obtain ⟨entries, present, stored⟩ := Option.bind_eq_some_iff.mp found
          rw [same]
          exact Or.inr ⟨entries, present,
            (OrderedDict.mem_values_iff _ _).mpr ⟨checkpointId, stored⟩⟩
        · exact Or.inl old
      · exact Or.inr mirror
    · exact held

theorem restore_held {manager : CheckpointManager}
    {checkpointId : CheckpointId} {checkpoint : Checkpoint}
    (found : (manager.restore checkpointId).2 = some checkpoint) :
    manager.Holds checkpoint := by
  unfold restore at found
  split at found
  next stored present =>
    cases found
    exact Or.inl ((OrderedDict.mem_values_iff _ _).mpr ⟨checkpointId, present⟩)
  · split at found
    next restored mirrored =>
      cases found
      obtain ⟨entries, present, stored⟩ := Option.bind_eq_some_iff.mp mirrored
      exact Or.inr ⟨entries, present, (OrderedDict.mem_values_iff _ _).mpr ⟨checkpointId, stored⟩⟩
    · cases found

theorem restored_holds {manager : CheckpointManager}
    {checkpointId : CheckpointId} {checkpoint : Checkpoint}
    (found : (manager.restore checkpointId).2 = some checkpoint) :
    (manager.restore checkpointId).1.Holds checkpoint := by
  unfold restore at found ⊢
  split at found
  next stored present =>
    cases found
    exact Or.inl ((OrderedDict.mem_values_iff _ _).mpr ⟨checkpointId, present⟩)
  · split at found
    next restored mirrored =>
      cases found
      exact Or.inl ((OrderedDict.mem_values_iff _ _).mpr
        ⟨checkpoint.id, OrderedDict.get_set_self _ _ _⟩)
    · cases found

end CheckpointManager

end AiEnterpriseOs.Orchestration
