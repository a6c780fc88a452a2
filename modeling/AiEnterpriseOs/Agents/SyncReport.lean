import AiEnterpriseOs.Agents.SyncRuns

/-!
# What a sync run reports

A slug is recorded once, for the first of its entries that gets so far. A write
that fails is an error and records nothing.
-/

namespace AiEnterpriseOs.Agents

open Library

def AgentSyncResult.of (result : AgentSyncResult) : SyncAction → List String
  | .create => result.created
  | .update => result.updated
  | .skip => result.skipped
  | .conflict => result.conflicts

section Recorded

variable (failures : WriteFailures)

/-- The entry gets as far as `record`. -/
def AgentPlanEntry.recorded (entry : AgentPlanEntry) : Bool :=
  !entry.writes || (failures entry.target.path).isNone

def firstRecorded (entries : List AgentPlanEntry) (slug : String) : Option AgentPlanEntry :=
  entries.find? fun entry => entry.recorded failures && entry.target.slug = slug

/-- Conflicts are reported as such, and what was written as created or updated. -/
structure Reported (entries : List AgentPlanEntry) (result : AgentSyncResult) : Prop where
  conflicts : ∀ entry ∈ entries, entry.action = .conflict → entry.target.slug ∈ result.conflicts
  written : ∀ entry ∈ entries, entry.writes = true → failures entry.target.path = none →
    entry.target.slug ∈ result.created ∨ entry.target.slug ∈ result.updated

/-- The first recorded entry of a slug speaks for its conflicts and its writes. -/
def FirstSpeaks (entries : List AgentPlanEntry) : Prop :=
  ∀ entry ∈ entries, entry.recorded failures = true →
    ∀ first, firstRecorded failures entries entry.target.slug = some first →
      (entry.action = .conflict → first.action = .conflict) ∧
        (entry.writes = true → first.writes = true)

variable {failures}

theorem mem_add_iff (result : AgentSyncResult) (added action : SyncAction) (slug other : String) :
    other ∈ (result.add added slug).of action ↔
      other ∈ result.of action ∨ (action = added ∧ other = slug) := by
  cases added <;> cases action <;> simp [AgentSyncResult.add, AgentSyncResult.of]

theorem record_lists (run : SyncRun) (action : SyncAction) (slug : String) :
    (∀ other, other ∈ (run.record action slug).seen ↔ other ∈ run.seen ∨ other = slug) ∧
      ∀ listed other, other ∈ (run.record action slug).result.of listed ↔
        other ∈ run.result.of listed ∨ (slug ∉ run.seen ∧ listed = action ∧ other = slug) := by
  unfold SyncRun.record
  split
  next known =>
    constructor
    · intro other
      constructor
      · exact Or.inl
      · rintro (seen | same)
        · exact seen
        · rw [same]
          exact known
    · intro listed other
      simp [known]
  next fresh =>
    constructor
    · simp
    · intro listed other
      simp [fresh, mem_add_iff]

theorem perform_lists (run : SyncRun) (entry : AgentPlanEntry) : (run.perform failures entry).seen =
        (if entry.recorded failures then (run.record entry.action entry.target.slug).seen
        else run.seen) ∧
      ∀ action, (run.perform failures entry).result.of action =
        if entry.recorded failures then
          (run.record entry.action entry.target.slug).result.of action
        else run.result.of action := by
  have moved : ∀ (files : Files) (action : SyncAction) (slug : String),
      ({ run with files := files }.record action slug).seen = (run.record action slug).seen ∧
        ({ run with files := files }.record action slug).result =
          (run.record action slug).result := by
    intro files action slug
    unfold SyncRun.record
    split
    next known => exact ⟨rfl, rfl⟩
    next fresh => exact ⟨rfl, rfl⟩
  cases acts : entry.action with
  | skip => simp [SyncRun.perform, AgentPlanEntry.recorded, AgentPlanEntry.writes, acts]
  | conflict => simp [SyncRun.perform, AgentPlanEntry.recorded, AgentPlanEntry.writes, acts]
  | create =>
    cases fails : failures entry.target.path with
    | none =>
      simp [SyncRun.perform, AgentPlanEntry.recorded, AgentPlanEntry.writes, acts, fails, moved]
    | some failure =>
      refine ⟨?_, fun action => ?_⟩
      · simp [SyncRun.perform, AgentPlanEntry.recorded, AgentPlanEntry.writes, acts, fails]
      · cases action <;>
          simp [SyncRun.perform, AgentPlanEntry.recorded, AgentPlanEntry.writes, acts,
            fails, AgentSyncResult.of]
  | update =>
    cases fails : failures entry.target.path with
    | none =>
      simp [SyncRun.perform, AgentPlanEntry.recorded, AgentPlanEntry.writes, acts, fails, moved]
    | some failure =>
      refine ⟨?_, fun action => ?_⟩
      · simp [SyncRun.perform, AgentPlanEntry.recorded, AgentPlanEntry.writes, acts, fails]
      · cases action <;>
          simp [SyncRun.perform, AgentPlanEntry.recorded, AgentPlanEntry.writes, acts,
            fails, AgentSyncResult.of]

theorem first_recorded_concat (entries : List AgentPlanEntry) (entry : AgentPlanEntry)
    (slug : String) :
    firstRecorded failures (entries ++ [entry]) slug = (firstRecorded failures entries slug).or
        (if entry.recorded failures = true ∧ entry.target.slug = slug then some entry
        else none) := by
  rw [firstRecorded, List.find?_append, List.find?_singleton]
  by_cases here : entry.recorded failures = true ∧ entry.target.slug = slug
  · rw [if_pos here, here.1, here.2]
    simp [firstRecorded]
  · rw [if_neg here]
    simp only [Bool.and_eq_true, decide_eq_true_eq]
    rw [if_neg here]
    rfl

theorem perform_all_lists (files : Files) (entries : List AgentPlanEntry) (slug : String) :
    (slug ∈ (performAll failures (SyncRun.start files) entries).seen ↔
        (firstRecorded failures entries slug).isSome = true) ∧
      ∀ action, slug ∈ (performAll failures (SyncRun.start files) entries).result.of action ↔
        ∃ first, firstRecorded failures entries slug = some first ∧ first.action = action := by
  induction entries using List.reverseRecOn with
  | nil =>
    constructor
    · simp [performAll, SyncRun.start, firstRecorded]
    · intro action
      cases action <;> simp [performAll, SyncRun.start, firstRecorded, AgentSyncResult.of]
  | append_singleton entries entry ih =>
    obtain ⟨seen, lists⟩ := ih
    have performed : performAll failures (SyncRun.start files) (entries ++ [entry]) =
        (performAll failures (SyncRun.start files) entries).perform failures entry := by
      rw [performAll, run_inputs_append]
      rfl
    obtain ⟨nextSeen, nextLists⟩ := perform_lists
      (performAll failures (SyncRun.start files) entries) entry
    rw [performed, nextSeen, first_recorded_concat]
    by_cases recorded : entry.recorded failures = true
    · obtain ⟨recordSeen, recordLists⟩ := record_lists
        (performAll failures (SyncRun.start files) entries) entry.action entry.target.slug
      simp only [nextLists, recorded, if_true, recordSeen, recordLists, lists]
      by_cases here : entry.target.slug = slug
      · rw [here, seen]
        cases earlier : firstRecorded failures entries slug with
        | none => simp [eq_comm]
        | some first => simp
      · simp [here, Ne.symm here, seen]
    · simp only [nextLists, recorded, Bool.false_eq_true, if_false, false_and, seen, lists,
        Option.or_none, implies_true, and_self]

theorem reported_iff (files : Files) (entries : List AgentPlanEntry) :
    Reported failures entries (performAll failures (SyncRun.start files) entries).result ↔
      FirstSpeaks failures entries := by
  have lists : ∀ slug action,
      slug ∈ (performAll failures (SyncRun.start files) entries).result.of action ↔
        ∃ first, firstRecorded failures entries slug = some first ∧ first.action = action :=
    fun slug => (perform_all_lists files entries slug).2
  have written : ∀ slug,
      (slug ∈ (performAll failures (SyncRun.start files) entries).result.created ∨
        slug ∈ (performAll failures (SyncRun.start files) entries).result.updated) ↔
        ∃ first, firstRecorded failures entries slug = some first ∧ first.writes = true := by
    intro slug
    refine (or_congr (lists slug .create) (lists slug .update)).trans ?_
    rw [← exists_or]
    simp only [AgentPlanEntry.writes, Bool.or_eq_true, decide_eq_true_eq, and_or_left]
  have conflicts : ∀ slug,
      slug ∈ (performAll failures (SyncRun.start files) entries).result.conflicts ↔
        ∃ first, firstRecorded failures entries slug = some first ∧
          first.action = .conflict := fun slug => lists slug .conflict
  constructor
  · intro reported entry listed recorded first found
    constructor
    · intro conflict
      obtain ⟨other, same, action⟩ :=
        (conflicts _).mp (reported.conflicts entry listed conflict)
      rw [found] at same
      rw [Option.some.inj same]
      exact action
    · intro writes
      have succeeded : failures entry.target.path = none := by
        simpa [AgentPlanEntry.recorded, writes] using recorded
      obtain ⟨other, same, wrote⟩ :=
        (written _).mp (reported.written entry listed writes succeeded)
      rw [found] at same
      rw [Option.some.inj same]
      exact wrote
  · intro speaks
    have some_first : ∀ entry ∈ entries, entry.recorded failures = true →
        ∃ first, firstRecorded failures entries entry.target.slug = some first := by
      intro entry listed recorded
      rw [← Option.isSome_iff_exists, firstRecorded, List.find?_isSome]
      exact ⟨entry, listed, by simp [recorded]⟩
    constructor
    · intro entry listed conflict
      have recorded : entry.recorded failures = true := by
        simp [AgentPlanEntry.recorded, AgentPlanEntry.writes, conflict]
      obtain ⟨first, found⟩ := some_first entry listed recorded
      exact (conflicts _).mpr ⟨first, found, (speaks entry listed recorded first found).1 conflict⟩
    · intro entry listed writes succeeded
      have recorded : entry.recorded failures = true := by
        simp [AgentPlanEntry.recorded, succeeded]
      obtain ⟨first, found⟩ := some_first entry listed recorded
      exact (written _).mpr ⟨first, found, (speaks entry listed recorded first found).2 writes⟩

/-- A run reports its plan exactly if in the plan the first recorded entry of every slug
speaks for the others. -/
theorem run_reports_iff (text : PyText) (template : Template) (globalAgentsDir : String)
    (config : AgentSyncConfig) (reg : CompanyRegistry) (failures : WriteFailures)
    (files : Files) :
    (∀ entries run, syncPlan text template globalAgentsDir config reg files = some entries →
        agentSync failures text template globalAgentsDir config reg files = some run →
        Reported failures entries run.result) ↔
      ∀ entries, syncPlan text template globalAgentsDir config reg files = some entries →
        FirstSpeaks failures entries := by
  constructor
  · intro reports entries planned
    apply (reported_iff files entries).mp
    apply reports entries _ planned
    rw [agentSync, planned]
    rfl
  · intro speaks entries run planned ran
    rw [agentSync, planned] at ran
    rw [← Option.some.inj ran]
    exact (reported_iff files entries).mpr (speaks entries planned)

def bothScopes : AgentSyncConfig :=
  { force := false, includeDepartments := false, scope := .both, outputDir := none }

def ceoTarget (dir : String) : SyncTarget :=
  { returningTarget with path := dir ++ "/ceo.md" }

/-- The file is created in one directory and in conflict in the other: only the first
entry is reported. -/
theorem second_conflict_hidden : ∃ entries run,
      syncPlan .ascii plainTemplate "home" bothScopes returning
          (fun path => if path = "home/ceo.md" then .file (.text ['x']) else .absent) =
        some entries ∧
      entries.map AgentPlanEntry.action = [.create, .conflict] ∧
      agentSync (fun _ => none) .ascii plainTemplate "home" bothScopes returning
          (fun path => if path = "home/ceo.md" then .file (.text ['x']) else .absent) =
        some run ∧
      run.result.created = ["ceo"] ∧ run.result.conflicts = [] ∧
      ¬Reported (fun _ => none) entries run.result := by
  have targets : syncTargets .ascii plainTemplate "home" bothScopes returning =
      some [ceoTarget ".opencode/agents", ceoTarget "home"] := by decide +kernel
  have planned : syncPlan .ascii plainTemplate "home" bothScopes returning
      (fun path => if path = "home/ceo.md" then .file (.text ['x']) else .absent) =
      some [{ target := ceoTarget ".opencode/agents", action := .create },
        { target := ceoTarget "home", action := .conflict }] :=
    sync_plan_iff.mpr ⟨rfl, _, targets, by decide +kernel⟩
  refine ⟨_, performAll (fun _ => none)
    (SyncRun.start fun path => if path = "home/ceo.md" then .file (.text ['x']) else .absent)
    [{ target := ceoTarget ".opencode/agents", action := .create },
      { target := ceoTarget "home", action := .conflict }],
    planned, rfl, ?_, rfl, rfl, ?_⟩
  · rw [agentSync, planned]
    rfl
  · intro reported
    have listed := reported.conflicts { target := ceoTarget "home", action := .conflict }
      (by simp) rfl
    cases listed

end Recorded

end AiEnterpriseOs.Agents
