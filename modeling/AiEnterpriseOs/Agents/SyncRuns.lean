import AiEnterpriseOs.Agents.Sync
import AiEnterpriseOs.Library.TextLines
import Mathlib.Logic.Function.Basic

/-!
# Runs of the agent sync

A plan compares the text of each file with what it is to hold, and a run writes what the
plan says. A file is read back with its line ends translated.
-/

namespace AiEnterpriseOs.Agents

open Library

inductive SyncScope where
  | project
  | global
  | both
  deriving DecidableEq

structure AgentSyncConfig where
  force : Bool
  includeDepartments : Bool
  scope : SyncScope
  outputDir : Option String

def projectAgentsDir : String := ".opencode/agents"

/-- `output_dirs`, with the directory of the user. -/
def AgentSyncConfig.outputDirs (config : AgentSyncConfig) (globalAgentsDir : String) :
    List String :=
  match config.outputDir with
  | some dir => [dir]
  | none =>
    match config.scope with
    | .project => [projectAgentsDir]
    | .global => [globalAgentsDir]
    | .both => [projectAgentsDir, globalAgentsDir]

inductive SyncAction where
  | create
  | update
  | skip
  | conflict
  deriving DecidableEq

/-- A file that the registry asks for. -/
structure SyncTarget where
  slug : String
  name : String
  title : String
  path : String
  content : List Char
  deriving DecidableEq

structure AgentPlanEntry where
  target : SyncTarget
  action : SyncAction
  deriving DecidableEq

structure AgentSyncResult where
  created : List String
  updated : List String
  skipped : List String
  conflicts : List String
  errors : List String

/-- A run with the slugs it has recorded. -/
structure SyncRun where
  files : Files
  seen : List String
  result : AgentSyncResult

/-- The template with the company's name filled in, as the template engine does it. -/
abbrev Template : Type := AgentRenderContext → String → List Char

/-- Whether a write raises: the text of the error and what it leaves at the path. -/
abbrev WriteFailures : Type := String → Option (String × FileState)

section Planning

variable (text : PyText) (template : Template) (globalAgentsDir : String)
  (config : AgentSyncConfig) (reg : CompanyRegistry)

def renderAgentMarkdown (context : AgentRenderContext) (companyName : String) : List Char :=
  (template context companyName).rdropWhile TextLines.isSpace ++ ['\n']

def companyName : String := textOr reg.companyName (textOr (some reg.visionName) "the company")

/-- The files that the registry asks for; `none` where its personas are refused. -/
def syncTargets : Option (List SyncTarget) :=
  (reg.renderContexts text).map fun contexts =>
    contexts.flatMap fun context =>
      (config.outputDirs globalAgentsDir).map fun dir =>
        { slug := context.slug
          name := context.name
          title := context.title
          path := dir ++ "/" ++ context.slug ++ ".md"
          content := renderAgentMarkdown template context (companyName reg) }

/-- `_action_for`; `none` where reading the file raises something else than `OSError`. -/
def actionFor (force : Bool) (state : FileState) (content : List Char) : Option SyncAction :=
  match state with
  | .absent => some .create
  | .unreadable => some .conflict
  | .file held =>
    held.readText.map fun existing =>
      if existing = content then .skip else if force then .update else .conflict

def planEntry (force : Bool) (files : Files) (target : SyncTarget) : Option AgentPlanEntry :=
  (actionFor force (files target.path) target.content).map fun action =>
    { target := target, action := action }

/-- `plan`; `none` where it raises. -/
def syncPlan (files : Files) : Option (List AgentPlanEntry) :=
  if config.includeDepartments then none
  else
    (syncTargets text template globalAgentsDir config reg).bind fun targets =>
      targets.mapM (planEntry config.force files)

end Planning

section Running

variable (failures : WriteFailures)

def AgentSyncResult.add (result : AgentSyncResult) (action : SyncAction) (slug : String) :
    AgentSyncResult :=
  match action with
  | .create => { result with created := result.created ++ [slug] }
  | .update => { result with updated := result.updated ++ [slug] }
  | .skip => { result with skipped := result.skipped ++ [slug] }
  | .conflict => { result with conflicts := result.conflicts ++ [slug] }

def SyncRun.record (run : SyncRun) (action : SyncAction) (slug : String) : SyncRun :=
  if slug ∈ run.seen then run
  else { run with seen := run.seen ++ [slug], result := run.result.add action slug }

/-- The round of `run` for an entry. -/
def SyncRun.perform (run : SyncRun) (entry : AgentPlanEntry) : SyncRun :=
  let path := entry.target.path
  match entry.action with
  | .create | .update =>
    match failures path with
    | none =>
      let written := FileState.file (.text entry.target.content)
      { run with files := Function.update run.files path written }.record entry.action
        entry.target.slug
    | some (message, left) =>
      { run with
        files := Function.update run.files path left
        result := { run.result with
          errors := run.result.errors ++ [path ++ ": " ++ message] } }
  | .skip | .conflict => run.record entry.action entry.target.slug

def SyncRun.start (files : Files) : SyncRun :=
  { files := files
    seen := []
    result := { created := [], updated := [], skipped := [], conflicts := [], errors := [] } }

/-- The rounds of `run` for a plan. -/
def performAll (run : SyncRun) (entries : List AgentPlanEntry) : SyncRun :=
  runInputs (SyncRun.perform failures) run entries

/-- `run`; `none` where it raises, before any file is written. -/
def agentSync (text : PyText) (template : Template) (globalAgentsDir : String)
    (config : AgentSyncConfig) (reg : CompanyRegistry) (files : Files) : Option SyncRun :=
  (syncPlan text template globalAgentsDir config reg files).map
    (performAll failures (SyncRun.start files))

end Running

/-! ## Effects of a run -/

section Effects

variable {failures : WriteFailures}

def AgentPlanEntry.writes (entry : AgentPlanEntry) : Bool :=
  entry.action = .create || entry.action = .update

@[simp] theorem record_files (run : SyncRun) (action : SyncAction) (slug : String) :
    (run.record action slug).files = run.files := by
  rw [SyncRun.record]
  split <;> rfl

@[simp] theorem record_errors (run : SyncRun) (action : SyncAction) (slug : String) :
    (run.record action slug).result.errors = run.result.errors := by
  rw [SyncRun.record]
  split
  · rfl
  · cases action <;> rfl

theorem perform_effect (run : SyncRun) (entry : AgentPlanEntry) :
    (run.perform failures entry).files = (if entry.writes then
          Function.update run.files entry.target.path (match failures entry.target.path with
            | none => .file (.text entry.target.content)
            | some failure => failure.2)
        else run.files) ∧
      ((run.perform failures entry).result.errors = [] ↔ run.result.errors = [] ∧
          (entry.writes = true → failures entry.target.path = none)) := by
  cases acts : entry.action with
  | skip => simp [SyncRun.perform, AgentPlanEntry.writes, acts]
  | conflict => simp [SyncRun.perform, AgentPlanEntry.writes, acts]
  | create =>
    cases fails : failures entry.target.path with
    | none => simp [SyncRun.perform, AgentPlanEntry.writes, acts, fails]
    | some failure => simp [SyncRun.perform, AgentPlanEntry.writes, acts, fails]
  | update =>
    cases fails : failures entry.target.path with
    | none => simp [SyncRun.perform, AgentPlanEntry.writes, acts, fails]
    | some failure => simp [SyncRun.perform, AgentPlanEntry.writes, acts, fails]

theorem perform_all_cons (run : SyncRun) (entry : AgentPlanEntry) (rest : List AgentPlanEntry) :
    performAll failures run (entry :: rest) =
      performAll failures (run.perform failures entry) rest := rfl

theorem perform_all_untouched {path : String} (run : SyncRun) (entries : List AgentPlanEntry)
    (untouched : ∀ entry ∈ entries, entry.target.path = path → entry.writes = false) :
    (performAll failures run entries).files path = run.files path := by
  induction entries generalizing run with
  | nil => rfl
  | cons entry rest ih =>
    rw [perform_all_cons, ih _ fun other member =>
      untouched other (List.mem_cons_of_mem _ member), (perform_effect run entry).1]
    by_cases here : entry.target.path = path
    · rw [untouched entry List.mem_cons_self here, if_neg Bool.false_ne_true]
    · split
      · rw [Function.update_of_ne fun same => here same.symm]
      · rfl

theorem perform_all_errors (run : SyncRun) (entries : List AgentPlanEntry) :
    (performAll failures run entries).result.errors = [] ↔ run.result.errors = [] ∧
        ∀ entry ∈ entries, entry.writes = true → failures entry.target.path = none := by
  induction entries generalizing run with
  | nil => simp [performAll]
  | cons entry rest ih =>
    rw [perform_all_cons, ih, (perform_effect run entry).2, List.forall_mem_cons, and_assoc]

/-- Without errors, a path that is asked to hold one text holds it if an entry writes it. -/
theorem perform_all_written {path : String} {content : List Char} (run : SyncRun)
    (entries : List AgentPlanEntry)
    (same : ∀ entry ∈ entries, entry.target.path = path → entry.target.content = content)
    (succeeds : ∀ entry ∈ entries, entry.writes = true → failures entry.target.path = none)
    (written : (∃ entry ∈ entries, entry.target.path = path ∧ entry.writes = true) ∨
      run.files path = .file (.text content)) :
    (performAll failures run entries).files path = .file (.text content) := by
  induction entries generalizing run with
  | nil =>
    rcases written with named | held
    · obtain ⟨_, member, _⟩ := named
      cases member
    · exact held
  | cons entry rest ih =>
    rw [perform_all_cons]
    apply ih
    · exact fun other member => same other (List.mem_cons_of_mem _ member)
    · exact fun other member => succeeds other (List.mem_cons_of_mem _ member)
    · rw [(perform_effect run entry).1]
      by_cases here : entry.target.path = path ∧ entry.writes = true
      · right
        rw [if_pos here.2, here.1, Function.update_self, ← here.1,
          succeeds entry List.mem_cons_self here.2]
        dsimp only
        rw [same entry List.mem_cons_self here.1]
      · rcases written with named | held
        · obtain ⟨other, member, there, writes⟩ := named
          rcases List.mem_cons.mp member with first | later
          · rw [first] at there writes
            exact absurd ⟨there, writes⟩ here
          · exact .inl ⟨other, later, there, writes⟩
        · right
          split
          next writes =>
            rw [Function.update_of_ne fun same => here ⟨same.symm, writes⟩, held]
          next => exact held

end Effects

/-! ## What a run settles -/

section Settling

variable {text : PyText} {template : Template} {globalAgentsDir : String}
  {config : AgentSyncConfig} {reg : CompanyRegistry} {files : Files}
  {failures : WriteFailures}

theorem plan_entries_of_map {force : Bool} {targets : List SyncTarget}
    {entries : List AgentPlanEntry}
    (planned : targets.mapM (planEntry force files) = some entries) :
    entries.map AgentPlanEntry.target = targets ∧ ∀ entry ∈ entries,
      actionFor force (files entry.target.path) entry.target.content = some entry.action := by
  induction targets generalizing entries with
  | nil =>
    cases planned
    exact ⟨rfl, fun entry member => nomatch member⟩
  | cons target rest ih =>
    rw [List.mapM_cons] at planned
    obtain ⟨first, found, more⟩ := Option.bind_eq_some_iff.mp planned
    obtain ⟨others, later, same⟩ := Option.bind_eq_some_iff.mp more
    obtain ⟨action, acts, equal⟩ := Option.map_eq_some_iff.mp found
    obtain ⟨listed, each⟩ := ih later
    rw [← Option.some.inj same, ← equal]
    refine ⟨by rw [List.map_cons, listed], ?_⟩
    intro entry member
    rcases List.mem_cons.mp member with here | there
    · rw [here]
      exact acts
    · exact each entry there

theorem sync_plan_iff {entries : List AgentPlanEntry} :
    syncPlan text template globalAgentsDir config reg files = some entries ↔
      config.includeDepartments = false ∧ ∃ targets,
        syncTargets text template globalAgentsDir config reg = some targets ∧
          targets.mapM (planEntry config.force files) = some entries := by
  rw [syncPlan]
  cases config.includeDepartments with
  | true => simp
  | false => simp [Option.bind_eq_some_iff]

theorem action_writes {force : Bool} {state : FileState} {content : List Char}
    {action : SyncAction} (acts : actionFor force state content = some action) :
    (action = .create ↔ state = .absent) ∧ (action = .update → force = true) ∧
      (force = true → (action = .conflict ↔ state = .unreadable)) := by
  cases state with
  | absent =>
    rw [← Option.some.inj acts]
    simp
  | unreadable =>
    rw [← Option.some.inj acts]
    simp
  | file held =>
    obtain ⟨existing, _, same⟩ := Option.map_eq_some_iff.mp acts
    rw [← same]
    cases force with
    | false => split <;> simp
    | true => split <;> simp

theorem skip_of_unwritten {target : SyncTarget} {action : SyncAction}
    (acts : actionFor true (files target.path) target.content = some action)
    (readable : files target.path ≠ .unreadable)
    (unwritten : (AgentPlanEntry.mk target action).writes = false) : action = .skip := by
  obtain ⟨_, _, conflict⟩ := action_writes acts
  cases action with
  | create => cases unwritten
  | update => cases unwritten
  | conflict => exact absurd ((conflict rfl).mp rfl) readable
  | skip => rfl

theorem action_skip_iff {force : Bool} {state : FileState} {content : List Char} :
    actionFor force state content = some .skip ↔
      ∃ held, state = .file held ∧ held.readText = some content := by
  cases state with
  | absent => simp [actionFor]
  | unreadable => simp [actionFor]
  | file held =>
    simp only [actionFor, Option.map_eq_some_iff, FileState.file.injEq]
    constructor
    · intro skips
      obtain ⟨existing, read, same⟩ := skips
      refine ⟨held, rfl, ?_⟩
      by_cases equal : existing = content
      · rw [read, equal]
      · rw [if_neg equal] at same
        split at same
        · cases same
        · cases same
    · intro reads
      obtain ⟨_, same, read⟩ := reads
      rw [← same] at read
      exact ⟨content, read, if_pos rfl⟩

/-- Without force, a file that is there is left as it is. -/
def KeepsExisting (text : PyText) (template : Template) (globalAgentsDir : String)
    (config : AgentSyncConfig) (reg : CompanyRegistry) (failures : WriteFailures)
    (files : Files) : Prop :=
  config.force = false → ∀ run,
    agentSync failures text template globalAgentsDir config reg files = some run →
    ∀ path, files path ≠ .absent → run.files path = files path

/-- After a run with force and without errors, the next plan skips every file. -/
def Settles (text : PyText) (template : Template) (globalAgentsDir : String)
    (config : AgentSyncConfig) (reg : CompanyRegistry) (failures : WriteFailures)
    (files : Files) : Prop :=
  config.force = true → ∀ run,
    agentSync failures text template globalAgentsDir config reg files = some run →
    run.result.errors = [] →
    ∃ entries, syncPlan text template globalAgentsDir config reg run.files = some entries ∧
      ∀ entry ∈ entries, entry.action = .skip

/-- No text has a carriage return, no two texts are to stand at one path, and what stands at
a path can be read. -/
structure Settled (targets : List SyncTarget) (files : Files) : Prop where
  clean : ∀ target ∈ targets, '\r' ∉ target.content
  agree : ∀ target ∈ targets, ∀ other ∈ targets, target.path = other.path →
    target.content = other.content
  readable : ∀ target ∈ targets, files target.path ≠ .unreadable

theorem keeps_existing : KeepsExisting text template globalAgentsDir config reg failures files := by
  intro gentle run ran path there
  obtain ⟨entries, planned, same⟩ := Option.map_eq_some_iff.mp ran
  obtain ⟨_, targets, _, mapped⟩ := sync_plan_iff.mp planned
  rw [← same, perform_all_untouched (SyncRun.start files) entries]
  · rfl
  · intro entry member here
    obtain ⟨create, update, _⟩ := action_writes ((plan_entries_of_map mapped).2 entry member)
    rw [AgentPlanEntry.writes, Bool.or_eq_false_iff, decide_eq_false_iff_not,
      decide_eq_false_iff_not]
    constructor
    · intro creates
      rw [here] at create
      exact there (create.mp creates)
    · intro updates
      rw [gentle] at update
      exact absurd (update updates) Bool.false_ne_true

theorem next_plan_skips_iff {targets : List SyncTarget} {after : Files}
    (listed : syncTargets text template globalAgentsDir config reg = some targets)
    (allowed : config.includeDepartments = false) :
    (∃ entries, syncPlan text template globalAgentsDir config reg after = some entries ∧
        ∀ entry ∈ entries, entry.action = .skip) ↔
      ∀ target ∈ targets, ∃ held, after target.path = .file held ∧
        held.readText = some target.content := by
  constructor
  · intro next target member
    obtain ⟨entries, planned, skips⟩ := next
    obtain ⟨_, others, again, mapped⟩ := sync_plan_iff.mp planned
    rw [listed] at again
    obtain ⟨same, each⟩ := plan_entries_of_map mapped
    rw [Option.some.inj again, ← same] at member
    obtain ⟨entry, entered, equal⟩ := List.mem_map.mp member
    have acts := each entry entered
    rw [skips entry entered, equal] at acts
    exact action_skip_iff.mp acts
  · intro reads
    have all : targets.mapM (planEntry config.force after) =
        some (targets.map fun target => { target := target, action := .skip }) := by
      apply mapM_eq_map
      intro target member
      rw [planEntry, action_skip_iff.mpr (reads target member)]
      rfl
    refine ⟨_, sync_plan_iff.mpr ⟨allowed, targets, listed, all⟩, ?_⟩
    intro entry member
    obtain ⟨target, _, same⟩ := List.mem_map.mp member
    rw [← same]

theorem forced_run_settles_iff {run : SyncRun} {targets : List SyncTarget}
    (forced : config.force = true)
    (ran : agentSync failures text template globalAgentsDir config reg files = some run)
    (clear : run.result.errors = [])
    (listed : syncTargets text template globalAgentsDir config reg = some targets) :
    (∀ target ∈ targets, ∃ held, run.files target.path = .file held ∧
        held.readText = some target.content) ↔ Settled targets files := by
  obtain ⟨entries, planned, same⟩ := Option.map_eq_some_iff.mp ran
  obtain ⟨_, others, again, mapped⟩ := sync_plan_iff.mp planned
  rw [listed] at again
  rw [← Option.some.inj again, forced] at mapped
  obtain ⟨entered, each⟩ := plan_entries_of_map mapped
  rw [← same, perform_all_errors] at clear
  have targeted : ∀ entry ∈ entries, entry.target ∈ targets := by
    intro entry member
    rw [← entered]
    exact List.mem_map_of_mem member
  rw [← same]
  constructor
  · intro reads
    constructor
    · intro target member
      obtain ⟨held, _, read⟩ := reads target member
      cases held with
      | binary bytes => cases read
      | text chars =>
        rw [← Option.some.inj read]
        exact newlines_without_return chars
    · intro target member other others path
      obtain ⟨held, first, read⟩ := reads target member
      obtain ⟨again, second, reread⟩ := reads other others
      rw [path, second] at first
      rw [FileState.file.inj first, read] at reread
      exact Option.some.inj reread
    · intro target member broken
      obtain ⟨held, first, _⟩ := reads target member
      rw [perform_all_untouched (SyncRun.start files) entries] at first
      · exact FileState.noConfusion (broken.symm.trans first)
      · intro entry inside here
        have acts := action_writes (each entry inside)
        rw [here, broken] at acts
        have conflicts := (acts.2.2 rfl).mpr rfl
        rw [AgentPlanEntry.writes, conflicts]
        rfl
  · intro settled target member
    have clean : newlines target.content = target.content :=
      (newlines_eq_self_iff target.content).mpr (settled.clean target member)
    by_cases written : ∃ entry ∈ entries, entry.target.path = target.path ∧ entry.writes = true
    · refine ⟨.text target.content, ?_, by rw [FileContent.readText, clean]⟩
      apply perform_all_written
      · exact fun entry inside here => settled.agree _ (targeted entry inside) _ member here
      · exact clear.2
      · exact .inl written
    · rw [perform_all_untouched (SyncRun.start files) entries]
      · rw [← entered] at member
        obtain ⟨entry, inside, equal⟩ := List.mem_map.mp member
        have acts := each entry inside
        have unwritten : entry.writes = false := by
          by_contra writes
          rw [Bool.not_eq_false] at writes
          exact written ⟨entry, inside, by rw [equal], writes⟩
        have skips := skip_of_unwritten acts (settled.readable _ (targeted entry inside)) unwritten
        rw [skips, equal] at acts
        exact action_skip_iff.mp acts
      · intro entry inside here
        by_contra writes
        rw [Bool.not_eq_false] at writes
        exact written ⟨entry, inside, here, writes⟩

/-- The sync never touches a file that is there without force, and with force it settles the
directories exactly if what a completed run was asked to write can be settled. -/
theorem agent_sync_iff (text : PyText) (template : Template) (globalAgentsDir : String)
    (config : AgentSyncConfig) (reg : CompanyRegistry) (failures : WriteFailures)
    (files : Files) :
    (KeepsExisting text template globalAgentsDir config reg failures files ∧
        Settles text template globalAgentsDir config reg failures files) ↔
      (config.force = true → ∀ run targets,
        agentSync failures text template globalAgentsDir config reg files = some run →
        run.result.errors = [] →
        syncTargets text template globalAgentsDir config reg = some targets →
        Settled targets files) := by
  rw [and_iff_right keeps_existing]
  constructor
  · intro settles forced run targets ran clear listed
    obtain ⟨entries, planned, _⟩ := Option.map_eq_some_iff.mp ran
    rw [← forced_run_settles_iff forced ran clear listed]
    exact (next_plan_skips_iff listed (sync_plan_iff.mp planned).1).mp
      (settles forced run ran clear)
  · intro condition forced run ran clear
    obtain ⟨entries, planned, _⟩ := Option.map_eq_some_iff.mp ran
    obtain ⟨allowed, targets, listed, _⟩ := sync_plan_iff.mp planned
    rw [next_plan_skips_iff listed allowed]
    exact (forced_run_settles_iff forced ran clear listed).mpr
      (condition forced run targets ran clear listed)

/-- The instructions with the name above them. -/
def plainTemplate : Template := fun context _ =>
  (context.name ++ "\n" ++ context.instructions).toList

/-- An executive whose instructions were copied from a text with carriage returns. -/
def returning : CompanyRegistry :=
  { visionName := "Acme"
    companyName := none
    executives :=
      [{ name := some "Ann"
         title := some "Chief Executive Officer"
         bio := ""
         responsibilities := []
         kpis := []
         agentConfig := { instructions := "Lead.\rDecide.", tools := [], temperature := 0 } }]
    specialists := []
    board := [] }

def forcedSync : AgentSyncConfig :=
  { force := true, includeDepartments := false, scope := .project, outputDir := none }

def returningTarget : SyncTarget :=
  { slug := "ceo"
    name := "Ann"
    title := "Chief Executive Officer"
    path := ".opencode/agents/ceo.md"
    content := "Ann\nLead.\rDecide.\n".toList }

theorem returning_targets :
    syncTargets .ascii plainTemplate "" forcedSync returning = some [returningTarget] := by
  decide +kernel

/-- The forced run writes the file without an error, and the next plan updates it again. -/
theorem carriage_return_never_settles :
    ∃ run, agentSync (fun _ => none) .ascii plainTemplate "" forcedSync returning
        (fun _ => .absent) = some run ∧ run.result.errors = [] ∧
      syncPlan .ascii plainTemplate "" forcedSync returning run.files =
        some [{ target := returningTarget, action := .update }] ∧
      ¬Settles .ascii plainTemplate "" forcedSync returning (fun _ => none) (fun _ => .absent) := by
  have planned : syncPlan .ascii plainTemplate "" forcedSync returning (fun _ => .absent) =
      some [{ target := returningTarget, action := .create }] :=
    sync_plan_iff.mpr ⟨rfl, [returningTarget], returning_targets, rfl⟩
  let run := performAll (fun _ => none) (SyncRun.start fun _ => .absent)
    [{ target := returningTarget, action := .create }]
  have ran : agentSync (fun _ => none) .ascii plainTemplate "" forcedSync returning
      (fun _ => .absent) = some run := by
    rw [agentSync, planned]
    rfl
  have written : run.files returningTarget.path = .file (.text returningTarget.content) := by
    apply perform_all_written
    · intro entry member _
      rw [List.mem_singleton.mp member]
    · exact fun _ _ _ => rfl
    · exact .inl ⟨_, List.mem_singleton_self _, rfl, rfl⟩
  have again : syncPlan .ascii plainTemplate "" forcedSync returning run.files =
      some [{ target := returningTarget, action := .update }] := by
    refine sync_plan_iff.mpr ⟨rfl, [returningTarget], returning_targets, ?_⟩
    rw [List.mapM_cons, planEntry, written]
    decide +kernel
  refine ⟨run, ran, rfl, again, ?_⟩
  intro settles
  obtain ⟨entries, next, skips⟩ := settles rfl run ran rfl
  rw [again] at next
  rw [← Option.some.inj next] at skips
  exact SyncAction.noConfusion (skips _ List.mem_cons_self)

end Settling

end AiEnterpriseOs.Agents
