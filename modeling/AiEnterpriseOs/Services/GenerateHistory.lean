import AiEnterpriseOs.Jsonl
import AiEnterpriseOs.Library.LastWrite
import AiEnterpriseOs.Library.OptionFold
import AiEnterpriseOs.Library.OrderedDict
import AiEnterpriseOs.Services.CancelledDispatch
import AiEnterpriseOs.Telemetry.Readers

/-!
# The history of generate runs

What the worker of a run leaves in the history file, and what the next runner makes of
any such file.
-/

namespace AiEnterpriseOs.Services

open Library Telemetry

/-! ## The end of a worker -/

def WorkerPhase.Over : WorkerPhase → Prop
  | .ended _ | .died => True
  | _ => False

namespace RunnerState

/-- A worker that is over leaves a terminal status, and the last record has it. -/
def NotDangling (state : RunnerState) : Prop :=
  state.worker.Over → state.run.status.Terminal ∧
      ∃ record, state.history.getLast? = some record ∧ record.status = state.run.status

/-- The prompt is not rendered, and the run has not been cancelled. -/
def RenderFails (state : RunnerState) (action : RunnerAction) : Prop :=
  state.worker = .rendering ∧ action = .worker .renderRaised ∧ state.run.status ≠ .cancelled

section Steps

variable (config : FallbackConfig) (model : String)

theorem Dispatches.not_over {before after : RunnerState} (dispatches : Dispatches before after) :
    ¬after.worker.Over := by
  cases dispatches.worker with
  | inl goesOn =>
    obtain ⟨phase, same⟩ := goesOn
    rw [same]
    exact id
  | inr ends =>
    obtain ⟨result, same⟩ := ends
    rw [same]
    exact id

/-- What the threads have written is the last record. -/
def Logged (state : RunnerState) : Prop := state.history.getLast? = some state.run

theorem logged_append (state : RunnerState) : Logged state.appendHistory :=
  List.getLast?_concat

theorem logged_step (state : RunnerState) (action : RunnerAction) (logged : Logged state) :
    Logged (state.step config model action) := by
  cases action with
  | worker event =>
    rw [step]
    unfold workerStep
    split
    · exact logged
    · exact logged
    · unfold enterUnlessCancelled
      split
      · exact logged
      · split <;> exact logged
    · exact logged_append _
    next phase here =>
      rw [Logged, (dispatch_frame config model state phase _ here).history,
        (dispatch_frame config model state phase _ here).run]
      exact logged
    · unfold enterUnlessCancelled
      split
      · exact logged
      · split <;> exact logged
    · exact logged_append _
    · exact logged
  | cancel call event =>
    rw [step]
    unfold cancelStep
    split
    · split <;> exact logged
    · split <;> exact logged
    · split <;> exact logged
    · exact logged_append _
    · split
      · split <;> exact logged
      · exact logged
    · exact logged

theorem moved_terminal {before after : RunnerState} {action : RunnerAction}
    (guarded : Guarded before) (moved : Moved before action after)
    (settled : before.run.status.Terminal) : after.run.status.Terminal := by
  cases moved with
  | quiet _ status _ _ _ => rwa [status]
  | workerEnters _ status _ _ _ _ _ _ => rwa [status]
  | workerStarts _ _ _ inside _ _ => exact absurd settled (guarded.open_status inside)
  | workerRecords _ _ _ inside _ _ => exact absurd settled (guarded.open_status inside)
  | cancelEnters _ _ status _ _ _ _ => rwa [status]
  | cancelWrites _ _ status _ _ _ _ =>
    rw [status]
    trivial

theorem enter_over {state : RunnerState} {checked : WorkerPhase} (goesOn : ¬checked.Over)
    (unfinished : ¬state.worker.Over) (isOver : (state.enterUnlessCancelled checked).worker.Over) :
    (state.enterUnlessCancelled checked).run.status.Terminal := by
  unfold enterUnlessCancelled at isOver ⊢
  split at isOver
  · exact absurd isOver unfinished
  next busy =>
    rw [if_neg busy]
    split at isOver
    next cancelled =>
      rw [if_pos cancelled]
      dsimp only
      rw [cancelled]
      trivial
    · exact absurd isOver goesOn

theorem over_step {state : RunnerState} {action : RunnerAction}
    (unfinished : ¬state.worker.Over) (isOver : (state.step config model action).worker.Over) :
    (state.worker = .rendering ∧ action = .worker .renderRaised ∧
        (state.step config model action).run = state.run) ∨
      (state.step config model action).run.status.Terminal := by
  cases action with
  | worker event =>
    revert isOver
    rw [step]
    unfold workerStep
    split
    · exact False.elim
    next here => exact fun _ => .inl ⟨here, rfl, rfl⟩
    · exact fun isOver => .inr (enter_over id unfinished isOver)
    · exact False.elim
    next phase here =>
      exact fun isOver => absurd isOver (dispatch_frame config model state phase _ here).not_over
    · exact fun isOver => .inr (enter_over id unfinished isOver)
    next result now here =>
      intro _
      right
      rw [RunnerState.appendHistory]
      dsimp only
      rcases finish_status state.run result now with succeeded | failed
      · rw [succeeded]
        trivial
      · rw [failed]
        trivial
    · exact fun isOver => absurd isOver unfinished
  | cancel call event =>
    rw [step, (cancel_worker state call event).1] at isOver
    exact absurd isOver unfinished

/-- The phases agree with the lock, the records with the run, and the end with the status. -/
structure Settling (state : RunnerState) : Prop where
  guarded : Guarded state
  logged : Logged state
  terminal : state.worker.Over → state.run.status.Terminal

theorem settling_step_iff (state : RunnerState) (action : RunnerAction)
    (settling : Settling state) :
    Settling (state.step config model action) ↔ ¬state.RenderFails action := by
  have moved := step_moved config model state action
  constructor
  · intro after fails
    obtain ⟨rendering, raised, live⟩ := fails
    have dead : (state.step config model action).worker = .died ∧
        (state.step config model action).run = state.run := by
      rw [raised, step, workerStep]
      · exact ⟨rfl, rfl⟩
      · exact rendering
    have settled := after.terminal (by rw [dead.1]; trivial)
    rw [dead.2] at settled
    exact live (settling.guarded.cancelled (by simp [rendering, WorkerPhase.stage]) settled)
  · intro fine
    constructor
    · exact moved_guarded settling.guarded moved
    · exact logged_step config model state action settling.logged
    · intro isOver
      by_cases finished : state.worker.Over
      · exact moved_terminal settling.guarded moved (settling.terminal finished)
      · rcases over_step config model finished isOver with raised | settled
        · obtain ⟨rendering, event, same⟩ := raised
          rw [same]
          have cancelled : state.run.status = .cancelled := by
            by_contra live
            exact fine ⟨rendering, event, live⟩
          rw [cancelled]
          trivial
        · exact settled

/-- A run never dangles exactly if rendering its prompt raises only once it is cancelled. -/
theorem run_never_dangles_iff (runId target logPath : String) (actions : List RunnerAction) :
    (∀ early late, actions = early ++ late →
        NotDangling (runInputs (step config model) (queued runId target logPath) early)) ↔
      StepsMeet (step config model) (fun state action => ¬state.RenderFails action)
        (queued runId target logPath) actions := by
  have initial : Settling (queued runId target logPath) :=
    ⟨queued_guarded runId target logPath, rfl, False.elim⟩
  have kept := settling_step_iff config model
  rw [← holds_throughout_iff (step config model) kept _ actions initial]
  have always : ∀ early, Guarded (runInputs (step config model) (queued runId target logPath)
      early) ∧ Logged (runInputs (step config model) (queued runId target logPath) early) := by
    intro early
    have both : ∀ (state : RunnerState) (action : RunnerAction), Guarded state ∧ Logged state →
        Guarded (state.step config model action) ∧ Logged (state.step config model action) :=
      fun state action holds =>
        ⟨moved_guarded holds.1 (step_moved config model state action),
          logged_step config model state action holds.2⟩
    exact invariant_of_steps (step config model) both _ early ⟨initial.guarded, initial.logged⟩
  apply forall_congr'
  intro early
  apply forall_congr'
  intro late
  apply imp_congr_right
  intro _
  obtain ⟨guarded, logged⟩ := always early
  constructor
  · intro whole
    exact ⟨guarded, logged, fun isOver => (whole isOver).1⟩
  · intro settling isOver
    exact ⟨settling.terminal isOver, _, logged, rfl⟩

end Steps

end RunnerState

/-! ## Reading the history -/

/-- A run as a line of the history has it, with whatever values stand there. -/
structure HistoryRun where
  runId : PyValue
  target : PyValue
  status : PyValue
  startedAt : PyValue
  finishedAt : PyValue
  exitCode : PyValue
  error : PyValue
  logPath : PyValue
  outputDir : PyValue
  provider : PyValue
  model : PyValue

namespace HistoryRun

/-- `none` for the exception on a value that is no dictionary. -/
def ofRecord (data : PyValue) : Option HistoryRun := do
  return {
    runId := ← data.get? "run_id" (.str "")
    target := ← data.get? "target" (.str "")
    status := ← data.get? "status" (.str "failed")
    startedAt := ← data.get? "started_at"
    finishedAt := ← data.get? "finished_at"
    exitCode := ← data.get? "exit_code"
    error := ← data.get? "error" (.str "")
    logPath := ← data.get? "log_path" (.str "")
    outputDir := ← data.get? "output_dir" (.str "generated")
    provider := ← data.get? "provider" (.str "")
    model := ← data.get? "model" (.str "") }

def afterRestart (run : HistoryRun) (now : String) : HistoryRun :=
  if run.status.equal (.str "queued") || run.status.equal (.str "running") then
    { run with
      status := .str "failed"
      error := .str "interrupted by restart"
      finishedAt := .str now }
  else run

end HistoryRun

/-- The runs by their id; an id that is not hashable raises. -/
abbrev HistoryRuns : Type := OrderedDict HashKey HistoryRun

section Reload

variable (loads : List Char → JsonText) (clock : Nat → String)

/-- A record with the number of those before it, which is what the clock goes by. -/
def restoreRun (runs : HistoryRuns) (entry : PyValue × Nat) : Option HistoryRuns := do
  let run := (← HistoryRun.ofRecord entry.1).afterRestart (clock entry.2)
  if run.runId.truthy then return runs.set (← hashKey run.runId) run
  else return runs

/-- `_load_history`; `none` when an exception gets through. -/
def loadHistory (file : Option Bytes) : Option HistoryRuns := do
  (← readJsonl loads file).zipIdx.foldlM (restoreRun clock) .empty

/-! ## What the history says -/

/-- The values of the lines that are JSON. -/
def jsonValue (line : List Char) : Option PyValue :=
  match loads line with
  | .value value => some value
  | .corrupt => none
  | .fails => none

/-- The stripped lines of a text that are not blank; a missing file has none. -/
def historyLines : Option Bytes → Option (List (List Char))
  | none => some []
  | some bytes => (Utf8.decode bytes).map (TextLines.fields TextLines.universalNewline)

def historyValues (file : Option Bytes) : List PyValue :=
  ((historyLines file).getD []).filterMap (jsonValue loads)

/-- The run of a well-formed record: an object with an id that names a run. -/
def wellFormed (data : PyValue) : Option (HashKey × HistoryRun) := do
  let run ← HistoryRun.ofRecord data
  if run.runId.truthy then return (← hashKey run.runId, run) else none

/-- What a record says about the run of this id, after the restart. -/
def restored (key : HashKey) (entry : PyValue × Nat) : Option HistoryRun :=
  match wellFormed entry.1 with
  | some (other, run) =>
    if other = key then some (run.afterRestart (clock entry.2)) else none
  | none => none

/-- The reload does not raise, and has for each run id its last well-formed record. -/
def RestoresHistory (file : Option Bytes) : Prop :=
  ∃ runs, loadHistory loads clock file = some runs ∧ ∀ key, runs.get? key =
      lastSetting (restored clock key) (historyValues loads file).zipIdx

/-- An object whose id can be a key, or stands for none. -/
def Restorable : PyValue → Prop
  | .dict items =>
    let runId := (PyValue.field items "run_id").getD (.str "")
    runId.truthy = true → hashKey runId ≠ none
  | _ => False

/-- A UTF-8 text on whose lines parsing fails only as on no JSON, and whose values are
restorable objects. -/
def ReadableHistory (file : Option Bytes) : Prop :=
  ∃ lines, historyLines file = some lines ∧ ∀ line ∈ lines, match loads line with
      | .value value => Restorable value
      | .corrupt => True
      | .fails => False

variable {loads clock}

theorem load_lines_iff (lines : List (List Char)) (values : List PyValue) :
    loadLines loads lines = some values ↔
      (∀ line ∈ lines, loads line ≠ .fails) ∧ values = lines.filterMap (jsonValue loads) := by
  induction lines generalizing values with
  | nil =>
    rw [loadLines]
    simp [eq_comm]
  | cons line rest ih =>
    rw [loadLines, List.forall_mem_cons, List.filterMap_cons, jsonValue]
    cases loads line with
    | value value =>
      simp only [Option.map_eq_some_iff, ih]
      constructor
      · intro found
        obtain ⟨others, known, same⟩ := found
        exact ⟨⟨by simp, known.1⟩, by rw [← same, known.2]⟩
      · intro known
        exact ⟨_, ⟨known.1.2, rfl⟩, known.2.symm⟩
    | corrupt =>
      rw [ih]
      simp
    | fails => simp

theorem read_history_iff (file : Option Bytes) (values : List PyValue) :
    readJsonl loads file = some values ↔
      ∃ lines, historyLines file = some lines ∧ (∀ line ∈ lines, loads line ≠ .fails) ∧
        values = historyValues loads file := by
  cases file with
  | none => simp [readJsonl, historyLines, historyValues, eq_comm]
  | some bytes =>
    simp only [readJsonl, historyLines, historyValues]
    cases Utf8.decode bytes with
    | none => simp
    | some text => simp [textRecords, load_lines_iff]

/-- What a restorable record does to the runs. -/
def addRun (clock : Nat → String) (runs : HistoryRuns) (entry : PyValue × Nat) : HistoryRuns :=
  match wellFormed entry.1 with
  | some (key, run) => runs.set key (run.afterRestart (clock entry.2))
  | none => runs

@[simp] theorem after_restart_run_id (run : HistoryRun) (now : String) :
    (run.afterRestart now).runId = run.runId := by
  rw [HistoryRun.afterRestart]
  split <;> rfl

theorem of_record_dict (items : List (String × PyValue)) :
    ∃ run, HistoryRun.ofRecord (.dict items) = some run ∧
      run.runId = (PyValue.field items "run_id").getD (.str "") :=
  ⟨_, rfl, rfl⟩

theorem restore_fails_only_on :
    FailsOnlyOn (restoreRun clock) (addRun clock) (fun entry => Restorable entry.1)
      fun _ => True where
  accepts := by
    intro runs entry _ restorable
    obtain ⟨data, line⟩ := entry
    cases data with
    | dict items =>
      obtain ⟨run, known, runId⟩ := of_record_dict items
      rw [Restorable, ← runId] at restorable
      simp only [restoreRun, addRun, wellFormed, known, Option.bind_eq_bind,
        Option.bind_some, after_restart_run_id]
      split
      next named =>
        obtain ⟨key, hashed⟩ := Option.ne_none_iff_exists'.mp (restorable named)
        rw [hashed]
        rfl
      · rfl
    | _ => exact restorable.elim
  refuses := by
    intro runs entry _ refused
    obtain ⟨data, line⟩ := entry
    cases data with
    | dict items =>
      obtain ⟨run, known, runId⟩ := of_record_dict items
      rw [Restorable, ← runId, Classical.not_imp, not_not] at refused
      simp only [restoreRun, known, Option.bind_eq_bind, Option.bind_some,
        after_restart_run_id, if_pos refused.1, refused.2]
      rfl
    | _ => rfl
  keeps := fun _ _ _ _ => trivial

theorem add_runs_get (entries : List (PyValue × Nat)) (runs : HistoryRuns) (key : HashKey) :
    (entries.foldl (addRun clock) runs).get? key =
      (lastSetting (restored clock key) entries).or (runs.get? key) := by
  induction entries generalizing runs with
  | nil => rw [List.foldl_nil, last_setting_nil, Option.none_or]
  | cons entry rest ih =>
    have added : (addRun clock runs entry).get? key =
        (restored clock key entry).or (runs.get? key) := by
      rw [addRun, restored]
      split
      next other run _ =>
        rw [OrderedDict.get_set]
        by_cases here : key = other
        · rw [if_pos here, if_pos here.symm, Option.some_or]
        · rw [if_neg here, if_neg fun same => here same.symm, Option.none_or]
      · rw [Option.none_or]
    rw [List.foldl_cons, ih, added, last_setting_cons, Option.or_assoc]

theorem readable_lines_iff (lines : List (List Char)) : (∀ line ∈ lines, match loads line with
        | .value value => Restorable value
        | .corrupt => True
        | .fails => False) ↔
      (∀ line ∈ lines, loads line ≠ .fails) ∧
        ∀ value ∈ lines.filterMap (jsonValue loads), Restorable value := by
  induction lines with
  | nil => simp
  | cons line rest ih =>
    rw [List.forall_mem_cons, List.forall_mem_cons, ih, List.filterMap_cons, jsonValue]
    cases loads line with
    | value value =>
      have parsed : JsonText.value value ≠ .fails := nofun
      simp only [List.forall_mem_cons, parsed, ne_eq, not_false_eq_true, true_and]
      exact and_left_comm
    | corrupt => simp
    | fails => simp

theorem restorable_entries_iff (values : List PyValue) :
    (∀ entry ∈ values.zipIdx, Restorable entry.1) ↔ ∀ value ∈ values, Restorable value := by
  have firsts : values.zipIdx.map Prod.fst = values := List.zipIdx_map_fst 0 values
  conv_rhs => rw [← firsts]
  rw [List.forall_mem_map]

theorem restores_history_iff (file : Option Bytes) :
    RestoresHistory loads clock file ↔ ReadableHistory loads file := by
  have fold : FailsOnlyOn (restoreRun clock) (addRun clock)
      (fun entry => Restorable entry.1) fun _ => True := restore_fails_only_on
  rw [RestoresHistory, ReadableHistory]
  constructor
  · intro restores
    obtain ⟨runs, loaded, _⟩ := restores
    obtain ⟨values, read, folded⟩ := Option.bind_eq_some_iff.mp loaded
    obtain ⟨lines, known, parsed, same⟩ := (read_history_iff file values).mp read
    refine ⟨lines, known, (readable_lines_iff lines).mpr ⟨parsed, ?_⟩⟩
    rw [historyValues, known, Option.getD_some] at same
    rw [← same, ← restorable_entries_iff]
    have loads_iff : (values.zipIdx.foldlM (restoreRun clock) .empty).isSome = true ↔
        ∀ entry ∈ values.zipIdx, Restorable entry.1 := fold.is_some_iff trivial
    rw [← loads_iff, folded]
    rfl
  · intro readable
    obtain ⟨lines, known, each⟩ := readable
    obtain ⟨parsed, restorable⟩ := (readable_lines_iff lines).mp each
    have read := (read_history_iff file _).mpr ⟨lines, known, parsed, rfl⟩
    have taken : ∀ entry ∈ (historyValues loads file).zipIdx, Restorable entry.1 := by
      rw [restorable_entries_iff, historyValues, known, Option.getD_some]
      exact restorable
    have folded : loadHistory loads clock file =
        some ((historyValues loads file).zipIdx.foldl (addRun clock) .empty) :=
      Option.bind_eq_some_iff.mpr ⟨_, read, fold.eq_foldl trivial taken⟩
    refine ⟨_, folded, ?_⟩
    intro key
    rw [add_runs_get, OrderedDict.get_empty, Option.or_none]

end Reload

/-- A run leaves nothing dangling exactly if rendering its prompt raises only once it is
cancelled, and the history is restored exactly if it is readable. -/
theorem generate_runs_settled_iff (config : FallbackConfig) (model : String)
    (runId target logPath : String) (actions : List RunnerAction)
    (loads : List Char → JsonText) (clock : Nat → String) (file : Option Bytes) :
    ((∀ early late, actions = early ++ late →
          (runInputs (RunnerState.step config model) (.queued runId target logPath)
            early).NotDangling) ↔
        StepsMeet (RunnerState.step config model)
          (fun state action => ¬state.RenderFails action) (.queued runId target logPath)
          actions) ∧
      (RestoresHistory loads clock file ↔ ReadableHistory loads file) :=
  ⟨RunnerState.run_never_dangles_iff config model runId target logPath actions,
    restores_history_iff file⟩

/-- A prompt that cannot be read leaves the run queued, and a list in the history keeps the
next runner from being constructed. -/
theorem unreadable_prompt_dangles :
    ¬(runInputs (RunnerState.step { enabled := true, model := "llama3.1:8b" } "north")
        (.queued "g1-1" "registry" "runtime/generate_logs/g1-1.log")
        [.worker .renderRaised]).NotDangling ∧
      loadHistory (fun _ => .value (.list [])) (fun _ => "2026-01-01T00:00:00+00:00")
        (some "[]".toUTF8.toList) = none := by
  constructor
  · intro settled
    exact (settled trivial).1
  · decide +kernel

end AiEnterpriseOs.Services
