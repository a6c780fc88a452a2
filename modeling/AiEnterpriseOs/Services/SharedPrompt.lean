import AiEnterpriseOs.Jsonl
import AiEnterpriseOs.Library.LastWrite
import AiEnterpriseOs.Services.GenerateRunner
import Mathlib.Logic.Function.Basic

/-!
# The prompt file of all generate runs

Each worker writes its prompt to the one file `.ai-company/.tmp_rendered_prompt.md`, whose
path it gives to the child process. The locks of the runs are apart here: that another run
holds the lock only delays a worker.
-/

namespace AiEnterpriseOs.Services

open Library

/-- What the prompt of a target is rendered to at an instant, and how it is dispatched;
`none` where rendering or reading it raises. -/
structure PromptEnv where
  rendered : String → Nat → Option Bytes
  raw : String → Nat → Option Bytes
  model : String → String
  config : FallbackConfig

/-- Where a worker stands in `_render_prompt`; the raw prompt is the second attempt. -/
inductive PromptPhase where
  | rendering
  | fallingBack
  | opening (text : Bytes) (raw : Bool)
  | writing (text : Bytes) (raw : Bool)
  | written (text : Bytes)
  | raised

/-- The text that a worker holds. -/
def PromptPhase.text? : PromptPhase → Option Bytes
  | .opening text _ => some text
  | .writing text _ => some text
  | .written text => some text
  | _ => none

inductive PromptEvent where
  | render (now : Nat)
  | truncate
  | write
  | fail

/-- What a child process of a run has read, with the prompt that the run has written. -/
structure PromptRead where
  run : Nat
  prompt : Bytes
  content : Bytes
  deriving DecidableEq

structure SharedPrompt where
  file : Bytes
  /-- The target that each worker was started with. -/
  targets : Nat → String
  prompts : Nat → PromptPhase
  runs : Nat → RunnerState
  reads : List PromptRead

inductive SharedAction where
  | prompt (run : Nat) (event : PromptEvent)
  | runner (run : Nat) (action : RunnerAction)
  | read (run : Nat)

/-- The worker leaves `_render_prompt` as its phase has it. -/
def PromptPhase.allows : PromptPhase → RunnerAction → Bool
  | .written _, .worker .renderRaised => false
  | .written _, _ => true
  | .raised, .worker .rendered => false
  | .raised, _ => true
  | _, .worker .rendered => false
  | _, .worker .renderRaised => false
  | _, _ => true

/-- A child process has been started and has not been waited for. -/
def WorkerPhase.hasChild : WorkerPhase → Bool
  | .dispatching (.registering _ _ _) => true
  | .dispatching (.running _ _) => true
  | _ => false

namespace SharedPrompt

/-- The runs as they are queued, with whatever the prompt file holds. -/
def queued (file : Bytes) (targets runIds logPaths : Nat → String) : SharedPrompt where
  file := file
  targets := targets
  prompts := fun _ => .rendering
  runs := fun run => .queued (runIds run) (targets run) (logPaths run)
  reads := []

variable (env : PromptEnv) (state : SharedPrompt)

def setPrompt (run : Nat) (phase : PromptPhase) : SharedPrompt :=
  { state with prompts := Function.update state.prompts run phase }

/-- An exception from `render_prompt` leads to the raw prompt. -/
def promptFails (run : Nat) (raw : Bool) : SharedPrompt :=
  state.setPrompt run (if raw then .raised else .fallingBack)

def promptStep (run : Nat) (event : PromptEvent) : SharedPrompt :=
  match state.prompts run, event with
  | .rendering, .render now =>
    match env.rendered (state.targets run) now with
    | some text => state.setPrompt run (.opening text false)
    | none => state.promptFails run false
  | .fallingBack, .render now =>
    match env.raw (state.targets run) now with
    | some text => state.setPrompt run (.opening text true)
    | none => state.promptFails run true
  | .opening text raw, .truncate => { state.setPrompt run (.writing text raw) with file := [] }
  | .opening _ raw, .fail => state.promptFails run raw
  | .writing text _, .write =>
    { state.setPrompt run (.written text) with file := overwrite state.file text }
  | .writing _ raw, .fail => state.promptFails run raw
  | _, _ => state

def runnerStep (run : Nat) (action : RunnerAction) : SharedPrompt :=
  if (state.prompts run).allows action then
    { state with
      runs := Function.update state.runs run
        ((state.runs run).step env.config (env.model (state.targets run)) action) }
  else state

def readStep (run : Nat) : SharedPrompt :=
  match state.prompts run with
  | .written text =>
    if (state.runs run).worker.hasChild then
      { state with
        reads := state.reads ++ [{ run := run, prompt := text, content := state.file }] }
    else state
  | _ => state

def step : SharedAction → SharedPrompt
  | .prompt run event => state.promptStep env run event
  | .runner run action => state.runnerStep env run action
  | .read run => state.readStep run

/-! ## The texts in the file -/

/-- The texts written since the file was last truncated, after the action. -/
def textsAfter (texts : List Bytes) : SharedAction → List Bytes
  | .prompt run .truncate =>
    match state.prompts run with
    | .opening _ _ => []
    | _ => texts
  | .prompt run .write =>
    match state.prompts run with
    | .writing text _ => texts ++ [text]
    | _ => texts
  | _ => texts

/-- The texts written since the last truncation in a run. -/
def textsSince : SharedPrompt → List Bytes → List SharedAction → List Bytes
  | _, texts, [] => texts
  | state, texts, action :: rest =>
    textsSince (state.step env action) (state.textsAfter texts action) rest

theorem overwrite_all_concat (texts : List Bytes) (text : Bytes) :
    overwriteAll [] (texts ++ [text]) = overwrite (overwriteAll [] texts) text := by
  rw [overwriteAll, List.foldl_append]
  rfl

theorem file_step (texts : List Bytes) (action : SharedAction)
    (known : state.file = overwriteAll [] texts) :
    (state.step env action).file = overwriteAll [] (state.textsAfter texts action) := by
  cases action with
  | prompt run event =>
    rw [step]
    unfold promptStep
    split
    · split <;> exact known
    · split <;> exact known
    next here => rw [textsAfter, here]; rfl
    next here => exact known
    next here => rw [textsAfter, here, overwrite_all_concat, ← known]
    · exact known
    next noTruncation _ noWrite _ =>
      unfold textsAfter
      split
      next same =>
        cases same
        split
        next text raw here => exact (noTruncation text raw here rfl).elim
        · exact known
      next same =>
        cases same
        split
        next text raw here => exact (noWrite text raw here rfl).elim
        · exact known
      · exact known
  | runner run action =>
    rw [step, runnerStep]
    split <;> exact known
  | read run =>
    rw [step, readStep]
    split
    · split <;> exact known
    · exact known

theorem file_run (texts : List Bytes) (actions : List SharedAction)
    (known : state.file = overwriteAll [] texts) :
    (runInputs (step env) state actions).file =
      overwriteAll [] (textsSince env state texts actions) := by
  induction actions generalizing state texts with
  | nil => exact known
  | cons action rest ih =>
    rw [run_inputs_cons, textsSince]
    exact ih _ _ (file_step env state texts action known)

/-! ## What the dispatches read -/

/-- The run has written this prompt, and a child process of it may read the file. -/
def MayRead (run : Nat) (text : Bytes) : Prop :=
  state.prompts run = .written text ∧ (state.runs run).worker.hasChild = true

def ReadsOwn : Prop := ∀ read ∈ state.reads, read.content = read.prompt

theorem reads_elsewhere (action : SharedAction) (other : ∀ run, action ≠ .read run) :
    (state.step env action).reads = state.reads := by
  cases action with
  | prompt run event =>
    rw [step]
    unfold promptStep
    split
    · split <;> rfl
    · split <;> rfl
    all_goals rfl
  | runner run action =>
    rw [step, runnerStep]
    split <;> rfl
  | read run => exact absurd rfl (other run)

theorem reads_own_step_iff (action : SharedAction) (own : state.ReadsOwn) :
    (state.step env action).ReadsOwn ↔
      ∀ run text, action = .read run → state.MayRead run text → state.file = text := by
  by_cases other : ∀ run, action ≠ .read run
  · rw [ReadsOwn, reads_elsewhere env state action other]
    exact iff_of_true own fun run _ same => absurd same (other run)
  · obtain ⟨run, reading⟩ := not_forall_not.mp other
    rw [reading, step]
    unfold readStep
    split
    next text here =>
      split
      next child =>
        constructor
        · intro whole reader known same mayRead
          cases same
          have last := whole ⟨run, text, state.file⟩ (List.mem_append_right _
            (List.mem_singleton_self _))
          rw [mayRead.1] at here
          cases here
          exact last
        · intro stands read member
          rcases List.mem_append.mp member with early | late
          · exact own read early
          · rw [List.mem_singleton.mp late]
            exact stands run text rfl ⟨here, child⟩
      next childless =>
        refine iff_of_true own ?_
        intro reader known same mayRead
        cases same
        exact absurd mayRead.2 childless
    next unwritten =>
      refine iff_of_true own ?_
      intro reader known same mayRead
      cases same
      exact (unwritten known mayRead.1).elim

/-- The text is what the prompt of the target was rendered to, or the raw prompt. -/
def RenderedFor (target : String) (text : Bytes) : Prop :=
  ∃ now, env.rendered target now = some text ∨ env.raw target now = some text

/-- Each worker holds, and each child process was to read, a prompt of the run's target. -/
structure HoldsOwn (targets : Nat → String) (state : SharedPrompt) : Prop where
  same : state.targets = targets
  held : ∀ run text, (state.prompts run).text? = some text → RenderedFor env (targets run) text
  read : ∀ read ∈ state.reads, RenderedFor env (targets read.run) read.prompt

theorem set_prompt_holds_own {targets : Nat → String} (run : Nat) (phase : PromptPhase)
    (file : Bytes) (holds : HoldsOwn env targets state)
    (rendered : ∀ text, phase.text? = some text → RenderedFor env (targets run) text) :
    HoldsOwn env targets { state.setPrompt run phase with file := file } where
  same := holds.same
  held := by
    intro other text holding
    have updated : (Function.update state.prompts run phase other).text? = some text := holding
    by_cases same : other = run
    · rw [same, Function.update_self] at updated
      rw [same]
      exact rendered text updated
    · rw [Function.update_of_ne same] at updated
      exact holds.held other text updated
  read := holds.read

theorem holds_own_step (targets : Nat → String) (action : SharedAction)
    (holds : HoldsOwn env targets state) : HoldsOwn env targets (state.step env action) := by
  cases action with
  | prompt run event =>
    have fails : ∀ raw, HoldsOwn env targets (state.promptFails run raw) := by
      intro raw
      apply set_prompt_holds_own env state run _ state.file holds
      cases raw <;> nofun
    have kept : ∀ phase file, phase.text? = (state.prompts run).text? →
          HoldsOwn env targets { state.setPrompt run phase with file := file } := by
      intro phase file same
      apply set_prompt_holds_own env state run phase file holds
      intro text holding
      exact holds.held run text (same.symm.trans holding)
    rw [step]
    unfold promptStep
    split
    next now _ =>
      split
      next text found =>
        apply set_prompt_holds_own env state run _ state.file holds
        intro other same
        rw [← Option.some.inj same, ← holds.same]
        exact ⟨now, .inl found⟩
      · exact fails false
    next now _ =>
      split
      next text found =>
        apply set_prompt_holds_own env state run _ state.file holds
        intro other same
        rw [← Option.some.inj same, ← holds.same]
        exact ⟨now, .inr found⟩
      · exact fails true
    next here => exact kept _ _ (by rw [here]; rfl)
    · exact fails _
    next here => exact kept _ _ (by rw [here]; rfl)
    · exact fails _
    · exact holds
  | runner run action =>
    rw [step, runnerStep]
    split
    · exact ⟨holds.same, holds.held, holds.read⟩
    · exact holds
  | read run =>
    rw [step, readStep]
    split
    next text here =>
      split
      · constructor
        · exact holds.same
        · exact holds.held
        · intro read member
          rcases List.mem_append.mp member with early | late
          · exact holds.read read early
          · rw [List.mem_singleton.mp late]
            exact holds.held run text (by rw [here]; rfl)
      · exact holds
    · exact holds

/-- What a dispatch reads was meant to be a prompt of its own target, and is so in all of a
run exactly if at every read the texts written since the last truncation leave the run's
own one. -/
theorem prompts_not_mixed_iff (file : Bytes)
    (targets runIds logPaths : Nat → String) (actions : List SharedAction) :
    let start := queued file targets runIds logPaths
    let reached := runInputs (SharedPrompt.step env) start
    (∀ read ∈ (reached actions).reads, RenderedFor env (targets read.run) read.prompt) ∧
      ((∀ early late, actions = early ++ late → (reached early).ReadsOwn) ↔
        ∀ early run late text, actions = early ++ .read run :: late →
          (reached early).MayRead run text →
          StandsWhole text (textsSince env start [file] early)) := by
  intro start reached
  have initial : HoldsOwn env targets start := ⟨rfl, nofun, nofun⟩
  constructor
  · have kept : ∀ (state : SharedPrompt) (action : SharedAction),
        HoldsOwn env targets state → HoldsOwn env targets (state.step env action) :=
      fun state action holds => holds_own_step env state targets action holds
    exact (invariant_of_steps (SharedPrompt.step env) kept start actions initial).read
  · have whole : file = overwriteAll [] [file] := by
      rw [overwriteAll, List.foldl_cons, List.foldl_nil, overwrite, List.drop_nil, List.append_nil]
    rw [holds_throughout_iff (SharedPrompt.step env) (reads_own_step_iff env) start actions nofun,
      steps_meet_iff]
    constructor
    · intro meets early run late text split mayRead
      rw [← overwrite_all_eq_iff, ← file_run env start [file] early whole]
      exact meets early (.read run) late split run text rfl mayRead
    · intro stands early action late split run text same mayRead
      rw [same] at split
      have left := stands early run late text split mayRead
      rw [← overwrite_all_eq_iff, ← file_run env start [file] early whole] at left
      exact left

end SharedPrompt

/-- The prompt of the second run is there when the first one's child process reads. -/
theorem second_prompt_is_read :
    let env : PromptEnv :=
      { rendered := fun target _ => some target.toUTF8.toList
        raw := fun _ _ => none
        model := fun _ => "north"
        config := { enabled := true, model := "ollama/llama3.1:8b" } }
    let start := SharedPrompt.queued [] (fun run => if run = 0 then "registry" else "docs")
      (fun run => if run = 0 then "g1-1" else "g1-2")
      (fun run => if run = 0 then "generate_logs/g1-1.log" else "generate_logs/g1-2.log")
    let actions : List SharedAction :=
      [.prompt 0 (.render 0), .prompt 0 .truncate, .prompt 0 .write, .prompt 1 (.render 1),
        .prompt 1 .truncate, .prompt 1 .write, .runner 0 (.worker .rendered),
        .runner 0 (.worker .acquire), .runner 0 (.worker (.write 2)), .runner 0 (.worker .found),
        .runner 0 (.worker .spawned), .read 0]
    (runInputs (SharedPrompt.step env) start actions).reads =
        [⟨0, "registry".toUTF8.toList, "docs".toUTF8.toList⟩] ∧
      ¬(runInputs (SharedPrompt.step env) start actions).ReadsOwn := by
  intro env start actions
  have found : (runInputs (SharedPrompt.step env) start actions).reads =
      [⟨0, "registry".toUTF8.toList, "docs".toUTF8.toList⟩] := by
    decide +kernel
  refine ⟨found, ?_⟩
  intro own
  have same := own ⟨0, "registry".toUTF8.toList, "docs".toUTF8.toList⟩
    (by rw [found]; exact List.mem_singleton_self _)
  revert same
  decide +kernel

end AiEnterpriseOs.Services
