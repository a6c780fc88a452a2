import AiEnterpriseOs.Library.Runs
import AiEnterpriseOs.Telemetry.Conservation

/-!
# Appends against rewrites

A log file shared by appends and by the passes that rewrite it. A retention
pass and the pruning that follows an append read the file, write what they keep
to the temporary file next to it and rename that over the log; an append opens
the log and writes its line. The steps come in any order; a file is its lines that
are not blank, read and written in one step each.
-/

namespace AiEnterpriseOs.Telemetry.SharedLog

open Library
open Telemetry.History (januaryEnv snapshotAt)

/-- A line of the log with the number of the append that wrote it. -/
structure Entry where
  number : Nat
  line : LogLine

def maxRecords : Nat := 5000

inductive Rewriter where
  | retention (policy : Policy) (now : Instant)
  | prune

section Passes

variable (env : RetentionEnv)

/-- JSON that has not expired. -/
def survives (cutoff : Instant) : LogLine → Bool
  | .record value => !expires env cutoff value
  | _ => false

/-- What the pass writes back of the lines it has read, if it rewrites the file. -/
def Rewriter.kept : Rewriter → List Entry → Option (List Entry)
  | .retention policy now, seen =>
    match cutoffAt now policy.days, partitionExpired env policy now (seen.map Entry.line) with
    | some cutoff, some split =>
      if split.expired = [] then none
      else some (seen.filter fun entry => survives env cutoff entry.line)
    | _, _ => none
  | .prune, seen =>
    if seen.length ≤ maxRecords then none
    else some (seen.drop (seen.length - maxRecords))

/-- The temporary file: what a pass kept of the lines it had read. -/
structure Temp where
  rewriter : Rewriter
  seen : List Entry
  kept : List Entry
  rewritten : rewriter.kept env seen = some kept

inductive PassState where
  | idle
  | read (rewriter : Rewriter) (seen : List Entry)
  | wrote

structure Log where
  file : List Entry
  /-- How often the file was replaced. -/
  replaced : Nat
  /-- The appends that hold the file open, with the file they opened. -/
  handles : Nat → Option Nat
  passes : Nat → PassState
  temp : Option (Temp env)

inductive Step where
  | openAppend (number : Nat)
  | write (entry : Entry)
  | read (pass : Nat) (rewriter : Rewriter)
  /-- `rolled`: the rollup rows were written, or none were wanted. -/
  | rewrite (pass : Nat) (rolled : Bool)
  | replace (pass : Nat)

variable {env}

namespace Log

def openAppend (log : Log env) (number : Nat) : Log env :=
  { log with handles := Function.update log.handles number (some log.replaced) }

/-- The line goes to the file that was opened, which may have been replaced. -/
def write (log : Log env) (entry : Entry) : Log env :=
  match log.handles entry.number with
  | none => log
  | some opened =>
    { log with
      handles := Function.update log.handles entry.number none
      file := if opened = log.replaced then log.file ++ [entry] else log.file }

def read (log : Log env) (pass : Nat) (rewriter : Rewriter) : Log env :=
  { log with passes := Function.update log.passes pass (.read rewriter log.file) }

def rewrite (log : Log env) (pass : Nat) (rolled : Bool) : Log env :=
  match log.passes pass with
  | .read rewriter seen =>
    match decided : rewriter.kept env seen with
    | some kept =>
      if rolled then
        { log with
          passes := Function.update log.passes pass .wrote
          temp := some { rewriter := rewriter, seen := seen, kept := kept, rewritten := decided } }
      else { log with passes := Function.update log.passes pass .idle }
    | none => { log with passes := Function.update log.passes pass .idle }
  | _ => log

/-- The rename raises when another pass has moved the temporary file away. -/
def replace (log : Log env) (pass : Nat) : Log env :=
  match log.passes pass, log.temp with
  | .wrote, some temp =>
    { log with
      file := temp.kept
      replaced := log.replaced + 1
      passes := Function.update log.passes pass .idle
      temp := none }
  | .wrote, none => { log with passes := Function.update log.passes pass .idle }
  | _, _ => log

def step (log : Log env) : Step → Log env
  | .openAppend number => log.openAppend number
  | .write entry => log.write entry
  | .read pass rewriter => log.read pass rewriter
  | .rewrite pass rolled => log.rewrite pass rolled
  | .replace pass => log.replace pass

/-- A log that no append or pass is working on. -/
def quiet (env : RetentionEnv) (file : List Entry) : Log env where
  file := file
  replaced := 0
  handles _ := none
  passes _ := .idle
  temp := none

end Log

variable (env)

/-- A retention pass drops what has expired and what is no JSON, pruning all but
the newest lines. -/
def Rewriter.Drops : Rewriter → List Entry → Entry → Prop
  | .retention policy now, _, entry =>
    ∃ cutoff, cutoffAt now policy.days = some cutoff ∧ survives env cutoff entry.line = false
  | .prune, seen, entry => entry ∉ seen.drop (seen.length - maxRecords)

variable {env}

/-- The pass whose lines are put in place had read the entry and does not drop it. -/
def Temp.Spares (temp : Temp env) (entry : Entry) : Prop :=
  entry ∈ temp.seen ∧ ¬temp.rewriter.Drops env temp.seen entry

def Log.Spares (entry : Entry) (log : Log env) : Step → Prop
  | .replace pass =>
    ∀ temp, log.passes pass = .wrote → log.temp = some temp → temp.Spares entry
  | _ => True

theorem Temp.mem_kept_iff (temp : Temp env) (entry : Entry) :
    entry ∈ temp.kept ↔ temp.Spares entry := by
  obtain ⟨rewriter, seen, kept, rewritten⟩ := temp
  unfold Temp.Spares
  cases rewriter with
  | retention policy now =>
    simp only [Rewriter.kept, Rewriter.Drops] at rewritten ⊢
    cases cut : cutoffAt now policy.days with
    | none => simp [cut] at rewritten
    | some cutoff =>
      cases split : partitionExpired env policy now (seen.map Entry.line) with
      | none => simp [cut, split] at rewritten
      | some parts =>
        by_cases fresh : parts.expired = []
        · simp [cut, split, fresh] at rewritten
        · simp only [cut, split, if_neg fresh, Option.some.injEq] at rewritten
          rw [← rewritten, List.mem_filter]
          simp
  | prune =>
    simp only [Rewriter.kept, Rewriter.Drops, not_not] at rewritten ⊢
    by_cases short : seen.length ≤ maxRecords
    · simp [if_pos short] at rewritten
    · simp only [if_neg short, Option.some.injEq] at rewritten
      rw [← rewritten]
      constructor
      · intro inside
        exact ⟨List.mem_of_mem_drop inside, inside⟩
      · intro both
        exact both.2

namespace Log

theorem open_append_handle (log : Log env) (number : Nat) :
    (log.openAppend number).handles number = some (log.openAppend number).replaced := by
  simp [openAppend]

theorem read_pass (log : Log env) (pass : Nat) (rewriter : Rewriter) :
    (log.read pass rewriter).passes pass = .read rewriter log.file := by
  simp [read]

theorem write_file (log : Log env) (entry : Entry) : (log.write entry).file =
      if log.handles entry.number = some log.replaced then log.file ++ [entry]
      else log.file := by
  unfold write
  cases held : log.handles entry.number with
  | none => simp
  | some opened =>
    by_cases same : opened = log.replaced
    · simp [same]
    · simp [same]

theorem rewrite_file (log : Log env) (pass : Nat) (rolled : Bool) :
    (log.rewrite pass rolled).file = log.file := by
  unfold rewrite
  split
  · split
    · split_ifs
      · rfl
      · rfl
    · rfl
  · rfl

theorem replace_file (log : Log env) (pass : Nat) :
    (∃ temp, log.passes pass = .wrote ∧ log.temp = some temp ∧
        (log.replace pass).file = temp.kept) ∨
      (∀ temp, log.passes pass = .wrote → log.temp ≠ some temp) ∧
        (log.replace pass).file = log.file := by
  unfold replace
  cases turn : log.passes pass with
  | idle => simp
  | read rewriter seen => simp
  | wrote =>
    cases found : log.temp with
    | none => simp
    | some temp => simp

theorem rewrite_reading {log : Log env} {pass : Nat} {rewriter : Rewriter}
    {seen kept : List Entry} (reading : log.passes pass = .read rewriter seen)
    (decided : rewriter.kept env seen = some kept) :
    log.rewrite pass true =
      { log with
        passes := Function.update log.passes pass .wrote
        temp := some
          { rewriter := rewriter, seen := seen, kept := kept, rewritten := decided } } := by
  unfold rewrite
  split
  · next rewriter' seen' same =>
      obtain ⟨rfl, rfl⟩ := PassState.read.inj (reading.symm.trans same)
      split
      · next kept' decided' =>
          cases decided.symm.trans decided'
          rfl
      · next undecided => cases decided.symm.trans undecided
  · next other => exact absurd reading (other rewriter seen)

theorem step_keeps_iff (entry : Entry) (log : Log env) (move : Step) (inside : entry ∈ log.file) :
    entry ∈ (log.step move).file ↔ log.Spares entry move := by
  cases move with
  | openAppend number => exact iff_of_true inside trivial
  | write other =>
    refine iff_of_true ?_ trivial
    change entry ∈ (log.write other).file
    rw [write_file]
    split_ifs
    · exact List.mem_append_left _ inside
    · exact inside
  | read pass rewriter => exact iff_of_true inside trivial
  | rewrite pass rolled =>
    refine iff_of_true ?_ trivial
    change entry ∈ (log.rewrite pass rolled).file
    rw [rewrite_file]
    exact inside
  | replace pass =>
    change entry ∈ (log.replace pass).file ↔ _
    rcases log.replace_file pass with ⟨temp, wrote, found, put⟩ | ⟨missing, same⟩
    · rw [put, temp.mem_kept_iff]
      constructor
      · intro spares other _ isOther
        rw [found] at isOther
        rwa [← Option.some.inj isOther]
      · intro spares
        exact spares temp wrote found
    · rw [same]
      refine iff_of_true inside ?_
      intro temp wrote found
      exact absurd found (missing temp wrote)

theorem stays_iff (entry : Entry) (start : Log env) (steps : List Step)
    (inside : entry ∈ start.file) :
    (∀ early late, steps = early ++ late → entry ∈ (runInputs step start early).file) ↔
      StepsMeet step (Spares entry) start steps :=
  holds_throughout_iff step (fun log move => step_keeps_iff entry log move) start steps inside

end Log

end Passes

def oldEntry : Entry where
  number := 0
  line := .record (snapshotAt "1970-01-10T10:10:00+00:00")

def youngEntry (number : Nat) : Entry where
  number := number
  line := .record (snapshotAt "1970-01-10T10:50:00+00:00")

/-- A pass at whose cutoff `oldEntry` has expired and a `youngEntry` has not. -/
def halfHourPass : Rewriter :=
  .retention { days := 7, rollup := true } (16 * dayLength + 10 * hourLength + 1800000000)

theorem pruned_after_append (lines : List Entry) (entry : Entry)
    (full : lines.length = maxRecords) :
    (runInputs Log.step (Log.quiet januaryEnv lines)
      [.openAppend entry.number, .write entry, .read 0 .prune, .rewrite 0 true,
        .replace 0]).file = (lines ++ [entry]).drop 1 := by
  let opened := (Log.quiet januaryEnv lines).openAppend entry.number
  let reading := (opened.write entry).read 0 .prune
  change ((reading.rewrite 0 true).replace 0).file = _
  have written : (opened.write entry).file = lines ++ [entry] := by
    rw [Log.write_file, if_pos (Log.open_append_handle _ _)]
    rfl
  have seen : reading.passes 0 = .read .prune (lines ++ [entry]) := by
    rw [← written]
    exact Log.read_pass _ _ _
  have length : (lines ++ [entry]).length = maxRecords + 1 := by
    rw [List.length_append, full]
    rfl
  have decided : Rewriter.prune.kept januaryEnv (lines ++ [entry]) =
      some ((lines ++ [entry]).drop 1) := by
    rw [Rewriter.kept, if_neg (by omega), length, Nat.add_sub_cancel_left]
  rw [Log.rewrite_reading seen decided]
  simp [Log.replace]

theorem first_listed (count : Nat) (nonempty : 0 < count) :
    youngEntry 0 ∈ (Log.quiet januaryEnv ((List.range count).map youngEntry)).file :=
  List.mem_map_of_mem (List.mem_range.mpr nonempty)

theorem first_pruned (count : Nat) (full : count = maxRecords) : youngEntry 0 ∉ (runInputs Log.step
      (Log.quiet januaryEnv ((List.range count).map youngEntry))
      [.openAppend count, .write (youngEntry count), .read 0 .prune, .rewrite 0 true,
        .replace 0]).file := by
  have pruned := pruned_after_append ((List.range count).map youngEntry) (youngEntry count)
    (by rw [List.length_map, List.length_range, full])
  have renumbered : (List.range count).map youngEntry ++ [youngEntry count] =
      youngEntry 0 :: (List.range count).map (youngEntry ∘ Nat.succ) := by
    have last := @List.map_append _ _ youngEntry (List.range count) [count]
    rw [← List.range_succ, List.range_succ_eq_map] at last
    rw [List.map_singleton] at last
    rw [← last, List.map_cons, List.map_map]
  change youngEntry 0 ∉ (runInputs Log.step _
    [.openAppend (youngEntry count).number, .write (youngEntry count), _, _, _]).file
  rw [pruned, renumbered]
  intro inside
  obtain ⟨number, _, same⟩ := List.mem_map.mp inside
  exact absurd (congrArg Entry.number same) (Nat.succ_ne_zero number)

end AiEnterpriseOs.Telemetry.SharedLog
