import AiEnterpriseOs.Library.OrderedDict
import AiEnterpriseOs.Library.Runs
import AiEnterpriseOs.Library.TextLines
import Mathlib.Logic.Function.Basic

/-!
# The file writer

A write first copies what stands at its destination beside it, under a name with the
second of the clock. One copy for each destination is remembered for the rollback.
-/

namespace AiEnterpriseOs.Generator

open Library

/-- What the writer uses of its libraries: the name of an instant and the checksum. -/
structure WriterEnv where
  strftime : Int → String
  md5 : List Char → String

structure BackupInfo where
  backupPath : String
  checksum : String

structure FileWriter where
  checksumEnabled : Bool
  dryRun : Bool
  files : Files
  backups : OrderedDict String BackupInfo
  checksums : OrderedDict String String

/-- The arguments of `write`, its destination resolved, and the clock at the backup. -/
structure WriteCall where
  content : List Char
  destination : String
  now : Int

namespace FileWriter

variable (env : WriterEnv) (writer : FileWriter)

/-- A writer at the start, with the files as they are. -/
def opened (checksumEnabled dryRun : Bool) (files : Files) : FileWriter :=
  { checksumEnabled := checksumEnabled
    dryRun := dryRun
    files := files
    backups := OrderedDict.empty
    checksums := OrderedDict.empty }

def putText (path : String) (content : List Char) : FileWriter :=
  { writer with files := Function.update writer.files path (.file (.text content)) }

/-- `file_path.parent / f"{file_path.name}.{timestamp}.backup"`. -/
def backupPath (path : String) (now : Int) : String :=
  path ++ "." ++ env.strftime now ++ ".backup"

/-- `_create_backup`, which only logs what it raises. -/
def createBackup (path : String) (now : Int) : FileWriter :=
  match writer.files path with
  | .absent => writer
  | .unreadable => writer
  | .file held =>
    match held.readText with
    | none => writer
    | some content =>
      let copy := backupPath env path now
      if writer.files copy = .unreadable then writer
      else
        { writer.putText copy content with
          backups := writer.backups.set path { backupPath := copy, checksum := env.md5 content } }

/-- The file is there and has the checksum of the content. -/
def unchanged (call : WriteCall) : Bool :=
  writer.files call.destination ≠ .absent && (match writer.checksums.get? call.destination with
    | some checksum => checksum ≠ "" && checksum = env.md5 call.content
    | none => false)

/-- The writer after `write`, with backups enabled. -/
def write (call : WriteCall) : FileWriter :=
  if writer.unchanged env call then writer
  else
    let backed := writer.createBackup env call.destination call.now
    if backed.dryRun then backed
    else if backed.files call.destination = .unreadable then backed
    else
      let written := backed.putText call.destination call.content
      if written.checksumEnabled then
        { written with
          checksums := written.checksums.set call.destination (env.md5 call.content) }
      else written

/-- `rollback_file`, which only logs what it raises. -/
def rollbackFile (path : String) : FileWriter :=
  match writer.backups.get? path with
  | none => writer
  | some info =>
    match writer.files info.backupPath with
    | .absent => writer
    | .unreadable => writer
    | .file held =>
      match held.readText with
      | none => writer
      | some content =>
        if writer.files path = .unreadable then writer
        else
          { writer.putText path content with
            checksums := writer.checksums.set path
              (if info.checksum = "" then env.md5 content else info.checksum) }

def rollbackAll : FileWriter := runInputs (rollbackFile env) writer writer.backups.keys

def writeAll (calls : List WriteCall) : FileWriter := runInputs (write env) writer calls

/-- Every file of before the first write has its content again. -/
def Restored (before : Files) : Prop :=
  ∀ path content, before path = .file content → writer.files path = .file content

/-! ## Rolling back -/

section Rollback

variable {env} {writer}

theorem rollback_file_cases (path : String) :
    writer.rollbackFile env path = writer ∨ ∃ content checksums, writer.rollbackFile env path =
        { writer.putText path content with checksums := checksums } := by
  rw [rollbackFile]
  split
  · exact .inl rfl
  · split
    · exact .inl rfl
    · exact .inl rfl
    · split
      · exact .inl rfl
      · split
        · exact .inl rfl
        · exact .inr ⟨_, _, rfl⟩

theorem rollback_file_backups (path : String) :
    (writer.rollbackFile env path).backups = writer.backups := by
  rcases rollback_file_cases path with nothing | ⟨content, checksums, wrote⟩
  · rw [nothing]
  · rw [wrote]
    rfl

theorem rollback_file_elsewhere {path other : String} (different : other ≠ path) :
    (writer.rollbackFile env path).files other = writer.files other := by
  rcases rollback_file_cases path with nothing | ⟨content, checksums, wrote⟩
  · rw [nothing]
  · rw [wrote]
    exact Function.update_of_ne different _ _

theorem rollback_file_here {path : String} {info : BackupInfo} {chars : List Char}
    (recorded : writer.backups.get? path = some info)
    (copied : writer.files info.backupPath = .file (.text chars)) (clean : '\r' ∉ chars)
    (there : writer.files path ≠ .unreadable) :
    (writer.rollbackFile env path).files path = .file (.text chars) := by
  simp only [rollbackFile, recorded, copied, FileContent.readText,
    (newlines_eq_self_iff chars).mpr clean, if_neg there]
  exact Function.update_self _ _ _

theorem rollbacks_elsewhere {path : String} (paths : List String) (outside : path ∉ paths) :
    (runInputs (rollbackFile env) writer paths).files path = writer.files path := by
  induction paths generalizing writer with
  | nil => rfl
  | cons first rest ih =>
    obtain ⟨different, later⟩ := not_or.mp (List.mem_cons.not.mp outside)
    rw [run_inputs_cons, ih later, rollback_file_elsewhere different]

theorem rollbacks_here {path : String} {info : BackupInfo} {chars : List Char}
    (paths : List String) (listed : path ∈ paths) (apart : info.backupPath ∉ paths)
    (recorded : writer.backups.get? path = some info)
    (copied : writer.files info.backupPath = .file (.text chars)) (clean : '\r' ∉ chars)
    (there : writer.files path ≠ .unreadable) :
    (runInputs (rollbackFile env) writer paths).files path = .file (.text chars) := by
  induction paths generalizing writer with
  | nil => cases listed
  | cons first rest ih =>
    obtain ⟨other, later⟩ := not_or.mp (List.mem_cons.not.mp apart)
    have still : (writer.rollbackFile env first).backups.get? path = some info := by
      rw [rollback_file_backups, recorded]
    have kept : (writer.rollbackFile env first).files info.backupPath = .file (.text chars) := by
      rw [rollback_file_elsewhere other, copied]
    rw [run_inputs_cons]
    by_cases here : path = first
    · have back : (writer.rollbackFile env first).files path = .file (.text chars) := by
        rw [← here]
        exact rollback_file_here recorded copied clean there
      by_cases again : path ∈ rest
      · exact ih again later still kept (by rw [back]; nofun)
      · rw [rollbacks_elsewhere rest again, back]
    · rcases List.mem_cons.mp listed with same | member
      · exact absurd same here
      · exact ih member later still kept (by rw [rollback_file_elsewhere here]; exact there)

end Rollback

/-! ## Writing so that it can be undone -/

section Undo

/-- What has been kept of the files of before: those without a copy stand as they were, and
the copies of the others hold their texts, apart from all that is rolled back. -/
structure Undoable (before files : Files) (backups : OrderedDict String BackupInfo) : Prop where
  there : ∀ path content, before path = .file content → ∃ held, files path = .file held
  stands : ∀ path content, before path = .file content → backups.get? path = none →
    files path = .file content
  copied : ∀ path content info, before path = .file content →
    backups.get? path = some info → ∃ chars, content = .text chars ∧ '\r' ∉ chars ∧
      files info.backupPath = .file (.text chars)
  apart : ∀ path info, backups.get? path = some info → info.backupPath ∉ backups.keys ∧
    (∃ held, files info.backupPath = .file held) ∧
    ∀ content, before info.backupPath ≠ .file content

/-- The path is that of a remembered copy. -/
def IsCopy (backups : OrderedDict String BackupInfo) (path : String) : Prop :=
  ∃ other info, backups.get? other = some info ∧ info.backupPath = path

/-- The write changes a file that has not been changed before, whose text can be copied, and
nothing else that is needed. -/
structure SafeChange (env : WriterEnv) (before : Files) (writer : FileWriter)
    (call : WriteCall) : Prop where
  noCopy : ¬IsCopy writer.backups call.destination
  notRolledBack : backupPath env call.destination call.now ∉ writer.backups.keys
  ownCopy : ∀ other info, writer.backups.get? other = some info →
    info.backupPath = backupPath env call.destination call.now → other = call.destination
  newName : ∀ content, before (backupPath env call.destination call.now) ≠ .file content
  original : ∀ content, before call.destination = .file content →
    writer.files call.destination = .file content ∧
      (∃ chars, content = .text chars ∧ '\r' ∉ chars) ∧
      writer.files (backupPath env call.destination call.now) ≠ .unreadable

/-- The write is skipped, or makes a new file, or changes a file safely. -/
def SafeWrite (env : WriterEnv) (before : Files) (writer : FileWriter) (call : WriteCall) :
    Prop :=
  writer.unchanged env call = true ∨ (∀ held, writer.files call.destination ≠ .file held) ∨
    SafeChange env before writer call

variable {env : WriterEnv} {before : Files} {writer : FileWriter}

theorem opened_undoable (before : Files) :
    Undoable before before (OrderedDict.empty : OrderedDict String BackupInfo) where
  there := fun _ content standing => ⟨content, standing⟩
  stands := fun _ _ standing _ => standing
  copied := nofun
  apart := nofun

theorem rollback_all_restores (undoable : Undoable before writer.files writer.backups) :
    (writer.rollbackAll env).Restored before := by
  intro path content standing
  rw [rollbackAll]
  cases recorded : writer.backups.get? path with
  | none =>
    have outside : path ∉ writer.backups.keys := by
      intro listed
      obtain ⟨info, found⟩ := (OrderedDict.mem_keys_iff writer.backups path).mp listed
      rw [recorded] at found
      cases found
    rw [rollbacks_elsewhere _ outside]
    exact undoable.stands path content standing recorded
  | some info =>
    obtain ⟨chars, same, clean, copied⟩ := undoable.copied path content info standing recorded
    obtain ⟨held, there⟩ := undoable.there path content standing
    rw [same]
    exact rollbacks_here _ ((OrderedDict.mem_keys_iff writer.backups path).mpr ⟨info, recorded⟩)
      (undoable.apart path info recorded).1 recorded copied clean (by rw [there]; nofun)

theorem put_text_undoable {files : Files} {backups : OrderedDict String BackupInfo}
    (undoable : Undoable before files backups) (path : String) (content : List Char)
    (noCopy : ¬IsCopy backups path)
    (remembered : ∀ held, before path = .file held → backups.get? path ≠ none) :
    Undoable before (Function.update files path (.file (.text content))) backups := by
  have copies : ∀ other info, backups.get? other = some info →
      Function.update files path (.file (.text content)) info.backupPath =
        files info.backupPath := by
    intro other info recorded
    exact Function.update_of_ne (fun same => noCopy ⟨other, info, recorded, same⟩) _ _
  constructor
  · intro other held standing
    by_cases here : other = path
    · rw [here, Function.update_self]
      exact ⟨_, rfl⟩
    · rw [Function.update_of_ne here]
      exact undoable.there other held standing
  · intro other held standing unknown
    have different : other ≠ path := by
      intro same
      rw [same] at standing unknown
      exact remembered held standing unknown
    rw [Function.update_of_ne different]
    exact undoable.stands other held standing unknown
  · intro other held info standing recorded
    rw [copies other info recorded]
    exact undoable.copied other held info standing recorded
  · intro other info recorded
    rw [copies other info recorded]
    exact undoable.apart other info recorded

theorem backup_path_ne (path : String) (now : Int) : backupPath env path now ≠ path := by
  intro same
  have lengths := congrArg String.length same
  rw [backupPath, String.length_append, String.length_append, String.length_append] at lengths
  have dot : ".".length = 1 := rfl
  omega

theorem backed_up_undoable {files : Files} {backups : OrderedDict String BackupInfo}
    {path copy : String} {content : List Char} (checksum : String)
    (undoable : Undoable before files backups) (different : copy ≠ path)
    (noCopy : ¬IsCopy backups path) (notRolledBack : copy ∉ backups.keys)
    (ownCopy : ∀ other info, backups.get? other = some info → info.backupPath = copy → other = path)
    (newName : ∀ held, before copy ≠ .file held)
    (original : ∀ held, before path = .file held → held = .text content ∧ '\r' ∉ content) :
    Undoable before (Function.update files copy (.file (.text content)))
      (backups.set path { backupPath := copy, checksum := checksum }) := by
  have elsewhere : ∀ other held, before other = .file held → other ≠ copy := by
    intro other held standing same
    rw [same] at standing
    exact newName held standing
  constructor
  · intro other held standing
    rw [Function.update_of_ne (elsewhere other held standing)]
    exact undoable.there other held standing
  · intro other held standing unknown
    rw [OrderedDict.get_set] at unknown
    split at unknown
    · cases unknown
    · rw [Function.update_of_ne (elsewhere other held standing)]
      exact undoable.stands other held standing unknown
  · intro other held info standing recorded
    rw [OrderedDict.get_set] at recorded
    split at recorded
    next same =>
      rw [same] at standing
      rw [← Option.some.inj recorded, Function.update_self]
      obtain ⟨text, clean⟩ := original held standing
      exact ⟨content, text, clean, rfl⟩
    next other_path =>
      rw [Function.update_of_ne fun same => other_path (ownCopy other info recorded same)]
      exact undoable.copied other held info standing recorded
  · intro other info recorded
    have keys : ∀ name, name ∈ (backups.set path
        { backupPath := copy, checksum := checksum }).keys ↔ name ∈ backups.keys ∨ name = path :=
      fun name => by rw [OrderedDict.mem_keys_set, or_comm]
    rw [OrderedDict.get_set] at recorded
    split at recorded
    next same =>
      rw [← Option.some.inj recorded, keys, Function.update_self]
      exact ⟨not_or.mpr ⟨notRolledBack, different⟩, ⟨_, rfl⟩, newName⟩
    next other_path =>
      obtain ⟨outside, held, absent⟩ := undoable.apart other info recorded
      refine ⟨?_, ?_, absent⟩
      · rw [keys]
        exact not_or.mpr ⟨outside, fun same => noCopy ⟨other, info, recorded, same⟩⟩
      · rw [Function.update_of_ne fun same => other_path (ownCopy other info recorded same)]
        exact held

theorem create_backup_undoable {call : WriteCall}
    (undoable : Undoable before writer.files writer.backups)
    (safe : SafeChange env before writer call) :
    let backed := writer.createBackup env call.destination call.now
    Undoable before backed.files backed.backups ∧ ¬IsCopy backed.backups call.destination ∧
      ∀ held, before call.destination = .file held →
        backed.backups.get? call.destination ≠ none := by
  dsimp only
  have failed : (∀ held, before call.destination ≠ .file held) →
      Undoable before writer.files writer.backups ∧ ¬IsCopy writer.backups call.destination ∧
        ∀ held, before call.destination = .file held →
          writer.backups.get? call.destination ≠ none :=
    fun fresh => ⟨undoable, safe.noCopy, fun held standing => absurd standing (fresh held)⟩
  rw [createBackup]
  cases standing : writer.files call.destination with
  | absent =>
    apply failed
    intro held was
    exact FileState.noConfusion (standing.symm.trans (safe.original held was).1)
  | unreadable =>
    apply failed
    intro held was
    exact FileState.noConfusion (standing.symm.trans (safe.original held was).1)
  | file held =>
    have same : ∀ content, before call.destination = .file content → held = content := by
      intro content was
      exact FileState.file.inj (standing.symm.trans (safe.original content was).1)
    dsimp only
    cases read : held.readText with
    | none =>
      apply failed
      intro content was
      obtain ⟨chars, text, _⟩ := (safe.original content was).2.1
      rw [same content was, text] at read
      cases read
    | some content =>
      dsimp only
      split
      next blocked =>
        apply failed
        exact fun held was => (safe.original held was).2.2 blocked
      next free =>
        refine ⟨backed_up_undoable _ undoable (backup_path_ne _ _) safe.noCopy
          safe.notRolledBack safe.ownCopy safe.newName ?_, ?_, ?_⟩
        · intro kept was
          obtain ⟨chars, text, clean⟩ := (safe.original kept was).2.1
          rw [same kept was, text, FileContent.readText,
            (newlines_eq_self_iff chars).mpr clean] at read
          rw [text, Option.some.inj read]
          exact ⟨rfl, by rw [← Option.some.inj read]; exact clean⟩
        · intro copy
          obtain ⟨other, info, recorded, path⟩ := copy
          rw [OrderedDict.get_set] at recorded
          split at recorded
          · rw [← Option.some.inj recorded] at path
            exact backup_path_ne _ _ path
          · exact safe.noCopy ⟨other, info, recorded, path⟩
        · intro kept was
          rw [OrderedDict.get_set_self]
          exact Option.some_ne_none _

theorem write_undoable_of_backed {call : WriteCall}
    (undoable : Undoable before (writer.createBackup env call.destination call.now).files
      (writer.createBackup env call.destination call.now).backups)
    (noCopy : ¬IsCopy (writer.createBackup env call.destination call.now).backups call.destination)
    (remembered : ∀ held, before call.destination = .file held →
      (writer.createBackup env call.destination call.now).backups.get? call.destination ≠ none)
    (changes : ¬writer.unchanged env call = true) :
    Undoable before (writer.write env call).files (writer.write env call).backups := by
  have written := put_text_undoable undoable call.destination call.content noCopy remembered
  rw [write, if_neg changes]
  dsimp only
  split
  · exact undoable
  · split
    · exact undoable
    · split
      · exact written
      · exact written

theorem write_undoable {call : WriteCall} (undoable : Undoable before writer.files writer.backups)
    (safe : SafeWrite env before writer call) :
    Undoable before (writer.write env call).files (writer.write env call).backups := by
  by_cases skipped : writer.unchanged env call = true
  · rw [write, if_pos skipped]
    exact undoable
  · rcases safe with again | fresh | changed
    · exact absurd again skipped
    · have backed : writer.createBackup env call.destination call.now = writer := by
        rw [createBackup]
        split
        · rfl
        · rfl
        next held standing => exact absurd standing (fresh held)
      apply write_undoable_of_backed _ _ _ skipped
      · rw [backed]
        exact undoable
      · rw [backed]
        intro copy
        obtain ⟨other, info, recorded, path⟩ := copy
        obtain ⟨held, standing⟩ := (undoable.apart other info recorded).2.1
        rw [path] at standing
        exact fresh held standing
      · intro held was
        obtain ⟨other, standing⟩ := undoable.there _ held was
        exact absurd standing (fresh other)
    · obtain ⟨kept, noCopy, remembered⟩ := create_backup_undoable undoable changed
      exact write_undoable_of_backed kept noCopy remembered skipped

/-- In every run whose writes are safe, all files of before can be rolled back after each
write. -/
theorem safe_writes_roll_back (env : WriterEnv) (checksumEnabled dryRun : Bool)
    (before : Files) (calls : List WriteCall)
    (safe : StepsMeet (write env) (SafeWrite env before) (opened checksumEnabled dryRun before)
      calls) :
    ((writeAll env (opened checksumEnabled dryRun before) calls).rollbackAll env).Restored
      before := by
  have kept : ∀ (writer : FileWriter) (call : WriteCall),
      Undoable before writer.files writer.backups → SafeWrite env before writer call →
        Undoable before (writer.write env call).files (writer.write env call).backups :=
    fun _ _ undoable safe => write_undoable undoable safe
  apply rollback_all_restores
  exact @invariant_of_steps_meet _ _ (write env)
    (fun writer => Undoable before writer.files writer.backups) _ kept
    (opened checksumEnabled dryRun before) calls (opened_undoable before) safe

end Undo

def oneFile (path : String) (content : List Char) : Files := fun other =>
  if other = path then .file (.text content) else .absent

def exampleEnv : WriterEnv :=
  { strftime := fun now => toString now, md5 := fun content => String.ofList content }

/-- A new text over the file that stands is safe. -/
theorem single_write_rolls_back :
    StepsMeet (write exampleEnv) (SafeWrite exampleEnv (oneFile "a" ['x']))
        (opened true false (oneFile "a" ['x'])) [⟨['y'], "a", 0⟩] ∧
      ((writeAll exampleEnv (opened true false (oneFile "a" ['x']))
        [⟨['y'], "a", 0⟩]).rollbackAll exampleEnv).Restored (oneFile "a" ['x']) := by
  have safe : StepsMeet (write exampleEnv) (SafeWrite exampleEnv (oneFile "a" ['x']))
      (opened true false (oneFile "a" ['x'])) [⟨['y'], "a", 0⟩] := by
    refine ⟨.inr (.inr ?_), trivial⟩
    constructor
    · nofun
    · exact List.not_mem_nil
    · nofun
    · intro content
      have absent : oneFile "a" ['x'] (backupPath exampleEnv "a" 0) = .absent := by decide
      rw [absent]
      nofun
    · intro content standing
      refine ⟨standing, ⟨['x'], (FileState.file.inj standing).symm, by decide⟩, ?_⟩
      decide
  exact ⟨safe, safe_writes_roll_back exampleEnv true false (oneFile "a" ['x']) _ safe⟩

/-- The copy of a second write replaces that of the first. -/
theorem second_write_loses_original : ¬((writeAll exampleEnv (opened true false (oneFile "a" ['x']))
      [⟨['y'], "a", 0⟩, ⟨['z'], "a", 1⟩]).rollbackAll exampleEnv).Restored (oneFile "a" ['x']) := by
  intro restored
  have back := restored "a" (.text ['x']) (by decide)
  revert back
  decide

end FileWriter

end AiEnterpriseOs.Generator
