import AiEnterpriseOs.Events.Models
import AiEnterpriseOs.Library.Outcome
import AiEnterpriseOs.Library.Runs
import Mathlib.Algebra.GroupWithZero.Nat
import Mathlib.Data.List.Basic

/-!
# The event store

Events are appended to a file of JSON lines. A write that would grow the file
beyond its limit first renames it to an archive named by the local time in
seconds; the rename replaces an archive of that name.
-/

namespace AiEnterpriseOs.Events

open Library

/-- A line of the file as a reader takes it. A JSON object may be an event, an
envelope or neither. -/
inductive StoreLine where
  | event (event : Event)
  | envelope (event : Event)
  | object
  | value
  | malformed
  | blank

/-- The filters of `load_events`. -/
structure EventQuery where
  since : Option Int
  «until» : Option Int
  eventTypes : List EventType
  sourceFilter : Option String
  limit : Int

def EventQuery.selects (query : EventQuery) (event : Event) : Bool :=
  query.since.all (fun earliest => earliest ≤ event.metadata.timestamp) &&
    query.«until».all (fun latest => event.metadata.timestamp ≤ latest) &&
    (query.eventTypes.isEmpty ||
      event.metadata.eventType.value ∈ query.eventTypes.map EventType.value) &&
    query.sourceFilter.all fun source => source = "" || event.metadata.source = source

structure EventPersistence where
  file : Option (List StoreLine)
  /-- The archives with the second in their name, in the order of rotation. -/
  archives : List (Nat × List StoreLine)
  currentSize : Nat
  maxFileSizeBytes : Int

namespace EventPersistence

section Operations

variable (lineSize : StoreLine → Nat)

/-- The store object over what is on disk. -/
def create (file : Option (List StoreLine)) (archives : List (Nat × List StoreLine))
    (maxFileSizeBytes : Int) : EventPersistence where
  file := file
  archives := archives
  currentSize := ((file.getD []).map lineSize).sum
  maxFileSizeBytes := maxFileSizeBytes

def rotate (store : EventPersistence) (now : Nat) : Outcome EventPersistence :=
  match store.file with
  | none => .raising store
  | some lines =>
    .returning
      { store with
        file := none
        archives := store.archives.filter (fun archive => archive.1 ≠ now) ++ [(now, lines)]
        currentSize := 0 }

def append (store : EventPersistence) (line : StoreLine) : EventPersistence :=
  { store with
    file := some (store.file.getD [] ++ [line])
    currentSize := store.currentSize + lineSize line }

/-- The line fits into the file at its present size. -/
def Fits (store : EventPersistence) (line : StoreLine) : Prop :=
  ((store.currentSize + lineSize line : Nat) : Int) ≤ store.maxFileSizeBytes

instance (store : EventPersistence) (line : StoreLine) : Decidable (store.Fits lineSize line) :=
  inferInstanceAs (Decidable (((store.currentSize + lineSize line : Nat) : Int) ≤
    store.maxFileSizeBytes))

def writeRecord (store : EventPersistence) (line : StoreLine) (now : Nat) :
    Outcome EventPersistence :=
  (if store.Fits lineSize line then .returning store else store.rotate now).andThen
    fun store => .returning (store.append lineSize line)

def persist (store : EventPersistence) (event : Event) (now : Nat) :
    Outcome EventPersistence :=
  store.writeRecord lineSize (.event event) now

def persistEnvelope (store : EventPersistence) (event : Event) (now : Nat) :
    Outcome EventPersistence :=
  store.writeRecord lineSize (.envelope event) now

/-- The loop of `load_events` over the lines; a value that is no object raises. -/
def loadLoop (query : EventQuery) : List StoreLine → List Event → Option (List Event)
  | [], events => some events
  | .value :: _, _ => none
  | .event event :: rest, events =>
    if query.selects event then
      if query.limit ≤ (events ++ [event]).length then some (events ++ [event])
      else loadLoop query rest (events ++ [event])
    else loadLoop query rest events
  | _ :: rest, events => loadLoop query rest events

def loadEvents (store : EventPersistence) (query : EventQuery) : Option (List Event) :=
  match store.file with
  | none => some []
  | some lines => loadLoop query lines []

def countEvents (store : EventPersistence) : Nat :=
  (store.file.getD []).countP fun
    | .blank => false
    | _ => true

/-- Everything on disk: the archives as they were rotated, then the file. -/
def records (store : EventPersistence) : List StoreLine :=
  store.archives.flatMap Prod.snd ++ store.file.getD []

end Operations

end EventPersistence

section Conservation

theorem length_flat_map_filter_le {Item Part : Type*} (keep : Item → Bool)
    (parts : Item → List Part) (items : List Item) :
    ((items.filter keep).flatMap parts).length ≤ (items.flatMap parts).length := by
  induction items with
  | nil => exact Nat.le_refl 0
  | cons item rest ih =>
    rw [List.filter_cons]
    split <;> simp only [List.flatMap_cons, List.length_append] <;> omega

theorem flat_map_filter_eq_iff {Item Part : Type*} (keep : Item → Bool)
    (parts : Item → List Part) (items : List Item) :
    (items.filter keep).flatMap parts = items.flatMap parts ↔
      ∀ item ∈ items, keep item = false → parts item = [] := by
  induction items with
  | nil => simp
  | cons item rest ih =>
    rw [List.forall_mem_cons, ← ih]
    by_cases kept : keep item = true
    · rw [List.filter_cons_of_pos kept, List.flatMap_cons, List.flatMap_cons, List.append_right_inj]
      simp [kept]
    · rw [List.filter_cons_of_neg kept, List.flatMap_cons]
      have dropped : keep item = false := by simpa using kept
      constructor
      · intro same
        have shorter := length_flat_map_filter_le keep parts rest
        have noParts : parts item = [] := by
          rw [same, List.length_append] at shorter
          exact List.eq_nil_of_length_eq_zero (by omega)
        exact ⟨fun _ => noParts, by rw [same, noParts, List.nil_append]⟩
      · intro empty
        rw [empty.1 dropped, List.nil_append, empty.2]

/-- One call of `persist`: its record, and the second in which it runs. -/
structure Write where
  line : StoreLine
  now : Nat

/-- A store with the records that were persisted and whether a call raised. -/
structure PersistRun where
  store : EventPersistence
  persisted : List StoreLine
  failed : Bool

namespace PersistRun

variable (lineSize : StoreLine → Nat)

def start (store : EventPersistence) : PersistRun where
  store := store
  persisted := []
  failed := false

def step (run : PersistRun) (write : Write) : PersistRun :=
  let outcome := run.store.writeRecord lineSize write.line write.now
  if outcome.returned then
    { run with store := outcome.state, persisted := run.persisted ++ [write.line] }
  else { run with store := outcome.state, failed := true }

/-- No call raised, and the disk holds what it held and each persisted record
once, in order. -/
def Conserved (initial : EventPersistence) (run : PersistRun) : Prop :=
  run.failed = false ∧ run.store.records = initial.records ++ run.persisted

/-- The record fits, or the file can be rotated away without replacing an
archive that holds records. -/
def KeepsRecords (run : PersistRun) (write : Write) : Prop :=
  run.store.Fits lineSize write.line ∨ run.store.file.isSome = true ∧
      ∀ archive ∈ run.store.archives, archive.1 = write.now → archive.2 = []

theorem append_records (store : EventPersistence) (line : StoreLine) :
    (store.append lineSize line).records = store.records ++ [line] := by
  rw [EventPersistence.records, EventPersistence.append, EventPersistence.records,
    Option.getD_some, List.append_assoc]

theorem rotated_records (store : EventPersistence) (now : Nat) (lines : List StoreLine)
    (present : store.file = some lines) :
    (store.rotate now).state.records = store.records ↔
      ∀ archive ∈ store.archives, archive.1 = now → archive.2 = [] := by
  rw [EventPersistence.rotate, present]
  simp only [EventPersistence.records, Outcome.returning_state, present, Option.getD_some,
    Option.getD_none, List.append_nil, List.flatMap_append, List.flatMap_singleton,
    List.append_left_inj, flat_map_filter_eq_iff, decide_eq_false_iff_not, not_not, ne_eq]

theorem conserved_step (initial : EventPersistence) (run : PersistRun) (write : Write)
    (conserved : Conserved initial run) :
    Conserved initial (run.step lineSize write) ↔ run.KeepsRecords lineSize write := by
  obtain ⟨returned, held⟩ := conserved
  rw [step, EventPersistence.writeRecord, KeepsRecords]
  by_cases fits : run.store.Fits lineSize write.line
  · refine iff_of_true ⟨?_, ?_⟩ (.inl fits)
    · rw [if_pos fits]
      exact returned
    · rw [if_pos fits]
      show (run.store.append lineSize write.line).records = _
      rw [append_records, held, List.append_assoc]
      rfl
  · rw [if_neg fits]
    cases present : run.store.file with
    | none =>
      refine iff_of_false ?_ ?_
      · intro after
        rw [EventPersistence.rotate, present] at after
        cases after.1
      · simp [fits]
    | some lines =>
      have rotated := rotated_records run.store write.now lines present
      have returns : (run.store.rotate write.now).returned = true := by
        rw [EventPersistence.rotate, present]
        rfl
      rw [Outcome.andThen, if_pos returns, Outcome.returning_returned, if_pos rfl]
      simp only [Conserved, Outcome.returning_state, append_records, ← List.append_assoc,
        List.append_left_inj, ← held, rotated, returned, fits, Option.isSome_some, true_and,
        false_or]

end PersistRun

/-- A run of persists keeps every record exactly when each that does not fit
finds a file to rotate and no archive of its second with records. -/
theorem log_conserved_iff (lineSize : StoreLine → Nat) (store : EventPersistence)
    (writes : List Write) :
    (∀ early late, writes = early ++ late →
        (runInputs (PersistRun.step lineSize) (.start store) early).Conserved store) ↔
      StepsMeet (PersistRun.step lineSize) (PersistRun.KeepsRecords lineSize) (.start store)
        writes :=
  holds_throughout_iff _ (PersistRun.conserved_step lineSize store) (.start store) writes
    ⟨rfl, (List.append_nil _).symm⟩

/-- A first record larger than the limit finds no file to rotate, and a second
rotation within one second replaces the archive of the first. -/
theorem rotations_lose_records :
    let line : String → StoreLine := fun eventId => .event (.sample eventId "test" .normal)
    let first := runInputs (PersistRun.step fun _ => 300)
      (.start (.create (fun _ => 300) none [] 256)) [⟨line "a", 7⟩]
    let second := runInputs (PersistRun.step fun _ => 200)
      (.start (.create (fun _ => 200) none [] 256))
      [⟨line "a", 7⟩, ⟨line "b", 7⟩, ⟨line "c", 7⟩]
    (first.failed = true ∧ ¬first.Conserved (.create (fun _ => 300) none [] 256)) ∧
      second.persisted.length = 3 ∧ second.store.records.length = 2 ∧
      ¬second.Conserved (.create (fun _ => 200) none [] 256) := by
  intro line first second
  have failed : first.failed = true := by decide +kernel
  have persisted : second.persisted.length = 3 := by decide +kernel
  have left : second.store.records.length = 2 := by decide +kernel
  refine ⟨⟨failed, fun conserved => ?_⟩, persisted, left, fun conserved => ?_⟩
  · rw [conserved.1] at failed
    cases failed
  · have same := congrArg List.length conserved.2
    rw [List.length_append, persisted, left] at same
    omega

end Conservation

end AiEnterpriseOs.Events
