import AiEnterpriseOs.Events.Bus
import AiEnterpriseOs.Library.Outcome
import AiEnterpriseOs.Library.Runs

/-!
# Durability of the dead letters

The queue appends what it adds and rewrites its file when it removes. The limit
trims the records in memory, and the file keeps what was trimmed.
-/

namespace AiEnterpriseOs.Events

open Library

/-- How an event is written: `none` where it cannot be dumped, otherwise what its line
loads as. -/
abbrev EventCodec := Event → Option (Option Event)

/-- The operations on the queue, with the clock that `cleanup` reads. -/
inductive DeadLetterOperation where
  | add (record : DeadLetterRecord)
  | pop (count : Int)
  | remove (eventId : String)
  | cleanup (now : Int)
  | clear

def DeadLetterRecord.isFor (eventId : String) (record : DeadLetterRecord) : Bool :=
  record.event.metadata.eventId = eventId

namespace DeadLetterQueue

section Operations

variable (codec : EventCodec) (ttlDays : Int)

/-- The line of a record. The envelope is not written. -/
def recordLine (record : DeadLetterRecord) : Option (Option DeadLetterRecord) :=
  (codec record.event).map fun loaded =>
    loaded.map fun event => { record with event := event, lastEnvelope := none }

def writeRecord (record : DeadLetterRecord) (queue : DeadLetterQueue) :
    Outcome DeadLetterQueue :=
  match recordLine codec record with
  | none => .raising queue
  | some line => .returning { queue with file := some (queue.file.getD [] ++ [line]) }

/-- The file is emptied first; a record that cannot be dumped ends the rewriting. -/
def rewrite (queue : DeadLetterQueue) : Outcome DeadLetterQueue :=
  Outcome.forEach (writeRecord codec) queue.records { queue with file := some [] }

/-- `add`; the limit is enforced only after the record has been written. -/
def addRecord (record : DeadLetterRecord) (queue : DeadLetterQueue) :
    Outcome DeadLetterQueue :=
  (writeRecord codec record { queue with records := queue.records ++ [record] }).andThen
    fun written => .returning written.enforceMax

def popRecords (count : Int) (queue : DeadLetterQueue) : Outcome DeadLetterQueue :=
  rewrite codec { queue with records := queue.records.drop (queue.cut count) }

def removeRecord (eventId : String) (queue : DeadLetterQueue) : Outcome DeadLetterQueue :=
  if queue.records.any (DeadLetterRecord.isFor eventId) then
    rewrite codec { queue with records := queue.records.eraseP (DeadLetterRecord.isFor eventId) }
  else .returning queue

def unexpired (now : Int) (queue : DeadLetterQueue) : List DeadLetterRecord :=
  queue.records.filter fun record => now - ttlDays * 86400000000 < record.failedAt

def cleanup (now : Int) (queue : DeadLetterQueue) : Outcome DeadLetterQueue :=
  if (queue.unexpired ttlDays now).length < queue.records.length then
    rewrite codec { queue with records := queue.unexpired ttlDays now }
  else .returning queue

def clear (queue : DeadLetterQueue) : DeadLetterQueue :=
  { queue with records := [], file := none }

def operate (queue : DeadLetterQueue) : DeadLetterOperation → Outcome DeadLetterQueue
  | .add record => queue.addRecord codec record
  | .pop count => queue.popRecords codec count
  | .remove eventId => queue.removeRecord codec eventId
  | .cleanup now => queue.cleanup codec ttlDays now
  | .clear => .returning queue.clear

def step (queue : DeadLetterQueue) (operation : DeadLetterOperation) : DeadLetterQueue :=
  (queue.operate codec ttlDays operation).state

end Operations

section Durability

/-- A new queue over the file holds what this one holds, and neither is above the limit. -/
def Durable (queue : DeadLetterQueue) : Prop :=
  (load queue.file queue.maxRecords).records = queue.records ∧
    queue.records.length ≤ queue.maxRecords ∧
    (load queue.file queue.maxRecords).records.length ≤ queue.maxRecords

variable (codec : EventCodec) (ttlDays : Int)

def ReadsBack (record : DeadLetterRecord) : Prop :=
  recordLine codec record = some (some record)

/-- The operation finds room for what it adds, and what it writes reads back. A line that
does not load does no harm to a queue that is full of copies of its record. -/
def KeepsFile (queue : DeadLetterQueue) : DeadLetterOperation → Prop
  | .add record =>
    (ReadsBack codec record ∧ queue.records.length < queue.maxRecords) ∨
      (recordLine codec record = some none ∧ queue.records.length = queue.maxRecords ∧
        ∀ held ∈ queue.records, held = record)
  | .pop count => ∀ record ∈ queue.records.drop (queue.cut count), ReadsBack codec record
  | .remove eventId =>
    queue.records.any (DeadLetterRecord.isFor eventId) = true →
      ∀ record ∈ queue.records.eraseP (DeadLetterRecord.isFor eventId), ReadsBack codec record
  | .cleanup now =>
    (queue.unexpired ttlDays now).length < queue.records.length →
      ∀ record ∈ queue.unexpired ttlDays now, ReadsBack codec record
  | .clear => True

section Writing

variable (queue : DeadLetterQueue) (record : DeadLetterRecord)

/-- The records that the lines written for these load as. -/
def readBack : List DeadLetterRecord → List DeadLetterRecord
  | [] => []
  | record :: rest =>
    match recordLine codec record with
    | none => []
    | some line => line.toList ++ readBack rest

theorem load_append (file : Option (List (Option DeadLetterRecord)))
    (line : Option DeadLetterRecord) (maxRecords : Nat) :
    (load (some (file.getD [] ++ [line])) maxRecords).records =
      (load file maxRecords).records ++ line.toList := by
  simp only [load, Option.getD_some, List.filterMap_append]
  cases line <;> rfl

theorem read_back_length (records : List DeadLetterRecord) :
    (readBack codec records).length ≤ records.length := by
  induction records with
  | nil => exact Nat.le_refl _
  | cons record rest ih =>
    rw [readBack]
    cases recordLine codec record with
    | none => exact Nat.zero_le _
    | some line => cases line <;> simp <;> omega

theorem read_back_eq_iff (records : List DeadLetterRecord) :
    readBack codec records = records ↔ ∀ record ∈ records, ReadsBack codec record := by
  induction records with
  | nil => simp [readBack]
  | cons record rest ih =>
    have short := read_back_length codec rest
    rw [readBack, List.forall_mem_cons, ReadsBack, ← ih]
    cases written : recordLine codec record with
    | none => simp
    | some line =>
      cases line with
      | none =>
        apply iff_of_false
        · intro same
          have longer := congrArg List.length same
          simp only [Option.toList, List.nil_append, List.length_cons] at longer
          omega
        · simp
      | some loaded => simp

theorem write_records (records : List DeadLetterRecord) (queue : DeadLetterQueue) :
    let written := (Outcome.forEach (writeRecord codec) records queue).state
    written.records = queue.records ∧ written.maxRecords = queue.maxRecords ∧
      (load written.file queue.maxRecords).records =
        (load queue.file queue.maxRecords).records ++ readBack codec records := by
  induction records generalizing queue with
  | nil => simp [Outcome.forEach, readBack]
  | cons record rest ih =>
    simp only [Outcome.forEach, writeRecord, readBack]
    cases recordLine codec record with
    | none => simp [Outcome.andThen]
    | some line =>
      have later := ih { queue with file := some (queue.file.getD [] ++ [line]) }
      simp only [Outcome.returning_and_then]
      refine ⟨later.1, later.2.1, ?_⟩
      rw [later.2.2, load_append, List.append_assoc]

theorem rewrite_durable_iff (fits : queue.records.length ≤ queue.maxRecords) :
    (rewrite codec queue).state.Durable ↔ ∀ record ∈ queue.records, ReadsBack codec record := by
  obtain ⟨records, limit, loaded⟩ :=
    write_records codec queue.records { queue with file := some [] }
  rw [← read_back_eq_iff, Durable, rewrite, records, limit, loaded]
  simp only [load, Option.getD_some, List.filterMap_nil, List.nil_append]
  constructor
  · exact fun durable => durable.1
  · intro same
    rw [same]
    exact ⟨rfl, fits, fits⟩

theorem shift_copies (records : List DeadLetterRecord) :
    (records ++ [record]).drop 1 = records ↔ ∀ held ∈ records, held = record := by
  cases records with
  | nil => simp
  | cons first rest =>
    induction rest generalizing first with
    | nil => simp [eq_comm]
    | cons second rest ih =>
      have shifted := ih second
      simp only [List.cons_append, List.drop_succ_cons, List.drop_zero] at shifted ⊢
      rw [List.cons_eq_cons, shifted, List.forall_mem_cons, List.forall_mem_cons,
        List.forall_mem_cons]
      constructor
      · rintro ⟨same, second, others⟩
        exact ⟨same.symm.trans second, second, others⟩
      · rintro ⟨first, second, others⟩
        exact ⟨second.trans first.symm, second, others⟩

theorem add_durable_iff (durable : queue.Durable) : (queue.addRecord codec record).state.Durable ↔
      KeepsFile codec ttlDays queue (.add record) := by
  obtain ⟨same, fits, -⟩ := durable
  rw [addRecord, writeRecord, KeepsFile, ReadsBack]
  cases recordLine codec record with
  | none =>
    apply iff_of_false
    · intro kept
      have longer := congrArg List.length kept.1
      simp [Outcome.andThen, same] at longer
    · simp
  | some line =>
    simp only [Outcome.returning_and_then, Outcome.returning_state, enforceMax, Durable,
      load_append, same]
    cases line with
    | none =>
      rcases Nat.lt_or_eq_of_le fits with room | full
      · apply iff_of_false
        · intro kept
          have longer := congrArg List.length kept.1
          simp at longer
          omega
        · simp
          omega
      · have excess : (queue.records ++ [record]).length - queue.maxRecords = 1 := by
          simp
          omega
        rw [excess, ← shift_copies record queue.records]
        simp [full, eq_comm]
    | some loaded =>
      constructor
      · rintro ⟨kept, -, below⟩
        have room : queue.records.length < queue.maxRecords := by
          simp only [Option.toList, List.length_append, List.length_singleton] at below
          omega
        have excess : (queue.records ++ [record]).length - queue.maxRecords = 0 := by
          simp
          omega
        rw [excess, List.drop_zero] at kept
        have equal := List.append_cancel_left kept
        simp only [Option.toList, List.cons.injEq, and_true] at equal
        rw [equal]
        exact .inl ⟨rfl, room⟩
      · rintro (⟨equal, room⟩ | ⟨equal, -⟩)
        · have excess : (queue.records ++ [record]).length - queue.maxRecords = 0 := by
            simp
            omega
          cases equal
          rw [excess]
          simp
          omega
        · cases equal

end Writing

section Steps

variable (queue : DeadLetterQueue)

theorem removal_durable_iff (kept : List DeadLetterRecord) (removes : Prop)
    [Decidable removes] (durable : queue.Durable) (part : kept.Sublist queue.records) :
    (if removes then rewrite codec { queue with records := kept }
      else .returning queue).state.Durable ↔
      (removes → ∀ record ∈ kept, ReadsBack codec record) := by
  by_cases changed : removes
  · rw [if_pos changed, rewrite_durable_iff]
    · exact (imp_iff_right changed).symm
    · exact part.length_le.trans durable.2.1
  · rw [if_neg changed]
    exact iff_of_true durable fun change => absurd change changed

theorem step_durable_iff (operation : DeadLetterOperation) (durable : queue.Durable) :
    (queue.step codec ttlDays operation).Durable ↔
      queue.KeepsFile codec ttlDays operation := by
  cases operation with
  | add record => exact add_durable_iff codec ttlDays queue record durable
  | pop count =>
    apply rewrite_durable_iff
    exact (List.drop_sublist _ _).length_le.trans durable.2.1
  | remove eventId =>
    exact removal_durable_iff codec queue _ _ durable List.eraseP_sublist
  | cleanup now =>
    exact removal_durable_iff codec queue _ _ durable List.filter_sublist
  | clear => exact iff_of_true ⟨rfl, Nat.zero_le _, Nat.zero_le _⟩ trivial

end Steps

/-- A queue over a file and the queues that load its file later agree, within the limit,
all along a run, exactly when the file is within the limit and every operation keeps it. -/
theorem durable_throughout_iff (file : Option (List (Option DeadLetterRecord)))
    (maxRecords : Nat) (operations : List DeadLetterOperation) :
    (∀ early late, operations = early ++ late →
        (runInputs (step codec ttlDays) (load file maxRecords) early).Durable) ↔
      (load file maxRecords).records.length ≤ maxRecords ∧
        StepsMeet (step codec ttlDays) (KeepsFile codec ttlDays) (load file maxRecords)
          operations := by
  constructor
  · intro throughout
    have initial : (load file maxRecords).Durable := throughout [] operations rfl
    refine ⟨initial.2.1, ?_⟩
    exact (holds_throughout_iff (step codec ttlDays)
      (fun queue operation durable => step_durable_iff codec ttlDays queue operation durable)
      _ operations initial).mp throughout
  · rintro ⟨fits, meets⟩
    exact (holds_throughout_iff (step codec ttlDays)
      (fun queue operation durable => step_durable_iff codec ttlDays queue operation durable)
      _ operations ⟨rfl, fits, fits⟩).mpr meets

/-- Every event reads back as itself, and the queue holds one record. The file keeps the
record that the second one displaced. -/
theorem displaced_record_reloads :
    let record : String → DeadLetterRecord := fun eventId =>
      { event := .sample eventId "test" .normal
        subscriberName := "s"
        error := "boom"
        failedAt := 0
        retryCount := 3
        lastEnvelope := none }
    let full := runInputs (step (fun event => some (some event)) 30) (load none 1)
      [.add (record "a"), .add (record "b")]
    let ids := fun records : List DeadLetterRecord =>
      records.map fun record => record.event.metadata.eventId
    ids full.records = ["b"] ∧ ids (load full.file 1).records = ["a", "b"] ∧ ¬full.Durable := by
  intro record full ids
  have held : ids full.records = ["b"] := by decide +kernel
  have loaded : ids (load full.file 1).records = ["a", "b"] := by decide +kernel
  refine ⟨held, loaded, fun durable => ?_⟩
  have same : ids (load full.file 1).records = ids full.records := congrArg ids durable.1
  rw [held, loaded] at same
  exact absurd same (by decide)

end Durability

section Faithful

variable (codec : EventCodec) (queue : DeadLetterQueue)

end Faithful

end DeadLetterQueue

end AiEnterpriseOs.Events
