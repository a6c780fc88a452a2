import AiEnterpriseOs.Library.Outcome

/-!
# Transactions of a database connection

A connection to tables of any kind. Statements that change rows open a
transaction, a script first commits the open one and runs its statements
outside of any. A guarded body commits when it returns and is rolled back to
the last commit when it raises. A database error may strike at any statement.
-/

namespace AiEnterpriseOs.Library

structure Connection (Tables : Type*) where
  tables : Tables
  /-- The tables as committed, while a transaction is open. -/
  begun : Option Tables := none
  /-- How many statements run before one raises a database error. -/
  fault : Option Nat := none

/-- The next statements, as many as `count`, are not struck by an error. -/
def Spares (fault : Option Nat) (count : Nat) : Prop :=
  ∀ remaining ∈ fault, count ≤ remaining

instance (fault : Option Nat) (count : Nat) : Decidable (Spares fault count) :=
  inferInstanceAs (Decidable (∀ remaining ∈ fault, count ≤ remaining))

/-- The error that is left after `count` statements. -/
def faultAfter (fault : Option Nat) (count : Nat) : Option Nat :=
  fault.map fun remaining => remaining - count

theorem spares_zero (fault : Option Nat) : Spares fault 0 :=
  fun _ _ => Nat.zero_le _

theorem spares_one (fault : Option Nat) : Spares fault 1 ↔ fault ≠ some 0 := by
  cases fault with
  | none => simp [Spares]
  | some remaining =>
    simp only [Spares, Option.mem_def, Option.some.injEq, forall_eq', ne_eq]
    omega

theorem spares_add (fault : Option Nat) (first second : Nat) : Spares fault (first + second) ↔
      Spares fault first ∧ Spares (faultAfter fault first) second := by
  cases fault with
  | none => simp [Spares, faultAfter]
  | some remaining =>
    simp only [Spares, faultAfter, Option.mem_def, Option.map_some, Option.some.injEq, forall_eq']
    omega

theorem fault_after_zero (fault : Option Nat) : faultAfter fault 0 = fault := by
  cases fault <;> rfl

theorem fault_after_after (fault : Option Nat) (first second : Nat) :
    faultAfter (faultAfter fault first) second = faultAfter fault (first + second) := by
  cases fault with
  | none => rfl
  | some remaining => simp only [faultAfter, Option.map_some, Nat.sub_sub]

namespace Connection

variable {Tables Row : Type*}

def committed (connection : Connection Tables) : Tables :=
  connection.begun.getD connection.tables

def beginTransaction (connection : Connection Tables) : Connection Tables :=
  { connection with begun := some connection.committed }

def commit (connection : Connection Tables) : Connection Tables :=
  { connection with begun := none }

def rollback (connection : Connection Tables) : Connection Tables :=
  { connection with tables := connection.committed, begun := none }

/-- One statement, in the transaction that is open or by itself. -/
def statement (effect : Tables → Option Tables) (connection : Connection Tables) :
    Outcome (Connection Tables) :=
  if connection.fault = some 0 then .raising { connection with fault := none }
  else
    match effect connection.tables with
    | none => .raising { connection with fault := faultAfter connection.fault 1 }
    | some tables =>
      .returning { connection with tables := tables, fault := faultAfter connection.fault 1 }

/-- `connection.execute(statement)`, for a statement that changes rows. -/
def execute (effect : Tables → Option Tables) (connection : Connection Tables) :
    Outcome (Connection Tables) :=
  statement effect connection.beginTransaction

/-- `connection.executemany(statement, rows)`. -/
def executemany (effect : Row → Tables → Option Tables) (rows : List Row)
    (connection : Connection Tables) : Outcome (Connection Tables) :=
  Outcome.forEach (fun row => statement (effect row)) rows connection.beginTransaction

/-- `connection.executescript(statements)`. -/
def executescript (effects : List (Tables → Option Tables))
    (connection : Connection Tables) : Outcome (Connection Tables) :=
  Outcome.forEach statement effects connection.commit

/-- `with connection: body`. -/
def guarded (body : Connection Tables → Outcome (Connection Tables))
    (connection : Connection Tables) : Outcome (Connection Tables) :=
  let outcome := body connection
  if outcome.returned ∧ outcome.state.fault ≠ some 0 then .returning outcome.state.commit
  else .raising outcome.state.rollback

/-- What the statements for a list of rows do to the tables. -/
def applyAll (effect : Row → Tables → Option Tables) (rows : List Row)
    (tables : Tables) : Option Tables :=
  rows.foldlM (fun tables row => effect row tables) tables

theorem apply_all_append (effect : Row → Tables → Option Tables)
    (first second : List Row) (tables : Tables) :
    applyAll effect (first ++ second) tables =
      (applyAll effect first tables).bind (applyAll effect second) := by
  rw [applyAll, List.foldlM_append]
  rfl

theorem apply_all_cons (effect : Row → Tables → Option Tables) (row : Row)
    (rest : List Row) (tables : Tables) :
    applyAll effect (row :: rest) tables = (effect row tables).bind (applyAll effect rest) :=
  List.foldlM_cons

/-- Statements one after another either all run, or one of them raises: the
one the error strikes, or the one whose own effect fails. -/
inductive Ran (effect : Row → Tables → Option Tables) (rows : List Row)
    (before : Connection Tables) : Outcome (Connection Tables) → Prop where
  | through (tables : Tables) (spared : Spares before.fault rows.length)
      (applied : applyAll effect rows before.tables = some tables) :
      Ran effect rows before (.returning
          { before with tables := tables, fault := faultAfter before.fault rows.length })
  | stopped (after : Connection Tables) (count : Nat) (inside : count < rows.length)
      (applied : applyAll effect (rows.take count) before.tables = some after.tables)
      (cause : before.fault = some count ∨ (Spares before.fault (count + 1) ∧
        applyAll effect (rows.take (count + 1)) before.tables = none))
      (same : after.begun = before.begun)
      (quiet : before.fault = none → after.fault = none) :
      Ran effect rows before (.raising after)

theorem fault_after_one_eq {fault : Option Nat} {count : Nat} (spared : fault ≠ some 0)
    (struck : faultAfter fault 1 = some count) : fault = some (count + 1) := by
  cases fault with
  | none => cases struck
  | some remaining =>
    simp only [faultAfter, Option.map_some, Option.some.injEq, ne_eq] at struck spared ⊢
    omega

theorem statements_ran (effect : Row → Tables → Option Tables) (rows : List Row)
    (before : Connection Tables) :
    Ran effect rows before (Outcome.forEach (fun row => statement (effect row)) rows before) := by
  induction rows generalizing before with
  | nil =>
    have through : Ran effect [] before _ := .through before.tables (spares_zero _) rfl
    rwa [List.length_nil, fault_after_zero] at through
  | cons row rest ih =>
    rw [Outcome.forEach, statement]
    by_cases struck : before.fault = some 0
    · rw [if_pos struck]
      exact .stopped { before with fault := none } 0 (by simp) rfl (.inl struck) rfl fun _ => rfl
    · rw [if_neg struck]
      have spared := (spares_one before.fault).mpr struck
      cases first : effect row before.tables with
      | none =>
        refine .stopped { before with fault := faultAfter before.fault 1 } 0 (by simp) rfl
          (.inr ⟨spared, ?_⟩) rfl fun faultless => by rw [faultless]; rfl
        rw [List.take_succ_cons, apply_all_cons, first, Option.bind_none]
      | some tables =>
        have tail :=
          ih { before with tables := tables, fault := faultAfter before.fault 1 }
        rw [Outcome.returning_and_then]
        generalize Outcome.forEach (fun row => statement (effect row)) rest
          { before with tables := tables, fault := faultAfter before.fault 1 } = outcome at tail ⊢
        cases tail with
        | through final sparedRest applied =>
          have sparedWhole : Spares before.fault (row :: rest).length := by
            rw [List.length_cons, Nat.add_comm]
            exact (spares_add _ _ _).mpr ⟨spared, sparedRest⟩
          have whole : Ran effect (row :: rest) before _ :=
            .through final sparedWhole (by rw [apply_all_cons, first, Option.bind_some, applied])
          rw [fault_after_after, Nat.add_comm]
          exact whole
        | stopped after count inside applied cause same quiet =>
          refine .stopped after (count + 1) (by simpa using inside) ?_ ?_ same
            fun faultless => quiet (by rw [faultless]; rfl)
          · rw [List.take_succ_cons, apply_all_cons, first, Option.bind_some, applied]
          · refine cause.imp (fault_after_one_eq struck) fun failed => ?_
            rw [List.take_succ_cons, apply_all_cons, first, Option.bind_some,
              failed.2, Nat.add_comm (count + 1)]
            exact ⟨(spares_add _ _ _).mpr ⟨spared, failed.1⟩, rfl⟩

theorem executemany_and_then_returned (effect : Row → Tables → Option Tables)
    (rows : List Row) (before : Connection Tables)
    (next : Connection Tables → Outcome (Connection Tables)) :
    ((executemany effect rows before).andThen next).returned = true ↔
      ∃ tables, applyAll effect rows before.tables = some tables ∧ Spares before.fault rows.length ∧
        (next
          { before.beginTransaction with
            tables := tables
            fault := faultAfter before.fault rows.length }).returned = true := by
  have ran := statements_ran effect rows before.beginTransaction
  rw [executemany]
  generalize Outcome.forEach (fun row => statement (effect row)) rows
    before.beginTransaction = outcome at ran
  cases ran with
  | through tables spared applied =>
    rw [Outcome.returning_and_then]
    constructor
    · intro returned
      exact ⟨tables, applied, spared, returned⟩
    · rintro ⟨other, sameApplied, _, returned⟩
      have same : tables = other := Option.some.inj (applied.symm.trans sameApplied)
      rw [same]
      exact returned
  | stopped after count inside applied cause same _ =>
    have never : ((Outcome.raising after).andThen next).returned = false := rfl
    rw [never]
    constructor
    · intro impossible
      cases impossible
    · rintro ⟨tables, whole, spared, _⟩
      cases cause with
      | inl struck =>
        have enough : rows.length ≤ count := spared count struck
        omega
      | inr failed =>
        have parts := List.take_append_drop (count + 1) rows
        rw [← parts, apply_all_append] at whole
        have cut : applyAll effect (rows.take (count + 1)) before.tables = none :=
          failed.2
        rw [cut] at whole
        cases whole

/-- The commit that ends a guarded body may be struck as well. -/
def commits (connection : Connection Tables) : Outcome (Connection Tables) :=
  if connection.fault = some 0 then .raising connection else .returning connection

theorem commits_returned (connection : Connection Tables) :
    connection.commits.returned = true ↔ Spares connection.fault 1 := by
  rw [spares_one, commits]
  split <;> simp_all

theorem guarded_returned (body : Connection Tables → Outcome (Connection Tables))
    (before : Connection Tables) :
    (guarded body before).returned = true ↔ ((body before).andThen commits).returned = true := by
  simp only [guarded, commits, Outcome.andThen]
  by_cases returned : (body before).returned = true
  · by_cases struck : (body before).state.fault = some 0 <;> simp [returned, struck]
  · simp [returned]

section Committed

theorem ran_begun {effect : Row → Tables → Option Tables} {rows : List Row}
    {before : Connection Tables} {outcome : Outcome (Connection Tables)}
    (ran : Ran effect rows before outcome) : outcome.state.begun = before.begun := by
  cases ran with
  | through => rfl
  | stopped after count inside applied cause same _ => exact same

theorem executemany_committed (effect : Row → Tables → Option Tables) (rows : List Row)
    (before : Connection Tables) :
    (executemany effect rows before).state.committed = before.committed := by
  have same := ran_begun (statements_ran effect rows before.beginTransaction)
  rw [executemany, committed, same]
  rfl

theorem committed_idle {connection : Connection Tables} (idle : connection.begun = none) :
    connection.committed = connection.tables := by
  rw [committed, idle, Option.getD_none]

theorem guarded_begun (body : Connection Tables → Outcome (Connection Tables))
    (before : Connection Tables) : (guarded body before).state.begun = none := by
  simp only [guarded]
  split <;> rfl

theorem guarded_raised {body : Connection Tables → Outcome (Connection Tables)}
    {before : Connection Tables} (raised : (guarded body before).returned = false) :
    (guarded body before).state.tables = (body before).state.committed := by
  simp only [guarded] at raised ⊢
  split at raised
  · cases raised
  · rw [if_neg ‹_›]
    rfl

end Committed

section Faultless

/-- What a part of a transaction comes to while no error strikes: its effect
on the tables, or, when that fails, nothing that is committed. -/
inductive Transacted (before : Connection Tables) (effect : Option Tables) :
    Outcome (Connection Tables) → Prop where
  | done (tables : Tables) (applied : effect = some tables) : Transacted before effect
        (.returning { tables := tables, begun := some before.committed, fault := none })
  | undone (after : Connection Tables) (failed : effect = none)
      (kept : after.committed = before.committed) (quiet : after.fault = none) :
      Transacted before effect (.raising after)

theorem executemany_transacted (effect : Row → Tables → Option Tables) (rows : List Row)
    {before : Connection Tables} (faultless : before.fault = none) :
    Transacted before (applyAll effect rows before.tables) (executemany effect rows before) := by
  have ran := statements_ran effect rows before.beginTransaction
  rw [executemany]
  generalize Outcome.forEach (fun row => statement (effect row)) rows
    before.beginTransaction = outcome at ran ⊢
  cases ran with
  | through tables spared applied =>
    have same : faultAfter before.beginTransaction.fault rows.length = none := by
      rw [beginTransaction, faultless]
      rfl
    rw [same]
    exact .done tables applied
  | stopped after count inside applied cause same quiet =>
    refine .undone after ?_ (by rw [committed, same]; rfl) (quiet faultless)
    have parts := List.take_append_drop (count + 1) rows
    have failed : applyAll effect (rows.take (count + 1)) before.tables = none := by
      refine (cause.resolve_left ?_).2
      intro struck
      rw [beginTransaction, faultless] at struck
      cases struck
    rw [← parts, apply_all_append, failed, Option.bind_none]

theorem execute_transacted (effect : Tables → Option Tables)
    {before : Connection Tables} (faultless : before.fault = none) :
    Transacted before (effect before.tables) (execute effect before) := by
  have noStrike : before.beginTransaction.fault = none := faultless
  rw [execute, statement, noStrike, if_neg (by simp)]
  cases applied : effect before.tables with
  | none =>
    have failed : effect before.beginTransaction.tables = none := applied
    rw [failed]
    exact .undone _ rfl rfl rfl
  | some tables =>
    have changed : effect before.beginTransaction.tables = some tables := applied
    rw [changed]
    exact .done tables rfl

theorem Transacted.and_then {before : Connection Tables} {effect : Option Tables}
    {outcome : Outcome (Connection Tables)} (first : Transacted before effect outcome)
    {nextEffect : Tables → Option Tables}
    {next : Connection Tables → Outcome (Connection Tables)}
    (second : ∀ tables, effect = some tables → ∀ middle : Connection Tables,
      middle.tables = tables → middle.committed = before.committed → middle.fault = none →
        Transacted middle (nextEffect tables) (next middle)) :
    Transacted before (effect.bind nextEffect) (outcome.andThen next) := by
  cases first with
  | done tables applied =>
    have rest := second tables applied
      { tables := tables, begun := some before.committed, fault := none } rfl rfl rfl
    rw [Outcome.returning_and_then, applied, Option.bind_some]
    generalize next _ = outcome at rest ⊢
    cases rest with
    | done final applied => exact .done final applied
    | undone after failed kept quiet => exact .undone after failed kept quiet
  | undone after failed kept quiet =>
    exact .undone after (by rw [failed, Option.bind_none]) kept quiet

/-- A guarded body either takes effect as a whole or not at all. -/
theorem guarded_transacted {body : Connection Tables → Outcome (Connection Tables)}
    {before : Connection Tables} {effect : Option Tables}
    (transacted : Transacted before effect (body before)) :
    guarded body before = effect.elim (.raising { tables := before.committed }) fun tables =>
        .returning { tables := tables } := by
  simp only [guarded]
  generalize body before = outcome at transacted ⊢
  cases transacted with
  | done tables applied =>
    rw [applied]
    rfl
  | undone after failed kept quiet =>
    rw [failed, if_neg (by simp)]
    simp only [Outcome.raising_state, rollback, kept, quiet, Option.elim_none]

end Faultless

end Connection

end AiEnterpriseOs.Library
