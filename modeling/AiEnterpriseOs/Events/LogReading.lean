import AiEnterpriseOs.Events.Persistence
import Mathlib.Data.List.Infix

/-!
# Reading the event store

`load_events` reads the current file only. What was rotated away it does not see, and a line
that is JSON but no object ends it with an exception.
-/

namespace AiEnterpriseOs.Events

open Library

/-- A line that no call of the store has written. -/
inductive ForeignLine where
  | object
  | value
  | malformed
  | blank

def ForeignLine.line : ForeignLine → StoreLine
  | object => .object
  | value => .value
  | malformed => .malformed
  | blank => .blank

inductive LogCall where
  | persist (event : Event) (now : Nat)
  | persistEnvelope (event : Event) (now : Nat)
  | rotate (now : Nat)
  | foreign (line : ForeignLine)

def StoreLine.event? : StoreLine → Option Event
  | .event stored => some stored
  | .envelope _ | .object | .value | .malformed | .blank => none

/-- A store with the events that were persisted, in order. -/
structure LogRun where
  store : EventPersistence
  persisted : List Event

namespace LogRun

variable (lineSize : StoreLine → Nat)

def start (store : EventPersistence) : LogRun := { store := store, persisted := [] }

def step (run : LogRun) : LogCall → LogRun
  | .persist event now =>
    let outcome := run.store.persist lineSize event now
    { store := outcome.state
      persisted := if outcome.returned then run.persisted ++ [event] else run.persisted }
  | .persistEnvelope event now =>
    { run with store := (run.store.persistEnvelope lineSize event now).state }
  | .rotate now => { run with store := (run.store.rotate now).state }
  | .foreign line =>
    { run with
      store := { run.store with file := some (run.store.file.getD [] ++ [line.line]) } }

/-- The events in the current file. -/
def current (run : LogRun) : List Event := (run.store.file.getD []).filterMap StoreLine.event?

/-- `load_events` returns the persisted events that the query selects, up to its limit. -/
def Loads (run : LogRun) (query : EventQuery) : Prop :=
  run.store.loadEvents query = some ((run.persisted.filter query.selects).take query.limit.toNat)

/-- The call moves no file with an event to the archives. -/
def KeepsCurrent (run : LogRun) : LogCall → Prop
  | .persist event _ => run.store.Fits lineSize (.event event) ∨ run.current = []
  | .persistEnvelope event _ => run.store.Fits lineSize (.envelope event) ∨ run.current = []
  | .rotate _ => run.current = []
  | .foreign _ => True

/-- No line of the current file is JSON but no object. -/
def Readable (run : LogRun) : Prop := StoreLine.value ∉ run.store.file.getD []

end LogRun

section Loading

open EventPersistence

def EventQuery.everything (limit : Int) : EventQuery where
  since := none
  «until» := none
  eventTypes := []
  sourceFilter := none
  limit := limit

theorem everything_selects (limit : Int) (event : Event) :
    (EventQuery.everything limit).selects event = true := rfl

theorem load_cases (line : StoreLine) : line = .value ∨ (∃ event, line = .event event) ∨
      (line ≠ .value ∧ line.event? = none ∧ ∀ query rest events,
        loadLoop query (line :: rest) events = loadLoop query rest events) := by
  cases line with
  | value => exact Or.inl rfl
  | event event => exact Or.inr (Or.inl ⟨event, rfl⟩)
  | envelope event => exact Or.inr (Or.inr ⟨StoreLine.noConfusion, rfl, fun _ _ _ => rfl⟩)
  | object => exact Or.inr (Or.inr ⟨StoreLine.noConfusion, rfl, fun _ _ _ => rfl⟩)
  | malformed => exact Or.inr (Or.inr ⟨StoreLine.noConfusion, rfl, fun _ _ _ => rfl⟩)
  | blank => exact Or.inr (Or.inr ⟨StoreLine.noConfusion, rfl, fun _ _ _ => rfl⟩)

theorem load_readable (query : EventQuery) (lines : List StoreLine) (events : List Event)
    (readable : StoreLine.value ∉ lines) (more : (events.length : Int) < query.limit) :
    loadLoop query lines events =
      some ((events ++ (lines.filterMap StoreLine.event?).filter query.selects).take
        query.limit.toNat) := by
  induction lines generalizing events with
  | nil =>
    rw [List.filterMap_nil, List.filter_nil, List.append_nil, List.take_of_length_le (by omega)]
    rfl
  | cons line rest ih =>
    have restReadable : StoreLine.value ∉ rest :=
      fun member => readable (List.mem_cons_of_mem _ member)
    rcases load_cases line with rfl | ⟨event, rfl⟩ | ⟨_, eventless, passed⟩
    · exact absurd List.mem_cons_self readable
    · rw [List.filterMap_cons_some (by rfl), List.filter_cons, loadLoop]
      have next := List.append_cons events event
        ((rest.filterMap StoreLine.event?).filter query.selects)
      split
      next selected =>
        split
        next full =>
          have last : query.limit.toNat = (events ++ [event]).length := by
            rw [List.length_append, List.length_singleton] at full ⊢
            omega
          rw [next, last, List.take_left]
        next notFull =>
          rw [ih _ restReadable (by omega), next]
      next ignored => exact ih events restReadable more
    · rw [passed, List.filterMap_cons_none eventless]
      exact ih events restReadable more

theorem load_unreadable (query : EventQuery) (lines : List StoreLine) (events : List Event)
    (unreadable : StoreLine.value ∈ lines)
    (more : ((events.length + lines.length : Nat) : Int) < query.limit) :
    loadLoop query lines events = none := by
  induction lines generalizing events with
  | nil => cases unreadable
  | cons line rest ih =>
    rw [List.length_cons] at more
    have later : line ≠ .value → StoreLine.value ∈ rest := fun other =>
      (List.mem_cons.mp unreadable).resolve_left other.symm
    rcases load_cases line with rfl | ⟨event, rfl⟩ | ⟨other, _, passed⟩
    · rfl
    · have further := later StoreLine.noConfusion
      rw [loadLoop]
      split
      · have longer : (events ++ [event]).length = events.length + 1 := by simp
        rw [if_neg (by omega), ih _ further (by omega)]
      · exact ih events further (by omega)
    · rw [passed]
      exact ih events (later other) (by omega)

theorem load_no_events (query : EventQuery) (lines : List StoreLine) (events : List Event)
    (none : lines.filterMap StoreLine.event? = []) (readable : StoreLine.value ∉ lines) :
    loadLoop query lines events = some events := by
  induction lines with
  | nil => rfl
  | cons line rest ih =>
    have restReadable : StoreLine.value ∉ rest :=
      fun member => readable (List.mem_cons_of_mem _ member)
    rcases load_cases line with rfl | ⟨event, rfl⟩ | ⟨_, eventless, passed⟩
    · exact absurd List.mem_cons_self readable
    · rw [List.filterMap_cons_some (by rfl)] at none
      cases none
    · rw [List.filterMap_cons_none eventless] at none
      rw [passed]
      exact ih none restReadable

theorem load_nothing (limit : Int) (none : limit ≤ 0) (lines : List StoreLine)
    (nothing : loadLoop (.everything limit) lines [] = some []) :
    lines.filterMap StoreLine.event? = [] ∧ StoreLine.value ∉ lines := by
  induction lines with
  | nil => exact ⟨rfl, List.not_mem_nil⟩
  | cons line rest ih =>
    rcases load_cases line with rfl | ⟨event, rfl⟩ | ⟨other, eventless, passed⟩
    · cases nothing
    · -- it is kept before the limit is compared
      rw [loadLoop, if_pos (everything_selects limit event),
        if_pos (by simp [EventQuery.everything]; omega)] at nothing
      cases nothing
    · rw [passed] at nothing
      obtain ⟨none, absent⟩ := ih nothing
      rw [List.filterMap_cons_none eventless]
      refine ⟨none, ?_⟩
      intro member
      exact absent ((List.mem_cons.mp member).resolve_left other.symm)

theorem load_events_eq (store : EventPersistence) (query : EventQuery) :
    store.loadEvents query = loadLoop query (store.file.getD []) [] := by
  rw [loadEvents]
  cases store.file with
  | none => rfl
  | some lines => rfl

end Loading

section Runs

namespace LogRun

variable (lineSize : StoreLine → Nat)

theorem write_record_file (store : EventPersistence) (line : StoreLine) (now : Nat) :
    let outcome := store.writeRecord lineSize line now
    (store.Fits lineSize line ∧ outcome.returned = true ∧
        outcome.state.file = some (store.file.getD [] ++ [line])) ∨
      (¬store.Fits lineSize line ∧ outcome.returned = true ∧ outcome.state.file = some [line]) ∨
      (outcome.returned = false ∧ outcome.state = store ∧ store.file = none) := by
  intro outcome
  by_cases fits : store.Fits lineSize line
  · simp only [outcome, EventPersistence.writeRecord, if_pos fits]
    exact .inl ⟨fits, rfl, rfl⟩
  · simp only [outcome, EventPersistence.writeRecord, if_neg fits, EventPersistence.rotate]
    cases store.file with
    | none => exact .inr (.inr ⟨rfl, rfl, rfl⟩)
    | some lines => exact .inr (.inl ⟨fits, rfl, rfl⟩)

theorem step_current (run : LogRun) (call : LogCall) :
    ∃ added, (run.step lineSize call).persisted = run.persisted ++ added ∧
      ((run.KeepsCurrent lineSize call ∧ (run.step lineSize call).current = run.current ++ added) ∨
        (run.current ≠ [] ∧ ¬run.KeepsCurrent lineSize call ∧
          (run.step lineSize call).current = added)) := by
  have written : ∀ (line : StoreLine) (now : Nat),
      let outcome := run.store.writeRecord lineSize line now
      let added := if outcome.returned then line.event?.toList else []
      ((run.store.Fits lineSize line ∨ run.current = []) ∧
          (outcome.state.file.getD []).filterMap StoreLine.event? = run.current ++ added) ∨
        (run.current ≠ [] ∧ ¬(run.store.Fits lineSize line ∨ run.current = []) ∧
          (outcome.state.file.getD []).filterMap StoreLine.event? = added) := by
    intro line now outcome added
    rcases write_record_file lineSize run.store line now with
      ⟨fits, returned, file⟩ | ⟨tooLong, returned, file⟩ | ⟨raised, same, noFile⟩
    · refine .inl ⟨.inl fits, ?_⟩
      simp only [added, outcome, returned, file, if_true, Option.getD_some, current,
        List.filterMap_append]
      cases line <;> rfl
    · have alone : (outcome.state.file.getD []).filterMap StoreLine.event? = added := by
        simp only [added, outcome, returned, file, if_true, Option.getD_some]
        cases line <;> rfl
      by_cases empty : run.current = []
      · exact .inl ⟨.inr empty, by rw [alone, empty]; rfl⟩
      · exact .inr ⟨empty, fun keeps => keeps.elim tooLong empty, alone⟩
    · have empty : run.current = [] := by rw [current, noFile]; rfl
      refine .inl ⟨.inr empty, ?_⟩
      simp only [added, outcome, raised, same, noFile, empty]
      rfl
  cases call with
  | persist event now =>
    refine ⟨_, ?_, written (.event event) now⟩
    cases outcome : (run.store.writeRecord lineSize (.event event) now).returned <;>
      simp [step, EventPersistence.persist, outcome, StoreLine.event?]
  | persistEnvelope event now =>
    refine ⟨[], (List.append_nil _).symm, ?_⟩
    have outcome := written (.envelope event) now
    simpa [StoreLine.event?, step, current, KeepsCurrent, EventPersistence.persistEnvelope]
      using outcome
  | rotate now =>
    refine ⟨[], (List.append_nil _).symm, ?_⟩
    have emptied : (run.step lineSize (.rotate now)).current = [] := by
      simp only [step, EventPersistence.rotate, current]
      cases file : run.store.file with
      | none => simp only [Outcome.raising, file]; rfl
      | some lines => rfl
    by_cases empty : run.current = []
    · exact .inl ⟨empty, by rw [emptied, empty]; rfl⟩
    · exact .inr ⟨empty, empty, emptied⟩
  | foreign line =>
    refine ⟨[], (List.append_nil _).symm, .inl ⟨trivial, ?_⟩⟩
    simp only [step, current, Option.getD_some, List.filterMap_append]
    cases line <;> rfl

/-- What is in the current file was persisted last. -/
def CurrentLast (run : LogRun) : Prop := run.current <:+ run.persisted

theorem current_last_step (run : LogRun) (call : LogCall) (last : run.CurrentLast) :
    (run.step lineSize call).CurrentLast := by
  obtain ⟨added, persisted, ⟨-, current⟩ | ⟨-, -, current⟩⟩ := step_current lineSize run call
  · rw [CurrentLast, persisted, current]
    exact List.suffix_append_self_iff.mpr last
  · rw [CurrentLast, persisted, current]
    exact List.suffix_append _ _

theorem all_current_iff (store : EventPersistence) (fresh : store.file = none)
    (calls : List LogCall) :
    (runInputs (step lineSize) (start store) calls).current =
        (runInputs (step lineSize) (start store) calls).persisted ↔
      StepsMeet (step lineSize) (KeepsCurrent lineSize) (start store) calls := by
  have empty : (start store).current = [] := by
    rw [current, start, fresh]
    rfl
  apply @holds_at_end_iff _ _ (step lineSize) CurrentLast fun run => run.current = run.persisted
  · exact current_last_step lineSize
  · intro run call last same
    obtain ⟨added, persisted, ⟨-, current⟩ | ⟨some, -, current⟩⟩ := step_current lineSize run call
    · rw [persisted, current] at same
      exact List.append_cancel_right same
    · rw [persisted, current] at same
      have none : run.persisted = [] := by
        have lengths := congrArg List.length same
        rw [List.length_append] at lengths
        exact List.eq_nil_of_length_eq_zero (by omega)
      rw [none]
      exact List.suffix_nil.mp (none ▸ last)
  · intro run call last same
    obtain ⟨added, persisted, ⟨keeps, current⟩ | ⟨some, moves, current⟩⟩ :=
      step_current lineSize run call
    · refine iff_of_true ?_ keeps
      rw [persisted, current, same]
    · refine iff_of_false ?_ moves
      rw [persisted, current, ← same]
      intro equal
      have lengths := congrArg List.length equal
      rw [List.length_append] at lengths
      exact some (List.eq_nil_of_length_eq_zero (by omega))
  · rw [CurrentLast, empty]
    exact List.nil_suffix
  · exact empty

end LogRun

end Runs

end AiEnterpriseOs.Events
