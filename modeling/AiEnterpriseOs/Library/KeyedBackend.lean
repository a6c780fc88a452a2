import AiEnterpriseOs.Library.OrderedDict
import AiEnterpriseOs.Library.Outcome
import AiEnterpriseOs.Library.Runs

/-!
# Backends for entries by key

What a backend that saves, reads, counts and deletes entries owes to the map
from key to entry that it stands for. A call that raises has no answer.
-/

namespace AiEnterpriseOs.Library

variable {Store Key Entry : Type*}

structure KeyedBackend (Store Key Entry : Type*) where
  keyOf : Entry → Key
  /-- The entry as a save leaves it. -/
  saved : Entry → Entry
  save : Entry → Store → Outcome Store
  get : Key → Store → Option (Option Entry)
  getAll : Store → Store × Option (List Entry)
  delete : Key → Store → Store × Option Bool
  count : Store → Option Nat
  reopen : Store → Store

inductive BackendCall (Key Entry : Type*) where
  | save (entry : Entry)
  | get (key : Key)
  | getAll
  | delete (key : Key)
  | count
  | reopen

/-- A backend, and the map that it stands for. -/
structure BackendRun (Store Key Entry : Type*) [DecidableEq Key] where
  store : Store
  map : OrderedDict Key Entry

namespace KeyedBackend

variable [DecidableEq Key] (backend : KeyedBackend Store Key Entry)

def step (run : BackendRun Store Key Entry) (call : BackendCall Key Entry) :
    BackendRun Store Key Entry :=
  match call with
  | .save entry =>
    { store := (backend.save entry run.store).state
      map := run.map.set (backend.keyOf entry) (backend.saved entry) }
  | .getAll => { run with store := (backend.getAll run.store).1 }
  | .delete key =>
    { store := (backend.delete key run.store).1
      map := run.map.erase key }
  | .reopen => { run with store := backend.reopen run.store }
  | _ => run

/-- Each key gets the entry of the map, all entries are those of the map, and
as many. -/
structure Answers (store : Store) (map : OrderedDict Key Entry) : Prop where
  get : ∀ key, backend.get key store = some (map.get? key)
  getAll : ∃ entries, (backend.getAll store).2 = some entries ∧ entries.Perm map.values
  count : backend.count store = some map.keys.length

/-- The call returns what it should, and the store answers as the map after it. -/
structure RightStep (run : BackendRun Store Key Entry) (call : BackendCall Key Entry) : Prop where
  saves : ∀ entry, call = .save entry → (backend.save entry run.store).returned = true
  deletes : ∀ key, call = .delete key →
    (backend.delete key run.store).2 = some (decide (key ∈ run.map.keys))
  before : backend.Answers run.store run.map
  after : backend.Answers (backend.step run call).store (backend.step run call).map

/-- A representation of maps that the calls meeting a condition keep, and that
tells what goes wrong with the others. -/
structure Represents (rep : Store → OrderedDict Key Entry → Prop)
    (condition : BackendRun Store Key Entry → BackendCall Key Entry → Prop) : Prop where
  answers : ∀ store map, rep store map → backend.Answers store map
  keeps : ∀ run call, rep run.store run.map → condition run call →
    rep (backend.step run call).store (backend.step run call).map
  saves : ∀ run entry, rep run.store run.map → condition run (.save entry) →
    (backend.save entry run.store).returned = true
  deletes : ∀ run key, rep run.store run.map → condition run (.delete key) →
    (backend.delete key run.store).2 = some (decide (key ∈ run.map.keys))
  wrong : ∀ run call, rep run.store run.map → ¬condition run call → ¬backend.RightStep run call

variable {backend} {rep : Store → OrderedDict Key Entry → Prop}
  {condition : BackendRun Store Key Entry → BackendCall Key Entry → Prop}

theorem Represents.right_step_iff (represents : backend.Represents rep condition)
    (run : BackendRun Store Key Entry) (call : BackendCall Key Entry)
    (holds : rep run.store run.map) : backend.RightStep run call ↔ condition run call := by
  constructor
  · intro right
    by_contra fails
    exact represents.wrong run call holds fails right
  · intro meets
    refine { saves := ?_, deletes := ?_, before := ?_, after := ?_ }
    · rintro entry rfl
      exact represents.saves run entry holds meets
    · rintro key rfl
      exact represents.deletes run key holds meets
    · exact represents.answers _ _ holds
    · exact represents.answers _ _ (represents.keeps run call holds meets)

/-- A backend does right all along a run just where every call meets the
condition. -/
theorem Represents.right_throughout_iff (represents : backend.Represents rep condition)
    (start : BackendRun Store Key Entry) (calls : List (BackendCall Key Entry))
    (initial : rep start.store start.map) :
    StepsMeet backend.step backend.RightStep start calls ↔
      StepsMeet backend.step condition start calls := by
  apply steps_meet_congr_of_meets backend.step fun run => rep run.store run.map
  · intro run call holds right
    exact represents.keeps run call holds ((represents.right_step_iff run call holds).mp right)
  · exact represents.right_step_iff
  · exact initial

end KeyedBackend

end AiEnterpriseOs.Library
