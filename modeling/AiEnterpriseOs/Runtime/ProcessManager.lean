import AiEnterpriseOs.Library.OrderedDict
import AiEnterpriseOs.Library.Runs
import AiEnterpriseOs.PyValue

/-!
# Process manager

The records, threads and targets of the managed processes. A thread that was
started stays in the list of all threads whether or not the manager still
knows it; threads end on their own or while a call waits for one.
-/

namespace AiEnterpriseOs.Runtime

open Library

inductive ProcessStatus where
  | created
  | starting
  | running
  | degraded
  | failed
  | stopped
  deriving DecidableEq

structure RuntimeProcess where
  id : String
  name : String
  status : ProcessStatus := .created
  pid : Option Int := none
  threadAlive : Bool := false
  startedAt : Option Int := none
  stoppedAt : Option Int := none
  restartCount : Nat := 0
  error : Option String := none
  metadata : OrderedDict String PyValue := OrderedDict.empty

/-- A thread that was started; no target is the target that does nothing. -/
structure ProcessThread (Target : Type) where
  name : String
  target : Option Target
  alive : Bool

structure ProcessManager (Target : Type) where
  processes : OrderedDict String RuntimeProcess := OrderedDict.empty
  /-- The threads are named by their places in `started`. -/
  threads : OrderedDict String Nat := OrderedDict.empty
  targets : OrderedDict String (Option Target) := OrderedDict.empty
  started : List (ProcessThread Target) := []

/-- One bounded wait for a thread: the time, and the threads that end by its end. -/
structure Join where
  now : Int
  ended : List Nat

/-- Calls of the manager; in `finish` threads end while no call is under way. -/
inductive ProcessCall (Target : Type) where
  | register (id name : String) (target : Option Target) (pid : Option Int)
      (metadata : OrderedDict String PyValue)
  | unregister (name : String) (join : Join)
  | start (name : String) (now : Int)
  | stop (name : String) (join : Join)
  | restart (name : String) (join : Join) (now : Int)
  | stopAll (joins : String → Join)
  | finish (ended : List Nat)

namespace ProcessManager

variable {Target : Type}

section Inspection

variable (manager : ProcessManager Target)

def threadAlive (thread : Nat) : Bool :=
  match manager.started[thread]? with
  | none => false
  | some thread => thread.alive

/-- Return whether a process's thread is currently alive. -/
def isAlive (name : String) : Bool :=
  match manager.threads.get? name with
  | none => false
  | some thread => manager.threadAlive thread

/-- Return a process's status (live thread wins). -/
def status (name : String) : Option ProcessStatus :=
  (manager.processes.get? name).map fun process =>
    if manager.isAlive name then .running else process.status

end Inspection

def endThreads (ended : List Nat) (manager : ProcessManager Target) : ProcessManager Target :=
  { manager with
    started := manager.started.mapIdx fun index thread =>
      { thread with alive := thread.alive && decide (index ∉ ended) } }

def register (id name : String) (target : Option Target) (pid : Option Int)
    (metadata : OrderedDict String PyValue) (manager : ProcessManager Target) :
    ProcessManager Target :=
  let process : RuntimeProcess := { id := id, name := name, pid := pid, metadata := metadata }
  let targets := manager.targets.set name target
  match manager.processes.get? name with
  | none => { manager with processes := manager.processes.set name process, targets := targets }
  | some existing =>
    if manager.isAlive name then manager
    else
      let process := { process with restartCount := existing.restartCount }
      { manager with processes := manager.processes.set name process, targets := targets }

/-- Start a registered process in a daemon thread. -/
def start (name : String) (now : Int) (manager : ProcessManager Target) :
    ProcessManager Target :=
  match manager.processes.get? name with
  | none => manager
  | some process =>
    if manager.isAlive name then manager
    else
      let thread : ProcessThread Target :=
        { name := name, target := manager.targets.getD name none, alive := true }
      let process := { process with
        status := .running, threadAlive := true, startedAt := some now
        stoppedAt := none, error := none }
      { manager with
        threads := manager.threads.set name manager.started.length
        started := manager.started ++ [thread]
        processes := manager.processes.set name process }

/-- Stop a process (join its thread with a timeout). A thread that outlives the
wait is forgotten all the same. -/
def stop (name : String) (join : Join) (manager : ProcessManager Target) :
    ProcessManager Target :=
  match manager.processes.get? name with
  | none => manager
  | some process =>
    let process := { process with
      status := .stopped, threadAlive := false, stoppedAt := some join.now }
    let stopped := { manager with processes := manager.processes.set name process }
    let waited := stopped.endThreads join.ended
    if manager.isAlive name then { waited with threads := waited.threads.erase name }
    else waited

/-- What `unregister` removes once the process is stopped. -/
def forget (name : String) (manager : ProcessManager Target) : ProcessManager Target :=
  { manager with
    processes := manager.processes.erase name
    threads := manager.threads.erase name
    targets := manager.targets.erase name }

def countRestart (name : String) (manager : ProcessManager Target) : ProcessManager Target :=
  { manager with
    processes := manager.processes.modify name fun process =>
      { process with restartCount := process.restartCount + 1 } }

/-- The states after each of the stops of `stop_all`. -/
def stopEach (joins : String → Join) :
    List String → ProcessManager Target → List (ProcessManager Target)
  | [], _ => []
  | name :: rest, manager =>
    let stopped := manager.stop name (joins name)
    stopped :: stopEach joins rest stopped

/-- The states that a call leads through, in order. A name that is not registered
changes nothing, whether the call raises or not. -/
def course (manager : ProcessManager Target) : ProcessCall Target → List (ProcessManager Target)
  | .register id name target pid metadata => [manager.register id name target pid metadata]
  | .unregister name join =>
    match manager.processes.get? name with
    | none => []
    | some _ =>
      let stopped := manager.stop name join
      [stopped, stopped.forget name]
  | .start name now => [manager.start name now]
  | .stop name join => [manager.stop name join]
  | .restart name join now =>
    match manager.processes.get? name with
    | none => []
    | some _ =>
      let stopped := if manager.isAlive name then manager.stop name join else manager
      [stopped, (stopped.countRestart name).start name now]
  | .stopAll joins => stopEach joins manager.processes.keys manager
  | .finish ended => [manager.endThreads ended]

def step (manager : ProcessManager Target) (call : ProcessCall Target) :
    ProcessManager Target :=
  (manager.course call).getLastD manager

def runs (calls : List (ProcessCall Target)) : ProcessManager Target :=
  runInputs step {} calls

end ProcessManager

end AiEnterpriseOs.Runtime
