import AiEnterpriseOs.Library.OrderedDict

/-!
# Heartbeats

The table of the heartbeat manager. Its `check` runs a callback that reaches
back into the table; it stands with the runtime.
-/

namespace AiEnterpriseOs.Runtime

open Library

structure Heartbeat where
  receivedAt : Int
  seq : Nat
  intervalSeconds : Int

structure HeartbeatManager where
  intervalSeconds : Int
  timeoutSeconds : Int
  missedThreshold : Int
  /-- Whether `on_failure` is set. -/
  onFailure : Bool
  heartbeats : OrderedDict String Heartbeat
  consecutiveMisses : OrderedDict String Nat

namespace HeartbeatManager

/-- `register` with the manager's own interval. -/
def register (manager : HeartbeatManager) (component : String) (now : Int) :
    HeartbeatManager × Heartbeat :=
  match manager.heartbeats.get? component with
  | some existing =>
    let heartbeat := { existing with intervalSeconds := manager.intervalSeconds }
    ({ manager with heartbeats := manager.heartbeats.set component heartbeat }, heartbeat)
  | none =>
    let heartbeat : Heartbeat :=
      { receivedAt := now, seq := 0, intervalSeconds := manager.intervalSeconds }
    ({ manager with
        heartbeats := manager.heartbeats.set component heartbeat
        consecutiveMisses := manager.consecutiveMisses.set component 0 }, heartbeat)

def unregister (manager : HeartbeatManager) (component : String) : HeartbeatManager :=
  { manager with
    heartbeats := manager.heartbeats.erase component
    consecutiveMisses := manager.consecutiveMisses.erase component }

def beat (manager : HeartbeatManager) (component : String) (now : Int) : HeartbeatManager :=
  let (manager, previous) :=
    match manager.heartbeats.get? component with
    | some previous => (manager, previous)
    | none => manager.register component now
  { manager with
    heartbeats := manager.heartbeats.set component
      { receivedAt := now
        seq := previous.seq + 1
        intervalSeconds := previous.intervalSeconds }
    consecutiveMisses := manager.consecutiveMisses.set component 0 }

def setMisses (manager : HeartbeatManager) (component : String) (misses : Nat) :
    HeartbeatManager :=
  { manager with consecutiveMisses := manager.consecutiveMisses.set component misses }

/-- An unknown component has been silent for an infinite time. -/
def isStale (manager : HeartbeatManager) (component : String) (now : Int) : Bool :=
  match manager.heartbeats.get? component with
  | none => true
  | some heartbeat => manager.timeoutSeconds < max 0 (now - heartbeat.receivedAt)

theorem unregister_get (manager : HeartbeatManager) (component other : String) :
    (manager.unregister component).heartbeats.get? other =
      if other = component then none else manager.heartbeats.get? other :=
  OrderedDict.get_erase manager.heartbeats component other

theorem register_get_other (manager : HeartbeatManager) {component other : String}
    (now : Int) (different : other ≠ component) :
    (manager.register component now).1.heartbeats.get? other = manager.heartbeats.get? other := by
  unfold register
  split
  · exact OrderedDict.get_set_other _ _ different
  · exact OrderedDict.get_set_other _ _ different

theorem beat_get_other (manager : HeartbeatManager) {component other : String} (now : Int)
    (different : other ≠ component) :
    (manager.beat component now).heartbeats.get? other = manager.heartbeats.get? other := by
  unfold beat
  cases manager.heartbeats.get? component with
  | some previous => exact OrderedDict.get_set_other _ _ different
  | none =>
    have registered := register_get_other manager now different
    exact (OrderedDict.get_set_other _ _ different).trans registered

theorem beat_get_self (manager : HeartbeatManager) (component : String) (now : Int) :
    ∃ heartbeat, (manager.beat component now).heartbeats.get? component = some heartbeat := by
  unfold beat
  exact ⟨_, OrderedDict.get_set_self _ _ _⟩

theorem beat_on_failure (manager : HeartbeatManager) (component : String) (now : Int) :
    (manager.beat component now).onFailure = manager.onFailure := by
  unfold beat
  cases manager.heartbeats.get? component with
  | some previous => rfl
  | none =>
    dsimp only
    unfold register
    split <;> rfl

end HeartbeatManager

end AiEnterpriseOs.Runtime
