import MeshScenes.Manager.Call
import MeshScenes.Simulation.Network

/-!
# The closed hub

A manager whose channel and directory are one simulated network. What the nodes publish waits in one
queue; the hub takes the oldest frame, and every frame it sends reaches its node before it takes the
next. Users press buttons and the owner makes calls at any time.
-/

namespace MeshScenes

structure ClosedHub where
  manager : Manager
  nodes : ByteMap DeviceId Node
  /-- The published frames that the hub did not take yet, oldest first. -/
  waiting : List InboundFrame
  deriving DecidableEq

namespace ClosedHub

/-- The network, without a record of what was sent into it. -/
def network (h : ClosedHub) : Network := ⟨h.nodes, [], h.waiting⟩

/-- The hub with what became of its manager and its network. -/
def afterwards (s : Manager × Outlet Network) : ClosedHub :=
  ⟨s.1, s.2.channel.nodes, s.2.channel.published⟩

/-- Runs an operation of the manager. -/
def run (h : ClosedHub) (x : Act Manager Network Unit) : ClosedHub :=
  afterwards (x.after (h.manager, Outlet.opened h.network))

/-- Takes the oldest frame. -/
def deliver (h : ClosedHub) : ClosedHub :=
  match h.waiting with
  | [] => h
  | f :: waiting => { h with waiting }.run (Manager.handleFrame f)

/-- The frames that are sent when the oldest frame is taken. -/
def sends (h : ClosedHub) : List OutboundFrame :=
  match h.waiting with
  | [] => []
  | f :: waiting =>
    ((Manager.handleFrame f).after (h.manager, Outlet.opened { h with waiting }.network)).2.sent

/-- The frames that the next deliveries send. -/
def sentIn (h : ClosedHub) : Nat → List OutboundFrame
  | 0 => []
  | n + 1 => h.sends ++ h.deliver.sentIn n

/-- A press of a button; nothing happens at a node that is no keypad. -/
def press (h : ClosedHub) (id : DeviceId) (button : UInt8) : ClosedHub :=
  match h.network.press id button with
  | .ok (n, _) => { h with nodes := n.nodes, waiting := n.published }
  | .error _ => h

def call (h : ClosedHub) (c : Call) : ClosedHub := h.run (c.run h.network.directory)

/-- The oldest frames are lost, and the lights are asked for. -/
def lag (h : ClosedHub) (lost : Nat) : ClosedHub :=
  { h with waiting := h.waiting.drop lost }.run Manager.refreshIndicators

end ClosedHub

/-- A node as it is made. -/
inductive Node.Fresh : Node → Prop where
  | keypad (id : DeviceId) (portable : Bool) : Fresh (.keypad (.new id portable))
  | dimmer (id : DeviceId) (sceneCapable : Bool) : Fresh (.dimmer (.new id sceneCapable))

namespace ClosedHub

/-- A manager without scenes and nodes that joined its network. -/
def start (manager : Manager) (nodes : List Node) : ClosedHub :=
  ⟨manager, (nodes.foldl Network.join Network.empty).nodes, []⟩

/-- The hubs that come about, in any order of deliveries, presses and calls. Frames are lost only
where `lossy` says so. -/
inductive Reachable (lossy : Prop) : ClosedHub → Prop where
  | start {coordinator : DeviceId} {count : UInt8} {m : Manager} {nodes : List Node} :
      (Manager.new.withCoordinator coordinator).withButtonCount count = .ok m →
        (∀ n ∈ nodes, n.Fresh) →
      Reachable lossy (start m nodes)
  | deliver {h : ClosedHub} : Reachable lossy h → Reachable lossy h.deliver
  | press {h : ClosedHub} (id : DeviceId) (button : UInt8) : Reachable lossy h →
    Reachable lossy (h.press id button)
  | call {h : ClosedHub} (c : Call) : Reachable lossy h → Reachable lossy (h.call c)
  | lag {h : ClosedHub} (lost : Nat) : lossy → Reachable lossy h → Reachable lossy (h.lag lost)

end ClosedHub

end MeshScenes
