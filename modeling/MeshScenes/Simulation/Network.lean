import MeshScenes.Channel
import MeshScenes.Simulation.Dimmer
import MeshScenes.Simulation.Keypad

/-!
# The simulated network

Keypads and dimmers behind one channel. The network is its own directory; it takes every frame,
hands it to the node it is meant for, and keeps what the nodes publish until somebody takes it away.
-/

namespace MeshScenes

inductive Node where
  | keypad (k : Keypad)
  | dimmer (d : Dimmer)
  deriving DecidableEq

namespace Node

def descriptor : Node → Device
  | keypad k => k.descriptor
  | dimmer d => d.descriptor

/-- Takes a frame in; a message that the node does not know changes nothing and is noted. -/
def receive (n : Node) (f : OutboundFrame) : Node × List InboundFrame × List Journal.Entry :=
  match n with
  | keypad k =>
    match k.receive? f.commandClass f.payload with
    | some (k, replies) => (keypad k, replies, [])
    | none => (n, [], [.debug "virtual controller ignored frame" [("frame", .show f)]])
  | dimmer d =>
    match d.receive? f.commandClass f.payload with
    | some (d, replies) => (dimmer d, replies, [])
    | none => (n, [], [.debug "virtual dimmer ignored frame" [("frame", .show f)]])

end Node

structure Network where
  nodes : ByteMap DeviceId Node
  /-- The frames that were sent into the network. -/
  sent : List OutboundFrame
  /-- The frames that nodes published and nobody took away yet. -/
  published : List InboundFrame
  deriving DecidableEq

namespace Network

def empty : Network := ⟨ByteMap.empty, [], []⟩

/-- A node joins, in place of one with the same id. -/
def join (n : Network) (node : Node) : Network :=
  { n with nodes := n.nodes.insert node.descriptor.id node }

def directory (n : Network) : Directory := fun id => (n.nodes.get? id).map Node.descriptor

/-- Hands a frame to its node, if there is one. -/
def deliver (n : Network) (f : OutboundFrame) : Network × List Journal.Entry :=
  match n.nodes.get? f.destination with
  | none =>
    ({ n with sent := n.sent ++ [f] },
      [.debug "no virtual node at destination" [("frame", .show f)]])
  | some node =>
    let (node, replies, notes) := node.receive f
    (⟨n.nodes.insert f.destination node, n.sent ++ [f], n.published ++ replies⟩, notes)

instance : Channel Network where
  send f n :=
    let (n, notes) := n.deliver f
    ⟨n, none, notes⟩

/-- Presses a button of a keypad. -/
def press (n : Network) (id : DeviceId) (button : UInt8) :
    Except Error (Network × List Journal.Entry) :=
  match n.nodes.get? id with
  | some (.keypad k) =>
    let (k, frames) := k.press button
    .ok ({ n with nodes := n.nodes.insert id (.keypad k), published := n.published ++ frames },
      [.debug "virtual button pressed"
        [("controller", .show id), ("button", .number button.toNat)]])
  | _ => .error (.notFound (.controller id))

/-- What is noted when a queue that leads into the network ends. -/
def queueEnded : Journal.Entry := .debug "outbound queue closed" []

def keypad? (n : Network) (id : DeviceId) : Option Keypad :=
  match n.nodes.get? id with
  | some (.keypad k) => some k
  | _ => none

def dimmer? (n : Network) (id : DeviceId) : Option Dimmer :=
  match n.nodes.get? id with
  | some (.dimmer d) => some d
  | _ => none

/-- The installation for demonstrations: two keypads on the wall and one in the hand, two plain
dimmers and a scene-capable one. -/
def demo : Network :=
  [Node.keypad (.new ⟨2⟩ false), .keypad (.new ⟨3⟩ false), .keypad (.new ⟨4⟩ true),
    .dimmer (.new ⟨10⟩ false), .dimmer (.new ⟨11⟩ false), .dimmer (.new ⟨12⟩ true)].foldl join empty

end Network

end MeshScenes
