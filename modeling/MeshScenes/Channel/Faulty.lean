import MeshScenes.ByteMap
import MeshScenes.Channel

/-!
# A channel with faults to order

Nodes can be made unreachable, and the channel can be told to break after a number of frames. A
refused frame does not count.
-/

namespace MeshScenes

structure FaultyChannel where
  unreachable : ByteSet DeviceId
  /-- How many more frames are accepted, if there is an end to them. -/
  remaining : Option Nat
  deriving DecidableEq

namespace FaultyChannel

def sound : FaultyChannel := ⟨ByteMap.empty, none⟩

def refusal? (c : FaultyChannel) (f : OutboundFrame) : Option TransportFailure :=
  if c.unreachable.contains f.destination then some (.unreachable f.destination)
  else if c.remaining = some 0 then some .channelDown
  else none

instance : Channel FaultyChannel where
  send f c :=
    match c.refusal? f with
    | some refusal => ⟨c, some refusal, []⟩
    | none => ⟨{ c with remaining := c.remaining.map (· - 1) }, none, []⟩

end FaultyChannel

end MeshScenes
