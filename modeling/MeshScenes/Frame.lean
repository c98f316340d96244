import MeshScenes.Error

/-!
# Frames

A frame is the payload of one command class, sent to a node or received from one. The payload
starts with the command byte.
-/

namespace MeshScenes

structure OutboundFrame where
  destination : DeviceId
  commandClass : CommandClass
  payload : List UInt8
  deriving DecidableEq, Repr

namespace OutboundFrame

def command? (f : OutboundFrame) : Option UInt8 := f.payload.head?

instance : ToString OutboundFrame where
  toString f :=
    s!"-> {f.destination} {f.commandClass} [" ++ ", ".intercalate (f.payload.map hexByte) ++ "]"

end OutboundFrame

/-- The class is kept as a byte: frames of unknown classes are received too. -/
structure InboundFrame where
  source : DeviceId
  commandClass : UInt8
  payload : List UInt8
  deriving DecidableEq, Repr

def InboundFrame.ofClass (source : DeviceId) (c : CommandClass) (payload : List UInt8) :
    InboundFrame :=
  ⟨source, c.id, payload⟩

end MeshScenes
