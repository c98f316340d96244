import MeshScenes.Error

/-!
# Dimming durations

One byte holds the time a device takes to reach a level: 0 is at once, 1 to 127 are seconds, 128 to
254 are 0 to 126 minutes, and 255 leaves the choice to the device.
-/

namespace MeshScenes

structure Duration where
  byte : UInt8
  deriving DecidableEq, Repr

namespace Duration

def instant : Duration := ⟨0⟩

def factoryDefault : Duration := ⟨255⟩

/-- New scenes start with three seconds. -/
instance : Inhabited Duration := ⟨⟨3⟩⟩

def seconds (n : UInt16) : Except ValidationError Duration :=
  if 1 ≤ n ∧ n ≤ 127 then .ok ⟨n.toUInt8⟩ else .error (.durationOutOfRange n .seconds)

def minutes (n : UInt16) : Except ValidationError Duration :=
  if 1 ≤ n ∧ n ≤ 126 then .ok ⟨128 + n.toUInt8⟩ else .error (.durationOutOfRange n .minutes)

instance : ToString Duration where
  toString d :=
    if d.byte = 0 then "Instant"
    else if d.byte ≤ 127 then s!"{d.byte} seconds"
    else if d.byte = 255 then "factory default"
    else s!"{d.byte - 128} minutes"

end Duration

end MeshScenes
