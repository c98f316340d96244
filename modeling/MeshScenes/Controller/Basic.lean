import MeshScenes.Device

/-!
# Scene controllers

The hub's picture of one physical controller: its indicator lights as last written or reported, and
how far that picture can be trusted. Every change is made to the picture first and sent afterwards;
only a report from the device makes it valid again.
-/

namespace MeshScenes

/-- How the picture stands to the device. -/
inductive IndicatorState where
  /-- Not attached to a device. -/
  | unbound
  /-- Attached, and nothing known about the lights. -/
  | boundUnknown
  /-- A message about the lights is on its way. -/
  | boundPending
  /-- The picture is what the device last reported. -/
  | boundValid
  deriving DecidableEq, Repr

def IndicatorState.name : IndicatorState → String
  | unbound => "Unbound"
  | boundUnknown => "BoundUnknown"
  | boundPending => "BoundPending"
  | boundValid => "BoundValid"

structure Controller where
  device : DeviceId
  state : IndicatorState
  /-- The lights, bit 0 for button 1. -/
  indicator : UInt8
  /-- What the last report said, if there was one. -/
  reported : Option UInt8
  buttonCount : UInt8
  portable : Bool
  cooper : Bool
  supportsIndicator : Bool
  supportsAssociation : Bool
  supportsConfiguration : Bool
  deriving DecidableEq, Repr

/-- The number of buttons of a controller that is not told otherwise. -/
def defaultButtonCount : UInt8 := 5

namespace Controller

/-- A controller that is not attached yet. -/
def new (device : DeviceId) : Controller where
  device := device
  state := .unbound
  indicator := 0
  reported := none
  buttonCount := defaultButtonCount
  portable := false
  cooper := false
  supportsIndicator := false
  supportsAssociation := false
  supportsConfiguration := false

def isBound (c : Controller) : Bool := c.state ≠ .unbound

/-- Whether a report has confirmed the picture since it was last changed. -/
def isValid (c : Controller) : Bool := c.state = .boundValid

/-- Two to eight buttons: their lights share one byte. -/
def setButtonCount (c : Controller) (count : UInt8) : Except ValidationError Controller :=
  if 2 ≤ count ∧ count ≤ 8 then .ok { c with buttonCount := count }
  else .error (.buttonCountOutOfRange count)

/-- Scenes use the buttons from 1 up to, and without, the last one. -/
def acceptsButton (c : Controller) (b : ButtonId) : Bool := 1 ≤ b.byte ∧ b.byte < c.buttonCount

def isOn (c : Controller) (b : ButtonId) : Bool :=
  match b.bit? with
  | some bit => c.indicator &&& (1 <<< bit) ≠ 0
  | none => false

/-- The lights of all buttons, button 1 first. -/
def lights (c : Controller) : List Bool :=
  (List.range c.buttonCount.toNat).map fun i => c.isOn ⟨UInt8.ofNat (i + 1)⟩

end Controller

/-- The controllers that are known, each once however many scenes it serves. -/
abbrev Registry := ByteMap DeviceId Controller

end MeshScenes
