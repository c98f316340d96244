import MeshScenes.Act
import MeshScenes.Controller.Basic

/-!
# What a controller does

An operation on a controller decides at once what the picture becomes and which requests go to the
device. The channel may refuse some of them; that changes the result of the operation and cuts the
requests short, but not the picture.
-/

namespace MeshScenes

open Journal (Entry Field)

structure Reaction (α : Type) where
  /-- The picture afterwards, whatever becomes of the requests. -/
  controller : Controller
  notes : List Entry
  /-- What is sent to the device, in order. -/
  requests : List Request
  /-- The answer, if every request is accepted. -/
  answer : α

/-- Carries a reaction out. -/
def Reaction.run {α χ : Type} [Channel χ] (r : Reaction α) : Act Controller χ α := do
  Act.replace r.controller
  Act.notes r.notes
  Act.requests (r.requests.map fun q => (r.controller.device, q))
  return r.answer

namespace Controller

/-- Asks the device for its lights; until it answers the picture is in doubt. -/
def requestIndicator (c : Controller) : Reaction Unit :=
  if c.supportsIndicator then ⟨{ c with state := .boundPending }, [], [.indicatorGet], ()⟩
  else ⟨c, [], [], ()⟩

/-- Attaches the controller to its device, as the directory describes it. The device must be a scene
controller that can be told its scenes; if it has lights it is asked for them. -/
def bind (c : Controller) (directory : Directory) : Except Error (Reaction Unit) := do
  let some device := directory c.device | throw (.notFound (.device c.device))
  unless device.deviceClass.isSceneController do
    throw (.validation (.notASceneController c.device))
  unless device.supports .sceneControllerConf do
    throw (.unsupported c.device .sceneControllerConf)
  let bound : Controller :=
    { c with
      portable := device.deviceClass = .portableSceneController
      cooper := device.manufacturer = some Device.cooper
      supportsIndicator := device.supports .indicator
      supportsAssociation := device.supports .association
      supportsConfiguration := device.supports .configuration
      state := .boundUnknown
      reported := none }
  let asked := bound.requestIndicator
  return { asked with
    notes := .debug "scene controller bound" [
      ("controller", .show c.device), ("portable", .flag bound.portable),
      ("cooper", .flag bound.cooper), ("indicator", .flag bound.supportsIndicator)] :: asked.notes }

/-- Writes all lights at once, and asks the device to confirm. The answer is what they were before;
nothing is sent when they do not change. -/
def setIndicator (c : Controller) (bitmask : UInt8) : Reaction UInt8 :=
  if c.indicator = bitmask then ⟨c, [], [], c.indicator⟩
  else if !c.supportsIndicator then ⟨{ c with indicator := bitmask }, [], [], c.indicator⟩
  else
    { controller := { c with indicator := bitmask, state := .boundPending }
      notes := [.debug "setting indicator" [
        ("controller", .show c.device), ("previous", .number c.indicator.toNat),
        ("bitmask", .number bitmask.toNat)]]
      requests := [.indicatorSet bitmask.toUInt32, .indicatorGet]
      answer := c.indicator }

/-- Drives the light of one button. The answer is whether it changed in the picture; where it did
not, nothing is sent, even if the device is not known to agree. -/
def setButton (c : Controller) (button : ButtonId) (on : Bool) : Except Error (Reaction Bool) := do
  unless c.isBound do
    throw (.validation (.controllerNotBound c.device))
  unless c.acceptsButton button do
    throw (.validation (.invalidButton c.device button))
  let some bit := button.bit? | throw (.validation (.invalidButton c.device button))
  if c.isOn button = on then
    return { controller := c
             notes := [.debug "indicator already in target state, skipping set" [
               ("controller", .show c.device), ("button", .show button), ("on", .flag on),
               ("valid", .flag c.isValid)]]
             requests := []
             answer := false }
  let bitmask := if on then c.indicator ||| (1 <<< bit) else c.indicator &&& ~~~(1 <<< bit)
  return { c.setIndicator bitmask with answer := true }

/-- Takes over the lights that the device reports. The answer is the report before, which tells the
caller what the device itself changed. -/
def handleReport (c : Controller) (bitmask : UInt8) : Controller × Option UInt8 :=
  ({ c with
      indicator := bitmask
      state := if c.isBound then .boundValid else c.state
      reported := some bitmask },
    c.reported)

/-- A Basic report tells of a press but not of which button, so the lights are asked for. -/
def handleBasic (c : Controller) : Reaction Unit := c.requestIndicator

/-- The request that empties the group of a button. -/
def resetGroup (c : Controller) (group : ButtonId) : Except Error Request :=
  if c.supportsAssociation then .ok (.associationClear group.byte.toUInt32)
  else .error (.unsupported c.device .association)

end Controller

end MeshScenes
