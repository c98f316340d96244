import MeshScenes.Controller.Reaction

/-!
# The registry of controllers

Operations on the controllers of a network, each looked up by its device.
-/

namespace MeshScenes.Registry

variable {χ : Type} [Channel χ]

/-- The controller of a device; one that is not known yet is attached first, and is registered only
if that succeeds. -/
def getOrBind (device : DeviceId) (buttonCount : UInt8) (directory : Directory) :
    Act Registry χ Controller := do
  let registry ← Act.subject
  match registry.get? device with
  | some c => return c
  | none =>
    let c ← Act.of (((Controller.new device).setButtonCount buttonCount).mapError .validation)
    let reaction ← Act.of (c.bind directory)
    let (_, bound) ← Act.aside c reaction.run
    Act.change (·.insert device bound)
    return bound

/-- Lets a registered controller react. -/
def react {α : Type} (device : DeviceId) (f : Controller → Except Error (Reaction α)) :
    Act Registry χ α := do
  let registry ← Act.subject
  match registry.get? device with
  | none => Act.of (.error (.notFound (.controller device)))
  | some c =>
    let reaction ← Act.of (f c)
    Act.within c (fun c r => r.insert device c) reaction.run

/-- Drives the light of a button of a registered controller. -/
def setButton (device : DeviceId) (button : ButtonId) (on : Bool) : Act Registry χ Bool :=
  react device (·.setButton button on)

/-- Asks every controller for its lights, in ascending order, up to the first failure. -/
def refresh : Act Registry χ Unit := do
  let registry ← Act.subject
  registry.keys.forM fun device => react device (.ok ·.requestIndicator)

end MeshScenes.Registry
