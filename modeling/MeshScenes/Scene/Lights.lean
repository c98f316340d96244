import MeshScenes.Controller.Registry
import MeshScenes.Scene.Programming

/-!
# The lights of a scene

Each controller of a scene shows by the light of its button whether the scene is on. Activation
turns these lights on; a change that one controller reports is carried over to the others.
-/

namespace MeshScenes.Scene

open Journal (Field)

variable {χ : Type} [Channel χ]

/-- Turns the scene's light on at every controller. The answer is how many lights changed. -/
def activate (s : Scene) : Act Registry χ Nat := do
  if s.controllers.isEmpty then
    Act.note (.info "scene has no controllers, nothing to activate" [("scene", .show s.id)])
    return 0
  let registry ← Act.subject
  let _ ← Act.of (s.resolve registry)
  let changed ← s.controllers.toList.foldlM (fun n (device, button) => do
    let changed ← Registry.setButton device button true
    return if changed then n + 1 else n) 0
  Act.note (.info "scene activated" [("scene", .show s.id), ("changed", .number changed)])
  return changed

/-- Carries a change of the scene's light at one controller over to the others. The answer is how
many lights changed. A controller that is not registered is passed over. -/
def sync (s : Scene) (origin : DeviceId) (on : Bool) : Act Registry χ Nat := do
  let others := s.controllers.toList.filter fun e => e.1 ≠ origin
  let changed ← others.foldlM (fun n (device, button) => do
    let registry ← Act.subject
    if registry.contains device then
      let changed ← Registry.setButton device button on
      return if changed then n + 1 else n
    else
      Act.note (.warn "controller not registered, skipping sync" [
        ("scene", .show s.id), ("controller", .show device)])
      return n) 0
  Act.note (.debug "synchronised controllers" [
    ("scene", .show s.id), ("origin", .show origin), ("on", .flag on),
      ("changed", .number changed)])
  return changed

end MeshScenes.Scene
