import MeshScenes.Manager.Scenes

/-!
# Saving and restoring scenes

A snapshot is restored through the same calls that configure scenes by hand. What is taken already,
or unknown to the network, is passed over, so nothing that exists is changed.
-/

namespace MeshScenes.Manager

variable {χ : Type} [Channel χ]

def snapshot (m : Manager) (now : Timestamp) : Snapshot :=
  ⟨some now, m.scenes.values.map Scene.toRecord⟩

def restoreDevice (directory : Directory) (id : SceneId) (record : DeviceRecord) :
    Act Manager χ Unit := do
  match ← Act.outcome (addDevice directory id record.device record.value) with
  | .ok () => pure ()
  | .error e =>
    Act.note (.warn "skipping device" [
      ("scene", .show id), ("device", .show record.device), ("err", .text e.summary)])

def restoreController (directory : Directory) (id : SceneId) (record : ControllerRecord) :
    Act Manager χ Unit := do
  match ← Act.outcome (addController directory id record.device record.button) with
  | .ok () => pure ()
  | .error e =>
    Act.note (.warn "skipping controller" [
      ("scene", .show id), ("controller", .show record.device), ("err", .text e.summary)])

/-- The answer is whether the scene was restored. -/
def restoreScene (directory : Directory) (record : SceneRecord) : Act Manager χ Bool := do
  match ← Act.outcome (newSceneWithId record.id.byte.toUInt32 record.name) with
  | .error e =>
    Act.note (.warn "skipping scene" [("scene", .show record.id), ("err", .text e.summary)])
    return false
  | .ok id =>
    setDuration id record.duration
    setOverride id record.overrideLevel
    record.devices.forM (restoreDevice directory id)
    record.controllers.forM (restoreController directory id)
    return true

/-- The answer is how many scenes were restored. -/
def restore (directory : Directory) (snapshot : Snapshot) : Act Manager χ Nat := do
  let restored ← snapshot.scenes.foldlM (fun n record => do
    let done ← restoreScene directory record
    return if done then n + 1 else n) 0
  Act.note (.info "scenes restored" [("restored", .number restored)])
  return restored

end MeshScenes.Manager
