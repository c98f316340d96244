import MeshScenes.Error

/-!
# Devices

What a node of the mesh is and which command classes it implements, as the directory describes it.
-/

namespace MeshScenes

inductive DeviceClass where
  | sceneController
  | portableSceneController
  | other
  deriving DecidableEq, Repr

namespace DeviceClass

def isSceneController : DeviceClass → Bool
  | sceneController | portableSceneController => true
  | other => false

/-- The name used in files. -/
def name : DeviceClass → String
  | sceneController => "scene_controller"
  | portableSceneController => "portable_scene_controller"
  | other => "other"

def ofName? (s : String) : Option DeviceClass :=
  [sceneController, portableSceneController, other].find? fun c => c.name = s

end DeviceClass

structure Device where
  id : DeviceId
  deviceClass : DeviceClass
  manufacturer : Option UInt16
  commandClasses : ByteSet CommandClass
  deriving DecidableEq

namespace Device

/-- The maker whose controllers are flagged. -/
def cooper : UInt16 := 0x001A

/-- A descriptor of node `id`, which must not be the reserved node 0. -/
def build (id : DeviceId) (deviceClass : DeviceClass) (manufacturer : Option UInt16)
    (commandClasses : List CommandClass) : Except ValidationError Device :=
  if id.byte = 0 then .error .zeroDeviceId
  else .ok ⟨id, deviceClass, manufacturer, ByteSet.ofList commandClasses⟩

def supports (d : Device) (c : CommandClass) : Bool := d.commandClasses.contains c

/-- Whether the device stores scenes itself and so is configured directly. -/
def isSceneCapable (d : Device) : Bool :=
  d.supports .sceneActivation && d.supports .sceneActuatorConf

end Device

/-- The nodes that are known, each under its id. -/
abbrev Directory := DeviceId → Option Device

/-- The level a device takes in a scene. Whether it is scene-capable is noted when it joins. -/
structure Member where
  device : DeviceId
  value : UInt8
  sceneCapable : Bool
  deriving DecidableEq, Repr

def Member.ofDevice (d : Device) (value : UInt8) : Member := ⟨d.id, value, d.isSceneCapable⟩

end MeshScenes
