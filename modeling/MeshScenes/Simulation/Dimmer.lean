import MeshScenes.Device
import MeshScenes.Frame

/-!
# Dimmers

A simulated dimmer. A scene-capable one stores a level and a duration for each scene.
-/

namespace MeshScenes

structure Dimmer where
  id : DeviceId
  sceneCapable : Bool
  level : UInt8
  /-- The level and the duration of each scene. -/
  scenes : ByteMap UInt8 (UInt8 × UInt8)
  deriving DecidableEq

namespace Dimmer

def new (id : DeviceId) (sceneCapable : Bool) : Dimmer := ⟨id, sceneCapable, 0, ByteMap.empty⟩

def descriptor (d : Dimmer) : Device where
  id := d.id
  deviceClass := .other
  manufacturer := none
  commandClasses :=
    ByteSet.ofList (.basic :: if d.sceneCapable then [.sceneActivation, .sceneActuatorConf] else [])

/-- Takes a frame in; the answer is what the dimmer sends back, or nothing when it does not know
the message. -/
def receive? (d : Dimmer) (c : CommandClass) (payload : List UInt8) :
    Option (Dimmer × List InboundFrame) :=
  match c, payload with
  | .basic, 0x01 :: level :: _ => some ({ d with level }, [])
  | .sceneActuatorConf, [0x01, scene, duration, _, level] =>
    if d.sceneCapable then some ({ d with scenes := d.scenes.insert scene (level, duration) }, [])
    else none
  | .sceneActuatorConf, [0x02, scene] =>
    if d.sceneCapable then
      let (level, duration) := (d.scenes.get? scene).getD (0, 0)
      some (d, [.ofClass d.id .sceneActuatorConf [0x03, scene, level, duration]])
    else none
  | _, _ => none

end Dimmer

end MeshScenes
