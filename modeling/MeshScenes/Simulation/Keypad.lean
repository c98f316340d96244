import MeshScenes.Device
import MeshScenes.Frame

/-!
# Keypads

A simulated scene controller, on the wall or held in the hand. It keeps what it is told about its
groups, and has a light for each of its eight buttons.
-/

namespace MeshScenes

structure Keypad where
  id : DeviceId
  portable : Bool
  /-- The lights, bit 0 for button 1. -/
  lights : UInt8
  /-- The members of each group; a group may be known and empty. -/
  groups : ByteMap UInt8 (ByteSet DeviceId)
  parameters : ByteMap UInt8 UInt8
  /-- The scene and the duration that each group is bound to. -/
  scenes : ByteMap UInt8 (UInt8 × UInt8)
  deriving DecidableEq

namespace Keypad

def new (id : DeviceId) (portable : Bool) : Keypad :=
  ⟨id, portable, 0, ByteMap.empty, ByteMap.empty, ByteMap.empty⟩

def descriptor (k : Keypad) : Device where
  id := k.id
  deviceClass := if k.portable then .portableSceneController else .sceneController
  manufacturer := none
  commandClasses :=
    ByteSet.ofList [.basic, .sceneControllerConf, .indicator, .association, .configuration]

/-- The place of a button's light; there are eight. -/
def bit? (button : UInt8) : Option UInt8 :=
  if 1 ≤ button ∧ button ≤ 8 then some (button - 1) else none

def isLit (k : Keypad) (bit : UInt8) : Bool := k.lights &&& (1 <<< bit) ≠ 0

/-- A press turns the button's light over. The keypad sends the new state and, when the light went
on and the button's group is bound, the activation of that scene. -/
def press (k : Keypad) (button : UInt8) : Keypad × List InboundFrame :=
  match bit? button with
  | none => (k, [])
  | some bit =>
    let k := { k with lights := k.lights ^^^ (1 <<< bit) }
    let basic := InboundFrame.ofClass k.id .basic [0x01, if k.isLit bit then 0xFF else 0x00]
    let activation := match k.scenes.get? button with
      | some (scene, duration) =>
        if k.isLit bit then [InboundFrame.ofClass k.id .sceneActivation [0x01, scene, duration]]
          else []
      | none => []
    (k, basic :: activation)

def indicatorReport (k : Keypad) : InboundFrame := .ofClass k.id .indicator [0x03, k.lights]

/-- Takes a frame in; the answer is what the keypad sends back, or nothing when it does not know
the message. -/
def receive? (k : Keypad) (c : CommandClass) (payload : List UInt8) :
    Option (Keypad × List InboundFrame) :=
  match c, payload with
  | .indicator, 0x01 :: lights :: _ => some ({ k with lights }, [])
  | .indicator, 0x02 :: _ => some (k, [k.indicatorReport])
  | .association, 0x01 :: group :: nodes =>
    let members := (k.groups.get? group).getD ByteMap.empty
    some ({ k with
      groups := k.groups.insert group (ByteSet.addAll members (nodes.map DeviceId.mk)) }, [])
  | .association, [0x04, group] => some ({ k with groups := k.groups.erase group }, [])
  | .association, 0x04 :: group :: nodes =>
    some ({ k with
      groups := k.groups.modify group (ByteSet.removeAll · (nodes.map DeviceId.mk)) }, [])
  | .configuration, [0x04, parameter, 1, value] =>
    some ({ k with parameters := k.parameters.insert parameter value }, [])
  | .sceneControllerConf, [0x01, group, scene, duration] =>
    some ({ k with scenes := k.scenes.insert group (scene, duration) }, [])
  | .sceneControllerConf, [0x02, group] =>
    let (scene, duration) := (k.scenes.get? group).getD (0, 0)
    some (k, [.ofClass k.id .sceneControllerConf [0x03, group, scene, duration]])
  | _, _ => none

end Keypad

end MeshScenes
