import MeshScenes.Frame

/-!
# Requests

What the hub asks of a node. Numeric fields come from callers as wide numbers; one that does not fit
its byte is refused, never cut short.
-/

namespace MeshScenes

/-- The byte of a field, if the number fits. -/
def WireField.narrow (field : WireField) (n : UInt32) : Except EncodingError UInt8 :=
  if n ≤ 255 then .ok n.toUInt8 else .error (.fieldOverflow field n)

inductive Request where
  /-- Store a scene's level and duration in a scene-capable device. -/
  | actuatorSet (scene level duration : UInt32) (overrideLevel : Bool)
  | actuatorGet (scene : UInt32)
  /-- Bind a controller's group to a scene. -/
  | controllerSet (group scene duration : UInt32)
  | controllerGet (group : UInt32)
  /-- Replace all indicator lights: bit 0 is button 1. -/
  | indicatorSet (bitmask : UInt32)
  | indicatorGet
  /-- Add nodes to a controller's group. -/
  | associationSet (group : UInt32) (members : List DeviceId)
  /-- Empty a controller's group. -/
  | associationClear (group : UInt32)
  /-- Store a one-byte parameter, such as the level a controller sends to a group. -/
  | configurationSet (parameter value : UInt32)
  deriving DecidableEq, Repr

namespace Request

def commandClass : Request → CommandClass
  | actuatorSet .. | actuatorGet _ => .sceneActuatorConf
  | controllerSet .. | controllerGet _ => .sceneControllerConf
  | indicatorSet _ | indicatorGet => .indicator
  | associationSet .. | associationClear _ => .association
  | configurationSet .. => .configuration

/-- The payload; of several fields that do not fit, the first one on the wire is reported. -/
def encode : Request → Except EncodingError (List UInt8)
  | actuatorSet scene level duration overrideLevel => do
    let scene ← WireField.sceneId.narrow scene
    let duration ← WireField.dimmingDuration.narrow duration
    let level ← WireField.level.narrow level
    return [0x01, scene, duration, if overrideLevel then 0x80 else 0, level]
  | actuatorGet scene => do
    let scene ← WireField.sceneId.narrow scene
    return [0x02, scene]
  | controllerSet group scene duration => do
    let group ← WireField.groupId.narrow group
    let scene ← WireField.sceneId.narrow scene
    let duration ← WireField.dimmingDuration.narrow duration
    return [0x01, group, scene, duration]
  | controllerGet group => do
    let group ← WireField.groupId.narrow group
    return [0x02, group]
  | indicatorSet bitmask => do
    let bitmask ← WireField.indicator.narrow bitmask
    return [0x01, bitmask]
  | indicatorGet => return [0x02]
  | associationSet group members => do
    let group ← WireField.groupId.narrow group
    return 0x01 :: group :: members.map DeviceId.byte
  | associationClear group => do
    let group ← WireField.groupId.narrow group
    return [0x04, group]
  | configurationSet parameter value => do
    let parameter ← WireField.parameter.narrow parameter
    let value ← WireField.value.narrow value
    return [0x04, parameter, 1, value]

def frame (r : Request) (destination : DeviceId) : Except EncodingError OutboundFrame := do
  let payload ← r.encode
  return ⟨destination, r.commandClass, payload⟩

theorem commandClass_frame {r : Request} {d : DeviceId} {f : OutboundFrame}
    (h : r.frame d = .ok f) :
    f.commandClass = r.commandClass := by
  unfold frame at h
  cases hp : r.encode with
  | error e => rw [hp] at h; cases h
  | ok payload => rw [hp] at h; cases h; rfl

end Request

/-! ## Fields that are bytes already -/

@[simp] theorem WireField.narrow_toUInt32 (field : WireField) (b : UInt8) :
    field.narrow b.toUInt32 = .ok b := by
  simp [WireField.narrow, toUInt32_le b]

theorem WireField.narrow_eq_error_iff {field : WireField} {n : UInt32} {e : EncodingError} :
    field.narrow n = .error e ↔ 255 < n ∧ e = .fieldOverflow field n := by
  unfold WireField.narrow
  split
  next h => simp [UInt32.not_lt.mpr h]
  next h => simp [UInt32.not_le.mp h, eq_comm]

end MeshScenes
