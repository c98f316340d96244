import MeshScenes.CommandClass
import MeshScenes.Id

/-!
# Errors

Each constructor is a cause. A cause has a class, which is the text that journals show, and a
detail; the whole message is the class and then the detail.
-/

namespace MeshScenes

/-- The units a duration can be asked for in. -/
inductive TimeUnit where
  | seconds
  | minutes
  deriving DecidableEq, Repr

def TimeUnit.name : TimeUnit → String
  | .seconds => "seconds"
  | .minutes => "minutes"

/-! ## Arguments out of range -/

inductive ValidationError where
  | zeroSceneId
  | sceneIdOutOfRange (id : UInt32)
  | zeroDeviceId
  | sceneIdInUse (id : SceneId)
  | invalidButton (controller : DeviceId) (button : ButtonId)
  | buttonAlreadyBound (controller : DeviceId) (button : ButtonId) (scene : SceneId)
  | notASceneController (device : DeviceId)
  | controllerNotBound (device : DeviceId)
  | buttonCountOutOfRange (count : UInt8)
  | durationOutOfRange (value : UInt16) (unit : TimeUnit)
  deriving DecidableEq, Repr

def ValidationError.message : ValidationError → String
  | .zeroSceneId => "scene id 0 is reserved"
  | .sceneIdOutOfRange id => s!"scene id {id} is out of range 1..=255"
  | .zeroDeviceId => "device id 0 is reserved"
  | .sceneIdInUse id => s!"scene id {id} is already in use"
  | .invalidButton controller button => s!"button {button} is not valid for controller {controller}"
  | .buttonAlreadyBound controller button scene =>
    s!"button {button} of controller {controller} is already bound to scene {scene}"
  | .notASceneController device => s!"device {device} is not a scene controller"
  | .controllerNotBound device => s!"controller {device} is not bound"
  | .buttonCountOutOfRange count => s!"number of buttons {count} is out of range 2..=8"
  | .durationOutOfRange value unit => s!"dimming duration of {value} {unit.name} is out of range"

/-- Narrows a number to a scene id. -/
def SceneId.ofByte (n : UInt8) : Except ValidationError SceneId :=
  if h : n ≠ 0 then .ok ⟨n, h⟩ else .error .zeroSceneId

def SceneId.ofNumber (n : UInt32) : Except ValidationError SceneId :=
  if n ≤ 255 then SceneId.ofByte n.toUInt8 else .error (.sceneIdOutOfRange n)

/-! ## Wire forms -/

/-- The one-byte fields that callers give as wider numbers. -/
inductive WireField where
  | sceneId
  | dimmingDuration
  | level
  | groupId
  | indicator
  | parameter
  | value
  deriving DecidableEq, Repr

def WireField.name : WireField → String
  | .sceneId => "scene id"
  | .dimmingDuration => "dimming duration"
  | .level => "level"
  | .groupId => "group id"
  | .indicator => "indicator"
  | .parameter => "parameter"
  | .value => "value"

/-- The messages that are read from the wire. -/
inductive Layout where
  | actuatorReport
  | controllerReport
  | indicatorReport
  | activationSet
  | basic
  | replication
  | transferGroup
  | transferGroupName
  | transferScene
  | transferSceneName
  deriving DecidableEq, Repr

def Layout.name : Layout → String
  | .actuatorReport => "SCENE_ACTUATOR_CONF REPORT"
  | .controllerReport => "SCENE_CONTROLLER_CONF REPORT"
  | .indicatorReport => "INDICATOR REPORT"
  | .activationSet => "SCENE_ACTIVATION SET"
  | .basic => "BASIC"
  | .replication => "CONTROLLER_REPLICATION"
  | .transferGroup => "TRANSFER_GROUP"
  | .transferGroupName => "TRANSFER_GROUP_NAME"
  | .transferScene => "TRANSFER_SCENE"
  | .transferSceneName => "TRANSFER_SCENE_NAME"

/-- Two upper-case hexadecimal digits. -/
def hexByte (n : UInt8) : String :=
  let digit (d : Nat) : Char := if d < 10 then Char.ofNat (48 + d) else Char.ofNat (55 + d)
  String.ofList [digit (n.toNat / 16), digit (n.toNat % 16)]

inductive EncodingError where
  | fieldOverflow (field : WireField) (value : UInt32)
  | truncated (layout : Layout) (expected actual : Nat)
  | unexpectedCommand (layout : Layout) (command : UInt8)
  deriving DecidableEq, Repr

def EncodingError.message : EncodingError → String
  | .fieldOverflow field value => s!"{field.name} value {value} does not fit in one byte"
  | .truncated layout expected actual =>
    s!"{layout.name} payload must be at least {expected} bytes, got {actual}"
  | .unexpectedCommand layout command =>
    s!"unexpected command 0x{hexByte command} for {layout.name}"

/-! ## Failures of an operation -/

/-- What a look-up did not find. -/
inductive Missing where
  | scene (id : SceneId)
  | device (id : DeviceId)
  | controller (id : DeviceId)
  deriving DecidableEq, Repr

def Missing.message : Missing → String
  | .scene id => s!"Scene {id} not found"
  | .device id => s!"Device {id} not found"
  | .controller id => s!"SceneController {id} not found"

/-- Why a channel refused a frame. -/
inductive TransportFailure where
  | unreachable (node : DeviceId)
  | channelDown
  | channelClosed
  deriving DecidableEq, Repr

def TransportFailure.message : TransportFailure → String
  | .unreachable node => s!"node {node} unreachable"
  | .channelDown => "channel down"
  | .channelClosed => "channel closed"

inductive StorageFailure where
  | io
  | json
  deriving DecidableEq, Repr

def StorageFailure.message : StorageFailure → String
  | .io => "io error"
  | .json => "JSON error"

inductive Error where
  | validation (cause : ValidationError)
  | notFound (what : Missing)
  | capacity
  | encoding (cause : EncodingError)
  | unsupported (device : DeviceId) (needed : CommandClass)
  | transport (cause : TransportFailure)
  | storage (cause : StorageFailure)
  deriving DecidableEq, Repr

namespace Error

/-- The class of the error, all that a journal shows of it. -/
def summary : Error → String
  | validation _ => "validation error"
  | notFound _ => "not found"
  | capacity => "capacity exceeded"
  | encoding _ => "encoding error"
  | unsupported .. => "unsupported by device"
  | transport _ => "transport error"
  | storage _ => "storage error"

def detail : Error → String
  | validation cause => cause.message
  | notFound what => what.message
  | capacity => s!"all {maxScenes} scene ids are in use"
  | encoding cause => cause.message
  | unsupported device needed => s!"device {device} does not support {needed}"
  | transport cause => cause.message
  | storage cause => cause.message

def message (e : Error) : String := s!"{e.summary}: {e.detail}"

end Error

end MeshScenes
