import MeshScenes.ByteMap

/-!
# Command classes

The families of messages that scenes are made with, in the order of their wire identifiers.
-/

namespace MeshScenes

inductive CommandClass where
  | basic
  | controllerReplication
  | sceneActivation
  | sceneActuatorConf
  | sceneControllerConf
  | configuration
  | association
  | indicator
  deriving DecidableEq, Repr

namespace CommandClass

def all : List CommandClass :=
  [basic, controllerReplication, sceneActivation, sceneActuatorConf, sceneControllerConf,
    configuration, association, indicator]

/-- The byte that names the class on the wire. -/
def id : CommandClass → UInt8
  | basic => 0x20
  | controllerReplication => 0x21
  | sceneActivation => 0x2B
  | sceneActuatorConf => 0x2C
  | sceneControllerConf => 0x2D
  | configuration => 0x70
  | association => 0x85
  | indicator => 0x87

def ofId? (n : UInt8) : Option CommandClass := all.find? fun c => c.id = n

/-- The name used in messages and journals. -/
def label : CommandClass → String
  | basic => "BASIC"
  | controllerReplication => "CONTROLLER_REPLICATION"
  | sceneActivation => "SCENE_ACTIVATION"
  | sceneActuatorConf => "SCENE_ACTUATOR_CONF"
  | sceneControllerConf => "SCENE_CONTROLLER_CONF"
  | configuration => "CONFIGURATION"
  | association => "ASSOCIATION"
  | indicator => "INDICATOR"

/-- The name used in files. -/
def name : CommandClass → String
  | basic => "basic"
  | controllerReplication => "controller_replication"
  | sceneActivation => "scene_activation"
  | sceneActuatorConf => "scene_actuator_conf"
  | sceneControllerConf => "scene_controller_conf"
  | configuration => "configuration"
  | association => "association"
  | indicator => "indicator"

def ofName? (s : String) : Option CommandClass := all.find? fun c => c.name = s

instance : ToString CommandClass := ⟨label⟩

theorem id_inj {a b : CommandClass} (h : a.id = b.id) : a = b := by
  cases a <;> cases b <;> first | rfl | exact absurd h (by decide)

instance : ByteKey CommandClass := ⟨id, id_inj⟩

@[simp] theorem ofId?_id (c : CommandClass) : ofId? c.id = some c := by cases c <;> rfl

end CommandClass

end MeshScenes
