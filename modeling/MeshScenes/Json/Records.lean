import MeshScenes.Device
import MeshScenes.Json.Fields
import MeshScenes.Json.Printer
import MeshScenes.Json.Reader
import MeshScenes.Snapshot
import MeshScenes.Timestamp.Reader

/-!
# The JSON forms of the domain

Each type is written with its fields in the order of their declaration. Records of scenes may leave
out what has a default: three seconds, the override, no devices and no controllers.
-/

namespace MeshScenes

open Json JsonValue

/-! ## Identifiers and classes -/

def DeviceId.toJson (d : DeviceId) : JsonValue := ofByte d.byte
def DeviceId.ofJson? (v : JsonValue) : Option DeviceId := (readByte? v).map DeviceId.mk

def ButtonId.toJson (b : ButtonId) : JsonValue := ofByte b.byte
def ButtonId.ofJson? (v : JsonValue) : Option ButtonId := (readByte? v).map ButtonId.mk

def SceneId.toJson (s : SceneId) : JsonValue := natural s.byte.toNat
def SceneId.ofJson? (v : JsonValue) : Option SceneId := (readByte? v).bind SceneId.ofByte?

def Duration.toJson (d : Duration) : JsonValue := ofByte d.byte
def Duration.ofJson? (v : JsonValue) : Option Duration := (readByte? v).map Duration.mk

def CommandClass.toJson (c : CommandClass) : JsonValue := text c.name
def CommandClass.ofJson? (v : JsonValue) : Option CommandClass :=
  (readName? v).bind CommandClass.ofName?

def DeviceClass.toJson (c : DeviceClass) : JsonValue := text c.name
def DeviceClass.ofJson? (v : JsonValue) : Option DeviceClass :=
  (readName? v).bind DeviceClass.ofName?

def Timestamp.toJson (t : Timestamp) : JsonValue := text t.render
def Timestamp.ofJson? (v : JsonValue) : Option Timestamp := (readText? v).bind Timestamp.parse?

/-! ## Devices -/

def Device.toJson (d : Device) : JsonValue :=
  ofFields [
    ("id", d.id.toJson),
    ("class", d.deviceClass.toJson),
    ("manufacturer", match d.manufacturer with | some n => natural n.toNat | none => null),
    ("command_classes", array (d.commandClasses.keys.map CommandClass.toJson))]

def Device.ofJson? (v : JsonValue) : Option Device := do
  let f ← Fields.read? ["id", "class", "manufacturer", "command_classes"] v
  let id ← f.required? "id" DeviceId.ofJson?
  let deviceClass ← f.required? "class" DeviceClass.ofJson?
  let manufacturer ← f.optional? "manufacturer" (readNatural? 65536)
  let classes ← f.required? "command_classes" (readList? CommandClass.ofJson?)
  return ⟨id, deviceClass, manufacturer.map UInt16.ofNat, ByteSet.ofList classes⟩

def Member.toJson (m : Member) : JsonValue :=
  ofFields [
    ("device_id", m.device.toJson), ("value", ofByte m.value),
      ("scene_capable", bool m.sceneCapable)]

def Member.ofJson? (v : JsonValue) : Option Member := do
  let f ← Fields.read? ["device_id", "value", "scene_capable"] v
  let device ← f.required? "device_id" DeviceId.ofJson?
  let value ← f.required? "value" readByte?
  let sceneCapable ← f.required? "scene_capable" readBool?
  return ⟨device, value, sceneCapable⟩

/-! ## Snapshots -/

def DeviceRecord.toJson (r : DeviceRecord) : JsonValue :=
  ofFields [("device_id", r.device.toJson), ("value", ofByte r.value)]

def DeviceRecord.ofJson? (v : JsonValue) : Option DeviceRecord := do
  let f ← Fields.read? ["device_id", "value"] v
  let device ← f.required? "device_id" DeviceId.ofJson?
  let value ← f.required? "value" readByte?
  return ⟨device, value⟩

def ControllerRecord.toJson (r : ControllerRecord) : JsonValue :=
  ofFields [("device_id", r.device.toJson), ("button", r.button.toJson)]

def ControllerRecord.ofJson? (v : JsonValue) : Option ControllerRecord := do
  let f ← Fields.read? ["device_id", "button"] v
  let device ← f.required? "device_id" DeviceId.ofJson?
  let button ← f.required? "button" ButtonId.ofJson?
  return ⟨device, button⟩

def SceneRecord.toJson (r : SceneRecord) : JsonValue :=
  ofFields [
    ("id", r.id.toJson),
    ("name", text r.name),
    ("duration", r.duration.toJson),
    ("override_level", bool r.overrideLevel),
    ("devices", array (r.devices.map DeviceRecord.toJson)),
    ("controllers", array (r.controllers.map ControllerRecord.toJson))]

def SceneRecord.ofJson? (v : JsonValue) : Option SceneRecord := do
  let f ← Fields.read? ["id", "name", "duration", "override_level", "devices", "controllers"] v
  let id ← f.required? "id" SceneId.ofJson?
  let name ← f.required? "name" readText?
  let duration ← f.withDefault? "duration" default Duration.ofJson?
  let overrideLevel ← f.withDefault? "override_level" true readBool?
  let devices ← f.withDefault? "devices" [] (readList? DeviceRecord.ofJson?)
  let controllers ← f.withDefault? "controllers" [] (readList? ControllerRecord.ofJson?)
  return ⟨id, name, duration, overrideLevel, devices, controllers⟩

def Snapshot.toJson (s : Snapshot) : JsonValue :=
  ofFields [
    ("saved_at", match s.savedAt with | some t => t.toJson | none => null),
    ("scenes", array (s.scenes.map SceneRecord.toJson))]

def Snapshot.ofJson? (v : JsonValue) : Option Snapshot := do
  let f ← Fields.read? ["saved_at", "scenes"] v
  let savedAt ← f.optional? "saved_at" Timestamp.ofJson?
  let scenes ← f.required? "scenes" (readList? SceneRecord.ofJson?)
  return ⟨savedAt, scenes⟩

end MeshScenes
