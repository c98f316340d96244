import MeshScenes.Text.Utf8
import MeshScenes.Wire.Report

/-!
# Replication transfers

A primary controller copies its tables of groups and scenes, one numbered transfer at a time. Names
come as bytes, which need not be well-formed text.
-/

namespace MeshScenes

inductive Transfer where
  /-- A device is a member of a group. -/
  | group (sequence group device : UInt8)
  | groupName (sequence group : UInt8) (name : List UInt8)
  /-- A device goes to a level in a scene. -/
  | scene (sequence scene device level : UInt8)
  | sceneName (sequence scene : UInt8) (name : List UInt8)
  deriving DecidableEq, Repr

namespace Transfer

def decode (payload : List UInt8) : Except EncodingError Transfer :=
  match payload with
  | [] => .error (.truncated .replication 1 0)
  | 0x31 :: _ => Layout.transferGroup.read 0x31 4 (fun
      | sequence :: g :: device :: _ => some (group sequence g device)
      | _ => none) payload
  | 0x32 :: _ => Layout.transferGroupName.read 0x32 3 (fun
      | sequence :: g :: name => some (groupName sequence g name)
      | _ => none) payload
  | 0x33 :: _ => Layout.transferScene.read 0x33 5 (fun
      | sequence :: s :: device :: level :: _ => some (scene sequence s device level)
      | _ => none) payload
  | 0x34 :: _ => Layout.transferSceneName.read 0x34 3 (fun
      | sequence :: s :: name => some (sceneName sequence s name)
      | _ => none) payload
  | command :: _ => .error (.unexpectedCommand .replication command)

/-- The name that a name transfer carries, as text. -/
def name? : Transfer → Option String
  | groupName _ _ name | sceneName _ _ name => some (Utf8.lossy name)
  | group .. | scene .. => none

/-- The form in which journals show a transfer. -/
def describe (t : Transfer) : String :=
  let bytes (name : List UInt8) : String := "[" ++ ", ".intercalate (name.map toString) ++ "]"
  let shown (kind : String) (fields : List (String × String)) : String :=
    kind ++ " \x7b " ++ ", ".intercalate (fields.map fun f => f.1 ++ ": " ++ f.2) ++ " \x7d"
  match t with
  | group sequence g device =>
    shown "TransferGroup"
      [("sequence", toString sequence), ("group_id", toString g), ("device_id", toString device)]
  | groupName sequence g name =>
    shown "TransferGroupName"
      [("sequence", toString sequence), ("group_id", toString g), ("name", bytes name)]
  | scene sequence s device level =>
    shown "TransferScene"
      [("sequence", toString sequence), ("scene_id", toString s), ("device_id", toString device),
        ("level", toString level)]
  | sceneName sequence s name =>
    shown "TransferSceneName"
      [("sequence", toString sequence), ("scene_id", toString s), ("name", bytes name)]

end Transfer

end MeshScenes
