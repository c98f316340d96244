import MeshScenes.Duration
import MeshScenes.Timestamp.Basic

/-!
# Snapshots

What is kept of the scenes between two runs: their configuration, and not what the network holds.
-/

namespace MeshScenes

structure DeviceRecord where
  device : DeviceId
  value : UInt8
  deriving DecidableEq, Repr

structure ControllerRecord where
  device : DeviceId
  button : ButtonId
  deriving DecidableEq, Repr

structure SceneRecord where
  id : SceneId
  name : String
  duration : Duration
  overrideLevel : Bool
  devices : List DeviceRecord
  controllers : List ControllerRecord
  deriving DecidableEq, Repr

structure Snapshot where
  savedAt : Option Timestamp
  scenes : List SceneRecord
  deriving DecidableEq

def Snapshot.isEmpty (s : Snapshot) : Bool := s.scenes.isEmpty

end MeshScenes
