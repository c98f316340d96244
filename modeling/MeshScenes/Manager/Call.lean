import MeshScenes.Manager.Restore
import MeshScenes.Manager.Routing

/-!
# Calls

What the owner of a manager asks of it, and the managers that come about by calls and by what the
network sends, in any order. The channel is whatever it is at each of these moments, and so is the
directory, within what is known of all of its answers.
-/

namespace MeshScenes

inductive Call where
  | newScene (number : UInt32) (name : String)
  | removeScene (id : SceneId)
  | setName (id : SceneId) (name : String)
  | setDuration (id : SceneId) (duration : Duration)
  | setOverride (id : SceneId) (overrideLevel : Bool)
  | addDevice (id : SceneId) (device : DeviceId) (value : UInt8)
  | removeDevice (id : SceneId) (device : DeviceId)
  | setValue (id : SceneId) (device : DeviceId) (value : UInt8)
  | addController (id : SceneId) (controller : DeviceId) (button : ButtonId)
  | removeController (id : SceneId) (controller : DeviceId)
  | program (id : SceneId)
  | activate (id : SceneId)
  | refresh
  | restore (snapshot : Snapshot)

def Call.run {χ : Type} [Channel χ] (directory : Directory) : Call → Act Manager χ Unit
  | newScene number name => discard (Manager.newSceneWithId number name)
  | removeScene id => discard (Manager.removeScene id)
  | setName id name => Manager.setName id name
  | setDuration id duration => Manager.setDuration id duration
  | setOverride id overrideLevel => Manager.setOverride id overrideLevel
  | addDevice id device value => Manager.addDevice directory id device value
  | removeDevice id device => discard (Manager.removeDevice id device)
  | setValue id device value => Manager.setValue id device value
  | addController id controller button => Manager.addController directory id controller button
  | removeController id controller => discard (Manager.removeController id controller)
  | program id => discard (Manager.programScene id)
  | activate id => discard (Manager.activateScene id)
  | refresh => Manager.refreshIndicators
  | restore snapshot => discard (Manager.restore directory snapshot)

/-- A directory that answers an id with the device of that id. -/
def Directory.Honest (directory : Directory) : Prop := ∀ id d, directory id = some d → d.id = id

namespace Manager

/-- The managers that come about while every directory is one of `D`. Calls and events count whether
they succeed or not. -/
inductive Reachable (D : Directory → Prop) : Manager → Prop where
  | start {coordinator : DeviceId} {count : UInt8} {m : Manager} :
      (new.withCoordinator coordinator).withButtonCount count = .ok m → Reachable D m
  | call {χ : Type} [Channel χ] {m : Manager} {directory : Directory} (c : Call) (o : Outlet χ) :
      Reachable D m → D directory → Reachable D ((c.run directory).after (m, o)).1
  | frame {χ : Type} [Channel χ] {m : Manager} (f : InboundFrame) (o : Outlet χ) :
      Reachable D m → Reachable D ((handleFrame f).after (m, o)).1
  | event {χ : Type} [Channel χ] {m : Manager} (e : Event) (o : Outlet χ) :
      Reachable D m → Reachable D ((handleEvent e).after (m, o)).1

end Manager

end MeshScenes
