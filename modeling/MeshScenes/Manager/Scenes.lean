import MeshScenes.Manager.Basic

/-!
# Making and changing scenes

The configuration calls of the manager. A call that fails leaves the scenes, the index and the
controllers as they were.
-/

namespace MeshScenes.Manager

variable {χ : Type}

def sceneNamed (id : SceneId) : Act Manager χ Scene := do
  let m ← Act.subject
  match m.scene? id with
  | some s => return s
  | none => throw (.notFound (.scene id))

def putScene (s : Scene) : Act Manager χ Unit :=
  Act.change fun m => { m with scenes := m.scenes.insert s.id s }

/-- Creates a scene. Number 0 stands for the lowest id that is free. -/
def newSceneWithId (number : UInt32) (name : String) : Act Manager χ SceneId := do
  let requested ← if number = 0 then pure none
    else do
      let id ← Act.of ((SceneId.ofNumber number).mapError Error.validation)
      pure (some id)
  let m ← Act.subject
  if maxScenes ≤ m.scenes.size then throw .capacity
  let id ← match requested with
    | some id => if m.scenes.contains id then throw (.validation (.sceneIdInUse id)) else pure id
    | none => match m.lowestUnusedId? with
      | some id => pure id
      | none => throw .capacity
  putScene (Scene.new id name)
  Act.note (.info "scene created" [("scene", .show id)])
  return id

def newScene (name : String) : Act Manager χ SceneId := newSceneWithId 0 name

/-- Deletes a scene, takes its buttons out of the index and forgets the controllers that no other
scene uses. -/
def removeScene (id : SceneId) : Act Manager χ Scene := do
  let s ← sceneNamed id
  Act.change fun m => { m with scenes := m.scenes.erase id }
  s.controllers.toList.forM fun (controller, button) => unindex controller button
  Act.note (.info "scene removed" [("scene", .show id)])
  return s

def setName (id : SceneId) (name : String) : Act Manager χ Unit := do
  let s ← sceneNamed id
  putScene { s with name }

def setDuration (id : SceneId) (duration : Duration) : Act Manager χ Unit := do
  let s ← sceneNamed id
  putScene { s with duration }

def setOverride (id : SceneId) (overrideLevel : Bool) : Act Manager χ Unit := do
  let s ← sceneNamed id
  putScene { s with overrideLevel }

/-! ## Members -/

def addDevice (directory : Directory) (id : SceneId) (device : DeviceId) (value : UInt8) :
    Act Manager χ Unit := do
  let s ← sceneNamed id
  let s ← Act.of (s.addDevice directory device value)
  putScene s
  Act.note (.debug "device added" [
    ("scene", .show id), ("device", .show device), ("value", .number value.toNat)])

def removeDevice (id : SceneId) (device : DeviceId) : Act Manager χ Bool := do
  let s ← sceneNamed id
  let (s, was) := s.removeDevice device
  putScene s
  return was

def setValue (id : SceneId) (device : DeviceId) (value : UInt8) : Act Manager χ Unit := do
  let s ← sceneNamed id
  let s ← Act.of (s.setValue device value)
  putScene s

/-! ## Controllers -/

/-- Gives a button of an attached controller to the scene, and takes the button that the scene used
before out of the index. -/
def giveButton (id : SceneId) (controller : DeviceId) (c : Controller) (button : ButtonId) :
    Act Manager χ Unit := do
  let s ← sceneNamed id
  let (s, previous) ← Act.of ((s.putController c button).mapError Error.validation)
  putScene s
  Act.change (·.enterButton controller button id)
  match previous with
  | some p => if p ≠ button then unindex controller p
  | none => pure ()
  Act.note (.info "scene controller bound" [
    ("scene", .show id), ("controller", .show controller), ("button", .show button)])

variable [Channel χ]

/-- Binds a button once it is known to be free; a controller that is new is attached first. -/
def bindButton (directory : Directory) (id : SceneId) (controller : DeviceId) (button : ButtonId) :
    Act Manager χ Unit := do
  let m ← Act.subject
  let c ← onControllers (Registry.getOrBind controller m.buttonCount directory)
  giveButton id controller c button

/-- Lets a button of a controller trigger the scene. A button triggers one scene at most. -/
def addController (directory : Directory) (id : SceneId) (controller : DeviceId)
    (button : ButtonId) :
    Act Manager χ Unit := do
  let _ ← sceneNamed id
  let m ← Act.subject
  match m.sceneForButton? controller button with
  | some other =>
    if other ≠ id then throw (.validation (.buttonAlreadyBound controller button other))
  | none => pure ()
  match ← Act.outcome (bindButton directory id controller button) with
  | .ok () => pure ()
  | .error e =>
    Act.note (.warn "scene controller rejected" [
      ("scene", .show id), ("controller", .show controller), ("button", .show button),
      ("err", .text e.summary)])
    releaseController controller
    throw e

/-- The answer is the button that the controller used for the scene. -/
def removeController (id : SceneId) (controller : DeviceId) : Act Manager χ (Option ButtonId) := do
  let s ← sceneNamed id
  let (s, button) := s.removeController controller
  putScene s
  match button with
  | some b => unindex controller b
  | none => pure ()
  return button

end MeshScenes.Manager
