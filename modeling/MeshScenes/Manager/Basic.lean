import MeshScenes.Controller.Registry
import MeshScenes.Scene.Basic

/-!
# The manager

The manager holds all scenes, the controllers they use, and an index from each button to the scene
it triggers. The index turns a report from a controller into scenes without a search, and it lets a
button trigger one scene at most.
-/

namespace MeshScenes

open Journal (Entry)

structure Manager where
  /-- The hub's own node, which joins every group so that activations reach it. -/
  coordinator : DeviceId
  /-- The number of buttons of controllers that are attached from now on. -/
  buttonCount : UInt8
  scenes : ByteMap SceneId Scene
  controllers : Registry
  index : ByteMap DeviceId (ByteMap ButtonId SceneId)
  deriving DecidableEq

namespace Manager

def defaultCoordinator : DeviceId := ⟨1⟩

def new : Manager where
  coordinator := defaultCoordinator
  buttonCount := defaultButtonCount
  scenes := ByteMap.empty
  controllers := ByteMap.empty
  index := ByteMap.empty

def withCoordinator (m : Manager) (coordinator : DeviceId) : Manager := { m with coordinator }

def withButtonCount (m : Manager) (count : UInt8) : Except ValidationError Manager :=
  if 2 ≤ count ∧ count ≤ 8 then .ok { m with buttonCount := count }
  else .error (.buttonCountOutOfRange count)

/-! ## Questions -/

def scene? (m : Manager) (id : SceneId) : Option Scene := m.scenes.get? id

def sceneByName? (m : Manager) (name : String) : Option Scene :=
  m.scenes.values.find? (·.name = name)

def lowestUnusedId? (m : Manager) : Option SceneId :=
  SceneId.all.find? fun id => !m.scenes.contains id

def sceneForButton? (m : Manager) (controller : DeviceId) (button : ButtonId) : Option SceneId := do
  let buttons ← m.index.get? controller
  buttons.get? button

/-! ## The index -/

/-- Whether a scene uses any button of the controller. -/
def uses (m : Manager) (controller : DeviceId) : Bool :=
  match m.index.get? controller with
  | some buttons => !buttons.isEmpty
  | none => false

def release (m : Manager) (controller : DeviceId) : Manager :=
  if m.uses controller then m
  else { m with
    index := m.index.erase controller
    controllers := m.controllers.erase controller }

def releaseNotes (m : Manager) (controller : DeviceId) : List Entry :=
  if !m.uses controller && m.controllers.contains controller then
    [.debug "scene controller released" [("controller", .show controller)]]
  else []

def enterButton (m : Manager) (controller : DeviceId) (button : ButtonId) (scene : SceneId) :
    Manager :=
  let buttons := (m.index.get? controller).getD ByteMap.empty
  { m with index := m.index.insert controller (buttons.insert button scene) }

def leaveButton (m : Manager) (controller : DeviceId) (button : ButtonId) : Manager :=
  { m with index := m.index.modify controller (·.erase button) }

theorem sceneForButton?_enterButton (m : Manager) (c d : DeviceId) (b e : ButtonId) (s : SceneId) :
    (m.enterButton c b s).sceneForButton? d e =
      if d = c ∧ e = b then some s else m.sceneForButton? d e := by
  unfold sceneForButton? enterButton
  simp only [ByteMap.get?_insert]
  by_cases hd : d = c
  · subst hd
    by_cases he : e = b
    · simp [he, ByteMap.get?_insert]
    · cases m.index.get? d <;> simp [he, ByteMap.get?_insert]
  · simp [hd]

theorem sceneForButton?_leaveButton (m : Manager) (c d : DeviceId) (b e : ButtonId) :
    (m.leaveButton c b).sceneForButton? d e = if d = c ∧ e = b then none
      else m.sceneForButton? d e := by
  unfold sceneForButton? leaveButton
  simp only [ByteMap.get?_modify]
  by_cases hd : d = c
  · subst hd
    cases h : m.index.get? d with
    | none => simp
    | some buttons => by_cases he : e = b <;> simp [he, ByteMap.get?_erase]
  · simp [hd]

variable {χ : Type}

def releaseController (controller : DeviceId) : Act Manager χ Unit := do
  let m ← Act.subject
  Act.replace (m.release controller)
  Act.notes (m.releaseNotes controller)

/-- Takes a button out of the index, and forgets its controller if that was its last one. -/
def unindex (controller : DeviceId) (button : ButtonId) : Act Manager χ Unit := do
  Act.change (·.leaveButton controller button)
  releaseController controller

def onControllers {α : Type} (x : Act Registry χ α) : Act Manager χ α := do
  let m ← Act.subject
  Act.within m.controllers (fun controllers m => { m with controllers }) x

end Manager

end MeshScenes
