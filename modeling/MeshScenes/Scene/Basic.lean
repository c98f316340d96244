import MeshScenes.Controller.Basic
import MeshScenes.Snapshot

/-!
# Scenes

A scene gives each of its members a level, and is triggered by one button of each of its
controllers. Members keep the order in which they joined; no device is a member twice.
-/

namespace MeshScenes

structure Scene where
  id : SceneId
  name : String
  duration : Duration
  /-- Whether scene-capable devices take the level given, and not the one they have. -/
  overrideLevel : Bool
  members : List Member
  controllers : ByteMap DeviceId ButtonId
  deriving DecidableEq

namespace Scene

def new (id : SceneId) (name : String) : Scene where
  id := id
  name := name
  duration := default
  overrideLevel := true
  members := []
  controllers := ByteMap.empty

def member? (s : Scene) (device : DeviceId) : Option Member := s.members.find? (·.device = device)

def button? (s : Scene) (controller : DeviceId) : Option ButtonId := s.controllers.get? controller

def isBoundTo (s : Scene) (controller : DeviceId) (button : ButtonId) : Bool :=
  s.button? controller = some button

def changeMember (device : DeviceId) (f : Member → Member) : List Member → List Member
  | [] => []
  | m :: ms => if m.device = device then f m :: ms else m :: changeMember device f ms

/-- Puts a member in the place of the one of a device, or else at the end. -/
def putMember (s : Scene) (device : DeviceId) (m : Member) : Scene :=
  if (s.member? device).isSome then { s with members := changeMember device (fun _ => m) s.members }
  else { s with members := s.members ++ [m] }

/-- Makes a device a member, or gives a member a new level. -/
def addDevice (s : Scene) (directory : Directory) (device : DeviceId) (value : UInt8) :
    Except Error Scene := do
  let some d := directory device | throw (.notFound (.device device))
  return s.putMember device (.ofDevice d value)

/-- The answer is whether the device was a member. -/
def removeDevice (s : Scene) (device : DeviceId) : Scene × Bool :=
  ({ s with members := s.members.filter (·.device ≠ device) }, (s.member? device).isSome)

def setValue (s : Scene) (device : DeviceId) (value : UInt8) : Except Error Scene := do
  let some _ := s.member? device | throw (.notFound (.device device))
  return { s with members := changeMember device (fun m => { m with value }) s.members }

/-- Lets a button of a controller trigger the scene. The answer is the button it used before. -/
def putController (s : Scene) (c : Controller) (button : ButtonId) :
    Except ValidationError (Scene × Option ButtonId) := do
  unless c.isBound do
    throw (.controllerNotBound c.device)
  unless c.acceptsButton button do
    throw (.invalidButton c.device button)
  return ({ s with controllers := s.controllers.insert c.device button }, s.button? c.device)

def removeController (s : Scene) (controller : DeviceId) : Scene × Option ButtonId :=
  ({ s with controllers := s.controllers.erase controller }, s.button? controller)

/-! ## Members by how they are reached -/

/-- The members that store scenes themselves. -/
def capableMembers (s : Scene) : List Member := s.members.filter (·.sceneCapable)

/-- The members that are reached through their controllers' groups. -/
def groupedMembers (s : Scene) : List Member := s.members.filter fun m => !m.sceneCapable

/-- The grouped members by level, levels ascending and members in their order. -/
def levelGroups (s : Scene) : ByteMap UInt8 (List DeviceId) :=
  s.groupedMembers.foldl
    (fun groups m => groups.insert m.value ((groups.get? m.value).getD [] ++ [m.device]))
      ByteMap.empty

def toRecord (s : Scene) : SceneRecord where
  id := s.id
  name := s.name
  duration := s.duration
  overrideLevel := s.overrideLevel
  devices := s.members.map fun m => ⟨m.device, m.value⟩
  controllers := s.controllers.toList.map fun e => ⟨e.1, e.2⟩

/-! ## Look-ups after a change -/

theorem find_changeMember {device : DeviceId} {f : Member → Member}
    (hf : ∀ m, m.device = device → (f m).device = device) (d : DeviceId) (l : List Member) :
    (changeMember device f l).find? (·.device = d) =
      if d = device then (l.find? (·.device = d)).map f else l.find? (·.device = d) := by
  induction l with
  | nil => simp [changeMember]
  | cons m l ih =>
    by_cases hm : m.device = device <;> by_cases hd : d = device
    · simp [changeMember, hm, hd, hf m hm]
    · simp [changeMember, hm, hd, Ne.symm hd, hf m hm]
    · rw [hd] at ih ⊢
      simpa only [changeMember, hm, ite_false, ite_true, List.find?_cons, decide_false] using ih
    · simp only [changeMember, hm, ite_false, List.find?_cons, ih, hd]

theorem map_device_changeMember {device : DeviceId} {f : Member → Member}
    (hf : ∀ m, m.device = device → (f m).device = device) (l : List Member) :
    (changeMember device f l).map (·.device) = l.map (·.device) := by
  induction l with
  | nil => rfl
  | cons m l ih =>
    unfold changeMember
    split
    next hm => rw [List.map_cons, List.map_cons, hf m hm, hm]
    next => rw [List.map_cons, List.map_cons, ih]

theorem member?_putMember (s : Scene) (m : Member) (d : DeviceId) :
    (s.putMember m.device m).member? d = if d = m.device then some m else s.member? d := by
  unfold putMember member?
  split
  next h =>
    rw [find_changeMember fun _ _ => rfl]
    obtain ⟨n, hn⟩ := Option.isSome_iff_exists.mp h
    split
    next hd => rw [hd, hn]; rfl
    next => rfl
  next h =>
    have hm : s.members.find? (·.device = m.device) = none := Option.not_isSome_iff_eq_none.mp h
    rw [List.find?_append]
    split
    next hd => rw [hd, hm]; simp
    next hd => simp [Ne.symm hd]

theorem member?_removeDevice (s : Scene) (device d : DeviceId) :
    (s.removeDevice device).1.member? d = if d = device then none else s.member? d := by
  unfold removeDevice member?
  induction s.members with
  | nil => simp
  | cons n l ih =>
    by_cases hn : n.device = device
    · rw [List.filter_cons_of_neg (by simpa using hn), ih]
      split
      next => rfl
      next hd => rw [List.find?_cons_of_neg (by simpa [hn] using Ne.symm hd)]
    · rw [List.filter_cons_of_pos (by simpa using hn), List.find?_cons, List.find?_cons, ih]
      split
      next hd =>
        have : n.device = d := by simpa using hd
        rw [if_neg (this ▸ hn)]
      next => rfl

end Scene

end MeshScenes
