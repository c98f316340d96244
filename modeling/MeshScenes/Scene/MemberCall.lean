import MeshScenes.Scene.Basic

/-!
# Calls about members

What can be asked of a scene about its members. A device is added with what the directory says of it
at that moment; a call that fails leaves the scene as it is.
-/

namespace MeshScenes

inductive MemberCall where
  | add (directory : Directory) (device : DeviceId) (value : UInt8)
  | remove (device : DeviceId)
  | setValue (device : DeviceId) (value : UInt8)

namespace MemberCall

def run (s : Scene) : MemberCall → Except Error Scene
  | add directory device value => s.addDevice directory device value
  | remove device => .ok (s.removeDevice device).1
  | setValue device value => s.setValue device value

def after (c : MemberCall) (s : Scene) : Scene :=
  match c.run s with
  | .ok t => t
  | .error _ => s

section
variable {s : Scene} {directory : Directory} {device : DeviceId}

theorem after_add_of_some {x : Device} (hx : directory device = some x) (value : UInt8) :
    (add directory device value).after s = s.putMember device (.ofDevice x value) := by
  simp only [after, run, Scene.addDevice, hx]
  rfl

theorem after_add_of_none (hx : directory device = none) (value : UInt8) :
    (add directory device value).after s = s := by
  simp only [after, run, Scene.addDevice, hx]
  rfl

theorem after_setValue_of_some {m : Member} (hm : s.member? device = some m) (value : UInt8) :
    (setValue device value).after s =
      { s with members := Scene.changeMember device (fun m => { m with value }) s.members } := by
  simp only [after, run, Scene.setValue, hm]
  rfl

theorem after_setValue_of_none (hm : s.member? device = none) (value : UInt8) :
    (setValue device value).after s = s := by
  simp only [after, run, Scene.setValue, hm]
  rfl

theorem exists_run_add_iff (value : UInt8) :
    (∃ t, (add directory device value).run s = .ok t) ↔ ∃ x, directory device = some x := by
  simp only [run, Scene.addDevice]
  cases directory device with
  | none => simp [throw, throwThe, MonadExceptOf.throw]
  | some x => simp [pure, Except.pure]

theorem exists_run_setValue_iff (value : UInt8) :
    (∃ t, (setValue device value).run s = .ok t) ↔ s.member? device ≠ none := by
  simp only [run, Scene.setValue]
  cases s.member? device with
  | none => simp [throw, throwThe, MonadExceptOf.throw]
  | some m => simp [pure, Except.pure]

end

end MemberCall

/-- The scene after some calls, of which the latest comes first. -/
def Scene.afterCalls (s : Scene) (h : List MemberCall) : Scene := h.foldr MemberCall.after s

end MeshScenes
