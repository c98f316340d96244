import MeshScenes.Controller.Reaction
import MeshScenes.Scene.Basic

/-!
# Programming a scene

A scene is written to the network in four phases: the groups of its controllers are emptied; each
level is stored with the controllers, which send it to the grouped members; each group is bound to
the scene and joined by the scene-capable members and the coordinator; and each scene-capable member
stores its level. All of it is decided before anything is sent.
-/

namespace MeshScenes

open Journal (Field)

/-- The requests of the four phases. -/
structure Plan where
  resets : List (DeviceId × Request)
  /-- How many levels the second phase stores. -/
  levels : Nat
  grouped : List (DeviceId × Request)
  controllers : List (DeviceId × Request)
  capable : List (DeviceId × Request)
  deriving DecidableEq, Repr

/-- All requests, in the order in which they are sent. -/
def Plan.requests (p : Plan) : List (DeviceId × Request) :=
  p.resets ++ p.grouped ++ p.controllers ++ p.capable

/-- How many messages each phase sent. -/
structure ProgramSummary where
  resets : Nat
  grouped : Nat
  controllers : Nat
  capable : Nat
  deriving DecidableEq, Repr

def ProgramSummary.total (s : ProgramSummary) : Nat :=
  s.resets + s.grouped + s.controllers + s.capable

namespace Scene

/-- The controllers of the scene, with the button each uses; all must be registered and bound. -/
def resolve (s : Scene) (registry : Registry) : Except Error (List (Controller × ButtonId)) :=
  s.controllers.toList.mapM fun (device, button) => do
    let some c := registry.get? device | throw (.notFound (.controller device))
    unless c.isBound do
      throw (.validation (.controllerNotBound device))
    return (c, button)

/-- What a controller must support: association always, configuration where it stores levels. -/
def checkSupport (s : Scene) (c : Controller) : Except Error Unit := do
  unless c.supportsAssociation do
    throw (.unsupported c.device .association)
  unless s.groupedMembers.isEmpty || c.supportsConfiguration do
    throw (.unsupported c.device .configuration)

/-- The requests for the scene, once its controllers are known. -/
def planFor (s : Scene) (controllers : List (Controller × ButtonId)) (coordinator : DeviceId) :
    Plan :=
  let scene := s.id.byte.toUInt32
  let duration := s.duration.byte.toUInt32
  let levels := s.levelGroups.toList
  { resets := controllers.map fun (c, button) => (c.device, .associationClear button.byte.toUInt32)
    levels := levels.length
    grouped := levels.flatMap fun (level, devices) => controllers.flatMap fun (c, button) =>
      [(c.device, .associationSet button.byte.toUInt32 devices),
        (c.device, .configurationSet button.byte.toUInt32 level.toUInt32)]
    controllers := controllers.flatMap fun (c, button) =>
      [(c.device, .controllerSet button.byte.toUInt32 scene duration),
        (c.device, .associationSet button.byte.toUInt32
          (s.capableMembers.map (·.device) ++ [coordinator]))]
    capable := s.capableMembers.map fun m =>
      (m.device, .actuatorSet scene m.value.toUInt32 duration s.overrideLevel) }

def plan (s : Scene) (registry : Registry) (coordinator : DeviceId) : Except Error Plan := do
  let controllers ← s.resolve registry
  controllers.forM fun (c, _) => s.checkSupport c
  return s.planFor controllers coordinator

theorem plan_of_resolve {s : Scene} {registry : Registry}
    {controllers : List (Controller × ButtonId)} (h : s.resolve registry = .ok controllers)
    (coordinator : DeviceId) :
    s.plan registry coordinator =
      (controllers.forM (fun c => s.checkSupport c.1) >>= fun _ =>
        pure (s.planFor controllers coordinator)) := by
  unfold plan
  rw [h]
  rfl

/-- Writes the scene to the network. A refused request ends it; what was sent stays. -/
def program {σ χ : Type} [Channel χ] (s : Scene) (registry : Registry) (coordinator : DeviceId) :
    Act σ χ ProgramSummary := do
  let plan ← Act.of (s.plan registry coordinator)
  Act.requests plan.resets
  Act.note (.debug "reset controller groups" [("count", .number plan.resets.length)])
  Act.requests plan.grouped
  Act.note (.debug "programmed grouped devices" [
    ("buckets", .number plan.levels), ("count", .number plan.grouped.length)])
  Act.requests plan.controllers
  Act.note (.debug "programmed controllers" [("count", .number plan.controllers.length)])
  Act.requests plan.capable
  let summary : ProgramSummary :=
    ⟨plan.resets.length, plan.grouped.length, plan.controllers.length, plan.capable.length⟩
  Act.note (.info "scene programmed" [("messages", .number summary.total)])
  return summary

end Scene

end MeshScenes
