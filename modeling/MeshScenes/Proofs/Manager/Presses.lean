import MeshScenes.Proofs.Manager.Mirror

/-!
# Presses and activations

What the manager makes of a press and of an activation, through a channel that refuses nothing: a
press makes it ask for the lights, an activation turns on the light of the scene at each of its
controllers.
-/

namespace MeshScenes.Manager

variable {χ : Type} [Channel χ] {D : Directory → Prop} {m : Manager}

theorem run_handleBasic {d : DeviceId} {c : Controller} (value : UInt8)
    (hc : m.controllers.get? d = some c) {o : Outlet χ} (ho : Channel.Accepts o.channel) :
    ∃ o', handleBasic d value (m, o) =
        .ok () ({ m with controllers := m.controllers.insert d c.requestIndicator.controller },
          o') ∧
      Outlet.Took c.askFrames o o' := by
  let noted := o.note
    (.debug "button press, refreshing indicator"
      [("source", .show d), ("value", .number value.toNat)])
  obtain ⟨o', hrun, htook⟩ := Registry.run_ask (o := noted) hc ho
  refine ⟨o', ?_, htook.channel, htook.attempts⟩
  have hrun' : Registry.react d (fun c => .ok c.handleBasic) (m.controllers, noted) =
      .ok () (m.controllers.insert d c.requestIndicator.controller, o') := hrun
  unfold handleBasic
  rw [Act.run_bind, Act.run_subject]
  simp only [ByteMap.contains, hc, Option.isSome_some, ite_true]
  rw [Act.run_bind, Act.run_note]
  simp only
  rw [run_onControllers, hrun']

theorem Coherent.served (h : m.Coherent D) {id : SceneId} {s : Scene} (hs : m.scene? id = some s) :
    s.Served m.controllers := by
  intro d b hb
  obtain ⟨c, hc⟩ := h.registered hs hb
  exact ⟨c, hc, h.drivable hs hb hc (Controller.Alike.refl c)⟩

theorem Coherent.run_handleActivation (h : m.Coherent D) {source : DeviceId}
    {activation : Activation} {id : SceneId} {s : Scene}
    (hid : SceneId.ofByte? activation.scene = some id) (hs : m.scene? id = some s) {o : Outlet χ}
    (ho : Channel.Accepts o.channel) :
    ∃ o', handleActivation source activation (m, o) =
        .ok () ({ m with controllers := m.controllers.switchAll true s.controllers }, o') ∧
      Outlet.Took (m.controllers.switchAllFrames true s.controllers) o o' := by
  let noted := o.note
    (.info "scene activation received" [("source", .show source), ("scene", .show id)])
  obtain ⟨n, o', hrun, htook⟩ := s.run_activate (o := noted) ho (h.served hs)
  refine ⟨o', ?_, htook.channel, htook.attempts⟩
  have hcontains : m.scenes.contains id = true := ByteMap.contains_iff.mpr ⟨s, hs⟩
  unfold handleActivation
  simp only [hid]
  rw [Act.run_bind, Act.run_subject]
  simp only [hcontains, ite_true]
  rw [Act.run_bind, Act.run_note]
  simp only
  rw [Act.run_bind]
  unfold activateScene
  rw [Act.run_bind, run_sceneNamed hs]
  simp only
  rw [run_onControllers, hrun]
  rfl

end MeshScenes.Manager
