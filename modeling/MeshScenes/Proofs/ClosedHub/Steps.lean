import Mathlib.Logic.Function.Iterate
import MeshScenes.Proofs.Manager.Reachable
import MeshScenes.Proofs.Network
import MeshScenes.Simulation.ClosedHub

/-!
# Steps of the closed hub

A delivery is what the event of the oldest frame does; the note of a failure is not seen any more.
-/

namespace MeshScenes.ClosedHub

theorem Reachable.manager {lossy : Prop} {h : ClosedHub} (hr : h.Reachable lossy) :
    h.manager.Reachable fun _ => True := by
  induction hr with
  | start hm _ => exact .start hm
  | @deliver h _ ih =>
    unfold ClosedHub.deliver
    split
    · exact ih
    next f waiting _ => exact ih.frame f _
  | @press h id button _ ih =>
    unfold ClosedHub.press
    split <;> exact ih
  | @call h c _ ih => exact ih.call c _ trivial
  | @lag h lost _ _ ih =>
    exact @Manager.Reachable.call _ _ _ _ h.network.directory .refresh _ ih trivial

def popped (h : ClosedHub) (waiting : List InboundFrame) : Manager × Outlet Network :=
  (h.manager, Outlet.opened ⟨h.nodes, [], waiting⟩)

theorem deliver_eq {h : ClosedHub} {f : InboundFrame} {waiting : List InboundFrame} {e : Event}
    (hw : h.waiting = f :: waiting) (hf : Event.decode f = .ok (some e)) :
    h.deliver = afterwards ((Manager.handleEvent e).after (h.popped waiting)) := by
  obtain ⟨es, hafter⟩ := Manager.after_handleFrame hf (h.popped waiting)
  unfold deliver
  rw [hw]
  show afterwards ((Manager.handleFrame f).after (h.popped waiting)) = _
  rw [hafter]
  rfl

theorem sends_eq {h : ClosedHub} {f : InboundFrame} {waiting : List InboundFrame} {e : Event}
    (hw : h.waiting = f :: waiting) (hf : Event.decode f = .ok (some e)) :
    h.sends = ((Manager.handleEvent e).after (h.popped waiting)).2.sent := by
  obtain ⟨es, hafter⟩ := Manager.after_handleFrame hf (h.popped waiting)
  unfold sends
  rw [hw]
  show ((Manager.handleFrame f).after (h.popped waiting)).2.sent = _
  rw [hafter]
  rfl

/-- The oldest frame tells that the light of a button of the scene went on, or off. -/
def Turns (h : ClosedHub) (id : SceneId) (on : Bool) : Prop :=
  ∃ x q rest, h.waiting = .ofClass x .indicator [0x03, q] :: rest ∧ h.manager.Turns x q id on

/-- A delivery only asks pressed controllers for their lights, and switches those of an activated
scene and of scenes whose light turned. A report of a registered controller is taken over first. -/
theorem through_deliver {D : Directory → Prop}
    {R : Registry × Outlet Network → Registry × Outlet Network → Prop} [IsPreorder _ R]
    {h : ClosedHub} (hm : h.manager.Coherent D) {f : InboundFrame} {rest : List InboundFrame}
    (hf : f.Plain) (hw : h.waiting = f :: rest) (hnote : ∀ s e, R s (s.1, s.2.note e))
    (hask : ∀ d value, f = .ofClass d .basic [0x01, value] →
      (Registry.react d (.ok ·.requestIndicator)).Moves R)
    (hactivate : ∀ d scene duration id sc, f = .ofClass d .sceneActivation [0x01, scene, duration] →
      SceneId.ofByte? scene = some id → h.manager.scene? id = some sc →
      ∀ e b, sc.button? e = some b → (Registry.setButton e b true).Moves R)
    (hturn : ∀ id on sc, h.Turns id on → h.manager.scene? id = some sc →
      ∀ e b, sc.button? e = some b → (Registry.setButton e b on).Moves R) :
    ∃ t, h.deliver = afterwards t ∧ h.sends = t.2.sent ∧
      ((∀ d q, f = .ofClass d .indicator [0x03, q] → h.manager.controllers.get? d = none) ∧
        Manager.Through R (h.popped rest) t ∨
      ∃ d q c, f = .ofClass d .indicator [0x03, q] ∧ h.manager.controllers.get? d = some c ∧
        Manager.Through R (h.manager.reported d c q, (h.popped rest).2) t) := by
  have other : ∀ (d e : DeviceId) (c : CommandClass) (q : UInt8) (payload : List UInt8),
      c ≠ .indicator →
      InboundFrame.ofClass d c payload = .ofClass e .indicator [0x03, q] →
      h.manager.controllers.get? e = none := by
    intro d e c q payload hc heq
    cases c <;> first | exact absurd rfl hc | simp [InboundFrame.ofClass, CommandClass.id] at heq
  -- only a report of lights changes a picture by itself, so it is told apart from the other frames
  cases hf with
  | press d value =>
    refine ⟨_, deliver_eq hw (e := ⟨d, .basic value⟩) rfl, sends_eq hw rfl,
      .inl ⟨fun e q => other d e _ q _ (by decide), ?_⟩⟩
    exact Manager.through_handleBasic hnote (hask d value rfl) value _
  | activation d scene duration =>
    refine ⟨_, deliver_eq hw (e := ⟨d, .activation ⟨scene, some ⟨duration⟩⟩⟩) rfl, sends_eq hw rfl,
      .inl ⟨fun e q => other d e _ q _ (by decide), ?_⟩⟩
    exact Manager.through_handleActivation hnote d fun id sc hid hsc =>
      hactivate d scene duration id sc rfl hid hsc
  | controller d group scene duration =>
    refine ⟨_, deliver_eq hw (e := ⟨d, .controller ⟨group, scene, ⟨duration⟩⟩⟩) rfl,
      sends_eq hw rfl, .inl ⟨fun e q => other d e _ q _ (by decide), ?_⟩⟩
    exact Manager.through_handleControllerReport hnote d _ _
  | actuator d scene level duration =>
    refine ⟨_, deliver_eq hw (e := ⟨d, .actuator ⟨scene, level, ⟨duration⟩⟩⟩) rfl, sends_eq hw rfl,
      .inl ⟨fun e q => other d e _ q _ (by decide), ?_⟩⟩
    exact Manager.through_note hnote _ _
  | lights d q =>
    refine ⟨_, deliver_eq hw (e := ⟨d, .indicator q⟩) rfl, sends_eq hw rfl, ?_⟩
    cases hc : h.manager.controllers.get? d with
    | none =>
      refine .inl ⟨fun e q' heq => ?_, Manager.through_handleIndicator_unused hnote (.inr hc)⟩
      cases heq
      exact hc
    | some c =>
      have hi : h.manager.index.contains d = true := by
        rw [(hm.keyed d).2, ← (hm.keyed d).1]
        exact ByteMap.contains_iff.mpr ⟨c, hc⟩
      refine .inr ⟨d, q, c, rfl, hc, Manager.through_handleIndicator hnote ?_ hi hc⟩
      exact fun id on sc hid hsc e b hb _ => hturn id on sc ⟨d, q, rest, hw, hid⟩ hsc e b hb

theorem deliver_of_waiting_nil {h : ClosedHub} (hw : h.waiting = []) : h.deliver = h := by
  unfold deliver
  rw [hw]

theorem sends_of_waiting_nil {h : ClosedHub} (hw : h.waiting = []) : h.sends = [] := by
  unfold sends
  rw [hw]

theorem alike_deliver (h : ClosedHub) : h.manager.Alike h.deliver.manager := by
  unfold deliver
  split
  · exact Manager.alike_refl h.manager
  next f rest _ => exact Manager.stays_handleFrame f (h.popped rest)

theorem Reachable.iterate {lossy : Prop} {h : ClosedHub} (hr : h.Reachable lossy) (n : Nat) :
    (ClosedHub.deliver^[n] h).Reachable lossy := by
  induction n with
  | zero => exact hr
  | succ n ih =>
    rw [Function.iterate_succ_apply']
    exact ih.deliver

/-! ## A hub with two keypads -/

/-- Two keypads on the wall, and calls to their hub. -/
def afterCalls (cs : List Call) : ClosedHub :=
  cs.foldl call (start Manager.new [.keypad (.new ⟨2⟩ false), .keypad (.new ⟨3⟩ false)])

theorem reachable_afterCalls {lossy : Prop} (cs : List Call) : (afterCalls cs).Reachable lossy := by
  have step : ∀ (cs : List Call) (h : ClosedHub), h.Reachable lossy →
      (cs.foldl call h).Reachable lossy := by
    intro cs
    induction cs with
    | nil => exact fun h hr => hr
    | cons c cs ih => exact fun h hr => ih _ (hr.call c)
  refine step cs _ (@Reachable.start lossy ⟨1⟩ 5 _ _ rfl fun n hn => ?_)
  simp only [List.mem_cons, List.not_mem_nil, or_false] at hn
  rcases hn with rfl | rfl
  · exact .keypad ⟨2⟩ false
  · exact .keypad ⟨3⟩ false

end MeshScenes.ClosedHub
