import MeshScenes.Proofs.ClosedHub.Silence
import MeshScenes.Proofs.ClosedHub.Writing

/-!
# Lights of other scenes

A frame is about scenes: the one it activates, or those of the buttons whose light it reports as
turned. What it makes the hub write carries the lights of all buttons, as the hub pictures them, so
the lights of other scenes stay exactly when the picture of each controller that is written to is
right about them.
-/

namespace MeshScenes.ClosedHub

variable {lossy : Prop} {h : ClosedHub} {f : InboundFrame} {rest : List InboundFrame}

/-- The oldest frame activates the scene, or tells that the light of one of its buttons turned. -/
def IsAbout (h : ClosedHub) (id : SceneId) : Prop :=
  (∃ d scene duration rest,
    h.waiting = .ofClass d .sceneActivation [0x01, scene, duration] :: rest ∧
      SceneId.ofByte? scene = some id) ∨
    ∃ on, h.Turns id on

def Concerns (h : ClosedHub) (d : DeviceId) (i : Nat) : Prop :=
  ∃ id, h.manager.sceneForButton? d (.ofPlace i) = some id ∧ h.IsAbout id

/-- The next delivery turns no light but of buttons that the oldest frame is about. -/
def Confined (h : ClosedHub) : Prop :=
  ∀ d k k' i, h.network.keypad? d = some k → h.deliver.network.keypad? d = some k' → i < 8 →
    lightAt k.lights i ≠ lightAt k'.lights i → h.Concerns d i

theorem concerns_of_button {D : Directory → Prop} (hm : h.manager.Coherent D) {id : SceneId}
    {sc : Scene} {e : DeviceId} {b : ButtonId} (hsc : h.manager.scene? id = some sc)
    (hb : sc.button? e = some b) (habout : h.IsAbout id) : h.Concerns e b.place := by
  obtain ⟨h1, h8, -⟩ := hm.bounds hsc hb
  refine ⟨id, ?_, habout⟩
  rw [ButtonId.ofPlace_place h1 h8]
  exact (hm.index_iff e b id).mpr ⟨sc, hsc, hb⟩

/-- A delivery keeps or writes each keypad, and what it writes differs from the picture before at
buttons that the frame is about. -/
theorem Reachable.writes_deliver (hr : h.Reachable lossy) (d : DeviceId) :
    Kept d h.sends (h.manager.controllers, Outlet.opened h.network)
        (h.deliver.manager.controllers, Outlet.opened h.deliver.network) ∨
      Written h.Concerns d h.sends (h.manager.controllers, Outlet.opened h.network)
        (h.deliver.manager.controllers, Outlet.opened h.deliver.network) ∨
      (∀ f ∈ h.sends, f.writesLights d = false) ∧
        h.deliver.network.lights? d = h.network.lights? d := by
  have hm := hr.manager.coherent
  cases hw : h.waiting with
  | nil =>
    rw [sends_of_waiting_nil hw, deliver_of_waiting_nil hw]
    exact .inl ⟨by simp, rfl, rfl⟩
  | cons f rest =>
    obtain ⟨t, heq, hsends, ht⟩ :=
      through_deliver (R := Writes h.Concerns h.network.directory) hm (hr.plain hw) hw
      writes_note (fun d _ _ => writes_ask d)
      (fun d scene duration id sc hf hid hsc e b hb =>
        writes_setButton
          (concerns_of_button hm hsc hb (.inl ⟨d, scene, duration, rest, hf ▸ hw, hid⟩)))
      (fun id on sc hturn hsc e b hb =>
        writes_setButton (concerns_of_button hm hsc hb (.inr ⟨on, hturn⟩)))
    have hpopped : Wired h.network.directory (h.manager.controllers, (h.popped rest).2) :=
      hr.fit.toWired.of_same rfl fun g hg => mem_published_of_rest hw hg
    -- a report changes a picture before anything is written
    rcases ht with ⟨-, -, hwrites⟩ | ⟨x, q, c, rfl, hc, -, hwrites⟩
    · obtain ⟨-, fs, hfs, heach⟩ := hwrites hpopped
      have hfs : h.sends = fs := hsends.trans hfs
      rw [heq, hfs]
      rcases heach d with hd | hd
      · exact .inl ⟨hd.unwritten, hd.lights, hd.picture⟩
      · exact .inr (.inl ⟨hd.written, hd.picture⟩)
    · obtain ⟨-, fs, hfs, heach⟩ :=
        hwrites (hpopped.insert_alike hc (Controller.alike_handleReport c q))
      have hfs : h.sends = fs := hsends.trans hfs
      have hspared := spares_sends hm hw hc
      rw [heq, hfs]
      rw [hfs] at hspared
      by_cases hdx : d = x
      · -- the picture of the source is what it reports, but nothing is written to it
        subst hdx
        rcases heach d with hd | hd
        · exact .inr (.inr ⟨hspared, hd.lights⟩)
        · obtain ⟨g, hg, hwrite⟩ := hd.written
          exact absurd (hspared g hg) (by simp [hwrite])
      · have hsame : (h.manager.reported x c q).controllers.get? d =
            h.manager.controllers.get? d := by
          show (h.manager.controllers.insert x _).get? d = _
          rw [ByteMap.get?_insert, if_neg hdx]
        rcases heach d with hd | hd
        · refine .inl ⟨hd.unwritten, hd.lights, hd.picture.trans ?_⟩
          show ((h.manager.reported x c q).controllers.get? d).map _ = _
          rw [hsame]
        · obtain ⟨b, b', hb, hpicture⟩ := hd.picture
          exact .inr (.inl ⟨hd.written, b, b', hsame ▸ hb, hpicture⟩)

/-! ## When other scenes' lights stay -/

/-- A delivery turns lights of the frame's own scenes only, exactly when every controller it writes
to is pictured with the lights it has at all other buttons. -/
theorem confined_iff (hr : h.Reachable lossy) :
    h.Confined ↔ ∀ d c k, h.manager.controllers.get? d = some c → h.network.keypad? d = some k →
      (∃ f ∈ h.sends, f.writesLights d = true) → ∀ i < 8, ¬ h.Concerns d i →
        lightAt c.indicator i = lightAt k.lights i := by
  have lights : ∀ {g : ClosedHub} {d k}, g.network.keypad? d = some k →
      g.network.lights? d = some k.lights :=
    fun hk => Network.lights?_of_keypad (Network.keypad?_eq_some_iff.mp hk)
  constructor
  · rintro hconfined d c k hc hk ⟨f, hf, hwrites⟩ i hi hi'
    have unwritten : ¬ ∀ f ∈ h.sends, f.writesLights d = false := fun hnone => by
      simp [hnone f hf] at hwrites
    -- what is written is the picture but for the buttons that the frame is about
    rcases hr.writes_deliver d with hkept | ⟨-, b, b', hb, hb', hl, hpicture⟩ | ⟨hnone, -⟩
    · exact absurd hkept.unwritten unwritten
    · have hb : h.manager.controllers.get? d = some b := hb
      rw [hc] at hb
      cases hb
      obtain ⟨k', hk'⟩ : ∃ k', h.deliver.network.nodes.get? d = some (.keypad k') :=
        hr.deliver.fit.toWired.exists_keypad hb'
      have hlights : h.deliver.network.lights? d = some b'.indicator := hl
      rw [Network.lights?_of_keypad hk'] at hlights
      rw [← hpicture i hi hi', ← Option.some.inj hlights]
      by_contra hne
      exact hi' (hconfined d k k' i hk (Network.keypad?_eq_some_iff.mpr hk') hi (Ne.symm hne))
    · exact absurd hnone unwritten
  · intro hright d k k' i hk hk' hi hne
    by_contra hi'
    rcases hr.writes_deliver d with hkept | hwritten | ⟨-, hsame⟩
    · have hsame : h.deliver.network.lights? d = h.network.lights? d := hkept.lights
      rw [lights hk, lights hk'] at hsame
      exact hne (by rw [Option.some.inj hsame])
    · obtain ⟨c, c', hc, -, hl, hpicture⟩ := hwritten.picture
      have hlights : h.deliver.network.lights? d = some c'.indicator := hl
      rw [lights hk'] at hlights
      apply hne
      rw [Option.some.inj hlights, hpicture i hi hi']
      exact (hright d c k hc hk hwritten.written i hi hi').symm
    · rw [lights hk, lights hk'] at hsame
      exact hne (by rw [Option.some.inj hsame])

/-- A press on a quiet hub is carried over to the other keypad, which was pictured right. -/
theorem confined_iff_evening :
    ∃ h : ClosedHub, h.Reachable False ∧ h.sends = [.setLights ⟨3⟩ 1, .askLights ⟨3⟩] ∧
      h.Confined := by
  let h := ((deliver^[2] (afterCalls Manager.evening)).press ⟨2⟩ 1).deliver
  have hr : h.Reachable False :=
    (((reachable_afterCalls Manager.evening).iterate 2).press ⟨2⟩ 1).deliver
  have hsends : h.sends = [.setLights ⟨3⟩ 1, .askLights ⟨3⟩] := by decide +kernel
  refine ⟨h, hr, hsends, (confined_iff hr).mpr fun d c k hc hk hwritten i _ _ => ?_⟩
  have hd : d = ⟨3⟩ := by
    obtain ⟨f, hf, hwrites⟩ := hwritten
    rw [hsends] at hf
    rcases List.mem_pair.mp hf with rfl | rfl
    · simpa [OutboundFrame.writesLights_setLights, eq_comm] using hwrites
    · simp [OutboundFrame.writesLights_askLights] at hwrites
  have hpicture : (h.manager.controllers.get? ⟨3⟩).map (·.indicator) = some 0 := by decide +kernel
  have hlights : (h.network.keypad? ⟨3⟩).map (·.lights) = some 0 := by decide +kernel
  have hc0 : c.indicator = 0 := by simpa [← hd, hc] using hpicture
  have hk0 : k.lights = 0 := by simpa [← hd, hk] using hlights
  rw [hc0, hk0]

/-- The report of one press puts out the light of the other: what is sent to the second keypad for
the evening scene was pictured before its button for the night was pressed. -/
theorem quarrel_not_confined :
    (deliver^[2] quarrel).Reachable False ∧ ¬ (deliver^[2] quarrel).Confined := by
  have hr : (deliver^[2] (afterCalls eveningAndNight)).Reachable False :=
    (reachable_afterCalls eveningAndNight).iterate 2
  refine ⟨((hr.press ⟨2⟩ 1).press ⟨3⟩ 2).iterate 2, fun hconfined => ?_⟩
  have before : ((deliver^[2] quarrel).network.keypad? ⟨3⟩).map (·.lights) = some 2 := by
    decide +kernel
  have after : ((deliver^[2] quarrel).deliver.network.keypad? ⟨3⟩).map (·.lights) = some 1 := by
    decide +kernel
  obtain ⟨k, hk, hl⟩ := Option.map_eq_some_iff.mp before
  obtain ⟨k', hk', hl'⟩ := Option.map_eq_some_iff.mp after
  obtain ⟨id, hid, habout⟩ := hconfined ⟨3⟩ k k' 1 hk hk' (by decide) (by rw [hl, hl']; decide)
  have hnight : (deliver^[2] quarrel).manager.sceneForButton? ⟨3⟩ (.ofPlace 1) =
      some ⟨2, by decide⟩ := by decide +kernel
  have hwaiting : (deliver^[2] quarrel).waiting =
      [.ofClass ⟨2⟩ .indicator [0x03, 1], .ofClass ⟨3⟩ .indicator [0x03, 2]] := by decide +kernel
  rw [hnight] at hid
  cases hid
  rcases habout with ⟨d, scene, duration, rest, hw, -⟩ |
    ⟨on, x, q, rest, hw, c, p, j, hc, hp, hj, hbutton, hpq, -⟩
  · rw [hwaiting] at hw
    cases hw
  · rw [hwaiting] at hw
    cases hw
    have hreported : ((deliver^[2] quarrel).manager.controllers.get? ⟨2⟩).bind (·.reported) =
        some 0 := by decide +kernel
    have hevening : (deliver^[2] quarrel).manager.sceneForButton? ⟨2⟩ (.ofPlace 0) =
        some ⟨1, by decide⟩ := by decide +kernel
    rw [hc, Option.bind_some, hp] at hreported
    cases hreported
    -- only the light of the first button turned, and that is for the evening
    have hj0 : j = 0 := by
      by_contra hne
      apply hpq
      have : ∀ j < 8, j ≠ 0 → lightAt 0 j = lightAt 1 j := by decide
      exact this j hj hne
    rw [hj0, hevening] at hbutton
    cases hbutton

end MeshScenes.ClosedHub
