import MeshScenes.Proofs.ClosedHub.Calm

/-!
# Silence

The traffic of a closed hub dies out exactly when no scene is in dispute. A user who waits until the
hub is quiet before every press and every call never starts a dispute, as long as the pressed keypad
was not programmed for another scene than the hub has for the button. Two presses at the same time
can start one that lasts for ever.
-/

namespace MeshScenes.ClosedHub

variable {lossy : Prop} {h : ClosedHub}

/-- The button activates no other scene than the one that the hub has for it. -/
def InStep (h : ClosedHub) (d : DeviceId) (button : UInt8) : Prop :=
  ∀ k scene duration id other, h.network.keypad? d = some k →
    k.scenes.get? button = some (scene, duration) →
    SceneId.ofByte? scene = some id → h.manager.scenes.contains id = true →
    h.manager.sceneForButton? d ⟨button⟩ = some other → other = id

/-! ## The first frames -/

theorem Fit.tending (hf : h.Fit) (hquiet : h.waiting = []) (id : SceneId) (on : Bool) :
    Tending h.manager id on h.network.directory
      (h.manager.controllers, Outlet.opened h.network) := by
  refine ⟨hf.orderly hquiet, fun d c l hc hl j _ other _ _ => ?_, fun d scene duration hmem => ?_⟩
  · obtain ⟨k, hk, -, hpicture, -⟩ := hf.settled hquiet hc
    change h.network.lights? d = some l at hl
    rw [Network.lights?_of_keypad hk] at hl
    cases hl
    rw [hpicture]
  · change _ ∈ h.waiting at hmem
    rw [hquiet] at hmem
    cases hmem

theorem Reachable.tends_activate (hr : h.Reachable lossy) (hquiet : h.waiting = []) (id : SceneId) :
    (h.call (.activate id)).Tends id true := by
  have hm := hr.manager.coherent
  have hthrough :=
    Manager.through_activateScene (R := KeepsTending h.manager id true h.network.directory)
    (s := (h.manager, Outlet.opened h.network)) keepsTending_note
    fun sc hsc d b hb => keepsTending_setButton hm hsc d b hb
  have hcall : h.call (.activate id) =
      afterwards ((Manager.activateScene id).after (h.manager, Outlet.opened h.network)) :=
    congrArg afterwards (Act.after_discard _ _)
  rw [hcall]
  exact tends_afterwards h.network.directory hthrough.1 (hthrough.2 (hr.fit.tending hquiet id true))

theorem InStep.exists_scene {d : DeviceId} {button bit : UInt8} {k : Keypad}
    {fs : List InboundFrame} (hstep : h.InStep d button)
    (hk : h.network.nodes.get? d = some (.keypad k)) (hfs : k.Activates button bit fs) :
    ∃ id on,
      (∀ other, h.manager.sceneForButton? d ⟨button⟩ = some other →
        other = id ∧ lightAt (k.lights ^^^ (1 <<< bit)) bit.toNat = on) ∧
      ∀ e scene duration, .ofClass e .sceneActivation [0x01, scene, duration] ∈ fs → ∀ other,
        SceneId.ofByte? scene = some other → h.manager.scenes.contains other = true →
          other = id ∧ on = true := by
  have hkeypad : h.network.keypad? d = some k := by
    unfold Network.keypad?
    rw [hk]
  by_cases hactive : ∃ e scene duration id,
      .ofClass e .sceneActivation [0x01, scene, duration] ∈ fs ∧
      SceneId.ofByte? scene = some id ∧ h.manager.scenes.contains id = true
  · obtain ⟨e, scene, duration, id, hmem, hid, hscene⟩ := hactive
    rcases hfs with rfl | ⟨scene', duration', hbound, hlit, rfl⟩
    · cases hmem
    · cases List.mem_singleton.mp hmem
      refine ⟨id, true, fun other hother => ?_, fun e' scene duration hmem other hother _ => ?_⟩
      · exact ⟨hstep k _ _ id other hkeypad hbound hid hscene hother, hlit⟩
      · cases List.mem_singleton.mp hmem
        rw [hid] at hother
        exact ⟨(Option.some.inj hother).symm, rfl⟩
  · have hnone : ∀ id on e scene duration,
        .ofClass e .sceneActivation [0x01, scene, duration] ∈ fs → ∀ other, SceneId.ofByte? scene =
          some other → h.manager.scenes.contains other = true → other = id ∧ on = true :=
      fun _ _ e scene duration hmem other hother hscene =>
        absurd ⟨e, scene, duration, other, hmem, hother, hscene⟩ hactive
    cases hbutton : h.manager.sceneForButton? d ⟨button⟩ with
    | none => exact ⟨⟨1, by decide⟩, true, by simp, hnone _ _⟩
    | some id =>
      refine ⟨id, lightAt (k.lights ^^^ (1 <<< bit)) bit.toNat, fun other hother => ?_, hnone _ _⟩
      cases hother
      exact ⟨rfl, rfl⟩

/-- A press on a quiet hub turns the light of its scene, and no other. -/
theorem Fit.tending_press (hf : h.Fit) (hquiet : h.waiting = []) {d : DeviceId}
    {button bit value : UInt8} {k : Keypad} {fs : List InboundFrame} {n : Network} {id : SceneId}
    {on : Bool} (hk : h.network.nodes.get? d = some (.keypad k))
    (hbit : Keypad.bit? button = some bit) (hfs : k.Activates button bit fs)
    (htouched : h.network.Touched d (k.lights ^^^ (1 <<< bit))
      (.ofClass d .basic [0x01, value] :: fs) n)
    (hscene : ∀ other, h.manager.sceneForButton? d ⟨button⟩ = some other →
      other = id ∧ lightAt (k.lights ^^^ (1 <<< bit)) bit.toNat = on)
    (hactivated : ∀ e scene duration, .ofClass e .sceneActivation [0x01, scene, duration] ∈ fs →
      ∀ other,
      SceneId.ofByte? scene = some other → h.manager.scenes.contains other = true →
        other = id ∧ on = true) :
    Tending h.manager id on h.network.directory (h.manager.controllers, Outlet.opened n) := by
  obtain ⟨hb, hplace⟩ := Keypad.bit?_eq_some hbit
  have hlt : bit < 8 := UInt8.lt_iff_toNat_lt.mpr hb
  -- only the pressed light turns, and its scene is the one that tends
  have hturned : ∀ j < 8, ∀ other, h.manager.sceneForButton? d (.ofPlace j) = some other →
      other ≠ id → lightAt (k.lights ^^^ (1 <<< bit)) j = lightAt k.lights j := by
    intro j _ other hother hne
    rw [lightAt_turned hlt, if_neg]
    rintro rfl
    rw [← hplace] at hother
    exact hne (hscene other hother).1
  have hleans : h.manager.Leans id on d k.lights (k.lights ^^^ (1 <<< bit)) := by
    intro j hj other hother
    split
    next hid =>
      by_cases hjb : j = bit.toNat
      · intro _
        rw [hjb, ← hplace] at hother
        rw [hjb]
        exact (hscene other hother).2
      · rw [lightAt_turned hlt, if_neg hjb]
        exact fun hon => hon
    next hid => exact (hturned j hj other hother hid).symm
  refine ⟨?_, fun e c l hc hl j hj other hother hne => ?_, fun e scene duration hmem => ?_⟩
  -- what a press publishes tells no lights, so all that is told before it is told after it
  · have hlights := Network.lights?_of_keypad hk
    refine (hf.orderly hquiet).touched hlights hleans htouched fun e q hq => ?_
    obtain ⟨g, hg, hlights⟩ := List.mem_filterMap.mp hq
    have hpress : g.isPress = true := by
      rcases List.mem_cons.mp hg with rfl | hg
      · rfl
      · exact hfs.isPress g hg
    rw [lightsOf?_of_isPress hpress] at hlights
    cases hlights
  · obtain ⟨ke, hke, -, hpicture, -⟩ := hf.settled hquiet hc
    change n.lights? e = some l at hl
    rw [hpicture]
    by_cases hed : e = d
    · subst hed
      rw [hk] at hke
      cases hke
      rw [htouched.lights] at hl
      cases hl
      exact (hturned j hj other hother hne).symm
    · rw [htouched.others e hed, Network.lights?_of_keypad hke] at hl
      cases hl
      rfl
  · have hpublished : h.network.published = [] := hquiet
    change _ ∈ n.published at hmem
    rw [htouched.published, hpublished, List.nil_append] at hmem
    rcases List.mem_cons.mp hmem with heq | hmem
    · simp [InboundFrame.ofClass, CommandClass.id] at heq
    · exact hactivated e scene duration hmem

theorem Reachable.tends_press (hr : h.Reachable lossy) (hquiet : h.waiting = []) {d : DeviceId}
    {button : UInt8} (hstep : h.InStep d button) :
    h.press d button = h ∨ ∃ id on, (h.press d button).Tends id on := by
  have hf := hr.fit
  unfold ClosedHub.press
  cases hp : h.network.press d button with
  | error e => exact .inl rfl
  | ok s =>
    obtain ⟨n, notes⟩ := s
    rcases Network.press_cases hf.sound hp with rfl | ⟨k, bit, value, fs, hk, hbit, hfs, htouched⟩
    · exact .inl rfl
    · obtain ⟨id, on, hscene, hactivated⟩ := hstep.exists_scene hk hfs
      have htending := hf.tending_press hquiet hk hbit hfs htouched hscene hactivated
      exact .inr ⟨id, on,
        tends_afterwards (t := (h.manager, Outlet.opened n)) h.network.directory rfl htending⟩

/-! ## The whole traffic -/

/-- The traffic dies out exactly when no scene is in dispute. From a quiet hub on, it dies out after
every call, and after every press of a button that is in step with the hub. -/
theorem dies_out_iff (hr : h.Reachable lossy) :
    (h.DiesOut ↔ ∀ id, ¬ h.Disputed id) ∧
      (h.waiting = [] → (∀ c, (h.call c).DiesOut) ∧ ∀ d button, h.InStep d button →
        (h.press d button).DiesOut) := by
  refine ⟨⟨fun hout => hout.undisputed, hr.dies_out_of_undisputed⟩, fun hquiet =>
    ⟨fun c => ?_, fun d button hstep => ?_⟩⟩
  · by_cases hc : ∃ id, c = .activate id
    · obtain ⟨id, rfl⟩ := hc
      exact (hr.tends_activate hquiet id).dies_out (hr.call _)
    · have hcall : ∀ id, c ≠ .activate id := fun id hid => hc ⟨id, hid⟩
      exact (hr.fit.stands_call hquiet hcall).dies_out (hr.call c)
  · rcases hr.tends_press hquiet hstep with heq | ⟨id, on, htends⟩
    · rw [heq]
      exact ⟨0, hquiet⟩
    · exact htends.dies_out (hr.press d button)

/-! ## Hubs with one scene and with two -/

theorem dies_out_iff_evening :
    ∃ h : ClosedHub, h.Reachable False ∧ h.waiting = [] ∧ h.InStep ⟨2⟩ 1 ∧
      (h.press ⟨2⟩ 1).waiting.length = 2 ∧
      (h.press ⟨2⟩ 1).DiesOut := by
  let h := deliver^[2] (afterCalls (Manager.evening ++ [.program ⟨7, by decide⟩]))
  have hr : h.Reachable False := (reachable_afterCalls _).iterate 2
  have hquiet : h.waiting = [] := by decide +kernel
  have hstep : h.InStep ⟨2⟩ 1 := by
    intro k scene duration id other hk hscene hid _ hother
    have hbound : (h.network.keypad? ⟨2⟩).bind (·.scenes.get? 1) = some (7, 3) := by decide +kernel
    have hindexed : h.manager.sceneForButton? ⟨2⟩ ⟨1⟩ = some ⟨7, by decide⟩ := by decide +kernel
    rw [hk, Option.bind_some, hscene] at hbound
    cases hbound
    cases hid
    rw [hindexed] at hother
    exact (Option.some.inj hother).symm
  exact ⟨h, hr, hquiet, hstep, by decide +kernel, ((dies_out_iff hr).2 hquiet).2 ⟨2⟩ 1 hstep⟩

theorem not_diesOut_of_recurs {m n : Nat} (hbusy : (deliver^[n] h).waiting ≠ [])
    (hrecurs : deliver^[m + 1] (deliver^[n] h) = deliver^[n] h) : ¬ h.DiesOut := by
  rintro ⟨k, hk⟩
  refine hbusy ?_
  have hlater : deliver^[(m + 1) * k + n] h = deliver^[n] h := by
    rw [Function.iterate_add_apply, Function.iterate_mul, Function.iterate_fixed hrecurs]
  rw [← hlater]
  exact waiting_iterate_of_nil hk
    ((Nat.le_mul_of_pos_left k m.succ_pos).trans (Nat.le_add_right _ n))

/-- Two scenes are triggered by the buttons of the same two keypads. -/
def eveningAndNight : List Call :=
  [.newScene 1 "evening", .newScene 2 "night",
    .addController ⟨1, by decide⟩ ⟨2⟩ ⟨1⟩, .addController ⟨1, by decide⟩ ⟨3⟩ ⟨1⟩,
    .addController ⟨2, by decide⟩ ⟨2⟩ ⟨2⟩, .addController ⟨2, by decide⟩ ⟨3⟩ ⟨2⟩]

/-- A button of each scene is pressed before the hub hears of the other. -/
def quarrel : ClosedHub := ((deliver^[2] (afterCalls eveningAndNight)).press ⟨2⟩ 1).press ⟨3⟩ 2

/-- The reports of both presses undo each other for ever. -/
theorem quarrel_lasts : quarrel.Reachable False ∧ ¬ quarrel.DiesOut := by
  have hr : (deliver^[2] (afterCalls eveningAndNight)).Reachable False :=
    (reachable_afterCalls eveningAndNight).iterate 2
  have hbusy : (deliver^[5] quarrel).waiting ≠ [] := by decide +kernel
  have hrecurs : deliver^[4] (deliver^[5] quarrel) = deliver^[5] quarrel := by decide +kernel
  exact ⟨(hr.press ⟨2⟩ 1).press ⟨3⟩ 2, not_diesOut_of_recurs hbusy hrecurs⟩

end MeshScenes.ClosedHub
