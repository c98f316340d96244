import MeshScenes.Proofs.ClosedHub.Settling

/-!
# One press

A button is pressed while the hub is quiet and the keypads of its scene agree. The hub asks for the
lights, and at the activation, or else at the report, it switches every other keypad of the scene;
all that comes later only tells what was written.
-/

namespace MeshScenes.ClosedHub

variable {lossy : Prop} {h h₀ : ClosedHub} {id : SceneId} {on : Bool} {sc : Scene}
  {f : InboundFrame} {fs rest : List InboundFrame} {x : DeviceId} {b : ButtonId} {l : UInt8}

/-! ## The delivery that switches the lights -/

/-- A delivery that leaves the scene pictured right everywhere wrote each keypad of it that was
pictured wrong, once, and no other. -/
theorem Tends.settles (hs : h.Tends id on) (hr : h.Reachable lossy)
    (hsc : h.manager.scene? id = some sc) (hw : h.waiting = f :: rest)
    (hbasic : ∀ d value, f ≠ .ofClass d .basic [0x01, value]) (hrest : ∀ g ∈ rest, g.Shows sc on)
    (hlit : ∀ e b c, sc.button? e = some b → h.deliver.manager.controllers.get? e = some c →
      lightAt c.indicator b.place = on) :
    h.deliver.Lit id on sc ∧ ∀ d,
      (sc.button? d = none ∨ (∀ g ∈ h.sends, g.writesLights d = false) →
        h.deliver.network.lights? d = h.network.lights? d ∧ h.sends.countP (·.writesLights d) = 0) ∧
      ∀ b c, sc.button? d = some b → h.manager.controllers.get? d = some c →
        (∀ q, f ≠ .ofClass d .indicator [0x03, q]) → lightAt c.indicator b.place ≠ on →
        h.deliver.network.lights? d = some (setLight c.indicator (b.byte - 1) on) ∧
          h.sends.countP (·.writesLights d) = 1 := by
  obtain ⟨r, new, htaken, hwaiting, hshows, heach⟩ := hs.flips_deliver hr hsc hw hbasic
  refine ⟨⟨hs.deliver hr, ?_, hlit, fun g hg => ?_⟩,
    fun d => ⟨fun hnone => ?_, fun b c hb hc hother hl => ?_⟩⟩
  · rw [(alike_deliver h).scene?]
    exact hsc
  · rw [hwaiting] at hg
    rcases List.mem_append.mp hg with hg | hg
    · exact hrest g hg
    · exact hshows g hg
  · rcases heach d with hd | hd
    · exact ⟨hd.lights, hd.count⟩
    · rcases hnone with hnone | hnone
      · obtain ⟨_, _, b, -, -, hb, -⟩ := hd.light
        rw [hnone] at hb
        cases hb
      · have hcount := hd.once
        rw [List.countP_eq_zero.mpr fun g hg => by simp [hnone g hg]] at hcount
        cases hcount
  · have hbase : r.get? d = some c := by
      rcases htaken d with hsame | ⟨q, _, hf, -⟩
      · rw [hsame, hc]
      · exact absurd hf (hother q)
    rcases heach d with hd | hd
    · -- a picture that is kept is still wrong
      obtain ⟨c', hc', heq⟩ : ∃ c', h.deliver.manager.controllers.get? d = some c' ∧
          c'.indicator = c.indicator := by
        have hpicture : (h.deliver.manager.controllers.get? d).map (·.indicator) =
            (r.get? d).map (·.indicator) :=
          hd.picture
        rw [hbase] at hpicture
        exact Option.map_eq_some_iff.mp hpicture
      have := hlit d b c' hb hc'
      rw [heq] at this
      exact absurd this hl
    · obtain ⟨a, c', b', ha, -, hb', -, -, hset, hlights⟩ := hd.light
      have ha : r.get? d = some a := ha
      rw [hbase] at ha
      cases ha
      rw [hb] at hb'
      cases hb'
      exact ⟨by rw [← hset]; exact hlights, hd.once⟩

theorem Reachable.lit_reported (hr : h.Reachable lossy) {p q : UInt8} {j : Nat} {c : Controller}
    (hsc : h.manager.scene? id = some sc) (hw : h.waiting = .ofClass x .indicator [0x03, q] :: rest)
    (hc : h.manager.controllers.get? x = some c) (hp : c.reported = some p) (hj : j < 8)
    (hx : h.manager.sceneForButton? x (.ofPlace j) = some id) (hpq : lightAt p j ≠ lightAt q j) :
    ∀ e b c', sc.button? e = some b → h.deliver.manager.controllers.get? e = some c' →
      lightAt c'.indicator b.place = lightAt q j := by
  have hm := hr.manager.coherent
  have hi : h.manager.index.contains x = true := by
    rw [(hm.keyed x).2, ← (hm.keyed x).1]
    exact ByteMap.contains_iff.mpr ⟨c, hc⟩
  obtain ⟨buttons, hi⟩ := ByteMap.contains_iff.mp hi
  obtain ⟨k, o', hrun, hend⟩ :=
    hm.run_handleIndicator hi hc q (Network.accepts (h.popped rest).2.channel)
  rw [hp] at hend
  obtain ⟨-, hk⟩ := hend
  have hmanager : h.deliver.manager = k := by
    rw [deliver_eq hw (e := ⟨x, .indicator q⟩) rfl]
    show ((Manager.handleIndicator x q).after (h.manager, (h.popped rest).2)).1 = k
    unfold Act.after
    rw [hrun]
  intro e b c' hb hc'
  rw [hmanager] at hc'
  -- the source has the light that it told, and the other controllers have had it carried over
  by_cases he : e = x
  · subst he
    rw [hk.source] at hc'
    cases hc'
    obtain ⟨b', hb', rfl⟩ := (hm.button_iff hj hsc).mp hx
    rw [hb] at hb'
    cases hb'
    rfl
  · obtain ⟨a, ha⟩ := hm.registered hsc hb
    obtain ⟨d, hd, -, -, hlights⟩ := hk.others e a he ha
    rw [hd] at hc'
    cases hc'
    have hplace := hm.place_lt hsc hb
    rw [hlights]
    exact hm.lightAt_mirrored_of_shares le_rfl hplace hj hpq
      ((hm.shares_iff hplace hx hsc).mpr ⟨b, hb, rfl⟩)

theorem Reachable.lit_activated (hr : h.Reachable lossy) {d : DeviceId} {scene duration : UInt8}
    (hsc : h.manager.scene? id = some sc)
    (hw : h.waiting = .ofClass d .sceneActivation [0x01, scene, duration] :: rest)
    (hid : SceneId.ofByte? scene = some id) :
    ∀ e b c, sc.button? e = some b → h.deliver.manager.controllers.get? e = some c →
      lightAt c.indicator b.place = true := by
  have hm := hr.manager.coherent
  obtain ⟨o', hrun⟩ :
      ∃ o', Manager.handleActivation d ⟨scene, some ⟨duration⟩⟩ (h.manager, (h.popped rest).2) =
        .ok () ({ h.manager with
          controllers := h.manager.controllers.switchAll true sc.controllers }, o') := by
    have hactivation :
        SceneId.ofByte? (Activation.mk scene (some ⟨duration⟩)).scene = some id := hid
    obtain ⟨o', hrun, -⟩ :=
      hm.run_handleActivation hactivation hsc (Network.accepts (h.popped rest).2.channel)
    exact ⟨o', hrun⟩
  have hmanager : h.deliver.manager =
      { h.manager with controllers := h.manager.controllers.switchAll true sc.controllers } := by
    rw [deliver_eq hw (e := ⟨d, .activation ⟨scene, some ⟨duration⟩⟩⟩) rfl]
    show ((Manager.handleActivation d ⟨scene, some ⟨duration⟩⟩).after
      (h.manager, (h.popped rest).2)).1 = _
    unfold Act.after
    rw [hrun]
  intro e b c hb hc
  rw [hmanager] at hc
  obtain ⟨a, ha⟩ := hm.registered hsc hb
  obtain ⟨h1, h8, -⟩ := hm.bounds hsc hb
  have hbound : sc.controllers.get? e = some b := hb
  simp only [Registry.get?_switchAll, ha, hbound, Option.map_some, Option.getD_some] at hc
  cases hc
  rw [Controller.indicator_switched (ButtonId.bit?_of_le h1 h8)]
  exact lightAt_of_set (ButtonId.bit?_of_le h1 h8)

/-! ## The press and its first frame -/

theorem Reachable.deliver_basic (hr : h.Reachable lossy) {value : UInt8} {c : Controller}
    (hw : h.waiting = .ofClass x .basic [0x01, value] :: rest)
    (hc : h.manager.controllers.get? x = some c) (hl : h.network.lights? x = some l) :
    h.deliver.waiting = rest ++ [.ofClass x .indicator [0x03, l]] ∧
      h.deliver.manager.controllers = h.manager.controllers.insert x c.requestIndicator.controller ∧
      (∀ d, h.deliver.network.lights? d = h.network.lights? d) ∧
      ∀ d, h.sends.countP (·.writesLights d) = 0 := by
  have hwired : Wired h.network.directory (h.manager.controllers, (h.popped rest).2) :=
    hr.fit.toWired.of_same rfl fun g hg => mem_published_of_rest hw hg
  obtain ⟨o', hrun, htook⟩ :=
    Manager.run_handleBasic value hc (Network.accepts (h.popped rest).2.channel)
  obtain ⟨l', hl', htold⟩ := hwired.told_asked hc htook
  have hl' : h.network.lights? x = some l' := hl'
  rw [hl] at hl'
  cases hl'
  have hafter : (Manager.handleEvent ⟨x, .basic value⟩).after (h.popped rest) =
      ({ h.manager with
        controllers := h.manager.controllers.insert x c.requestIndicator.controller }, o') := by
    show (Manager.handleBasic x value).after (h.manager, (h.popped rest).2) = _
    unfold Act.after
    rw [hrun]
  have hsends : h.sends = c.askFrames := by
    rw [sends_eq hw (e := ⟨x, .basic value⟩) rfl, hafter, htook.sent]
    rfl
  rw [deliver_eq hw (e := ⟨x, .basic value⟩) rfl, hafter]
  refine ⟨htold.published, rfl, fun d => ?_, fun d => ?_⟩
  · by_cases hd : d = x
    · rw [hd, hl]
      exact htold.lights
    · exact htold.others d hd
  · rw [hsends]
    unfold Controller.askFrames
    split
    · simp [OutboundFrame.writesLights_askLights]
    · rfl

/-- The hub `h` asked for the lights of the keypad `x` that was pressed when the hub was `h₀`: its
scene has the light of the button as `on` there and nowhere else. -/
structure Primed (h₀ h : ClosedHub) (x : DeviceId) (b : ButtonId) (id : SceneId) (sc : Scene)
    (on : Bool) (l : UInt8) (fs : List InboundFrame) : Prop where
  tends : h.Tends id on
  scene : h.manager.scene? id = some sc
  button : sc.button? x = some b
  pictured : ∀ d c, h.manager.controllers.get? d = some c → h₀.network.lights? d = some c.indicator
  dark : ∀ d e l, sc.button? d = some e → h₀.network.lights? d = some l → lightAt l e.place ≠ on
  before : h₀.network.lights? x = some l
  reported : ∃ c, h.manager.controllers.get? x = some c ∧ c.reported = some l
  lights : h.network.lights? x = some (setLight l (b.byte - 1) on)
  others : ∀ d, d ≠ x → h.network.lights? d = h₀.network.lights? d
  waiting : h.waiting = fs ++ [.ofClass x .indicator [0x03, setLight l (b.byte - 1) on]]
  activation : fs = [] ∨ ∃ e scene duration,
    fs = [.ofClass e .sceneActivation [0x01, scene, duration]] ∧
    SceneId.ofByte? scene = some id ∧ on = true

/-- The delivery to `h` brings all keypads of the scene in line with the press on `h₀`, and writes
to each of them but `x` once. -/
structure Switches (h₀ h : ClosedHub) (x : DeviceId) (id : SceneId) (sc : Scene) (on : Bool) :
    Prop where
  lit : h.deliver.Lit id on sc
  outside : ∀ d, sc.button? d = none → h.deliver.network.lights? d = h₀.network.lights? d ∧
    h.sends.countP (·.writesLights d) = 0
  lights : ∀ d e l, sc.button? d = some e → h₀.network.lights? d = some l →
    h.deliver.network.lights? d = some (setLight l (e.byte - 1) on)
  once : ∀ d e, d ≠ x → sc.button? d = some e → h.sends.countP (·.writesLights d) = 1

namespace Primed

theorem ne_of_outside (hp : Primed h₀ h x b id sc on l fs) {d : DeviceId}
    (hd : sc.button? d = none) : d ≠ x := by
  rintro rfl
  rw [hp.button] at hd
  cases hd

theorem pictured_wrong (hp : Primed h₀ h x b id sc on l fs) (hm : h.manager.Coherent fun _ => True)
    {d : DeviceId} {e : ButtonId} (hd : sc.button? d = some e) :
    ∃ c, h.manager.controllers.get? d = some c ∧ h₀.network.lights? d = some c.indicator ∧
      lightAt c.indicator e.place ≠ on := by
  obtain ⟨c, hc⟩ := hm.registered hp.scene hd
  exact ⟨c, hc, hp.pictured d c hc, hp.dark d e _ hd (hp.pictured d c hc)⟩

/-- Without an activation it is the report that switches the keypads, and the pressed one is
spared. -/
theorem switches_report (hp : Primed h₀ h x b id sc on l []) (hr : h.Reachable lossy) :
    Switches h₀ h x id sc on ∧ h.sends.countP (·.writesLights x) = 0 := by
  have hm := hr.manager.coherent
  obtain ⟨h1, h8, -⟩ := hm.bounds hp.scene hp.button
  have hplace := hm.place_lt hp.scene hp.button
  obtain ⟨c, hc, hreported⟩ := hp.reported
  have hw : h.waiting = .ofClass x .indicator [0x03, setLight l (b.byte - 1) on] :: [] := hp.waiting
  have hx : h.manager.sceneForButton? x (.ofPlace b.place) = some id :=
    (hm.button_iff hplace hp.scene).mpr ⟨b, hp.button, rfl⟩
  have hon : lightAt (setLight l (b.byte - 1) on) b.place = on :=
    lightAt_of_set (ButtonId.bit?_of_le h1 h8)
  have hlit := hr.lit_reported hp.scene hw hc hreported hplace hx
    (by rw [hon]; exact hp.dark x b l hp.button hp.before)
  rw [hon] at hlit
  obtain ⟨hdeliver, heach⟩ := hp.tends.settles hr hp.scene hw
    (by intro d value; simp [InboundFrame.ofClass, CommandClass.id]) (by simp) hlit
  obtain ⟨hlights, hcount⟩ := (heach x).1 (.inr (spares_sends hm hw hc))
  -- all other keypads are still pictured as before the press
  have each : ∀ d e l', d ≠ x → sc.button? d = some e → h₀.network.lights? d = some l' →
      h.deliver.network.lights? d = some (setLight l' (e.byte - 1) on) ∧
        h.sends.countP (·.writesLights d) = 1 := by
    intro d e l' hdx hd hl'
    obtain ⟨a, ha, hpicture, hwrong⟩ := hp.pictured_wrong hm hd
    rw [hl'] at hpicture
    cases hpicture
    refine (heach d).2 e a hd ha (fun q heq => ?_) hwrong
    cases heq
    exact hdx rfl
  refine ⟨⟨hdeliver, fun d hd => ?_, fun d e l' hd hl' => ?_, fun d e hdx hd => ?_⟩, hcount⟩
  · rw [((heach d).1 (.inl hd)).1, hp.others d (hp.ne_of_outside hd)]
    exact ⟨rfl, ((heach d).1 (.inl hd)).2⟩
  · by_cases hdx : d = x
    · subst hdx
      rw [hp.button] at hd
      cases hd
      rw [hp.before] at hl'
      cases hl'
      rw [hlights, hp.lights]
    · exact (each d e l' hdx hd hl').1
  · obtain ⟨a, -, hpicture, -⟩ := hp.pictured_wrong hm hd
    exact (each d e _ hdx hd hpicture).2

theorem switches_activation {e : DeviceId} {scene duration : UInt8}
    (hp : Primed h₀ h x b id sc true l [.ofClass e .sceneActivation [0x01, scene, duration]])
    (hid : SceneId.ofByte? scene = some id) (hr : h.Reachable lossy) :
    Switches h₀ h x id sc true ∧ h.sends.countP (·.writesLights x) = 1 := by
  have hm := hr.manager.coherent
  obtain ⟨h1, h8, -⟩ := hm.bounds hp.scene hp.button
  have hshows : ∀ g ∈ [InboundFrame.ofClass x .indicator [0x03, setLight l (b.byte - 1) true]],
      g.Shows sc true := by
    intro g hg
    rw [List.mem_singleton.mp hg]
    refine ⟨rfl, fun e q b' heq hb' => ?_⟩
    cases heq
    rw [hp.button] at hb'
    cases hb'
    exact lightAt_of_set (ButtonId.bit?_of_le h1 h8)
  have hw : h.waiting = .ofClass e .sceneActivation [0x01, scene, duration] ::
      [.ofClass x .indicator [0x03, setLight l (b.byte - 1) true]] := hp.waiting
  obtain ⟨hdeliver, heach⟩ := hp.tends.settles hr hp.scene hw
    (by intro d value; simp [InboundFrame.ofClass, CommandClass.id]) hshows
      (hr.lit_activated hp.scene hw hid)
  have each : ∀ d e l, sc.button? d = some e → h₀.network.lights? d = some l →
      h.deliver.network.lights? d = some (setLight l (e.byte - 1) true) ∧
        h.sends.countP (·.writesLights d) = 1 := by
    intro d e' l' hd hl'
    obtain ⟨a, ha, hpicture, hwrong⟩ := hp.pictured_wrong hm hd
    rw [hl'] at hpicture
    cases hpicture
    exact (heach d).2 e' a hd ha (by intro q; simp [InboundFrame.ofClass, CommandClass.id]) hwrong
  refine ⟨⟨hdeliver, fun d hd => ?_, fun d e' l' hd hl' => (each d e' l' hd hl').1,
    fun d e' _ hd => ?_⟩, (each x b l hp.button hp.before).2⟩
  · rw [((heach d).1 (.inl hd)).1, hp.others d (hp.ne_of_outside hd)]
    exact ⟨rfl, ((heach d).1 (.inl hd)).2⟩
  · obtain ⟨a, -, hpicture, -⟩ := hp.pictured_wrong hm hd
    exact (each d e' _ hd hpicture).2

/-- The next delivery brings all keypads of the scene in line. The pressed one is written to only
where its activation is what is delivered. -/
theorem switches (hp : Primed h₀ h x b id sc on l fs) (hr : h.Reachable lossy) :
    Switches h₀ h x id sc on ∧ h.sends.countP (·.writesLights x) = fs.length := by
  rcases hp.activation with rfl | ⟨e, scene, duration, rfl, hid, rfl⟩
  · exact hp.switches_report hr
  · exact hp.switches_activation hid hr

end Primed

/-- The press itself turns the light of the button, at the pressed keypad only. What is then in
flight agrees on the light. -/
theorem Reachable.press_tends (hr : h.Reachable lossy) (hquiet : h.waiting = []) {k : Keypad}
    (hsc : h.manager.scene? id = some sc) (hb : sc.button? x = some b)
    (hk : h.network.nodes.get? x = some (.keypad k)) (hdark : lightAt k.lights b.place ≠ on)
    (hstored : ∀ scene duration, k.scenes.get? b.byte = some (scene, duration) → scene = id.byte) :
    ∃ value fs, (h.press x b.byte).waiting = .ofClass x .basic [0x01, value] :: fs ∧
      (fs = [] ∨ ∃ e scene duration, fs = [.ofClass e .sceneActivation [0x01, scene, duration]] ∧
        SceneId.ofByte? scene = some id ∧ on = true) ∧
      (h.press x b.byte).manager = h.manager ∧ (h.press x b.byte).Tends id on ∧
      (h.press x b.byte).network.lights? x = some (setLight k.lights (b.byte - 1) on) ∧
      ∀ d, d ≠ x → (h.press x b.byte).network.lights? d = h.network.lights? d := by
  have hm := hr.manager.coherent
  have hf := hr.fit
  obtain ⟨h1, h8, -⟩ := hm.bounds hsc hb
  have hbit := ButtonId.bit?_of_le h1 h8
  obtain ⟨hlt, hplace, -⟩ := ButtonId.bit?_eq_some hbit
  have hx : h.manager.sceneForButton? x b = some id := (hm.index_iff x b id).mpr ⟨sc, hsc, hb⟩
  have hkeypad : Keypad.bit? b.byte = some (b.byte - 1) := if_pos ⟨h1, h8⟩
  have hsound : h.network.Sound := hf.sound
  obtain ⟨n, notes, value, fs, hpress, hfs, htouched⟩ := Network.press_of_bit hsound hk hkeypad
  have hturned : k.lights ^^^ (1 <<< (b.byte - 1)) = setLight k.lights (b.byte - 1) on :=
    turned_eq_setLight hlt (by rwa [hplace])
  have hon : lightAt (setLight k.lights (b.byte - 1) on) b.place = on := lightAt_of_set hbit
  rw [hturned] at htouched
  -- the activation follows only a light that went on, and it is of the scene of the button
  have hactivation : fs = [] ∨ ∃ e scene duration,
      fs = [.ofClass e .sceneActivation [0x01, scene, duration]] ∧
      SceneId.ofByte? scene = some id ∧ on = true := by
    rcases hfs with rfl | ⟨scene, duration, hbound, hlit, rfl⟩
    · exact .inl rfl
    · rw [hturned, hplace, hon] at hlit
      refine .inr ⟨k.id, scene, duration, rfl, ?_, hlit⟩
      rw [hstored scene duration hbound]
      exact SceneId.ofByte?_byte id
  have htending :
      Tending h.manager id on h.network.directory (h.manager.controllers, Outlet.opened n) :=
    hf.tending_press hquiet hk hkeypad hfs (by rwa [hturned])
      (fun other hother => by
        have hother : h.manager.sceneForButton? x b = some other := hother
        rw [hx] at hother
        cases hother
        rw [hturned, hplace]
        exact ⟨rfl, hon⟩)
      (fun e scene duration hmem other hother _ => by
        rcases hactivation with rfl | ⟨e', scene', duration', rfl, hid, hon⟩
        · cases hmem
        · cases List.mem_singleton.mp hmem
          rw [hid] at hother
          exact ⟨(Option.some.inj hother).symm, hon⟩)
  have hp : h.press x b.byte = afterwards (h.manager, Outlet.opened n) := by
    unfold ClosedHub.press
    rw [hpress]
    rfl
  have hnone : h.network.published = [] := hquiet
  rw [hp]
  refine ⟨value, fs, ?_, hactivation, rfl, tends_afterwards h.network.directory rfl htending,
    htouched.lights, htouched.others⟩
  show n.published = _
  rw [htouched.published, hnone, List.nil_append]

theorem Reachable.primed (hr : h.Reachable lossy) (hquiet : h.waiting = []) {k : Keypad}
    (hsc : h.manager.scene? id = some sc) (hb : sc.button? x = some b)
    (hk : h.network.nodes.get? x = some (.keypad k))
    (hdark : ∀ d e l, sc.button? d = some e → h.network.lights? d = some l → lightAt l e.place ≠ on)
    (hstored : ∀ scene duration, k.scenes.get? b.byte = some (scene, duration) → scene = id.byte) :
    ∃ value fs, (h.press x b.byte).waiting = .ofClass x .basic [0x01, value] :: fs ∧
      (∀ d, (h.press x b.byte).sends.countP (·.writesLights d) = 0) ∧
      Primed h (h.press x b.byte).deliver x b id sc on k.lights fs := by
  obtain ⟨c, hc⟩ := hr.manager.coherent.registered hsc hb
  have hl := Network.lights?_of_keypad hk
  obtain ⟨value, fs, hw, hactivation, hmanager, htends, hturned, hothers⟩ :=
    hr.press_tends hquiet hsc hb hk (hdark x b k.lights hb hl) hstored
  obtain ⟨hwaiting, hcontrollers, hsame, hcount⟩ :=
    (hr.press x b.byte).deliver_basic hw (hmanager ▸ hc) hturned
  rw [hmanager] at hcontrollers
  -- the hub was quiet, so pictures, reports and lights are the same but for the press
  have settled : ∀ d a, h.manager.controllers.get? d = some a →
      h.network.lights? d = some a.indicator ∧ a.reported = some a.indicator := by
    intro d a ha
    obtain ⟨kd, hkd, -, hpicture, hreported⟩ := hr.fit.settled hquiet ha
    rw [hpicture]
    exact ⟨Network.lights?_of_keypad hkd, hreported⟩
  refine ⟨value, fs, hw, hcount, htends.deliver (hr.press x b.byte), ?_, hb, fun d a ha => ?_,
    hdark, hl, ?_, (hsame x).trans hturned, fun d hd => (hsame d).trans (hothers d hd), hwaiting,
    hactivation⟩
  · rw [(alike_deliver _).scene?, hmanager]
    exact hsc
  · rw [hcontrollers, ByteMap.get?_insert] at ha
    split at ha
    next hd =>
      cases ha
      rw [hd, Controller.indicator_requestIndicator]
      exact (settled x c hc).1
    next => exact (settled d a ha).1
  · refine ⟨c.requestIndicator.controller, ?_, ?_⟩
    · rw [hcontrollers, ByteMap.get?_insert, if_pos rfl]
    · obtain ⟨hpicture, hreported⟩ := settled x c hc
      rw [hl] at hpicture
      rw [Controller.reported_requestIndicator, hreported, ← hpicture]

/-! ## All that follows -/

theorem Switches.keypad (hswitch : Switches h₀ h x id sc on)
    (hm : h₀.manager.Coherent fun _ => True) (hsc : h₀.manager.scene? id = some sc) {h' : ClosedHub}
    (hlights : ∀ d, h'.network.lights? d = h.deliver.network.lights? d) {y : DeviceId} {k : Keypad}
    (hy : h₀.network.keypad? y = some k) :
    ∃ k', h'.network.keypad? y = some k' ∧ ∀ i < 8,
      lightAt k'.lights i =
        if h₀.manager.sceneForButton? y (.ofPlace i) = some id then on else lightAt k.lights i := by
  have hly := Network.lights?_eq_some_iff.mpr ⟨k, hy, rfl⟩
  cases hy' : sc.button? y with
  | none =>
    have hsame := (hswitch.outside y hy').1
    rw [← hlights y, hly] at hsame
    obtain ⟨k', hk', hl'⟩ := Network.lights?_eq_some_iff.mp hsame
    refine ⟨k', hk', fun i hi => ?_⟩
    rw [hl', if_neg]
    rw [hm.button_iff hi hsc, hy']
    simp
  | some e =>
    have hset := hswitch.lights y e k.lights hy' hly
    rw [← hlights y] at hset
    obtain ⟨k', hk', hl'⟩ := Network.lights?_eq_some_iff.mp hset
    obtain ⟨h1, h8, -⟩ := hm.bounds hsc hy'
    obtain ⟨hlt, hplace, -⟩ := ButtonId.bit?_eq_some (ButtonId.bit?_of_le h1 h8)
    refine ⟨k', hk', fun i hi => ?_⟩
    rw [hl', lightAt_setLight hlt, hplace]
    simp only [hm.button_iff hi hsc, hy', Option.some.injEq, exists_eq_left']

/-- A press on a quiet hub, where the keypads of the scene agree and the pressed one activates no
other scene, comes to rest. Then the lights of the scene are turned over, all of them, and no other
light is. Each other keypad of the scene is written to once, and the pressed one once if it sent an
activation, and else not. -/
theorem press_converges (hr : h.Reachable lossy) (hquiet : h.waiting = []) {lit : Bool}
    (hx : h.manager.sceneForButton? x b = some id)
    (hagree : ∀ y e k, h.manager.sceneForButton? y e = some id → h.network.keypad? y = some k →
      lightAt k.lights e.place = lit)
    (hstored : ∀ k scene duration, h.network.keypad? x = some k →
      k.scenes.get? b.byte = some (scene, duration) →
      scene = id.byte) :
    ∃ n, (deliver^[n] (h.press x b.byte)).waiting = [] ∧
      (∀ y k, h.network.keypad? y = some k →
        ∃ k', (deliver^[n] (h.press x b.byte)).network.keypad? y = some k' ∧ ∀ i < 8,
          lightAt k'.lights i =
            if h.manager.sceneForButton? y (.ofPlace i) = some id then !lit
              else lightAt k.lights i) ∧
      (∀ y e, y ≠ x → h.manager.sceneForButton? y e = some id →
        ((h.press x b.byte).sentIn n).countP (·.writesLights y) = 1) ∧
      (∀ y, (∀ e, h.manager.sceneForButton? y e ≠ some id) →
        ((h.press x b.byte).sentIn n).countP (·.writesLights y) = 0) ∧
      ((h.press x b.byte).sentIn n).countP (·.writesLights x) =
        (h.press x b.byte).waiting.countP (·.commandClass = CommandClass.sceneActivation.id) := by
  have hm := hr.manager.coherent
  obtain ⟨sc, hsc, hb⟩ := (hm.index_iff x b id).mp hx
  obtain ⟨c, hc⟩ := hm.registered hsc hb
  obtain ⟨k, hk, -⟩ := hr.fit.settled hquiet hc
  have hdark : ∀ d e l, sc.button? d = some e → h.network.lights? d = some l →
      lightAt l e.place ≠ !lit := by
    intro d e l hd hl
    obtain ⟨kd, hkd, rfl⟩ := Network.lights?_eq_some_iff.mp hl
    rw [hagree d e kd ((hm.index_iff d e id).mpr ⟨sc, hsc, hd⟩) hkd]
    exact (Bool.not_ne_self lit).symm
  obtain ⟨value, fs, hw, hsilent, hprimed⟩ := hr.primed hquiet hsc hb hk hdark
    fun scene duration => hstored k scene duration (Network.keypad?_eq_some_iff.mpr hk)
  -- the first delivery only asks the pressed keypad, the second one switches all the others
  have hr₁ := (hr.press x b.byte).deliver
  obtain ⟨hswitch, hown⟩ := hprimed.switches hr₁
  -- what is told from there on agrees with the pictures, so nothing more is written
  obtain ⟨n, hn⟩ := hswitch.lit.tends.dies_out hr₁.deliver
  obtain ⟨hlights, hsent⟩ := hswitch.lit.iterate hr₁.deliver n
  have hcount : ∀ d, ((h.press x b.byte).sentIn (n + 2)).countP (·.writesLights d) =
      (h.press x b.byte).deliver.sends.countP (·.writesLights d) := by
    intro d
    simp only [sentIn, List.countP_append, hsilent, hsent, Nat.zero_add, Nat.add_zero]
  refine ⟨n + 2, ?_, fun y ky hy => ?_, fun y e hyx hy => ?_, fun y hy => ?_, ?_⟩
  · rw [Function.iterate_succ_apply, Function.iterate_succ_apply]
    exact hn
  · rw [Function.iterate_succ_apply, Function.iterate_succ_apply]
    exact hswitch.keypad hm hsc hlights hy
  · rw [hcount]
    obtain ⟨sc', hsc', hy⟩ := (hm.index_iff y e id).mp hy
    rw [hsc] at hsc'
    cases hsc'
    exact hswitch.once y e hyx hy
  · rw [hcount]
    apply (hswitch.outside y _).2
    apply Option.eq_none_iff_forall_ne_some.mpr
    intro e he
    exact hy e ((hm.index_iff y e id).mpr ⟨sc, hsc, he⟩)
  · rw [hcount, hown, hw]
    rcases hprimed.activation with rfl | ⟨e, scene, duration, rfl, -⟩
    · rfl
    · rfl

theorem press_converges_evening :
    ∃ h : ClosedHub, h.Reachable False ∧ h.waiting = [] ∧ (h.press ⟨2⟩ 1).waiting.length = 2 ∧
      ∃ n, (deliver^[n] (h.press ⟨2⟩ 1)).waiting = [] ∧
        ((h.press ⟨2⟩ 1).sentIn n).countP (·.writesLights ⟨3⟩) = 1 := by
  let h := deliver^[2] (afterCalls (Manager.evening ++ [.program ⟨7, by decide⟩]))
  have hr : h.Reachable False := (reachable_afterCalls _).iterate 2
  have hquiet : h.waiting = [] := by decide +kernel
  have hx : h.manager.sceneForButton? ⟨2⟩ ⟨1⟩ = some ⟨7, by decide⟩ := by decide +kernel
  have hy : h.manager.sceneForButton? ⟨3⟩ ⟨1⟩ = some ⟨7, by decide⟩ := by decide +kernel
  have hdark : ∀ e ∈ h.nodes.toList, e.2.lights? = some 0 := by decide +kernel
  have hbound : (h.network.keypad? ⟨2⟩).bind (·.scenes.get? 1) = some (7, 3) := by decide +kernel
  have hactivates : (h.press ⟨2⟩ 1).waiting.length = 2 := by decide +kernel
  clear_value h
  have hagree : ∀ y e k, h.manager.sceneForButton? y e = some ⟨7, by decide⟩ →
      h.network.keypad? y = some k →
      lightAt k.lights e.place = false := by
    intro y e k _ hk
    have hnode : h.nodes.get? y = some (.keypad k) := Network.keypad?_eq_some_iff.mp hk
    have hzero := hdark _ (ByteMap.get?_eq_some_iff.mp hnode)
    rw [show k.lights = 0 from Option.some.inj hzero, lightAt_zero]
  obtain ⟨n, hn, -, hone, -⟩ := press_converges hr hquiet hx hagree
    (fun k scene duration hk hscene => by
      rw [hk, Option.bind_some, hscene] at hbound
      cases hbound
      rfl)
  exact ⟨h, hr, hquiet, hactivates, n, hn, hone ⟨3⟩ ⟨1⟩ (by decide) hy⟩

end MeshScenes.ClosedHub
