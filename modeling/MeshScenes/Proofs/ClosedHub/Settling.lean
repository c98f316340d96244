import MeshScenes.Proofs.ClosedHub.Silence
import MeshScenes.Proofs.ClosedHub.Writing

/-!
# How a scene settles

While a hub tends one way, a delivery switches lights of the scene only, each by one frame and from
the wrong side. So once the scene is pictured right everywhere, and nothing that waits tells
otherwise, lights are not written any more.
-/

namespace MeshScenes

/-! ## Lights switched once -/

section
variable {sc : Scene} {on : Bool} {directory : Directory} {d : DeviceId}
  {fs gs : List OutboundFrame} {s t u : Registry × Outlet Network}

/-- A frame that is no press, and no report of the light of the scene but that it is `on`. -/
def InboundFrame.Shows (sc : Scene) (on : Bool) (g : InboundFrame) : Prop :=
  g.isPress = false ∧
    ∀ e q b, g = .ofClass e .indicator [0x03, q] → sc.button? e = some b → lightAt q b.place = on

/-- The light of the scene was switched at a node, by one frame. -/
structure Turned (sc : Scene) (on : Bool) (d : DeviceId) (fs : List OutboundFrame)
    (s t : Registry × Outlet Network) : Prop where
  once : fs.countP (·.writesLights d) = 1
  light : ∃ c c' b, s.1.get? d = some c ∧ t.1.get? d = some c' ∧ sc.button? d = some b ∧
    b.bit? = some (b.byte - 1) ∧ lightAt c.indicator b.place ≠ on ∧
    c'.indicator = setLight c.indicator (b.byte - 1) on ∧ t.2.channel.lights? d = some c'.indicator

theorem Kept.count (h : Kept d fs s t) : fs.countP (·.writesLights d) = 0 := by
  apply List.countP_eq_zero.mpr
  intro f hf
  simp [h.unwritten f hf]

theorem Kept.turned (h : Kept d fs s t) (h' : Turned sc on d gs t u) :
    Turned sc on d (fs ++ gs) s u := by
  obtain ⟨c, c', b, hc, hc', hb, hbit, hl, hset, hlights⟩ := h'.light
  obtain ⟨a, ha, hac⟩ : ∃ a, s.1.get? d = some a ∧ a.indicator = c.indicator := by
    have := h.picture
    rw [hc] at this
    exact Option.map_eq_some_iff.mp this.symm
  refine ⟨?_, a, c', b, ha, hc', hb, hbit, ?_, ?_, hlights⟩
  · rw [List.countP_append, h.count, h'.once]
  · rwa [hac]
  · rwa [hac]

theorem Turned.kept (h : Turned sc on d fs s t) (h' : Kept d gs t u) :
    Turned sc on d (fs ++ gs) s u := by
  obtain ⟨c, c', b, hc, hc', hb, hbit, hl, hset, hlights⟩ := h.light
  obtain ⟨a, ha, hac⟩ : ∃ a, u.1.get? d = some a ∧ a.indicator = c'.indicator := by
    have := h'.picture
    rw [hc'] at this
    exact Option.map_eq_some_iff.mp this
  refine ⟨?_, c, a, b, hc, ha, hb, hbit, hl, ?_, ?_⟩
  · rw [List.countP_append, h.once, h'.count]
  · rw [hac, hset]
  · rw [h'.lights, hlights, hac]

theorem lightAt_of_set {b : ButtonId} {l : UInt8} (hbit : b.bit? = some (b.byte - 1)) :
    lightAt (setLight l (b.byte - 1) on) b.place = on := by
  obtain ⟨h8, hplace, -⟩ := ButtonId.bit?_eq_some hbit
  rw [lightAt_setLight h8, hplace, if_pos rfl]

theorem Turned.not_turned (h : Turned sc on d fs s t) : ¬ Turned sc on d gs t u := by
  intro h'
  obtain ⟨c, c', b, -, hc', hb, hbit, -, hset, -⟩ := h.light
  obtain ⟨a, -, b', ha, -, hb', -, hl, -⟩ := h'.light
  rw [hc'] at ha
  cases ha
  rw [hb] at hb'
  cases hb'
  apply hl
  rw [hset]
  exact lightAt_of_set hbit

/-- Frames were sent, each node was left alone or had the light of the scene switched once, and what
is told shows the scene. -/
def Flips (sc : Scene) (on : Bool) (directory : Directory) (s t : Registry × Outlet Network) :
    Prop :=
  Wired directory s → Wired directory t ∧ ∃ fs new, t.2.sent = s.2.sent ++ fs ∧
    t.2.channel.published = s.2.channel.published ++ new ∧ (∀ g ∈ new, g.Shows sc on) ∧
    ∀ d, Kept d fs s t ∨ Turned sc on d fs s t

instance : IsPreorder (Registry × Outlet Network) (Flips sc on directory) where
  refl _ h := ⟨h, [], [], (List.append_nil _).symm, (List.append_nil _).symm,
    by simp, fun _ => .inl ⟨by simp, rfl, rfl⟩⟩
  trans s t u hst htu h := by
    obtain ⟨ht, fs, new, hfs, hnew, hshows, hs⟩ := hst h
    obtain ⟨hu, gs, new', hgs, hnew', hshows', ht⟩ := htu ht
    refine ⟨hu, fs ++ gs, new ++ new', ?_, ?_, fun g hg => ?_, fun d => ?_⟩
    · rw [hgs, hfs, List.append_assoc]
    · rw [hnew', hnew, List.append_assoc]
    · rcases List.mem_append.mp hg with hg | hg
      · exact hshows g hg
      · exact hshows' g hg
    · rcases hs d with hs | hs
      · rcases ht d with ht | ht
        · exact .inl (hs.trans ht)
        · exact .inr (hs.turned ht)
      · rcases ht d with ht | ht
        · exact .inr (hs.kept ht)
        · exact absurd ht hs.not_turned

theorem flips_note (s : Registry × Outlet Network) (e : Journal.Entry) :
    Flips sc on directory s (s.1, s.2.note e) := by
  intro h
  have hsame : Wired directory (s.1, s.2.note e) := h.of_same rfl fun _ hf => hf
  exact ⟨hsame, [], [], (List.append_nil _).symm, (List.append_nil _).symm,
    by simp, fun _ => .inl ⟨by simp, rfl, rfl⟩⟩

theorem flips_setButton {b : ButtonId} (hb : sc.button? d = some b) :
    (Registry.setButton d b on).Moves (Flips sc on directory) := by
  rintro ⟨r, o⟩ h
  rcases h.setButton_cases d b on with ⟨o', hafter, htook⟩ |
    ⟨c, o', hafter, hc, hbit, hl, htook, htold⟩
  · rw [hafter]
    have hpublished : o'.channel.published = o.channel.published ++ [] := by
      rw [htook.channel, List.append_nil]
      rfl
    exact ⟨h.of_unsent htook, [], [], htook.sent, hpublished,
      by simp, fun e => .inl (kept_of_unsent htook e)⟩
  · rw [hafter]
    have hset : (c.switched b on).indicator = setLight c.indicator (b.byte - 1) on :=
      Controller.indicator_switched hbit
    refine ⟨(h.insert_alike hc (Controller.alike_switched c b on)).touched htold, _, _, htook.sent,
      htold.published, fun g hg => ?_, fun e => ?_⟩
    · rw [List.mem_singleton.mp hg]
      refine ⟨rfl, fun e q b' heq hb' => ?_⟩
      cases heq
      rw [hb] at hb'
      cases hb'
      rw [hset]
      exact lightAt_of_set hbit
    · by_cases he : e = d
      · subst he
        refine .inr ⟨?_, c, c.switched b on, b, hc, ?_, hb, hbit, hl, hset, htold.lights⟩
        · simp [OutboundFrame.writesLights_setLights, OutboundFrame.writesLights_askLights]
        · rw [ByteMap.get?_insert, if_pos rfl]
      · apply Or.inl
        apply kept_of_ne he _ htold
        intro f hf
        rcases List.mem_pair.mp hf with rfl | rfl <;> rfl

end

/-! ## A delivery -/

namespace ClosedHub

variable {lossy : Prop} {h : ClosedHub} {id : SceneId} {on : Bool} {sc : Scene} {f : InboundFrame}
  {rest : List InboundFrame}

/-- The controllers `r` when the frame was taken over, if it is a report of one of them, and no
more. -/
def TakenOver (h : ClosedHub) (f : InboundFrame) (r : Registry) : Prop :=
  ∀ d, r.get? d = h.manager.controllers.get? d ∨ ∃ q c, f = .ofClass d .indicator [0x03, q] ∧
    h.manager.controllers.get? d = some c ∧ r.get? d = some (c.handleReport q).1

theorem Tends.flips_deliver (hs : h.Tends id on) (hr : h.Reachable lossy)
    (hsc : h.manager.scene? id = some sc) (hw : h.waiting = f :: rest)
    (hbasic : ∀ d value, f ≠ .ofClass d .basic [0x01, value]) :
    ∃ r new, h.TakenOver f r ∧ h.deliver.waiting = rest ++ new ∧ (∀ g ∈ new, g.Shows sc on) ∧
      ∀ d, Kept d h.sends (r, Outlet.opened h.network)
          (h.deliver.manager.controllers, Outlet.opened h.deliver.network) ∨
        Turned sc on d h.sends (r, Outlet.opened h.network)
          (h.deliver.manager.controllers, Outlet.opened h.deliver.network) := by
  have hm := hr.manager.coherent
  obtain ⟨t, heq, hsends, ht⟩ :=
    through_deliver (R := Flips sc on h.network.directory) hm (hr.plain hw) hw
    flips_note (fun d value hf => absurd hf (hbasic d value))
    (fun d scene duration other sc' hactivation hother hsc' e b hb => by
      subst hactivation
      obtain ⟨rfl, rfl⟩ := hs.activated d scene duration (mem_published hw) other hother
        (ByteMap.contains_iff.mpr ⟨sc', hsc'⟩)
      rw [hsc] at hsc'
      cases hsc'
      exact flips_setButton hb)
    (fun other v sc' hturn hsc' e b hb => by
      obtain ⟨rfl, rfl⟩ := hs.turns hturn
      rw [hsc] at hsc'
      cases hsc'
      exact flips_setButton hb)
  have hpopped : Wired h.network.directory (h.manager.controllers, (h.popped rest).2) :=
    hr.fit.toWired.of_same rfl fun g hg => mem_published_of_rest hw hg
  -- what is switched is told from the pictures on that a report left, if the frame is one
  obtain ⟨r, htaken, hwired, hflips⟩ : ∃ r, h.TakenOver f r ∧
      Wired h.network.directory (r, (h.popped rest).2) ∧
      Flips sc on h.network.directory (r, (h.popped rest).2) (t.1.controllers, t.2) := by
    rcases ht with ⟨-, -, hflips⟩ | ⟨x, q, c, rfl, hc, -, hflips⟩
    · exact ⟨h.manager.controllers, fun _ => .inl rfl, hpopped, hflips⟩
    · refine ⟨(h.manager.reported x c q).controllers, fun d => ?_,
        hpopped.insert_alike hc (Controller.alike_handleReport c q), hflips⟩
      unfold Manager.reported
      simp only [ByteMap.get?_insert]
      by_cases hd : d = x
      · subst hd
        exact .inr ⟨q, c, rfl, hc, if_pos rfl⟩
      · exact .inl (if_neg hd)
  obtain ⟨-, fs, new, hfs, hnew, hshows, heach⟩ := hflips hwired
  have hsent : h.sends = fs := hsends.trans hfs
  refine ⟨r, new, htaken, ?_, hshows, fun d => ?_⟩
  · rw [heq]
    exact hnew
  · rw [heq, hsent]
    rcases heach d with hd | hd
    · exact .inl ⟨hd.unwritten, hd.lights, hd.picture⟩
    · exact .inr ⟨hd.once, hd.light⟩

/-! ## Nothing more to write -/

/-- The scene is pictured as `on` at all of its controllers, and all that waits shows it. -/
structure Lit (h : ClosedHub) (id : SceneId) (on : Bool) (sc : Scene) : Prop where
  tends : h.Tends id on
  scene : h.manager.scene? id = some sc
  pictured : ∀ e b c, sc.button? e = some b → h.manager.controllers.get? e = some c →
    lightAt c.indicator b.place = on
  shown : ∀ g ∈ h.waiting, g.Shows sc on

theorem Lit.kept (hl : h.Lit id on sc) {r : Registry} {fs : List OutboundFrame} {o : Outlet Network}
    {t : Registry × Outlet Network} {d : DeviceId} (hw : h.waiting = f :: rest)
    (hr : h.TakenOver f r) (hd : Kept d fs (r, o) t ∨ Turned sc on d fs (r, o) t) :
    Kept d fs (r, o) t := by
  rcases hd with hd | hd
  · exact hd
  · obtain ⟨c, c', b, hc, -, hb, -, hne, -⟩ := hd.light
    apply absurd _ hne
    rcases hr d with hsame | ⟨q, a, rfl, -, htaken⟩
    · exact hl.pictured d b c hb (hsame ▸ hc)
    · have hf := hl.shown (.ofClass d .indicator [0x03, q]) (by rw [hw]; exact List.mem_cons_self)
      rw [htaken] at hc
      cases hc
      exact hf.2 d q b rfl hb

theorem Lit.deliver (hl : h.Lit id on sc) (hr : h.Reachable lossy) :
    h.deliver.Lit id on sc ∧ (∀ d, h.deliver.network.lights? d = h.network.lights? d) ∧
      ∀ d, h.sends.countP (·.writesLights d) = 0 := by
  cases hw : h.waiting with
  | nil =>
    rw [deliver_of_waiting_nil hw, sends_of_waiting_nil hw]
    exact ⟨hl, fun _ => rfl, fun _ => rfl⟩
  | cons f rest =>
    have hshown : ∀ g ∈ f :: rest, g.Shows sc on := fun g hg => hl.shown g (hw ▸ hg)
    have hbasic : ∀ d value, f ≠ .ofClass d .basic [0x01, value] := by
      rintro d value rfl
      have := (hshown _ List.mem_cons_self).1
      simp [InboundFrame.isPress, InboundFrame.ofClass] at this
    obtain ⟨r, new, htaken, hwaiting, hshows, heach⟩ := hl.tends.flips_deliver hr hl.scene hw hbasic
    -- a light that is pictured as on is not switched, so every keypad is kept
    have hkept := fun d => hl.kept hw htaken (heach d)
    refine ⟨⟨hl.tends.deliver hr, ?_, fun e b c' hb hc' => ?_, fun g hg => ?_⟩,
      fun d => (hkept d).lights, fun d => (hkept d).count⟩
    · rw [(alike_deliver h).scene?]
      exact hl.scene
    · -- the picture is as when the frame was taken over
      obtain ⟨c, hc, hcc⟩ : ∃ c, r.get? e = some c ∧ c.indicator = c'.indicator := by
        have := (hkept e).picture
        change (h.deliver.manager.controllers.get? e).map (·.indicator) = _ at this
        rw [hc'] at this
        exact Option.map_eq_some_iff.mp this.symm
      rw [← hcc]
      rcases htaken e with hsame | ⟨q, a, rfl, -, ha⟩
      · exact hl.pictured e b c hb (hsame ▸ hc)
      · rw [ha] at hc
        cases hc
        exact (hshown _ List.mem_cons_self).2 e q b rfl hb
    · rw [hwaiting] at hg
      rcases List.mem_append.mp hg with hg | hg
      · exact hshown g (List.mem_cons_of_mem _ hg)
      · exact hshows g hg

theorem Lit.iterate (hl : h.Lit id on sc) (hr : h.Reachable lossy) (n : Nat) :
    (∀ d, (ClosedHub.deliver^[n] h).network.lights? d = h.network.lights? d) ∧
      ∀ d, (h.sentIn n).countP (·.writesLights d) = 0 := by
  induction n generalizing h with
  | zero => exact ⟨fun _ => rfl, fun _ => rfl⟩
  | succ n ih =>
    obtain ⟨hl', hlights, hsends⟩ := hl.deliver hr
    obtain ⟨hlights', hsends'⟩ := ih hl' hr.deliver
    refine ⟨fun d => ?_, fun d => ?_⟩
    · rw [Function.iterate_succ_apply, hlights', hlights]
    · rw [sentIn, List.countP_append, hsends, hsends']

end ClosedHub

end MeshScenes
