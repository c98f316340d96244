import MeshScenes.Proofs.ClosedHub.Dispute
import MeshScenes.Proofs.ClosedHub.History
import MeshScenes.Proofs.Manager.Calls

/-!
# What calms down

From a hub where nothing waits, a call only makes the keypads tell their lights once more, unless it
activates a scene; an activation, and a press of a button, turn the lights of one scene one way.
Neither can lead to a dispute.
-/

namespace MeshScenes

variable {directory : Directory} {r : Registry} {o o' : Outlet Network} {d : DeviceId}
  {c : Controller}

/-! ## Nothing changes -/

/-- No press waits, and all that is told of a keypad is the same. -/
structure Still (directory : Directory) (s : Registry × Outlet Network) : Prop
    extends Orderly (fun _ => Eq) directory s where
  unpressed : ∀ f ∈ s.2.channel.published, f.isPress = false

def KeepsStill (directory : Directory) (s t : Registry × Outlet Network) : Prop :=
  Still directory s → Still directory t

instance : IsPreorder (Registry × Outlet Network) (KeepsStill directory) where
  refl _ := id
  trans _ _ _ h h' := h' ∘ h

theorem Still.lights (h : Still directory (r, o)) {l : UInt8} (hl : o.channel.lights? d = some l)
    (ht : o.channel.Told d l o'.channel) : Still directory (r, o') := by
  refine ⟨h.toOrderly.told_lights hl rfl ht, fun f hf => ?_⟩
  rw [ht.published] at hf
  rcases List.mem_append.mp hf with hf | hf
  · exact h.unpressed f hf
  · rw [List.mem_singleton.mp hf]
    rfl

theorem follows_keepsStill (directory : Directory) :
    Manager.Follows directory (KeepsStill directory) where
  note _ _ h := ⟨h.toOrderly.of_same rfl rfl, h.unpressed⟩
  forget r r' o es hr h := by
    have hsame : Orderly (fun _ => Eq) directory (r, o.noted es) := h.toOrderly.of_same rfl rfl
    exact ⟨hsame.forget hr, h.unpressed⟩
  -- a controller that was just attached has reported nothing yet
  attach r o o' d count c es hnone hc hsend := fun h => by
    obtain ⟨hw, l, hl, htold⟩ := h.toWired.told_attached hc hsend
    have hfresh : Orderly (fun _ => Eq) directory (r.insert d c, o) := by
      refine h.toOrderly.of_registry hw fun e => ?_
      rw [ByteMap.get?_insert]
      split
      next => exact .inr hc.reported
      next => exact .inl rfl
    have hstill : Still directory (r.insert d c, o) := ⟨hfresh, h.unpressed⟩
    exact hstill.lights hl htold
  refused _ o o' es fs refusal hsend := by
    obtain ⟨o₁, hsend', -⟩ := Outlet.took_sendAll (o := o.noted es) (Network.accepts _) fs
    rw [hsend] at hsend'
    cases hsend'
  ask d := fun s h => by
    rcases Registry.took_ask d (Network.accepts s.2.channel) with
      hafter | ⟨c, o', hc, htook, hafter⟩
    · rw [hafter]
      exact h
    · rw [hafter]
      obtain ⟨l, hl, htold⟩ := h.toWired.told_asked hc htook
      have hinsert :=
        h.toOrderly.insert hc (Controller.alike_requestIndicator c)
          (Controller.reported_requestIndicator c)
      have hstill : Still directory (s.1.insert d c.requestIndicator.controller, s.2) :=
        ⟨hinsert, h.unpressed⟩
      exact hstill.lights hl htold
  send s f hf h := by
    refine ⟨h.toOrderly.send hf, fun g hg => ?_⟩
    obtain ⟨new, hnew, hpress⟩ := Network.published_sendAll [f] s.2.channel
    change g ∈ (Channel.sendAll [f] s.2.channel).published at hg
    rw [hnew] at hg
    rcases List.mem_append.mp hg with hg | hg
    · exact h.unpressed g hg
    · exact hpress g hg

/-! ## The lights of one scene turn one way -/

namespace Manager

/-- From `a` to `b`, the light of the scene's button does not turn away from `on`, and no other
button's light turns. -/
def Leans (m : Manager) (id : SceneId) (on : Bool) (d : DeviceId) (a b : UInt8) : Prop :=
  ∀ j < 8, ∀ other, m.sceneForButton? d (.ofPlace j) = some other →
    if other = id then lightAt a j = on → lightAt b j = on else lightAt a j = lightAt b j

instance (m : Manager) (id : SceneId) (on : Bool) (d : DeviceId) :
    IsPreorder UInt8 (m.Leans id on d) where
  refl a j _ other _ := by
    split
    · exact fun h => h
    · rfl
  trans a b c h h' j hj other hother := by
    have h := h j hj other hother
    have h' := h' j hj other hother
    split
    next hid =>
      rw [if_pos hid] at h h'
      exact h' ∘ h
    next hid =>
      rw [if_neg hid] at h h'
      exact h.trans h'

end Manager

/-- All that is told leans one way, pictures are right but for the light of the scene, and no other
scene is about to be activated. -/
structure Tending (m : Manager) (id : SceneId) (on : Bool) (directory : Directory)
    (s : Registry × Outlet Network) :
    Prop extends Orderly (m.Leans id on) directory s where
  picture : ∀ d c l, s.1.get? d = some c → s.2.channel.lights? d = some l → ∀ j < 8, ∀ other,
    m.sceneForButton? d (.ofPlace j) = some other → other ≠ id → lightAt c.indicator j = lightAt l j
  activated : ∀ d scene duration,
    .ofClass d .sceneActivation [0x01, scene, duration] ∈ s.2.channel.published →
    ∀ other, SceneId.ofByte? scene = some other → m.scenes.contains other = true →
      other = id ∧ on = true

section
variable {m : Manager} {id : SceneId} {on : Bool} {l : UInt8}

theorem Tending.lights (h : Tending m id on directory (r, o)) (hc : r.get? d = some c)
    {c' : Controller} (ha : c.Alike c') (hreported : c'.reported = c.reported) {l₀ : UInt8}
    (hl : o.channel.lights? d = some l₀) (hrel : m.Leans id on d l₀ l)
    (ht : o.channel.Told d l o'.channel)
    (hpicture : ∀ j < 8, ∀ other, m.sceneForButton? d (.ofPlace j) = some other → other ≠ id →
      lightAt c'.indicator j = lightAt l j) : Tending m id on directory (r.insert d c', o') := by
  refine ⟨(h.toOrderly.insert hc ha hreported).told_lights hl hrel ht, fun e y k hy hk => ?_,
    fun e scene duration hmem => ?_⟩
  · rw [ByteMap.get?_insert] at hy
    by_cases hed : e = d
    · rw [if_pos hed] at hy
      cases hy
      subst hed
      rw [ht.lights] at hk
      cases hk
      exact hpicture
    · rw [if_neg hed] at hy
      rw [ht.others e hed] at hk
      exact h.picture e y k hy hk
  · rw [ht.published] at hmem
    rcases List.mem_append.mp hmem with hmem | hmem
    · exact h.activated e scene duration hmem
    · have := List.mem_singleton.mp hmem
      simp [InboundFrame.ofClass, CommandClass.id] at this

def KeepsTending (m : Manager) (id : SceneId) (on : Bool) (directory : Directory)
    (s t : Registry × Outlet Network) :
    Prop := Tending m id on directory s → Tending m id on directory t

instance : IsPreorder (Registry × Outlet Network) (KeepsTending m id on directory) where
  refl _ := fun h => h
  trans _ _ _ h h' := h' ∘ h

theorem Tending.of_same (h : Tending m id on directory (r, o))
    (hn : o'.channel.nodes = o.channel.nodes) (hp : o'.channel.published = o.channel.published) :
    Tending m id on directory (r, o') := by
  refine ⟨h.toOrderly.of_same hn hp, fun d c l hc hl => h.picture d c l hc ?_,
    fun d scene duration hmem => ?_⟩
  · rw [← hl]
    unfold Network.lights?
    rw [hn]
  · exact h.activated d scene duration (by rw [← hp]; exact hmem)

theorem keepsTending_note (s : Registry × Outlet Network) (e : Journal.Entry) :
    KeepsTending m id on directory s (s.1, s.2.note e) := fun h => h.of_same rfl rfl

theorem keepsTending_ask (d : DeviceId) :
    (Registry.react d (.ok ·.requestIndicator)).Moves (KeepsTending m id on directory) := by
  rintro ⟨r, o⟩ h
  rcases Registry.took_ask d (Network.accepts o.channel) with hafter | ⟨c, o', hc, htook, hafter⟩
  · rw [hafter]
    exact h
  · rw [hafter]
    obtain ⟨l, hl, htold⟩ := h.toWired.told_asked hc htook
    refine h.lights hc (Controller.alike_requestIndicator c)
      (Controller.reported_requestIndicator c) hl
      (refl_of (m.Leans id on d) l) htold fun j hj other hother hne => ?_
    rw [Controller.indicator_requestIndicator]
    exact h.picture d c l hc hl j hj other hother hne

theorem leans_switched {D : Directory → Prop} (hm : m.Coherent D) {sc : Scene} {b : ButtonId}
    {l₀ : UInt8} (hsc : m.scene? id = some sc) (hb : sc.button? d = some b)
    (hbit : b.bit? = some (b.byte - 1))
    (hpicture : ∀ j < 8, ∀ other, m.sceneForButton? d (.ofPlace j) = some other → other ≠ id →
      lightAt c.indicator j = lightAt l₀ j) :
    m.Leans id on d l₀ (c.switched b on).indicator := by
  obtain ⟨h8, hplace, h1⟩ := ButtonId.bit?_eq_some hbit
  intro j hj other hother
  rw [Controller.indicator_switched hbit, lightAt_setLight h8, hplace]
  obtain ⟨s, hs, hbs⟩ := (hm.index_iff _ _ _).mp hother
  split
  next hid =>
    subst hid
    rw [hsc] at hs
    cases hs
    rw [hb] at hbs
    have hj : j = b.place := by rw [Option.some.inj hbs, ButtonId.place_ofPlace hj]
    rw [if_pos hj]
    exact fun _ => rfl
  next hid =>
    have hne : j ≠ b.place := by
      rintro rfl
      rw [ButtonId.ofPlace_place h1 (hm.bounds hsc hb).2.1] at hother
      have := (hm.index_iff d b id).mpr ⟨sc, hsc, hb⟩
      rw [hother] at this
      exact hid (Option.some.inj this)
    rw [if_neg hne]
    exact (hpicture j hj other hother hid).symm

theorem keepsTending_setButton {D : Directory → Prop} (hm : m.Coherent D) {sc : Scene}
    (hsc : m.scene? id = some sc) (d : DeviceId) (b : ButtonId) (hb : sc.button? d = some b) :
    (Registry.setButton d b on).Moves (KeepsTending m id on directory) := by
  rintro ⟨r, o⟩ h
  rcases Registry.took_setButton on d b (Network.accepts o.channel) with
    hafter | ⟨c, o', hc, hbit, htook, hafter⟩
  · rw [hafter]
    exact h
  · rw [hafter]
    obtain ⟨k, hk⟩ := h.toWired.exists_keypad hc
    have hl := Network.lights?_of_keypad hk
    rcases h.toWired.told_switched hc htook with ⟨hsame, hchannel⟩ | htold
    · rw [hsame, ByteMap.insert_of_get? hc]
      exact h.of_same (congrArg Network.nodes hchannel) (congrArg Network.published hchannel)
    · exact h.lights hc (Controller.alike_switched c b on) (Controller.reported_switched c b on) hl
        (leans_switched hm hsc hb hbit (h.picture d c _ hc hl)) htold fun _ _ _ _ _ => rfl

theorem Tending.of_config {n : Manager} {s : Registry × Outlet Network}
    (h : Tending m id on directory s) (hconfig : n = { m with controllers := n.controllers }) :
    Tending n id on directory s := by
  rw [hconfig]
  exact ⟨h.toOrderly, h.picture, h.activated⟩

end

namespace ClosedHub

variable {lossy : Prop} {h : ClosedHub} {id : SceneId} {on : Bool} {f : InboundFrame}
  {rest : List InboundFrame}

theorem mem_published_of_rest (hw : h.waiting = f :: rest) {g : InboundFrame} (hg : g ∈ rest) :
    g ∈ h.network.published := by
  show g ∈ h.waiting
  rw [hw]
  exact List.mem_cons_of_mem _ hg

theorem mem_published (hw : h.waiting = f :: rest) : f ∈ h.network.published := by
  show f ∈ h.waiting
  rw [hw]
  exact List.mem_cons_self

/-! ## Hubs that stand still -/

def Stands (h : ClosedHub) : Prop :=
  Still h.network.directory (h.manager.controllers, Outlet.opened h.network)

theorem stands_afterwards (directory : Directory) {t : Manager × Outlet Network}
    (ht : Still directory (t.1.controllers, t.2)) : (afterwards t).Stands := by
  have hsame : Orderly (fun _ => Eq) directory ((afterwards t).manager.controllers,
      Outlet.opened (afterwards t).network) :=
    ht.toOrderly.of_same rfl rfl
  have hknown : (afterwards t).network.directory = directory := hsame.known
  unfold Stands
  rw [hknown]
  exact ⟨hsame, ht.unpressed⟩

theorem Stands.not_turns (hs : h.Stands) : ¬ h.Turns id on := by
  rintro ⟨x, q, rest, hw, c, p, j, hc, hp, -, -, hpq, -⟩
  have hsame : p = q := rel_of_orderly hs.toOrderly hw hc hp
  exact hpq (by rw [hsame])

theorem Stands.deliver (hs : h.Stands) (hr : h.Reachable lossy) : h.deliver.Stands := by
  cases hw : h.waiting with
  | nil =>
    rw [deliver_of_waiting_nil hw]
    exact hs
  | cons f rest =>
    have hf : f.isPress = false := hs.unpressed f (mem_published hw)
    have hunpressed : ∀ g ∈ rest, g.isPress = false :=
      fun g hg => hs.unpressed g (mem_published_of_rest hw hg)
    obtain ⟨t, heq, -, ht⟩ := through_deliver hr.manager.coherent (hr.plain hw) hw
      (follows_keepsStill h.network.directory).note
      (fun _ _ hbasic => by rw [hbasic] at hf; cases hf)
      (fun _ _ _ _ _ hactivation => by rw [hactivation] at hf; cases hf)
      (fun _ _ _ hturn => absurd hturn hs.not_turns)
    rw [heq]
    apply stands_afterwards h.network.directory
    rcases ht with ⟨-, ht⟩ | ⟨d, q, c, rfl, hc, ht⟩
    · exact ht.2 ⟨orderly_popped hs.toOrderly hw, hunpressed⟩
    · exact ht.2 ⟨orderly_reported hs.toOrderly hw hc, hunpressed⟩

theorem Stands.dies_out (hs : h.Stands) (hr : h.Reachable lossy) : h.DiesOut := by
  have hstands : ∀ n, (ClosedHub.deliver^[n] h).Stands := by
    intro n
    induction n with
    | zero => exact hs
    | succ n ih =>
      rw [Function.iterate_succ_apply']
      exact ih.deliver (hr.iterate n)
  exact hr.dies_out (v := fun _ => true) fun n id on hturn => absurd hturn (hstands n).not_turns

theorem Fit.stands_call (hf : h.Fit) (hquiet : h.waiting = []) {c : Call}
    (hc : ∀ id, c ≠ .activate id) :
    (h.call c).Stands := by
  have hstill : Still h.network.directory (h.manager.controllers, Outlet.opened h.network) := by
    refine ⟨hf.orderly hquiet, fun f hmem => ?_⟩
    change f ∈ h.waiting at hmem
    rw [hquiet] at hmem
    cases hmem
  apply stands_afterwards h.network.directory
  exact (follows_keepsStill h.network.directory).on_call c
    (fun id hid => absurd hid (hc id)) _ hstill

/-! ## Hubs that tend one way -/

def Tends (h : ClosedHub) (id : SceneId) (on : Bool) : Prop :=
  Tending h.manager id on h.network.directory (h.manager.controllers, Outlet.opened h.network)

theorem tends_afterwards {m : Manager} (directory : Directory) {t : Manager × Outlet Network}
    (hconfig : t.1 = { m with controllers := t.1.controllers })
    (ht : Tending m id on directory (t.1.controllers, t.2)) : (afterwards t).Tends id on := by
  have hsame : Tending m id on directory ((afterwards t).manager.controllers,
      Outlet.opened (afterwards t).network) :=
    ht.of_same rfl rfl
  have hknown : (afterwards t).network.directory = directory := hsame.known
  unfold Tends
  rw [hknown]
  exact hsame.of_config hconfig

theorem Tends.turns {other : SceneId} {v : Bool} (hs : h.Tends id on) (hturn : h.Turns other v) :
    other = id ∧ v = on := by
  obtain ⟨x, q, rest, hw, c, p, j, hc, hp, hj, hother, hpq, rfl⟩ := hturn
  have hrel := rel_of_orderly hs.toOrderly hw hc hp j hj other hother
  split at hrel
  next hid =>
    refine ⟨hid, ?_⟩
    by_contra hne
    refine hne (hrel ?_)
    rw [Bool.eq_not_of_ne hpq, Bool.eq_not_of_ne hne, Bool.not_not]
  next => exact absurd hrel hpq

theorem Tends.deliver (hs : h.Tends id on) (hr : h.Reachable lossy) : h.deliver.Tends id on := by
  cases hw : h.waiting with
  | nil =>
    rw [deliver_of_waiting_nil hw]
    exact hs
  | cons f rest =>
    have hm := hr.manager.coherent
    have hactivated : ∀ d scene duration,
        .ofClass d .sceneActivation [0x01, scene, duration] ∈ rest →
        ∀ other, SceneId.ofByte? scene = some other → h.manager.scenes.contains other = true →
        other = id ∧ on = true :=
      fun d scene duration hmem => hs.activated d scene duration (mem_published_of_rest hw hmem)
    -- whatever switches lights here is the scene that tends, and it switches them its way
    obtain ⟨t, heq, -, ht⟩ :=
      through_deliver (R := KeepsTending h.manager id on h.network.directory) hm (hr.plain hw) hw
      keepsTending_note (fun d _ _ => keepsTending_ask d)
      (fun d scene duration other sc hactivation hother hsc e b hb => by
        subst hactivation
        obtain ⟨rfl, rfl⟩ := hs.activated d scene duration (mem_published hw) other hother
          (ByteMap.contains_iff.mpr ⟨sc, hsc⟩)
        exact keepsTending_setButton hm hsc e b hb)
      (fun other v sc hturn hsc e b hb => by
        obtain ⟨rfl, rfl⟩ := hs.turns hturn
        exact keepsTending_setButton hm hsc e b hb)
    rw [heq]
    rcases ht with ⟨-, ht⟩ | ⟨d, q, c, rfl, hc, ht⟩
    · exact tends_afterwards h.network.directory ht.1
        (ht.2 ⟨orderly_popped hs.toOrderly hw, hs.picture, hactivated⟩)
    · have hconfig : t.1 = { h.manager with controllers := t.1.controllers } := ht.1
      refine tends_afterwards h.network.directory hconfig
        (ht.2 ⟨orderly_reported hs.toOrderly hw hc, ?_, hactivated⟩)
      intro e y l hy hl j hj other hother hne
      change (h.manager.controllers.insert d (c.handleReport q).1).get? e = some y at hy
      rw [ByteMap.get?_insert] at hy
      split at hy
      next hed =>
        cases hy
        subst hed
        have hrel := rel_lights_of_orderly hs.toOrderly hw hl j hj other hother
        rw [if_neg hne] at hrel
        exact hrel
      next => exact hs.picture e y l hy hl j hj other hother hne

theorem Tends.dies_out (hs : h.Tends id on) (hr : h.Reachable lossy) : h.DiesOut := by
  have htends : ∀ n, (ClosedHub.deliver^[n] h).Tends id on := by
    intro n
    induction n with
    | zero => exact hs
    | succ n ih =>
      rw [Function.iterate_succ_apply']
      exact ih.deliver (hr.iterate n)
  exact hr.dies_out (v := fun _ => on) fun n other v hturn => ((htends n).turns hturn).2

end ClosedHub

end MeshScenes
