import Mathlib.Data.List.Nodup
import MeshScenes.Proofs.Failures
import MeshScenes.Proofs.Manager.Presses
import MeshScenes.Proofs.Manager.Report

/-!
# Activating again after a refusal

The picture of a light changes before the frames for it are sent, and keeps the change when one of
them is refused. Activation stops there; done again it finds the lights up to that one as they
should be, and goes on behind it. So what is lost is the one frame that was refused.
-/

namespace MeshScenes

section
variable {χ : Type} [Channel χ]

namespace Registry

theorem switchOne_cases (on : Bool) (n : Nat) {e : DeviceId × ButtonId} {t : Registry × Outlet χ}
    {c : Controller} (hc : t.1.get? e.1 = some c) (hb : Drivable c e.2) :
    (∃ k o', switchOne on n e t = .ok k (t.1.switch on e, o') ∧
      Outlet.Took (t.1.switchFrames on e) t.2 o') ∨
      ∃ err o' pre f post, switchOne on n e t = .error err (t.1.switch on e, o') ∧
        t.1.switchFrames on e = pre ++ f :: post ∧ Outlet.Stopped pre f t.2 o' := by
  obtain ⟨x, hx⟩ := Controller.setButton_ok on hb.1 hb.2.1 hb.2.2
  unfold switchOne
  rw [Act.run_bind]
  rcases setButton_cases hc hx t.2 with ⟨o', hrun, htook⟩ |
    ⟨err, o', pre, f, post, hrun, hframes, hstopped⟩
  · left
    simp only [hrun]
    exact ⟨if x.answer then n + 1 else n, o', rfl, htook⟩
  · right
    simp only [hrun]
    exact ⟨err, o', pre, f, post, rfl, hframes, hstopped⟩

/-- One controller after the other has its light switched, up to the one whose frame is refused if
there is one. -/
theorem foldlM_cases {on : Bool} {body : Nat → DeviceId × ButtonId → Act Registry χ Nat}
    (hbody : ∀ n e s c, s.1.get? e.1 = some c → Drivable c e.2 →
      (∃ k o', body n e s = .ok k (s.1.switch on e, o') ∧
        Outlet.Took (s.1.switchFrames on e) s.2 o') ∨
        ∃ err o' pre f post, body n e s = .error err (s.1.switch on e, o') ∧
          s.1.switchFrames on e = pre ++ f :: post ∧ Outlet.Stopped pre f s.2 o')
    (es : List (DeviceId × ButtonId))
    (h : es.Pairwise fun a b => ByteKey.rank a.1 < ByteKey.rank b.1) (n : Nat) (r : Registry)
    (o : Outlet χ)
    (hr : ∀ e ∈ es, ∃ c, r.get? e.1 = some c ∧ Drivable c e.2) :
    (∃ k o', es.foldlM body n (r, o) = .ok k (es.foldl (switch on) r, o') ∧
        Outlet.Took (es.flatMap (r.switchFrames on)) o o') ∨
      ∃ err o' before e later pre f post,
        es.foldlM body n (r, o) = .error err ((before ++ [e]).foldl (switch on) r, o') ∧
        es = before ++ e :: later ∧ r.switchFrames on e = pre ++ f :: post ∧
        Outlet.Stopped (before.flatMap (r.switchFrames on) ++ pre) f o o' := by
  -- later controllers are as they were, so their frames can be read off the first registry
  induction es generalizing n r o with
  | nil => exact .inl ⟨n, o, rfl, rfl, (List.append_nil _).symm⟩
  | cons e es ih =>
    have hsame : ∀ x ∈ es, (r.switch on e).switchFrames on x = r.switchFrames on x :=
      fun x hx => switchFrames_switch_of_later h hx
    have hr' : ∀ x ∈ es, ∃ c, (r.switch on e).get? x.1 = some c ∧ Drivable c x.2 := by
      intro x hx
      rw [get?_switch_of_later h hx]
      exact hr x (List.mem_cons_of_mem _ hx)
    obtain ⟨c, hc, hb⟩ := hr e List.mem_cons_self
    rw [List.foldlM_cons, Act.run_bind]
    rcases hbody n e (r, o) c hc hb with
      ⟨k, o₁, hstep, htook⟩ | ⟨err, o₁, pre, f, post, hstep, hframes, hstopped⟩
    · rw [hstep]
      rcases ih (List.pairwise_cons.mp h).2 k (r.switch on e) o₁ hr' with
        ⟨k', o₂, hrun, htook'⟩ | ⟨err, o₂, before, x, later, pre, f, post, hrun, rfl, hframes,
          hstopped⟩
      · refine .inl ⟨k', o₂, hrun, ?_⟩
        rw [List.flatMap_cons, ← List.flatMap_congr hsame]
        exact htook.trans htook'
      · rw [hsame x (by simp)] at hframes
        refine .inr ⟨err, o₂, e :: before, x, later, pre, f, post, hrun, rfl, hframes, ?_⟩
        rw [List.flatMap_cons, List.append_assoc,
          ← List.flatMap_congr fun y hy => hsame y (List.mem_append_left _ hy)]
        exact htook.stopped hstopped
    · rw [hstep]
      exact .inr ⟨err, o₁, [], e, es, pre, f, post, rfl, rfl, hframes, hstopped⟩

theorem Drivable.bit? {c : Controller} {b : ButtonId} (h : Drivable c b) :
    b.bit? = some (b.byte - 1) := by
  obtain ⟨x, hx⟩ := Controller.setButton_ok true h.1 h.2.1 h.2.2
  exact (Controller.setButton_eq_ok hx).2.2.1

theorem lightAt_switched {c : Controller} {b : ButtonId} (h : Drivable c b) (on : Bool) :
    lightAt (c.switched b on).indicator b.place = on := by
  obtain ⟨h8, hplace, -⟩ := ButtonId.bit?_eq_some h.bit?
  rw [Controller.indicator_switched h.bit?, lightAt_setLight h8, if_pos hplace.symm]

theorem switchFrames_foldl_of_mem {on : Bool} {es : List (DeviceId × ButtonId)} {r : Registry}
    (h : es.Pairwise fun a b => ByteKey.rank a.1 < ByteKey.rank b.1) {x : DeviceId × ButtonId}
    (hx : x ∈ es) (hdrivable : ∃ c, r.get? x.1 = some c ∧ Drivable c x.2) :
    (es.foldl (switch on) r).switchFrames on x = [] := by
  obtain ⟨c, hc, hb⟩ := hdrivable
  have hlisted : (⟨es, h⟩ : ByteMap DeviceId ButtonId).get? x.1 = some x.2 :=
    ByteMap.get?_eq_some_iff.mpr hx
  unfold switchFrames
  rw [get?_foldl_switch on es r x.1 h, hlisted, hc]
  exact Controller.switchFrames_of_lit (lightAt_switched hb on)

theorem switchFrames_foldl_of_apart {on : Bool} {es : List (DeviceId × ButtonId)} {r : Registry}
    (h : es.Pairwise fun a b => ByteKey.rank a.1 < ByteKey.rank b.1) {x : DeviceId × ButtonId}
    (hx : ∀ y ∈ es, ByteKey.rank y.1 < ByteKey.rank x.1) :
    (es.foldl (switch on) r).switchFrames on x = r.switchFrames on x := by
  have hnone : (⟨es, h⟩ : ByteMap DeviceId ButtonId).get? x.1 = none := by
    apply Option.eq_none_iff_forall_ne_some.mpr
    intro b hb
    exact absurd (hx _ (ByteMap.get?_eq_some_iff.mp hb)) (Nat.lt_irrefl _)
  unfold switchFrames
  rw [get?_foldl_switch on es r x.1 h, hnone]
  cases r.get? x.1 <;> rfl

end Registry

namespace Scene

variable {s : Scene} {r r' : Registry}

theorem activate_stops (h : s.Served r) {o o' : Outlet χ} {e : Error}
    (hrun : s.activate (r, o) = .error e (r', o')) :
    ∃ before e later pre f post, s.controllers.toList = before ++ e :: later ∧
      r.switchFrames true e = pre ++ f :: post ∧
        r' = (before ++ [e]).foldl (Registry.switch true) r ∧
      Outlet.Stopped (before.flatMap (r.switchFrames true) ++ pre) f o o' := by
  by_cases hempty : s.controllers.isEmpty = true
  · unfold activate at hrun
    rw [if_pos hempty] at hrun
    cases hrun
  · rw [activate_of_served h hempty, Act.run_bind] at hrun
    rcases Registry.foldlM_cases (fun n e t c hc hb => Registry.switchOne_cases true n hc hb)
      s.controllers.toList
        s.controllers.ascending 0 r o (fun e he => h e.1 e.2 (ByteMap.get?_eq_some_iff.mpr he)) with
      ⟨k, o₁, hfold, -⟩ | ⟨err, o₁, before, x, later, pre, f, post, hfold, hes, hframes, hstopped⟩
    · rw [hfold] at hrun
      cases hrun
    · rw [hfold] at hrun
      cases hrun
      exact ⟨before, x, later, pre, f, post, hes, hframes, rfl, hstopped⟩

theorem switchAllFrames_stopped (h : s.Served r) {before later : List (DeviceId × ButtonId)}
    {e : DeviceId × ButtonId} (hes : s.controllers.toList = before ++ e :: later)
    (hr' : r' = (before ++ [e]).foldl (Registry.switch true) r) :
    r'.switchAllFrames true s.controllers = later.flatMap (r.switchFrames true) := by
  have hsplit : s.controllers.toList = (before ++ [e]) ++ later := by simp [hes]
  have hascending := s.controllers.ascending
  rw [hsplit] at hascending
  obtain ⟨hdone, -, hapart⟩ := List.pairwise_append.mp hascending
  have hlit : ∀ x ∈ before ++ [e], r'.switchFrames true x = [] := by
    intro x hx
    have hbutton : s.button? x.1 = some x.2 := by
      apply ByteMap.get?_eq_some_iff.mpr
      rw [hsplit]
      exact List.mem_append_left _ hx
    rw [hr']
    exact Registry.switchFrames_foldl_of_mem hdone hx (h x.1 x.2 hbutton)
  have hsame : ∀ x ∈ later, r'.switchFrames true x = r.switchFrames true x := by
    intro x hx
    rw [hr']
    exact Registry.switchFrames_foldl_of_apart hdone fun y hy => hapart y hy x hx
  unfold Registry.switchAllFrames
  rw [hsplit, List.flatMap_append, List.flatMap_eq_nil_iff.mpr hlit, List.nil_append,
    List.flatMap_congr hsame]

end Scene

end

/-! ## Done again -/

/-- The frame writes the lights of a device, the one of the button on. -/
def OutboundFrame.Lights (d : DeviceId) (b : ButtonId) (f : OutboundFrame) : Prop :=
  ∃ lights, f = .setLights d lights ∧ lightAt lights b.place = true

theorem Registry.switchFrames_of_ne {r : Registry} {d : DeviceId} {b : ButtonId} {c : Controller}
    {on : Bool} (hc : r.get? d = some c) (hdevice : c.device = d)
    (hlights : c.supportsIndicator = true) (hne : lightAt c.indicator b.place ≠ on) :
    r.switchFrames on (d, b) = [.setLights d (c.switched b on).indicator, .askLights d] := by
  unfold switchFrames Controller.switchFrames
  simp only [hc, if_neg hne, hlights, hdevice]
  rfl

theorem Registry.switchFrames_of_dark {r : Registry} {d : DeviceId} {b : ButtonId} {c : Controller}
    (hc : r.get? d = some c) (hdevice : c.device = d) (hb : Drivable c b)
    (hlights : c.supportsIndicator = true) (hdark : c.isOn b = false) :
    ∃ f, f.Lights d b ∧ r.switchFrames true (d, b) = [f, .askLights d] := by
  rw [Controller.isOn_eq hb.bit?] at hdark
  refine ⟨.setLights d (c.switched b true).indicator, ⟨_, rfl, lightAt_switched hb true⟩, ?_⟩
  exact switchFrames_of_ne hc hdevice hlights (by simp [hdark])

theorem Registry.destination_switchFrames {r : Registry}
    (hdevice : ∀ d c, r.get? d = some c → c.device = d) {on : Bool} {e : DeviceId × ButtonId}
    {f : OutboundFrame} (hf : f ∈ r.switchFrames on e) : f.destination = e.1 := by
  unfold switchFrames at hf
  cases hc : r.get? e.1 with
  | none =>
    rw [hc] at hf
    cases hf
  | some c =>
    rw [hc] at hf
    rw [Controller.destination_switchFrames hf, hdevice e.1 c hc]

namespace Scene

variable {s : Scene} {r : Registry} {before later : List (DeviceId × ButtonId)}
  {e : DeviceId × ButtonId} {pre post : List OutboundFrame} {f : OutboundFrame}

theorem destination_ne (hdevice : ∀ d c, r.get? d = some c → c.device = d)
    (hes : s.controllers.toList = before ++ e :: later) {g : OutboundFrame}
    (hg : g ∈ before.flatMap (r.switchFrames true) ++ later.flatMap (r.switchFrames true)) :
    g.destination ≠ e.1 := by
  intro hge
  rw [← List.flatMap_append] at hg
  obtain ⟨y, hy, hgy⟩ := List.mem_flatMap.mp hg
  have hsame : e.1 = y.1 := hge.symm.trans (Registry.destination_switchFrames hdevice hgy)
  have hnodup := s.controllers.nodup_keys
  unfold ByteMap.keys at hnodup
  rw [hes, List.map_append, List.map_cons, List.nodup_middle, List.nodup_cons,
    ← List.map_append] at hnodup
  apply hnodup.1
  rw [hsame]
  exact List.mem_map_of_mem hy

theorem exists_lights_own {d : DeviceId} {b : ButtonId} {g : OutboundFrame} (hg : g.Lights d b)
    (hset : r.switchFrames true (d, b) = [g, .askLights d])
    (hframes : r.switchFrames true (d, b) = pre ++ f :: post) {others : List OutboundFrame}
    (hothers : ∀ x ∈ others, x.destination ≠ d) :
    (∃ x ∈ others ++ pre, x.Lights d b) ↔ ∀ lights, f ≠ .setLights d lights := by
  rw [hset] at hframes
  rcases pre with _ | ⟨p, pre⟩
  · simp only [List.nil_append, List.cons.injEq] at hframes
    obtain ⟨lights, rfl, hlit⟩ := hg
    constructor
    · rintro ⟨x, hx, lights', rfl, -⟩
      rw [List.append_nil] at hx
      exact absurd rfl (hothers _ hx)
    · intro hne
      exact absurd hframes.1.symm (hne lights)
  · simp only [List.cons_append, List.cons.injEq] at hframes
    obtain ⟨rfl, hrest⟩ := hframes
    constructor
    · intro _ lights hf
      rcases pre with _ | ⟨q, pre⟩
      · simp only [List.nil_append, List.cons.injEq] at hrest
        rw [hf] at hrest
        exact absurd hrest.1 (by simp [OutboundFrame.askLights, OutboundFrame.setLights])
      · simp at hrest
    · intro _
      exact ⟨g, by simp, hg⟩

theorem exists_lights_iff (hserved : s.Served r) (hdevice : ∀ d c, r.get? d = some c → c.device = d)
    (hlights : ∀ d b c, s.button? d = some b → r.get? d = some c → c.supportsIndicator = true)
    (hes : s.controllers.toList = before ++ e :: later)
    (hframes : r.switchFrames true e = pre ++ f :: post) {d : DeviceId} {b : ButtonId}
    {c : Controller} (hb : s.button? d = some b) (hc : r.get? d = some c)
    (hdark : c.isOn b = false) :
    (∃ g ∈ before.flatMap (r.switchFrames true) ++ pre ++ later.flatMap (r.switchFrames true),
      g.Lights d b) ↔
      ∀ lights, f ≠ .setLights d lights := by
  obtain ⟨c', hc', hdrivable⟩ := hserved d b hb
  rw [hc] at hc'
  cases hc'
  obtain ⟨g, hg, hset⟩ :=
    Registry.switchFrames_of_dark hc (hdevice d c hc) hdrivable (hlights d b c hb hc) hdark
  have hmem : (d, b) ∈ before ++ e :: later := by
    rw [← hes]
    exact ByteMap.get?_eq_some_iff.mp hb
  -- around the refused frame stand all lists but one, and a part of that one
  by_cases hde : (d, b) = e
  · subst hde
    have hown := exists_lights_own hg hset hframes fun x hx => destination_ne hdevice hes hx
    rw [← hown]
    simp only [List.mem_append]
    exact exists_congr fun x => and_congr_left' (by tauto)
  · have hne : d ≠ e.1 := by
      intro hsame
      have he : s.button? e.1 = some e.2 := by
        apply ByteMap.get?_eq_some_iff.mpr
        rw [hes]
        simp
      rw [← hsame, hb] at he
      exact hde (Prod.ext hsame (Option.some.inj he))
    constructor
    · -- A refused frame to the device would be one of its own.
      intro _ lights hf
      have hfe : f.destination = e.1 :=
        Registry.destination_switchFrames hdevice (by rw [hframes]; simp)
      rw [hf] at hfe
      exact hne hfe
    · intro _
      refine ⟨g, ?_, hg⟩
      have hgd : g ∈ r.switchFrames true (d, b) := by
        rw [hset]
        exact List.mem_cons_self
      rcases List.mem_append.mp hmem with hbefore | hlater
      · exact List.mem_append_left _
          (List.mem_append_left _ (List.mem_flatMap.mpr ⟨_, hbefore, hgd⟩))
      · rcases List.mem_cons.mp hlater with he | hlater
        · exact absurd he hde
        · exact List.mem_append_right _ (List.mem_flatMap.mpr ⟨_, hlater, hgd⟩)

variable {χ χ' : Type} [Channel χ] [Channel χ'] {r₁ : Registry}

/-- An activation that a refusal cut short is completed by the next one, except for the device whose
lights the refused frame was to set: in neither of the two is its light written. -/
theorem activate_retried (hserved : s.Served r) (hdevice : ∀ d c, r.get? d = some c → c.device = d)
    (hlights : ∀ d b c, s.button? d = some b → r.get? d = some c → c.supportsIndicator = true)
    {channel : χ} {o₁ : Outlet χ} {cause : TransportFailure}
    (hfails : s.activate (r, .opened channel) = .error (.transport cause) (r₁, o₁))
    {channel' : χ'} (haccepts : Channel.Accepts channel') :
    ∃ f n r₂ o₂, o₁.attempts = o₁.sent.map (Attempt.mk · true) ++ [⟨f, false⟩] ∧
      s.activate (r₁, .opened channel') = .ok n (r₂, o₂) ∧
      ∀ d b c, s.button? d = some b → r.get? d = some c → c.isOn b = false →
        ((∃ g ∈ o₁.sent ++ o₂.sent, g.Lights d b) ↔ ∀ lights, f ≠ .setLights d lights) := by
  obtain ⟨before, e, later, pre, f, post, hes, hframes, hr₁, hstopped⟩ :=
    activate_stops hserved hfails
  have halike : r.Alike r₁ := by
    have hends := throws_activate (χ := χ) hserved (r, .opened channel) (Registry.alike_refl r)
    unfold Act.Ends at hends
    rw [hfails] at hends
    exact hends.1
  obtain ⟨n, o₂, hrun, htook⟩ :=
    s.run_activate (o := .opened channel') haccepts (hserved.of_alike halike)
  have hsent₁ : o₁.sent = before.flatMap (r.switchFrames true) ++ pre := hstopped.sent
  have hsent₂ : o₂.sent = later.flatMap (r.switchFrames true) := by
    rw [← switchAllFrames_stopped hserved hes hr₁]
    exact htook.sent
  refine ⟨f, n, _, o₂, by rw [hsent₁]; exact hstopped.attempts, hrun, ?_⟩
  intro d b c hb hc hdark
  rw [hsent₁, hsent₂]
  exact exists_lights_iff hserved hdevice hlights hes hframes hb hc hdark

end Scene

namespace Manager

/-- A channel that breaks after some frames. -/
def breaksAfter (n : Nat) : FaultyChannel := ⟨ByteMap.empty, some n⟩

/-- Where an activation over such a channel leaves off. -/
def cutShort (n : Nat) (s : Scene) (r : Registry) : Registry × Outlet FaultyChannel :=
  s.activate.after (r, .opened (breaksAfter n))

/-- Where the activation after it leaves off, over a channel that refuses nothing. -/
def goneOn (n : Nat) (s : Scene) (r : Registry) : Registry × Outlet FaultyChannel :=
  s.activate.after ((cutShort n s r).1, .opened .sound)

theorem served_evening :
    ∃ m s, Reachable Directory.Honest m ∧ m = (afterCalls twoKeypads evening).1 ∧
    m.scene? ⟨7, by decide⟩ = some s ∧ s.Served m.controllers ∧
    (∀ d c, m.controllers.get? d = some c → c.device = d) ∧
    ∀ d c, m.controllers.get? d = some c → c.supportsIndicator = true ∧ c.isOn ⟨1⟩ = false := by
  let m := (afterCalls twoKeypads evening).1
  have h : Reachable Directory.Honest m := reachable_afterCalls honest_twoKeypads evening
  have hscene : (m.scene? ⟨7, by decide⟩).isSome = true := by decide +kernel
  have hpictures : ∀ e ∈ m.controllers.toList, e.2.supportsIndicator = true ∧
      e.2.isOn ⟨1⟩ = false := by decide +kernel
  obtain ⟨s, hs⟩ := Option.isSome_iff_exists.mp hscene
  refine ⟨m, s, h, rfl, hs, h.coherent.served hs, fun d c hc => (h.coherent.controller d c hc).1,
    fun d c hc => ?_⟩
  exact hpictures (d, c) (ByteMap.get?_eq_some_iff.mp hc)

/-- The question to the first keypad is refused, and both keypads are written to. -/
theorem activate_retried_evening :
    ∃ m s r₁ o₁, Reachable Directory.Honest m ∧ m.scene? ⟨7, by decide⟩ = some s ∧
      s.activate (m.controllers, Outlet.opened (breaksAfter 1)) =
        .error (.transport .channelDown) (r₁, o₁) ∧
      ∃ n r₂ o₂, s.activate (r₁, Outlet.opened FaultyChannel.sound) = .ok n (r₂, o₂) ∧
        (∃ g ∈ o₁.sent ++ o₂.sent, g.Lights ⟨2⟩ ⟨1⟩) ∧ ∃ g ∈ o₁.sent ++ o₂.sent,
          g.Lights ⟨3⟩ ⟨1⟩ := by
  obtain ⟨m, s, h, hm, hs, hserved, hdevice, hpictures⟩ := served_evening
  have hfails : ((afterCalls twoKeypads evening).1.scene? ⟨7, by decide⟩).map (fun s =>
      (s.button? ⟨2⟩, s.button? ⟨3⟩,
        s.activate.answer ((afterCalls twoKeypads evening).1.controllers, .opened (breaksAfter 1)),
        (cutShort 1 s (afterCalls twoKeypads evening).1.controllers).2.attempts)) =
      some (some ⟨1⟩, some ⟨1⟩, .error (.transport .channelDown),
        [⟨.setLights ⟨2⟩ 1, true⟩, ⟨.askLights ⟨2⟩, false⟩]) := by decide +kernel
  rw [← hm, hs] at hfails
  simp only [Option.map_some, Option.some.injEq, Prod.mk.injEq] at hfails
  obtain ⟨htwo, hthree, hanswer, hleft⟩ := hfails
  rcases hafter : cutShort 1 s m.controllers with ⟨r₁, o₁⟩
  rw [hafter] at hleft
  have hrun := Act.run_eq_error_iff.mpr ⟨hanswer, hafter⟩
  obtain ⟨f, n, r₂, o₂, hattempts, hretried, hlit⟩ := Scene.activate_retried hserved hdevice
    (fun d b c _ hc => (hpictures d c hc).1) hrun accepts_sound
  have hf : ∀ d lights, f ≠ .setLights d lights := by
    intro d lights hf
    have hrefused : (⟨f, false⟩ : Attempt) ∈ o₁.attempts := by
      rw [hattempts]
      simp
    rw [hleft, hf] at hrefused
    simp [OutboundFrame.askLights, OutboundFrame.setLights] at hrefused
  refine ⟨m, s, r₁, o₁, h, hs, hrun, n, r₂, o₂, hretried, ?_, ?_⟩
  · obtain ⟨c, hc, -⟩ := hserved ⟨2⟩ ⟨1⟩ htwo
    exact (hlit ⟨2⟩ ⟨1⟩ c htwo hc (hpictures _ c hc).2).mpr (hf ⟨2⟩)
  · obtain ⟨c, hc, -⟩ := hserved ⟨3⟩ ⟨1⟩ hthree
    exact (hlit ⟨3⟩ ⟨1⟩ c hthree hc (hpictures _ c hc).2).mpr (hf ⟨3⟩)

/-- The first frame is refused, and the first keypad is never written to. -/
theorem evening_not_completed :
    ∃ m s r₁ o₁ c, Reachable Directory.Honest m ∧ m.scene? ⟨7, by decide⟩ = some s ∧
      s.Served m.controllers ∧
      (∀ d c, m.controllers.get? d = some c → c.device = d ∧ c.supportsIndicator = true) ∧
      s.button? ⟨2⟩ = some ⟨1⟩ ∧ m.controllers.get? ⟨2⟩ = some c ∧ c.isOn ⟨1⟩ = false ∧
      s.activate (m.controllers, Outlet.opened (breaksAfter 0)) =
        .error (.transport .channelDown) (r₁, o₁) ∧
      Channel.Accepts FaultyChannel.sound ∧
      ∃ n r₂ o₂, s.activate (r₁, Outlet.opened FaultyChannel.sound) = .ok n (r₂, o₂) ∧
        ¬ ∃ g ∈ o₁.sent ++ o₂.sent, g.Lights ⟨2⟩ ⟨1⟩ := by
  obtain ⟨m, s, h, hm, hs, hserved, hdevice, hpictures⟩ := served_evening
  have hfails : ((afterCalls twoKeypads evening).1.scene? ⟨7, by decide⟩).map (fun s =>
      (s.button? ⟨2⟩,
        s.activate.answer ((afterCalls twoKeypads evening).1.controllers, .opened (breaksAfter 0)),
        (cutShort 0 s (afterCalls twoKeypads evening).1.controllers).2.sent)) =
      some (some ⟨1⟩, .error (.transport .channelDown), []) := by decide +kernel
  have hagain : ((afterCalls twoKeypads evening).1.scene? ⟨7, by decide⟩).map (fun s =>
      (s.activate.answer ((cutShort 0 s (afterCalls twoKeypads evening).1.controllers).1,
          Outlet.opened FaultyChannel.sound),
        (goneOn 0 s (afterCalls twoKeypads evening).1.controllers).2.sent)) =
      some (.ok 1, [.setLights ⟨3⟩ 1, .askLights ⟨3⟩]) := by decide +kernel
  rw [← hm, hs] at hfails hagain
  simp only [Option.map_some, Option.some.injEq, Prod.mk.injEq] at hfails hagain
  obtain ⟨htwo, hanswer, hsent⟩ := hfails
  obtain ⟨hanswer', hsent'⟩ := hagain
  obtain ⟨c, hc, -⟩ := hserved ⟨2⟩ ⟨1⟩ htwo
  unfold goneOn at hsent'
  rcases hafter : cutShort 0 s m.controllers with ⟨r₁, o₁⟩
  rw [hafter] at hsent hanswer' hsent'
  rcases hafter' : s.activate.after (r₁, Outlet.opened FaultyChannel.sound) with ⟨r₂, o₂⟩
  rw [hafter'] at hsent'
  refine ⟨m, s, r₁, o₁, c, h, hs, hserved, fun d c hc => ⟨hdevice d c hc, (hpictures d c hc).1⟩,
    htwo, hc, (hpictures _ c hc).2, Act.run_eq_error_iff.mpr ⟨hanswer, hafter⟩, accepts_sound, 1,
    r₂, o₂, Act.run_eq_ok_iff.mpr ⟨hanswer', hafter'⟩, ?_⟩
  rw [hsent, hsent']
  rintro ⟨g, hg, lights, rfl, -⟩
  simp [OutboundFrame.askLights, OutboundFrame.setLights] at hg

end Manager

end MeshScenes
