import MeshScenes.Proofs.Manager.Programmed
import MeshScenes.Proofs.Retrying

/-!
# Reports and unreachable nodes

Some nodes may be cut off: whatever is sent to them is refused, and everything else goes through.
Carrying a change over stops at such a node, so the rest of its scene is left behind; the other
scenes do not notice.
-/

namespace MeshScenes

/-! ## Channels that cut nodes off -/

section
variable {χ : Type}

/-- The attempt was made between the one outlet and the other. -/
def Outlet.Tried (a : Attempt) (o o' : Outlet χ) : Prop :=
  ∃ as, o'.attempts = o.attempts ++ as ∧ a ∈ as

theorem Outlet.Tried.later {a : Attempt} {o o' o'' : Outlet χ} (h : Tried a o o')
    {bs : List Attempt} (hbs : o''.attempts = o'.attempts ++ bs) : Tried a o o'' := by
  obtain ⟨as, has, ha⟩ := h
  exact ⟨as ++ bs, by rw [hbs, has, List.append_assoc], List.mem_append_left _ ha⟩

theorem Outlet.Tried.earlier {a : Attempt} {o o' o'' : Outlet χ} (h : Tried a o' o'')
    {bs : List Attempt} (hbs : o'.attempts = o.attempts ++ bs) : Tried a o o'' := by
  obtain ⟨as, has, ha⟩ := h
  exact ⟨bs ++ as, by rw [has, hbs, List.append_assoc], List.mem_append_right _ ha⟩

variable [Channel χ] {U : DeviceId → Prop}

/-- The channel refuses what is sent to the nodes of `U`, now and later, and nothing else. -/
def Channel.Cuts (U : DeviceId → Prop) (c : χ) : Prop :=
  ∀ fs f, (send f (sendAll fs c)).refusal = none ↔ ¬ U f.destination

theorem Channel.Cuts.send {c : χ} (h : Cuts U c) (f : OutboundFrame) : Cuts U (send f c).channel :=
  fun fs g => h (f :: fs) g

/-- What is tried is accepted exactly if it is for a node that is not cut off. -/
def Outlet.Heeds (U : DeviceId → Prop) (o o' : Outlet χ) : Prop :=
  Channel.Cuts U o.channel → Channel.Cuts U o'.channel ∧
    ∃ as, o'.attempts = o.attempts ++ as ∧ ∀ a ∈ as, (a.accepted = true ↔ ¬ U a.frame.destination)

theorem Outlet.heeds_of_same {o o' : Outlet χ} (hchannel : o'.channel = o.channel)
    (hattempts : o'.attempts = o.attempts) :
    Heeds U o o' := fun h =>
  ⟨hchannel ▸ h, [], by rw [hattempts, List.append_nil], by simp⟩

theorem Outlet.Heeds.trans {o o' o'' : Outlet χ} (h : Heeds U o o') (h' : Heeds U o' o'') :
    Heeds U o o'' := by
  intro ho
  obtain ⟨ho', as, has, hheed⟩ := h ho
  obtain ⟨ho'', bs, hbs, hheed'⟩ := h' ho'
  refine ⟨ho'', as ++ bs, by rw [hbs, has, List.append_assoc], fun a ha => ?_⟩
  rcases List.mem_append.mp ha with ha | ha
  · exact hheed a ha
  · exact hheed' a ha

theorem Outlet.heeds_send (o : Outlet χ) (f : OutboundFrame) : Heeds U o (o.send f).2 := by
  intro ho
  refine ⟨ho.send f, [⟨f, (o.send f).1.isNone⟩], rfl, ?_⟩
  intro a ha
  rw [List.mem_singleton.mp ha]
  exact Option.isNone_iff_eq_none.trans (ho [] f)

theorem Outlet.heeds_sendAll (o : Outlet χ) (fs : List OutboundFrame) :
    Heeds U o (o.sendAll fs).2 := by
  induction fs generalizing o with
  | nil => exact heeds_of_same rfl rfl
  | cons f fs ih =>
    have hf := o.heeds_send (U := U) f
    unfold sendAll
    rcases hs : o.send f with ⟨_ | refusal, o'⟩
    · rw [hs] at hf
      exact hf.trans (ih o')
    · rw [hs] at hf
      exact hf

theorem Outlet.Heeds.of_stopped {o o' : Outlet χ} (h : Heeds U o o') (ho : Channel.Cuts U o.channel)
    {pre : List OutboundFrame} {f : OutboundFrame} (hstopped : Stopped pre f o o') :
    U f.destination := by
  obtain ⟨-, as, has, hheed⟩ := h ho
  have hsplit : as = pre.map (Attempt.mk · true) ++ [⟨f, false⟩] :=
    List.append_cancel_left (has.symm.trans hstopped.attempts)
  have hrefused : ⟨f, false⟩ ∈ as := by simp [hsplit]
  by_contra hreached
  cases (hheed ⟨f, false⟩ hrefused).mpr hreached

namespace Registry

def Heeds (U : DeviceId → Prop) (s t : Registry × Outlet χ) : Prop := s.2.Heeds U t.2

instance (U : DeviceId → Prop) : IsPreorder (Registry × Outlet χ) (Heeds U) where
  refl _ := Outlet.heeds_of_same rfl rfl
  trans _ _ _ h h' := h.trans h'

theorem heeds_setButton (d : DeviceId) (b : ButtonId) (on : Bool) :
    (setButton d b on : Act Registry χ Bool).Moves (Heeds U) := by
  intro s
  rcases after_setButton on d b s with hafter | ⟨c, es, -, -, hafter⟩
  · rw [hafter]
    exact refl_of (Heeds U) s
  · rw [hafter]
    have hnoted : s.2.Heeds U (s.2.noted es) := Outlet.heeds_of_same rfl rfl
    exact hnoted.trans (Outlet.heeds_sendAll _ _)

end Registry

namespace Scene

/-- The first controllers of the scene are switched, the source apart. It is all of them, and their
frames are taken, unless a frame for one is refused. -/
theorem after_sync {s : Scene} {origin : DeviceId} (on : Bool) {r : Registry} {o : Outlet χ}
    (hr : ∀ e ∈ (s.controllers.erase origin).toList, ∃ c, r.get? e.1 = some c ∧
      Registry.Drivable c e.2) :
    ∃ es, es <+: (s.controllers.erase origin).toList ∧
      ((s.sync origin on).after (r, o)).1 = es.foldl (Registry.switch on) r ∧
      ((es = (s.controllers.erase origin).toList ∧
          Outlet.Took (es.flatMap (r.switchFrames on)) o ((s.sync origin on).after (r, o)).2) ∨
        ∃ e ∈ (s.controllers.erase origin).toList, ∃ pre f, f ∈ r.switchFrames on e ∧
          Outlet.Stopped pre f o ((s.sync origin on).after (r, o)).2) := by
  unfold Act.after
  rw [sync_eq, Act.run_bind]
  have step : ∀ n (e : DeviceId × ButtonId) (t : Registry × Outlet χ) c, t.1.get? e.1 = some c →
      Registry.Drivable c e.2 →
      (∃ k o', s.syncOne on n e t = .ok k (t.1.switch on e, o') ∧
        Outlet.Took (t.1.switchFrames on e) t.2 o') ∨
        ∃ err o' pre f post, s.syncOne on n e t = .error err (t.1.switch on e, o') ∧
          t.1.switchFrames on e = pre ++ f :: post ∧ Outlet.Stopped pre f t.2 o' := by
    intro n e t c hc hb
    rw [syncOne_of_registered hc]
    exact Registry.switchOne_cases on n hc hb
  rcases Registry.foldlM_cases step _ (s.controllers.erase origin).ascending 0 r o hr with
    ⟨k, o', hfold, htook⟩ | ⟨err, o', before, e, later, pre, f, post, hfold, hes, hframes, hstopped⟩
  · rw [hfold]
    exact ⟨_, List.prefix_rfl, rfl, .inl ⟨rfl, htook.note _⟩⟩
  · rw [hfold]
    refine ⟨before ++ [e], ⟨later, by simp [hes]⟩, rfl, .inr ⟨e, by simp [hes], _, f, ?_, hstopped⟩⟩
    rw [hframes]
    exact List.mem_append_right _ List.mem_cons_self

end Scene

namespace Manager

variable {D : Directory → Prop} {m k k' : Manager} {x y : DeviceId} {id : SceneId} {s : Scene}

/-! ## One changed light -/

theorem syncScene_eq {b : ButtonId} (hs : m.scene? id = some s) (hb : s.isBoundTo x b = true)
    (on : Bool) (o : Outlet χ) :
    ∃ e o', syncScene x id b on (m, o) =
        .ok () ({ m with controllers := ((s.sync x on).after (m.controllers, o.note e)).1 }, o') ∧
      o'.channel = ((s.sync x on).after (m.controllers, o.note e)).2.channel ∧
      o'.attempts = ((s.sync x on).after (m.controllers, o.note e)).2.attempts := by
  refine ⟨.debug "indicator changed"
    [("source", .show x), ("button", .show b), ("on", .flag on), ("scene", .show id)], ?_⟩
  unfold syncScene
  rw [Act.run_bind, Act.run_subject]
  simp only [hs, hb, ite_true]
  rw [Act.run_bind, Act.run_note]
  simp only
  rw [Act.run_bind, Act.run_outcome, run_onControllers]
  unfold Act.after
  cases (s.sync x on) (m.controllers, o.note (.debug "indicator changed"
    [("source", .show x), ("button", .show b), ("on", .flag on), ("scene", .show id)])) with
  | ok n t => exact ⟨_, rfl, rfl, rfl⟩
  | error e t => exact ⟨_, rfl, rfl, rfl⟩

theorem Coherent.lights_switched (h : m.Coherent D) (hs : m.scene? id = some s)
    {es : List (DeviceId × ButtonId)}
    (hes : es.Pairwise fun a b => ByteKey.rank a.1 < ByteKey.rank b.1)
    (hsub : ∀ e ∈ es, s.button? e.1 = some e.2) (on : Bool) {d d' : Controller}
    (hd : m.controllers.get? y = some d)
    (hd' : (es.foldl (Registry.switch on) m.controllers).get? y = some d') :
    (∀ i, (∀ b, s.button? y = some b → i ≠ b.place) →
      lightAt d'.indicator i = lightAt d.indicator i) ∧
      ∀ b, (y, b) ∈ es → lightAt d'.indicator b.place = on := by
  rw [Registry.get?_foldl_switch on es _ y hes, hd] at hd'
  cases hb : (⟨es, hes⟩ : ByteMap DeviceId ButtonId).get? y with
  | none =>
    rw [hb] at hd'
    cases hd'
    refine ⟨fun _ _ => rfl, fun b hmem => ?_⟩
    have hlisted : (⟨es, hes⟩ : ByteMap DeviceId ButtonId).get? y = some b :=
      ByteMap.get?_eq_some_iff.mpr hmem
    rw [hb] at hlisted
    cases hlisted
  | some b =>
    rw [hb] at hd'
    cases hd'
    have hbutton : s.button? y = some b := hsub (y, b) (ByteMap.get?_eq_some_iff.mp hb)
    obtain ⟨h1, h8, -⟩ := h.bounds hs hbutton
    have hbit := ButtonId.bit?_of_le h1 h8
    obtain ⟨hlt, hplace, -⟩ := ButtonId.bit?_eq_some hbit
    have hlights : ∀ i, lightAt (d.switched b on).indicator i = if i = b.place then on
        else lightAt d.indicator i := by
      intro i
      rw [Controller.indicator_switched hbit, lightAt_setLight hlt, hplace]
    refine ⟨fun i hi => ?_, fun b' hmem => ?_⟩
    · exact (hlights i).trans (if_neg (hi b hbutton))
    · have hlisted : (⟨es, hes⟩ : ByteMap DeviceId ButtonId).get? y = some b' :=
        ByteMap.get?_eq_some_iff.mpr hmem
      rw [hb] at hlisted
      cases hlisted
      exact (hlights b.place).trans (if_pos rfl)

variable {U : DeviceId → Prop} {p q : UInt8} {source : Controller} {n : Nat} {o o' o'' : Outlet χ}

/-- No other controller of the scene of this light is cut off. -/
def Clear (m : Manager) (U : DeviceId → Prop) (x : DeviceId) (j : Nat) : Prop :=
  ∀ y i, y ≠ x → i < 8 → m.Shares x j y i → ¬ U y

/-- The light at a place went from one controller to the other to what it should be, and was written
if that is new. -/
def Arrives (y : DeviceId) (i : Nat) (on : Bool) (o o' : Outlet χ) (c d : Controller) : Prop :=
  lightAt d.indicator i = on ∧ (lightAt c.indicator i ≠ on → c.supportsIndicator = true →
    ∃ lights, lightAt lights i = on ∧ Outlet.Tried ⟨.setLights y lights, true⟩ o o')

/-- A change of one light of `x` was carried over as far as the channel let it. Lights of other
scenes are as they were, and if no controller is cut off the change arrived. -/
structure Carrying (m : Manager) (U : DeviceId → Prop) (x : DeviceId) (n : Nat) (on : Bool)
    (o : Outlet χ) (k : Manager) (o' : Outlet χ) : Prop where
  alike : m.Alike k
  source : k.controllers.get? x = m.controllers.get? x
  heeds : o.Heeds U o'
  kept : ∀ y c d, m.controllers.get? y = some c → k.controllers.get? y = some d →
    ∀ i < 8, ¬ m.Shares x n y i → lightAt d.indicator i = lightAt c.indicator i
  carried : m.Clear U x n → ∀ y c d, y ≠ x → m.controllers.get? y = some c →
    k.controllers.get? y = some d →
    ∀ i < 8, m.Shares x n y i → Arrives y i on o o' c d

theorem Coherent.not_clear (h : m.Coherent D) (hid : m.sceneForButton? x (.ofPlace n) = some id)
    (hs : m.scene? id = some s) {on : Bool} {e : DeviceId × ButtonId} {f : OutboundFrame}
    (hne : e.1 ≠ x) (hb : s.button? e.1 = some e.2) (hf : f ∈ m.controllers.switchFrames on e)
    (hcut : U f.destination) :
    ¬ m.Clear U x n := by
  intro hclear
  have hplace := h.place_lt hs hb
  have hdestination : f.destination = e.1 :=
    Registry.destination_switchFrames (fun d c hc => (h.controller d c hc).1) hf
  rw [hdestination] at hcut
  exact hclear e.1 e.2.place hne hplace ((h.shares_iff hplace hid hs).mpr ⟨e.2, hb, rfl⟩) hcut

theorem Coherent.carrying_syncScene (h : m.Coherent D) (ho : Channel.Cuts U o.channel)
    (hid : m.sceneForButton? x (.ofPlace n) = some id) (on : Bool) :
    ∃ k o', syncScene x id (.ofPlace n) on (m, o) = .ok () (k, o') ∧
      m.Carrying U x n on o k o' := by
  obtain ⟨s, hs, hb⟩ := (h.index_iff _ _ _).mp hid
  have hbound : s.isBoundTo x (.ofPlace n) = true := by simp [Scene.isBoundTo, hb]
  have hdriven : ∀ e ∈ (s.controllers.erase x).toList, ∃ c, m.controllers.get? e.1 = some c ∧
      Registry.Drivable c e.2 := by
    intro e he
    obtain ⟨-, hbutton⟩ := Scene.mem_others.mp he
    obtain ⟨c, hc⟩ := h.registered hs hbutton
    exact ⟨c, hc, h.drivable hs hbutton hc (.refl c)⟩
  obtain ⟨e, o', hrun, hchannel, hattempts⟩ := syncScene_eq hs hbound on o
  obtain ⟨es, hfront, hleft, hend⟩ := Scene.after_sync (o := o.note e) on hdriven
  have hstays : m.controllers.Alike ((s.sync x on).after (m.controllers, o.note e)).1 :=
    moves_sync (R := Registry.Stays) (fun s _ => Registry.alike_refl s.1) s on
      (fun d b _ _ => Registry.stays_setButton d b on) (m.controllers, o.note e)
  have hheeds : o.Heeds U o' := by
    have hmoves : (o.note e).Heeds U ((s.sync x on).after (m.controllers, o.note e)).2 :=
      moves_sync (R := Registry.Heeds U) (fun _ _ => Outlet.heeds_of_same rfl rfl) s on
        (fun d b _ _ => Registry.heeds_setButton d b on) (m.controllers, o.note e)
    exact (Outlet.heeds_of_same rfl rfl : o.Heeds U (o.note e)).trans
      (hmoves.trans (Outlet.heeds_of_same hchannel hattempts))
  have hes := (s.controllers.erase x).ascending.sublist hfront.sublist
  have hbuttons : ∀ e ∈ es, s.button? e.1 = some e.2 :=
    fun e he => (Scene.mem_others.mp (hfront.subset he)).2
  rw [hleft] at hrun hstays
  refine ⟨_, o', hrun, ⟨alike_controllers hstays, ?_, hheeds, ?_, ?_⟩⟩
  · have hnone : (⟨es, hes⟩ : ByteMap DeviceId ButtonId).get? x = none := by
      apply Option.eq_none_iff_forall_ne_some.mpr
      intro b hb
      exact (Scene.mem_others.mp (hfront.subset (ByteMap.get?_eq_some_iff.mp hb))).1 rfl
    simp only [Registry.get?_foldl_switch _ es _ x hes, hnone]
    cases m.controllers.get? x <;> rfl
  · intro y c d hc hd i hi hnot
    exact (h.lights_switched hs hes hbuttons on hc hd).1 i fun b hb hib =>
      hnot ((h.shares_iff hi hid hs).mpr ⟨b, hb, hib⟩)
  · intro hclear y c d hne hc hd i hi hshares
    obtain ⟨b, hbutton, rfl⟩ := (h.shares_iff hi hid hs).mp hshares
    -- a run that stops does so at a node that is cut off, and then the light is not clear
    rcases hend with ⟨rfl, htook⟩ | ⟨e₁, he₁, pre, f, hf, hstopped⟩
    · have hlisted : (y, b) ∈ (s.controllers.erase x).toList := Scene.mem_others.mpr ⟨hne, hbutton⟩
      refine ⟨(h.lights_switched hs hes hbuttons on hc hd).2 b hlisted, fun hflip hsupports => ?_⟩
      have hframe :
          .setLights y (c.switched b on).indicator ∈ m.controllers.switchFrames on (y, b) := by
        rw [Registry.switchFrames_of_ne hc (h.controller y c hc).1 hsupports hflip]
        exact List.mem_cons_self
      have htried :=
        List.mem_map_of_mem (f := (Attempt.mk · true)) (List.mem_flatMap.mpr ⟨_, hlisted, hframe⟩)
      exact ⟨_, Registry.lightAt_switched (h.drivable hs hbutton hc (.refl c)) on, _,
        hattempts.trans htook.attempts, htried⟩
    · have hcut : U f.destination := hheeds.of_stopped ho ⟨hattempts.trans hstopped.attempts⟩
      obtain ⟨hne₁, hbutton₁⟩ := Scene.mem_others.mp he₁
      exact absurd hclear (h.not_clear hid hs hne₁ hbutton₁ hf hcut)

/-! ## A whole report -/

/-- The manager `k` came out of `m` by taking over a report of `x` and carrying over the changes
among its first `n` lights as far as the channel let it. -/
structure Braving (m : Manager) (U : DeviceId → Prop) (x : DeviceId) (p q : UInt8)
    (source : Controller) (o : Outlet χ) (n : Nat) (k : Manager) (o' : Outlet χ) : Prop where
  alike : m.Alike k
  source : k.controllers.get? x = some source
  heeds : o.Heeds U o'
  kept : ∀ y c d, y ≠ x → m.controllers.get? y = some c → k.controllers.get? y = some d →
    ∀ i < 8, (∀ j < n, lightAt p j ≠ lightAt q j → ¬ m.Shares x j y i) →
      lightAt d.indicator i = lightAt c.indicator i
  carried : ∀ j < n, lightAt p j ≠ lightAt q j → m.Clear U x j →
    ∀ y c d, y ≠ x → m.controllers.get? y = some c → k.controllers.get? y = some d →
      ∀ i < 8, m.Shares x j y i → Arrives y i (lightAt q j) o o' c d

theorem Alike.shares_iff (h : m.Alike k) {j i : Nat} : k.Shares x j y i ↔ m.Shares x j y i := by
  unfold Shares
  simp only [h.sceneForButton?]

theorem Alike.clear_iff (h : m.Alike k) {j : Nat} : k.Clear U x j ↔ m.Clear U x j := by
  unfold Clear
  simp only [h.shares_iff]

theorem Braving.skip (hk : m.Braving U x p q source o n k o')
    (hn : lightAt p n ≠ lightAt q n → m.sceneForButton? x (.ofPlace n) = none) :
    m.Braving U x p q source o (n + 1) k o' := by
  refine ⟨hk.alike, hk.source, hk.heeds, fun y c d hne hc hd i hi hnot => ?_,
    fun j hj hpq hclear y c d hne hc hd i hi hshares => ?_⟩
  · exact hk.kept y c d hne hc hd i hi fun j hj => hnot j (Nat.lt_succ_of_lt hj)
  · rcases Nat.lt_succ_iff_lt_or_eq.mp hj with hj | rfl
    · exact hk.carried j hj hpq hclear y c d hne hc hd i hi hshares
    · obtain ⟨id, hid, -⟩ := hshares
      rw [hn hpq] at hid
      cases hid

theorem Coherent.braving_succ (h : m.Coherent D) (hk : m.Braving U x p q source o n k o')
    (ho : Channel.Cuts U o.channel) (hn : n < 8) (hpq : lightAt p n ≠ lightAt q n)
    (hstep : k.Carrying U x n (lightAt q n) o' k' o'') :
    m.Braving U x p q source o (n + 1) k' o'' := by
  obtain ⟨ho', as, has, -⟩ := hk.heeds ho
  obtain ⟨-, bs, hbs, -⟩ := hstep.heeds ho'
  refine ⟨hk.alike.trans hstep.alike, hstep.source.trans hk.source, hk.heeds.trans hstep.heeds,
    fun y c e hne hc he i hi hnot => ?_, fun j hj hpqj hclear y c e hne hc he i hi hshares => ?_⟩
  · obtain ⟨d, hd, -⟩ := hstep.alike.2.get? he
    rw [hstep.kept y d e hd he i hi fun hshares =>
      hnot n (Nat.lt_succ_self n) hpq (hk.alike.shares_iff.mp hshares)]
    exact hk.kept y c d hne hc hd i hi fun j hj => hnot j (Nat.lt_succ_of_lt hj)
  · obtain ⟨d, hd, -⟩ := hstep.alike.2.get? he
    rcases Nat.lt_succ_iff_lt_or_eq.mp hj with hlt | rfl
    · -- The scene was dealt with before, and no other scene has this light.
      obtain ⟨hlight, hwritten⟩ := hk.carried j hlt hpqj hclear y c d hne hc hd i hi hshares
      refine ⟨?_, fun hflip hsupports => ?_⟩
      · rw [hstep.kept y d e hd he i hi fun hshares' => ?_]
        · exact hlight
        · have := h.shares_unique (by omega) hn hshares (hk.alike.shares_iff.mp hshares')
          omega
      · obtain ⟨lights, hbit, htried⟩ := hwritten hflip hsupports
        exact ⟨lights, hbit, htried.later hbs⟩
    · -- No scene before had this light, so it is as the report found it.
      obtain ⟨hlight, hwritten⟩ :=
        hstep.carried (hk.alike.clear_iff.mpr hclear) y d e hne hd he i hi
        (hk.alike.shares_iff.mpr hshares)
      have hsame : lightAt d.indicator i = lightAt c.indicator i := by
        apply hk.kept y c d hne hc hd i hi
        intro j' hj' _ hshares'
        have := h.shares_unique (by omega) hn hshares' hshares
        omega
      obtain ⟨d', hd', halike⟩ := hk.alike.2.exists_get? hc
      rw [hd] at hd'
      cases hd'
      refine ⟨hlight, fun hflip hsupports => ?_⟩
      obtain ⟨lights, hbit, htried⟩ :=
        hwritten (by rwa [hsame]) (halike.supportsIndicator.trans hsupports)
      exact ⟨lights, hbit, htried.earlier has⟩

theorem Coherent.brave_handleIndicator (h : m.Coherent D) {c : Controller}
    {buttons : ByteMap ButtonId SceneId} (hx : m.index.get? x = some buttons)
    (hc : m.controllers.get? x = some c) (q : UInt8) (ho : Channel.Cuts U o.channel) :
    ∃ k o', handleIndicator x q (m, o) = .ok () (k, o') ∧
      k.controllers.get? x = some (c.handleReport q).1 ∧
      ∀ p, c.reported = some p → m.Braving U x p q (c.handleReport q).1 o 8 k o' := by
  have hreport : m.Alike { m with controllers := m.controllers.insert x (c.handleReport q).1 } :=
    alike_controllers (Registry.alike_handleReport q hc)
  unfold handleIndicator
  rw [Act.run_bind, Act.run_subject]
  simp only [hx, hc]
  rw [Act.run_bind, Act.run_replace]
  simp only
  have hprevious : (c.handleReport q).2 = c.reported := rfl
  rw [hprevious]
  cases c.reported with
  | none =>
    refine ⟨_, _, rfl, ?_, fun p hp => by cases hp⟩
    rw [ByteMap.get?_insert, if_pos rfl]
  | some p =>
    -- before the first light is looked at, only the source has changed
    have start : m.Braving U x p q (c.handleReport q).1 o 0
        { m with controllers := m.controllers.insert x (c.handleReport q).1 } o := by
      refine ⟨hreport, ?_, Outlet.heeds_of_same rfl rfl, fun y b d hne hb hd _ _ _ => ?_,
        fun j hj => absurd hj (Nat.not_lt_zero j)⟩
      · rw [ByteMap.get?_insert, if_pos rfl]
      · rw [ByteMap.get?_insert, if_neg hne, hb] at hd
        cases hd
        rfl
    obtain ⟨k, o', hrun, hk⟩ := run_transitions hx (I := m.Braving U x p q (c.handleReport q).1 o)
      (fun n k o' hk hn => hk.skip hn)
      (fun n k o' id hn hk hpq hid => by
        have hid' : k.sceneForButton? x (.ofPlace n) = some id :=
          (hk.alike.sceneForButton? x _).trans hid
        obtain ⟨k', o'', hrun, hstep⟩ :=
          (h.of_alike hk.alike).carrying_syncScene (hk.heeds ho).1 hid' (lightAt q n)
        exact ⟨k', o'', hrun, h.braving_succ hk ho hn hpq hstep⟩) start
    refine ⟨k, o', hrun, hk.source, fun p' hp => ?_⟩
    cases hp
    exact hk

/-- A report of an indexed controller `x`, while everything sent to the nodes of `U` is refused and
nothing else is. Compared with a channel that refuses nothing: it is handled all the same, `x` is
left alike, and at every scene of a button of `x` whose light changed, if none of its other
controllers is in `U`, each of these has the same light, and where that is new it was told. -/
theorem unreachable_spares_other_scenes (h : Reachable D m) {buttons : ByteMap ButtonId SceneId}
    (hx : m.index.get? x = some buttons) (q : UInt8) (ho : Channel.Cuts U o.channel) {χ₀ : Type}
    [Channel χ₀] {o₀ : Outlet χ₀} (ho₀ : Channel.Accepts o₀.channel) :
    ∃ c k o' k₀ o₀', m.controllers.get? x = some c ∧
      handleEvent ⟨x, .indicator q⟩ (m, o) = .ok () (k, o') ∧
      handleEvent ⟨x, .indicator q⟩ (m, o₀) = .ok () (k₀, o₀') ∧
      k.controllers.get? x = k₀.controllers.get? x ∧
      ∀ p id s a, c.reported = some p → m.scene? id = some s → s.button? x = some a →
        lightAt p a.place ≠ lightAt q a.place → (∀ y b, y ≠ x → s.button? y = some b → ¬ U y) →
        ∀ y b, y ≠ x → s.button? y = some b → ∃ e d d₀, m.controllers.get? y = some e ∧
          k.controllers.get? y = some d ∧ k₀.controllers.get? y = some d₀ ∧
          d.isOn b = d₀.isOn b ∧ d.isOn b = lightAt q a.place ∧
          (d.isOn b ≠ e.isOn b → e.supportsIndicator = true →
            ∃ lights, lightAt lights b.place = d.isOn b ∧
              Outlet.Tried ⟨.setLights y lights, true⟩ o o') := by
  have hm := h.coherent
  have hindexed : m.controllers.contains x = true := by
    rw [(hm.keyed x).1, ← (hm.keyed x).2]
    exact ByteMap.contains_iff.mpr ⟨buttons, hx⟩
  obtain ⟨c, hc⟩ := ByteMap.contains_iff.mp hindexed
  obtain ⟨k, o', hrun, hsource, hk⟩ := hm.brave_handleIndicator hx hc q ho
  obtain ⟨k₀, o₀', hrun₀, hend⟩ := hm.run_handleIndicator hx hc q ho₀
  have hsource₀ : k₀.controllers.get? x = some (c.handleReport q).1 := by
    cases hp : c.reported with
    | none =>
      rw [hp] at hend
      rw [hend.2, ByteMap.get?_insert, if_pos rfl]
    | some p =>
      rw [hp] at hend
      exact hend.2.source
  refine ⟨c, k, o', k₀, o₀', hc, hrun, hrun₀, hsource.trans hsource₀.symm, ?_⟩
  intro p id s a hp hs ha hpq hreached y b hne hb
  rw [hp] at hend
  have hk := hk p hp
  obtain ⟨e, he⟩ := hm.registered hs hb
  obtain ⟨d, hd, halike⟩ := hk.alike.2.exists_get? he
  obtain ⟨d₀, hd₀, -, -, hmirrored⟩ := hend.2.others y e hne he
  have hplace := hm.place_lt hs hb
  have hid : m.sceneForButton? x (.ofPlace a.place) = some id :=
    (hm.button_iff (hm.place_lt hs ha) hs).mpr ⟨a, ha, rfl⟩
  have hshares : m.Shares x a.place y b.place := (hm.shares_iff hplace hid hs).mpr ⟨b, hb, rfl⟩
  have hclear : m.Clear U x a.place := by
    intro y' i hne' hi hshares'
    obtain ⟨b', hb', -⟩ := (hm.shares_iff hi hid hs).mp hshares'
    exact hreached y' b' hne' hb'
  -- it arrives in one run as no controller of the scene is cut off, in the other as none is
  obtain ⟨hlight, hwritten⟩ :=
    hk.carried a.place (hm.place_lt hs ha) hpq hclear y e d hne he hd b.place hplace hshares
  have hlight₀ : lightAt d₀.indicator b.place = lightAt q a.place := by
    rw [hmirrored]
    exact hm.lightAt_mirrored_of_shares (Nat.le_refl 8) hplace (hm.place_lt hs ha) hpq hshares
  obtain ⟨h1, h8, -⟩ := hm.bounds hs hb
  have hbit := ButtonId.bit?_of_le h1 h8
  refine ⟨e, d, d₀, he, hd, hd₀, ?_⟩
  rw [Controller.isOn_eq hbit, Controller.isOn_eq hbit, Controller.isOn_eq hbit, hlight, hlight₀]
  exact ⟨rfl, rfl, fun hflip => hwritten hflip.symm⟩

theorem cuts_unreachable (us : ByteSet DeviceId) :
    Channel.Cuts (fun d => us.contains d = true) (⟨us, none⟩ : FaultyChannel) := by
  have stays : ∀ fs, Channel.sendAll fs (⟨us, none⟩ : FaultyChannel) = ⟨us, none⟩ := by
    intro fs
    induction fs with
    | nil => rfl
    | cons f fs ih =>
      have hsend : (Channel.send f (⟨us, none⟩ : FaultyChannel)).channel = ⟨us, none⟩ := by
        simp only [Channel.send]
        split <;> rfl
      rw [Channel.sendAll, List.foldl_cons, hsend]
      exact ih
  intro fs f
  rw [stays]
  by_cases hcut : us.contains f.destination = true
  · simp [Channel.send, FaultyChannel.refusal?, hcut]
  · simp [Channel.send, FaultyChannel.refusal?, hcut]

/-- Two scenes that share keypad 2. -/
def hallAndPorch : List Call :=
  [.newScene 7 "hall", .newScene 8 "porch", .addController ⟨7, seven_ne_zero⟩ ⟨2⟩ ⟨1⟩,
    .addController ⟨7, seven_ne_zero⟩ ⟨3⟩ ⟨2⟩, .addController ⟨8, eight_ne_zero⟩ ⟨2⟩ ⟨3⟩,
    .addController ⟨8, eight_ne_zero⟩ ⟨4⟩ ⟨1⟩]

/-- Both scenes are turned on at keypad 2, and the keypad in the hall cannot be reached. The one in
the porch is told. -/
theorem unreachable_spares_other_scenes_porch :
    ∃ m k o', ∃ o : Outlet FaultyChannel, Reachable Network.Gives m ∧
      handleEvent ⟨⟨2⟩, .indicator 5⟩ (m, o) = .ok () (k, o') ∧
      ⟨.setLights ⟨3⟩ 2, false⟩ ∈ o'.attempts ∧
      ∃ d lights, k.controllers.get? ⟨4⟩ = some d ∧ d.isOn ⟨1⟩ = true ∧ lightAt lights 0 = true ∧
        Outlet.Tried ⟨.setLights ⟨4⟩ lights, true⟩ o o' := by
  let m :=
    ((handleEvent ⟨⟨2⟩, .indicator 0⟩).after (afterCalls Network.demo.directory hallAndPorch)).1
  let o : Outlet FaultyChannel := .opened ⟨ByteSet.ofList [⟨3⟩], none⟩
  have h : Reachable Network.Gives m := (reachable_afterCalls gives_demo hallAndPorch).event _ _
  have hindexed : m.index.contains ⟨2⟩ = true := by decide +kernel
  have hreported : (m.controllers.get? ⟨2⟩).map (·.reported) = some (some 0) := by decide +kernel
  have hporch : (m.scene? ⟨8, by decide⟩).map (·.controllers.toList) =
      some [(⟨2⟩, ⟨3⟩), (⟨4⟩, ⟨1⟩)] := by decide +kernel
  have hfourth : (m.controllers.get? ⟨4⟩).map (fun e => (e.isOn ⟨1⟩, e.supportsIndicator)) =
      some (false, true) := by
    decide +kernel
  have hrefused :
      ⟨.setLights ⟨3⟩ 2, false⟩ ∈ ((handleEvent ⟨⟨2⟩, .indicator 5⟩).after (m, o)).2.attempts := by
    decide +kernel
  have hcuts : Channel.Cuts (fun d => (ByteSet.ofList [⟨3⟩]).contains d = true) o.channel :=
    cuts_unreachable _
  have hsound : Channel.Accepts (Outlet.opened FaultyChannel.sound).channel := accepts_sound
  clear_value m o
  obtain ⟨buttons, hx⟩ := ByteMap.contains_iff.mp hindexed
  obtain ⟨s, hs, hbuttons⟩ := Option.map_eq_some_iff.mp hporch
  have hbutton : ∀ y b, s.button? y = some b ↔
      (y, b) ∈ [((⟨2⟩ : DeviceId), (⟨3⟩ : ButtonId)), (⟨4⟩, ⟨1⟩)] := by
    intro y b
    rw [← hbuttons]
    exact ByteMap.get?_eq_some_iff
  obtain ⟨c, k, o', k₀, o₀', hc, hrun, -, -, hspared⟩ :=
    unreachable_spares_other_scenes h hx 5 hcuts hsound
  have hc' : c.reported = some 0 := by
    rw [hc] at hreported
    exact Option.some.inj hreported
  obtain ⟨e, d, d₀, he, hd, -, -, hon, hwritten⟩ :=
    hspared 0 ⟨8, by decide⟩ s ⟨3⟩ hc' hs ((hbutton _ _).mpr (by decide))
    (by decide) (by
      intro y b hne hb
      have hy : y = ⟨4⟩ := by
        have := (hbutton y b).mp hb
        simp only [List.mem_cons, Prod.mk.injEq, List.not_mem_nil, or_false] at this
        exact (this.resolve_left fun hxb => hne hxb.1).1
      rw [hy]
      decide) ⟨4⟩ ⟨1⟩ (by decide) ((hbutton _ _).mpr (by decide))
  rw [he] at hfourth
  simp only [Option.map_some, Option.some.injEq, Prod.mk.injEq] at hfourth
  have hlit : d.isOn ⟨1⟩ = true := hon
  obtain ⟨lights, hlight, htried⟩ := hwritten (by rw [hlit, hfourth.1]; decide) hfourth.2
  have hrefused' : ⟨.setLights ⟨3⟩ 2, false⟩ ∈ o'.attempts := by
    rwa [(Act.run_eq_ok_iff.mp hrun).2] at hrefused
  exact ⟨m, k, o', o, h, hrun, hrefused', d, lights, hd, hlit, hlight.trans hlit, htried⟩

end Manager

end

end MeshScenes
