import MeshScenes.Proofs.ClosedHub.Steps
import MeshScenes.Proofs.ClosedHub.Wired
import MeshScenes.Proofs.Manager.Calls
import MeshScenes.Proofs.Manager.Presses

/-!
# A quiet hub agrees with its devices

While frames wait, a picture may be wrong, but then the newest frame that tells of the device is a
press, which makes the hub ask, or a report of the present lights. So the picture is right once
nothing waits.
-/

namespace MeshScenes

/-! ## Pictures and devices -/

/-- The newest frame that tells of a device is a press or tells its present lights; without one, the
picture is right. -/
def Network.Agrees (n : Network) (d : DeviceId) (c : Controller) : Prop :=
  ∃ l, n.lights? d = some l ∧
    match lastTold d n.published with
    | some f => f.commandClass = CommandClass.basic.id ∨ f = .ofClass d .indicator [0x03, l]
    | none => c.state = .boundValid ∧ c.indicator = l ∧ c.reported = some l

/-- Pictures and devices fit together, at the devices of `P`. -/
structure FitOn (P : DeviceId → Prop) (directory : Directory) (s : Registry × Outlet Network) : Prop
    extends Wired directory s where
  agrees : ∀ d c, P d → s.1.get? d = some c → s.2.channel.Agrees d c

variable {P Q : DeviceId → Prop} {directory : Directory} {r : Registry} {o o' : Outlet Network}
  {d : DeviceId}

theorem FitOn.mono (h : FitOn P directory (r, o)) (hQ : ∀ d c, Q d → r.get? d = some c → P d) :
    FitOn Q directory (r, o) :=
  ⟨h.toWired, fun d c hd hc => h.agrees d c (hQ d c hd hc) hc⟩

theorem FitOn.of_same (h : FitOn P directory (r, o)) (hn : o'.channel.nodes = o.channel.nodes)
    (hp : o'.channel.published = o.channel.published) : FitOn P directory (r, o') := by
  refine ⟨h.toWired.of_same hn (by rw [hp]; exact fun _ hf => hf), fun d c hd hc => ?_⟩
  obtain ⟨l, hl, hlast⟩ := h.agrees d c hd hc
  refine ⟨l, ?_, ?_⟩
  · rw [← hl]
    unfold Network.lights?
    rw [hn]
  · rw [hp]
    exact hlast

theorem FitOn.forget (h : FitOn P directory (r, o)) {r' : Registry}
    (hr : ∀ d c, r'.get? d = some c → r.get? d = some c) : FitOn P directory (r', o) :=
  ⟨h.toWired.forget hr, fun d c hd hc => h.agrees d c hd (hr d c hc)⟩

theorem FitOn.insert (h : FitOn P directory (r, o)) {c : Controller}
    (hw : Wired directory (r.insert d c, o)) :
    FitOn (fun e => P e ∧ e ≠ d) directory (r.insert d c, o) := by
  refine ⟨hw, fun e y he hy => ?_⟩
  rw [ByteMap.get?_insert, if_neg he.2] at hy
  exact h.agrees e y he.1 hy

theorem FitOn.touched {l : UInt8} {new : List InboundFrame} {f : InboundFrame}
    (h : FitOn P directory (r, o)) (ht : o.channel.Touched d l new o'.channel)
    (hlast : lastTold d new = some f)
    (hf : f.commandClass = CommandClass.basic.id ∨ f = .ofClass d .indicator [0x03, l])
    (hothers : ∀ e, e ≠ d → lastTold e new = none) :
    FitOn (fun e => P e ∨ e = d) directory (r, o') := by
  refine ⟨h.toWired.touched ht, fun e y he hy => ?_⟩
  have hpublished : o'.channel.published = o.channel.published ++ new := ht.published
  by_cases hed : e = d
  · refine ⟨l, by rw [hed]; exact ht.lights, ?_⟩
    rw [hpublished, lastTold_append, hed, hlast]
    exact hf
  · obtain ⟨l', hl', hlast'⟩ := h.agrees e y (he.resolve_right hed) hy
    refine ⟨l', (ht.others e hed).trans hl', ?_⟩
    rw [hpublished, lastTold_append, hothers e hed]
    exact hlast'

theorem FitOn.told {l : UInt8} (h : FitOn P directory (r, o)) (ht : o.channel.Told d l o'.channel) :
    FitOn (fun e => P e ∨ e = d) directory (r, o') := by
  refine h.touched ht (f := .ofClass d .indicator [0x03, l]) ?_ (.inr rfl) fun e he =>
    lastTold_eq_none fun f hf => ?_
  · simp [lastTold, InboundFrame.tells, InboundFrame.ofClass]
  · rw [List.mem_singleton.mp hf]
    exact tells_of_source_ne (Ne.symm he)

/-! ## The steps of an operation -/

theorem FitOn.changed (h : FitOn P directory (r, o)) {c : Controller} {l : UInt8}
    (hw : Wired directory (r.insert d c, o)) (htold : o.channel.Told d l o'.channel) :
    FitOn (fun e => P e ∨ e = d) directory (r.insert d c, o') := by
  refine ((h.insert hw).told htold).mono fun e y he _ => ?_
  by_cases hed : e = d
  · exact .inr hed
  · exact .inl ⟨he.resolve_right hed, hed⟩

theorem FitOn.asked (h : FitOn P directory (r, o)) {c : Controller} (hc : r.get? d = some c)
    (htook : Outlet.Took c.askFrames o o') :
    FitOn (fun e => P e ∨ e = d) directory (r.insert d c.requestIndicator.controller, o') := by
  obtain ⟨l, -, htold⟩ := h.toWired.told_asked hc htook
  exact h.changed (h.toWired.insert_alike hc (Controller.alike_requestIndicator c)) htold

theorem FitOn.ask (h : FitOn P directory (r, o)) {c : Controller} (hc : r.get? d = some c) :
    ∃ t, Registry.react d (.ok ·.requestIndicator) (r, o) = .ok () t ∧
      (∀ e, t.1.contains e = r.contains e) ∧
      FitOn (fun e => P e ∨ e = d) directory t := by
  obtain ⟨o', hrun, htook⟩ := Registry.run_ask hc (Network.accepts o.channel)
  refine ⟨_, hrun, fun e => ?_, h.asked hc htook⟩
  unfold ByteMap.contains
  rw [ByteMap.get?_insert]
  split
  next he => rw [he, hc]; rfl
  next => rfl

theorem fit_setButton (e : DeviceId) (b : ButtonId) (on : Bool) :
    (Registry.setButton e b on : Act Registry Network Bool).Moves fun s t => FitOn P directory s →
      FitOn P directory t := by
  rintro ⟨r, o⟩ h
  rcases Registry.took_setButton on e b (Network.accepts o.channel) with
    hafter | ⟨c, o', hc, -, htook, hafter⟩
  · rw [hafter]
    exact h
  · rw [hafter]
    rcases h.toWired.told_switched hc htook with ⟨hsame, hchannel⟩ | htold
    · have hkept :=
        h.of_same (congrArg Network.nodes hchannel) (congrArg Network.published hchannel)
      refine hkept.forget fun d y hy => ?_
      rw [ByteMap.get?_insert] at hy
      split at hy
      next hd => rw [hd, hc, ← hsame]; exact hy
      next => exact hy
    · exact (h.changed (h.toWired.insert_alike hc (Controller.alike_switched c b on)) htold).mono
        fun _ _ hP _ => .inl hP

theorem FitOn.send (h : FitOn P directory (r, o)) {f : OutboundFrame}
    (hf : f.commandClass ≠ .indicator) :
    FitOn P directory (r, (o.send f).2) := by
  refine ⟨h.toWired.send f, fun d c hd hc => ?_⟩
  obtain ⟨l, hl, hlast⟩ := h.agrees d c hd hc
  refine ⟨l, (Network.lights?_deliver_of_ne_indicator _ hf d).trans hl, ?_⟩
  have : lastTold d (o.send f).2.channel.published = lastTold d o.channel.published :=
    Network.lastTold_deliver_of_ne_indicator _ hf d
  rw [this]
  exact hlast

/-! ## Whole operations -/

def KeepsFit (directory : Directory) (s t : Registry × Outlet Network) : Prop :=
  FitOn (fun _ => True) directory s → FitOn (fun _ => True) directory t

instance : IsPreorder (Registry × Outlet Network) (KeepsFit directory) where
  refl _ := id
  trans _ _ _ h h' := h' ∘ h

theorem keepsFit_note (s : Registry × Outlet Network) (e : Journal.Entry) :
    KeepsFit directory s (s.1, s.2.note e) :=
  fun h => h.of_same rfl rfl

theorem follows_keepsFit (directory : Directory) :
    Manager.Follows directory (KeepsFit directory) where
  note := keepsFit_note
  forget r r' o es hr h := by
    have hsame : FitOn (fun _ => True) directory (r, o.noted es) := h.of_same rfl rfl
    exact hsame.forget hr
  attach r o o' d count c es _ hc hsend := fun h => by
    obtain ⟨hw, l, -, htold⟩ := h.toWired.told_attached hc hsend
    exact (h.changed hw htold).mono fun _ _ _ _ => .inl trivial
  refused _ o o' es fs refusal hsend := by
    obtain ⟨o₁, hsend', -⟩ := Outlet.took_sendAll (o := o.noted es) (Network.accepts _) fs
    rw [hsend] at hsend'
    cases hsend'
  ask d := fun s h => by
    rcases Registry.took_ask d (Network.accepts s.2.channel) with
      hafter | ⟨c, o', hc, htook, hafter⟩
    · rw [hafter]
      exact h
    · rw [hafter]
      exact (h.asked hc htook).mono fun e _ _ _ => .inl trivial
  send _ _ hf h := h.send hf

theorem FitOn.refresh (h : FitOn P directory (r, o)) :
    FitOn (fun _ => True) directory (Registry.refresh.after (r, o)) := by
  -- by induction over the controllers that are still to be asked
  have ask : ∀ (l : List DeviceId) (P : DeviceId → Prop) (s : Registry × Outlet Network),
      (∀ d ∈ l, s.1.contains d = true) → FitOn P directory s →
      ∃ t, (l.forM fun d => Registry.react d (.ok ·.requestIndicator) : Act Registry Network Unit)
        s = .ok () t ∧
        (∀ e, t.1.contains e = s.1.contains e) ∧ FitOn (fun e => P e ∨ e ∈ l) directory t := by
    intro l
    induction l with
    | nil => exact fun P s _ h => ⟨s, rfl, fun _ => rfl, h.mono fun e c he _ =>
      he.resolve_right (by simp)⟩
    | cons d l ih =>
      intro P s hl h
      obtain ⟨c, hc⟩ := ByteMap.contains_iff.mp (hl d List.mem_cons_self)
      obtain ⟨t, hrun, hsame, ht⟩ := h.ask hc
      obtain ⟨u, hrun', hsame', hu⟩ := ih _ t
        (fun e he => (hsame e).trans (hl e (List.mem_cons_of_mem _ he))) ht
      refine ⟨u, ?_, fun e => (hsame' e).trans (hsame e), hu.mono fun e c he _ => ?_⟩
      · rw [List.forM_eq_forM, List.forM_cons, Act.run_bind, hrun]
        exact hrun'
      · rcases he with he | he
        · exact .inl (.inl he)
        · rcases List.mem_cons.mp he with rfl | he
          · exact .inl (.inr rfl)
          · exact .inr he
  obtain ⟨t, hrun, hsame, ht⟩ := ask r.keys P (r, o) (fun d hd => ByteMap.mem_keys_iff.mp hd) h
  have hafter : Registry.refresh.after (r, o) = t := by
    unfold Registry.refresh Act.after
    rw [Act.run_bind, Act.run_subject]
    simp only
    rw [hrun]
  rw [hafter]
  refine ht.mono fun d c _ hc => .inr ?_
  rw [ByteMap.mem_keys_iff, ← hsame d]
  exact ByteMap.contains_iff.mpr ⟨c, hc⟩

/-! ## The closed hub -/

namespace ClosedHub

/-- The pictures of the manager and the nodes fit together. -/
def Fit (h : ClosedHub) : Prop :=
  FitOn (fun _ => True) h.network.directory (h.manager.controllers, Outlet.opened h.network)

theorem fit_afterwards (directory : Directory) {s : Manager × Outlet Network}
    (h : FitOn (fun _ => True) directory (s.1.controllers, s.2)) :
    (afterwards s).Fit := by
  have hsame : FitOn (fun _ => True) directory
      ((afterwards s).manager.controllers, Outlet.opened (afterwards s).network) :=
        h.of_same rfl rfl
  have hknown : (afterwards s).network.directory = directory := hsame.known
  unfold Fit
  rw [hknown]
  exact hsame

theorem Fit.pop {h : ClosedHub} (hf : h.Fit) {f : InboundFrame} {waiting : List InboundFrame}
    (hw : h.waiting = f :: waiting) :
    FitOn (fun d => f.tells d = false) h.network.directory
      (h.manager.controllers, Outlet.opened ({ h with waiting } : ClosedHub).network) := by
  have hpublished : h.network.published = f :: waiting := hw
  refine ⟨hf.toWired.of_same rfl fun g hg => ?_, fun d c hd hc => ?_⟩
  · show g ∈ h.network.published
    rw [hpublished]
    exact List.mem_cons_of_mem _ hg
  · obtain ⟨l, hl, hlast⟩ := hf.agrees d c trivial hc
    refine ⟨l, hl, ?_⟩
    change match lastTold d h.network.published with
      | some f => f.commandClass = CommandClass.basic.id ∨ f = .ofClass d .indicator [0x03, l]
      | none => c.state = .boundValid ∧ c.indicator = l ∧ c.reported = some l at hlast
    rw [hpublished, lastTold_cons_of_not_tells hd] at hlast
    exact hlast

/-- A report is taken over, and the picture is right if nothing newer tells of the device. -/
theorem Fit.reported {D : Directory → Prop} {h : ClosedHub} (hf : h.Fit) (hm : h.manager.Coherent D)
    {q : UInt8} {waiting : List InboundFrame} {c : Controller}
    (hw : h.waiting = .ofClass d .indicator [0x03, q] :: waiting)
    (hc : h.manager.controllers.get? d = some c) :
    FitOn (fun _ => True) h.network.directory
      ((h.manager.reported d c q).controllers,
        Outlet.opened ({ h with waiting } : ClosedHub).network) := by
  have hpop := hf.pop hw
  have hinsert := hpop.insert (hpop.toWired.insert_alike hc (Controller.alike_handleReport c q))
  refine ⟨hinsert.toWired, fun e y _ hy => ?_⟩
  -- the source is right unless something newer tells of it, all others are as they were
  by_cases hed : e = d
  · have hy' : y = (c.handleReport q).1 := by
      change (h.manager.controllers.insert d (c.handleReport q).1).get? e = some y at hy
      rw [ByteMap.get?_insert, if_pos hed] at hy
      exact (Option.some.inj hy).symm
    obtain ⟨l, hl, hlast⟩ := hf.agrees d c trivial hc
    change match lastTold d h.waiting with
      | some f => f.commandClass = CommandClass.basic.id ∨ f = .ofClass d .indicator [0x03, l]
      | none => c.state = .boundValid ∧ c.indicator = l ∧ c.reported = some l at hlast
    rw [hw, lastTold_cons, tells_ofClass] at hlast
    refine ⟨l, by rw [hed]; exact hl, ?_⟩
    show match lastTold e waiting with
      | some f => f.commandClass = CommandClass.basic.id ∨ f = .ofClass e .indicator [0x03, l]
      | none => y.state = .boundValid ∧ y.indicator = l ∧ y.reported = some l
    rw [hed]
    cases hlater : lastTold d waiting with
    | some g =>
      rw [hlater] at hlast
      exact hlast
    | none =>
      rw [hlater] at hlast
      simp only [or_true, and_self, decide_true, ite_true, Option.none_or] at hlast
      have hq : q = l := by
        rcases hlast with hbasic | hreport
        · exact absurd hbasic (show (0x87 : UInt8) ≠ 0x20 by decide)
        · simpa [InboundFrame.ofClass] using hreport
      rw [hy', hq]
      refine ⟨?_, rfl, rfl⟩
      unfold Controller.handleReport
      rw [if_pos (hm.controller d c hc).2.1]
  · refine hinsert.agrees e y ⟨?_, hed⟩ hy
    rw [tells_ofClass]
    simpa using fun h : d = e => hed h.symm

theorem Fit.deliver {D : Directory → Prop} {h : ClosedHub} (hf : h.Fit)
    (hm : h.manager.Coherent D) : h.deliver.Fit := by
  cases hw : h.waiting with
  | nil =>
    rw [deliver_of_waiting_nil hw]
    exact hf
  | cons f waiting =>
    have hpop := hf.pop hw
    have hplain : f.Plain := hf.sound.plain f (show f ∈ h.waiting from hw ▸ List.mem_cons_self)
    -- a press makes the hub ask, which mends what the press broke; other frames break nothing
    by_cases hpress : ∃ d v c, f = .ofClass d .basic [0x01, v] ∧
        h.manager.controllers.get? d = some c
    · obtain ⟨d, v, c, rfl, hc⟩ := hpress
      rw [deliver_eq hw (e := ⟨d, .basic v⟩) rfl]
      refine fit_afterwards h.network.directory ?_
      obtain ⟨o', hrun, htook⟩ := Manager.run_handleBasic (m := h.manager) v hc
        (Network.accepts (h.popped waiting).2.channel)
      have hafter : (Manager.handleEvent ⟨d, .basic v⟩).after (h.popped waiting) =
          ({ h.manager with
            controllers := h.manager.controllers.insert d c.requestIndicator.controller }, o') := by
        show (Manager.handleBasic d v).after (h.manager, (h.popped waiting).2) = _
        unfold Act.after
        rw [hrun]
      rw [hafter]
      refine (hpop.asked hc htook).mono fun e y _ _ => ?_
      by_cases hed : e = d
      · exact .inr hed
      · exact .inl (tells_of_source_ne (Ne.symm hed))
    · obtain ⟨t, heq, -, ht⟩ :=
        through_deliver hm hplain hw keepsFit_note (fun d _ _ => (follows_keepsFit _).ask d)
        (fun _ _ _ _ _ _ _ _ e b _ => fit_setButton e b true) (fun _ on _ _ _ e b _ =>
          fit_setButton e b on)
      rw [heq]
      refine fit_afterwards h.network.directory ?_
      rcases ht with ⟨hunused, ht⟩ | ⟨d, q, c, rfl, hc, ht⟩
      · -- the frame tells nothing of a registered controller
        refine ht.2 (hpop.mono fun e y _ hy => ?_)
        by_contra htells
        cases hplain with
        | press d v =>
          have hed : d = e := by
            by_contra hne
            exact htells (tells_of_source_ne hne)
          exact hpress ⟨d, v, y, rfl, hed ▸ hy⟩
        | lights d q =>
          have hed : d = e := by
            by_contra hne
            exact htells (tells_of_source_ne hne)
          exact absurd (hy.symm.trans (hed ▸ hunused d q rfl)) (Option.some_ne_none y)
        | activation | controller | actuator =>
          rw [tells_ofClass] at htells
          simp at htells
      · exact ht.2 (hf.reported hm hw hc)

theorem Fit.press {h : ClosedHub} (hf : h.Fit) (id : DeviceId) (button : UInt8) :
    (h.press id button).Fit := by
  unfold ClosedHub.press
  cases hp : h.network.press id button with
  | error e => exact hf
  | ok s =>
    obtain ⟨n, notes⟩ := s
    refine fit_afterwards h.network.directory (s := (h.manager, Outlet.opened n)) ?_
    rcases Network.press_cases hf.sound hp with rfl | ⟨k, bit, value, fs, -, -, hfs, htouched⟩
    · exact hf
    · have hsilent : ∀ d, lastTold d fs = none :=
        fun d => lastTold_eq_none fun g hg => (hfs.plain g hg).2 d
      have hlast : lastTold id (.ofClass id .basic [0x01, value] :: fs) =
          some (.ofClass id .basic [0x01, value]) := by
        rw [lastTold_cons, hsilent, tells_ofClass]
        simp
      refine (hf.touched htouched hlast (.inl rfl) fun d hd => ?_).mono fun _ _ _ _ => .inl trivial
      · rw [lastTold_cons, hsilent, tells_of_source_ne (Ne.symm hd)]
        rfl

theorem Fit.call {h : ClosedHub} (hf : h.Fit) (c : Call) : (h.call c).Fit :=
  fit_afterwards _
    ((follows_keepsFit h.network.directory).on_call c (fun _ _ d b => fit_setButton d b true) _ hf)

theorem Fit.lag {h : ClosedHub} (hf : h.Fit) (lost : Nat) : (h.lag lost).Fit := by
  have hdropped : FitOn (fun _ => False) h.network.directory (h.manager.controllers,
      Outlet.opened ({ h with waiting := h.waiting.drop lost } : ClosedHub).network) :=
    ⟨hf.toWired.of_same rfl fun f hmem => List.mem_of_mem_drop hmem, fun _ _ h => h.elim⟩
  refine fit_afterwards h.network.directory ?_
  have key : Manager.refreshIndicators.Ends (h.manager,
      Outlet.opened ({ h with waiting := h.waiting.drop lost } : ClosedHub).network)
      fun _ t => FitOn (fun _ => True) h.network.directory (t.1.controllers, t.2) :=
    Manager.ends_onControllers.mpr (Act.ends_iff.mpr hdropped.refresh)
  exact Act.ends_iff.mp key

theorem Reachable.fit {lossy : Prop} {h : ClosedHub} (hr : h.Reachable lossy) : h.Fit := by
  induction hr with
  | @start coordinator count m nodes hm _ =>
    have hnodes := (Network.sound_empty.joined nodes).own
    have hregistry : m.controllers = ByteMap.empty := by
      unfold Manager.withButtonCount at hm
      split at hm
      · cases hm; rfl
      · cases hm
    have hnone : ∀ d, m.controllers.get? d = none := fun d => by rw [hregistry]; rfl
    refine ⟨⟨⟨hnodes, fun f hf => by cases hf⟩, rfl, fun d c hc => ?_⟩, fun d c _ hc => ?_⟩
    · exact absurd (hc.symm.trans (hnone d)) (Option.some_ne_none c)
    · exact absurd (hc.symm.trans (hnone d)) (Option.some_ne_none c)
  | deliver h ih => exact ih.deliver h.manager.coherent
  | press id button _ ih => exact ih.press id button
  | call c _ ih => exact ih.call c
  | lag lost _ _ ih => exact ih.lag lost

theorem Fit.settled {h : ClosedHub} (hf : h.Fit) (hquiet : h.waiting = []) {d : DeviceId}
    {c : Controller} (hc : h.manager.controllers.get? d = some c) :
    ∃ k, h.network.nodes.get? d = some (.keypad k) ∧ c.state = .boundValid ∧
      c.indicator = k.lights ∧
      c.reported = some k.lights := by
  obtain ⟨l, hl, hlast⟩ := hf.agrees d c trivial hc
  obtain ⟨k, hk⟩ := hf.toWired.exists_keypad hc
  have hlights : l = k.lights := by
    rw [Network.lights?_of_keypad hk] at hl
    exact (Option.some.inj hl).symm
  change match lastTold d h.waiting with
    | some f => f.commandClass = CommandClass.basic.id ∨ f = .ofClass d .indicator [0x03, l]
    | none => c.state = .boundValid ∧ c.indicator = l ∧ c.reported = some l at hlast
  rw [hquiet, hlights] at hlast
  exact ⟨k, hk, hlast⟩

/-- When nothing waits, every registered controller is trusted, and its picture and its last report
are the lights of its keypad. Frames may have been lost before. -/
theorem quiet_agrees {lossy : Prop} {h : ClosedHub} (hr : h.Reachable lossy)
    (hquiet : h.waiting = []) {d : DeviceId} {c : Controller}
    (hc : h.manager.controllers.get? d = some c) :
    ∃ k, h.network.keypad? d = some k ∧ c.state = .boundValid ∧ c.indicator = k.lights ∧
      c.reported = some k.lights := by
  obtain ⟨k, hk, hsettled⟩ := hr.fit.settled hquiet hc
  refine ⟨k, ?_, hsettled⟩
  unfold Network.keypad?
  rw [hk]

/-! ## A hub with one scene -/

/-- A press whose frame is lost is found out by asking. -/
theorem quiet_agrees_evening :
    ∃ h : ClosedHub, h.Reachable True ∧ h.waiting = [] ∧
      ∃ c, h.manager.controllers.get? ⟨2⟩ = some c ∧
      ∃ k, h.network.keypad? ⟨2⟩ = some k ∧ c.state = .boundValid ∧ c.indicator = k.lights ∧
      c.reported = some k.lights := by
  let h := (((afterCalls Manager.evening).press ⟨2⟩ 1).lag 3).deliver.deliver.deliver.deliver
  have hr : h.Reachable True :=
    (((reachable_afterCalls Manager.evening).press ⟨2⟩ 1).lag 3 trivial).deliver
      |>.deliver.deliver.deliver
  have hquiet : h.waiting = [] := by decide +kernel
  have hc : h.manager.controllers.contains ⟨2⟩ = true := by decide +kernel
  obtain ⟨c, hc⟩ := ByteMap.contains_iff.mp hc
  exact ⟨h, hr, hquiet, c, hc, quiet_agrees hr hquiet hc⟩

end ClosedHub

end MeshScenes
