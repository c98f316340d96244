import MeshScenes.Proofs.Manager.Reachable

/-!
# What received frames can do

Frames come from a medium that anybody may write to. However many are received, and whatever they
hold, they move the lights that the manager has on record and make it send frames about lights;
scenes, buttons and the set of controllers are out of their reach.
-/

namespace MeshScenes

variable {χ : Type}

/-! ## Frames about lights -/

namespace Registry

/-- A frame about the lights of a registered controller that has lights to tell of. -/
def AboutLights (r : Registry) (f : OutboundFrame) : Prop :=
  ∃ d c, r.get? d = some c ∧ c.supportsIndicator = true ∧ c.AboutLights f

theorem AboutLights.of_alike {r r' : Registry} {f : OutboundFrame} (h : r'.AboutLights f)
    (ha : r.Alike r') :
    r.AboutLights f := by
  obtain ⟨d, c, hc, hs, hf⟩ := h
  obtain ⟨b, hb, hbc⟩ := ha.get? hc
  refine ⟨d, b, hb, hbc.supportsIndicator.symm.trans hs, ?_⟩
  unfold Controller.AboutLights at hf ⊢
  rwa [← hbc.device]

/-- The controllers stay what they are, and what was tried is about their lights. -/
def Minds (s t : Registry × Outlet χ) : Prop :=
  s.1.Alike t.1 ∧ ∃ as, t.2.attempts = s.2.attempts ++ as ∧ ∀ a ∈ as, s.1.AboutLights a.frame

theorem minds_of_attempts {s t : Registry × Outlet χ} (h : s.1.Alike t.1)
    (ht : t.2.attempts = s.2.attempts) :
    Minds s t := ⟨h, [], by rw [ht, List.append_nil], by simp⟩

instance : IsPreorder (Registry × Outlet χ) Minds where
  refl s := minds_of_attempts (alike_refl s.1) rfl
  trans s t u h h' := by
    obtain ⟨hst, as, has, hs⟩ := h
    obtain ⟨htu, bs, hbs, ht⟩ := h'
    refine ⟨hst.trans htu, as ++ bs, by rw [hbs, has, List.append_assoc], fun a ha => ?_⟩
    rcases List.mem_append.mp ha with ha | ha
    · exact hs a ha
    · exact (ht a ha).of_alike hst

variable [Channel χ] {α : Type}

theorem minds_react {d : DeviceId} {f : Controller → Except Error (Reaction α)}
    (hf : ∀ c r, f c = .ok r → c.Alike r.controller ∧
      ∃ fs, List.Forall₂ (fun q g => q.frame r.controller.device = .ok g) r.requests fs ∧
        ∀ g ∈ fs, c.supportsIndicator = true ∧ c.AboutLights g) :
    (react d f : Act Registry χ α).Moves Minds := by
  intro s
  by_cases hr : ∃ c r, s.1.get? d = some c ∧ f c = .ok r
  · obtain ⟨c, r, hc, hr⟩ := hr
    obtain ⟨halike, fs, hfs, habout⟩ := hf c r hr
    rw [after_react hc hr hfs]
    obtain ⟨as, has, hmem⟩ := Outlet.attempts_sendAll (s.2.noted r.notes) fs
    refine ⟨alike_insert hc halike, as, has, fun a ha => ?_⟩
    obtain ⟨hs, hg⟩ := habout a.frame (hmem a ha)
    exact ⟨d, c, hc, hs, hg⟩
  · rw [after_react_error]
    · exact refl_of Minds s
    · intro c hc
      cases hfc : f c with
      | error e => exact ⟨e, rfl⟩
      | ok r => exact absurd ⟨c, r, hc, hfc⟩ hr

theorem minds_setButton (d : DeviceId) (b : ButtonId) (on : Bool) :
    (setButton d b on : Act Registry χ Bool).Moves Minds := by
  apply minds_react
  intro c r hr
  obtain ⟨-, -, -, hcontroller, -⟩ := Controller.setButton_eq_ok hr
  rw [hcontroller]
  refine ⟨Controller.alike_switched c b on, c.switchFrames b on, ?_,
    fun g => Controller.aboutLights_switchFrames⟩
  rw [← hcontroller]
  exact Controller.frames_setButton hr

theorem minds_requestIndicator (d : DeviceId) :
    (react d (.ok ·.requestIndicator) : Act Registry χ Unit).Moves Minds := by
  apply minds_react
  intro c r hr
  cases hr
  exact ⟨Controller.alike_requestIndicator c, c.askFrames, Controller.frames_requestIndicator c,
    fun g => Controller.aboutLights_askFrames⟩

end Registry

namespace Manager

variable [Channel χ]

def received (fs : List InboundFrame) (s : Manager × Outlet χ) : Manager × Outlet χ :=
  fs.foldl (fun s f => (handleFrame f).after s) s

theorem minds_handleFrame (f : InboundFrame) :
    (handleFrame f : Act Manager χ Unit).Moves (Through Registry.Minds) :=
  through_handleFrame (fun s _ => Registry.minds_of_attempts (Registry.alike_refl s.1) rfl)
    Registry.minds_setButton
    Registry.minds_requestIndicator
    (fun _ _ _ _ bitmask hc =>
      Registry.minds_of_attempts (Registry.alike_handleReport bitmask hc) rfl) f

theorem minds_received (fs : List InboundFrame) (s : Manager × Outlet χ) :
    Through Registry.Minds s (received fs s) := by
  induction fs generalizing s with
  | nil => exact refl_of (Through Registry.Minds) s
  | cons f fs ih => exact trans_of (Through Registry.Minds) (minds_handleFrame f s) (ih _)

/-! ## Frames that do nothing -/

/-- Frames that tell the manager nothing: malformed ones, those of a class it does not handle,
reports of settings, and reports of lights or presses by devices that are not registered. -/
def Ignores (m : Manager) (f : InboundFrame) : Prop :=
  match Event.decode f with
  | .error _ => True
  | .ok none => True
  | .ok (some e) =>
    match e.report with
    | .activation _ => False
    | .indicator _ => m.controllers.contains e.source = false
    | .basic _ => m.controllers.contains e.source = false
    | .actuator _ => True
    | .controller _ => True
    | .transfer _ => True

/-- Nothing happened, but notes were made. -/
def Idle (s t : Registry × Outlet χ) : Prop := t.1 = s.1 ∧ ∃ es, t.2 = s.2.noted es

omit [Channel χ] in
theorem idle_note (s : Registry × Outlet χ) (e : Journal.Entry) :
    Idle s (s.1, s.2.note e) := ⟨rfl, [e], rfl⟩

instance : IsPreorder (Registry × Outlet χ) Idle where
  refl s := ⟨rfl, [], by simp [Outlet.noted]⟩
  trans s t u h h' := by
    obtain ⟨ht, es, hes⟩ := h
    obtain ⟨hu, fs, hfs⟩ := h'
    exact ⟨hu.trans ht, es ++ fs, by rw [hfs, hes]; simp [Outlet.noted]⟩

omit [Channel χ] in
theorem eq_noted_of_idle {s t : Manager × Outlet χ} (h : Through Idle s t) :
    ∃ es, t = (s.1, s.2.noted es) := by
  obtain ⟨hm, hcontrollers, es, hes⟩ := h
  have hcontrollers : t.1.controllers = s.1.controllers := hcontrollers
  rw [hcontrollers] at hm
  exact ⟨es, Prod.ext hm hes⟩

theorem idle_handleEvent {f : InboundFrame} {e : Event} (he : Event.decode f = .ok (some e))
    {s : Manager × Outlet χ} (h : s.1.Ignores f) : Through Idle s ((handleEvent e).after s) := by
  unfold Ignores at h
  rw [he] at h
  obtain ⟨source, report⟩ := e
  cases report with
  | activation activation => cases h
  | indicator bitmask =>
    apply through_handleIndicator_unused idle_note
    right
    exact ByteMap.contains_eq_false_iff.mp h
  | basic value =>
    have h : s.1.controllers.contains source = false := h
    have hafter : (handleEvent ⟨source, .basic value⟩).after s = s := by
      unfold handleEvent handleBasic Act.after
      simp only
      rw [Act.run_bind, Act.run_subject]
      simp [h]
    rw [hafter]
    exact refl_of (Through Idle) s
  | actuator report => exact through_note idle_note _ s
  | controller report => exact through_handleControllerReport idle_note source report s
  | transfer transfer => exact through_note idle_note _ s

theorem after_handleFrame_of_ignores {f : InboundFrame} {s : Manager × Outlet χ}
    (h : s.1.Ignores f) :
    ∃ es, (handleFrame f).after s = (s.1, s.2.noted es) := by
  by_cases he : ∃ e, Event.decode f = .ok (some e)
  · obtain ⟨e, he⟩ := he
    obtain ⟨es, hafter⟩ := after_handleFrame he s
    obtain ⟨fs, hfs⟩ := eq_noted_of_idle (idle_handleEvent he h)
    refine ⟨fs ++ es, ?_⟩
    rw [hafter, hfs]
    simp [Outlet.noted]
  · exact after_handleFrame_other (fun e hdecode => he ⟨e, hdecode⟩) s

/-! ## Received frames and the configuration -/

/-- Any number of received frames, whatever they hold and whatever becomes of the frames that are
sent for them, leaves the manager as it is but for the lights of its controllers and how far these
are trusted. What is sent sets or asks for the lights of a registered controller that has lights to
tell of. Frames that tell the manager nothing leave it wholly as it is, and nothing is sent for
them. -/
theorem received_keeps_configuration {D : Directory → Prop} {m : Manager} (h : Reachable D m)
    (fs : List InboundFrame) (o : Outlet χ) :
    ∃ k o', received fs (m, o) = (k, o') ∧
      k = { m with controllers := k.controllers } ∧
      (∀ now, k.snapshot now = m.snapshot now) ∧
      (∀ d, k.controllers.contains d = m.controllers.contains d) ∧
      (∀ d c, m.controllers.get? d = some c → ∃ state indicator reported,
        k.controllers.get? d = some { c with state, indicator, reported }) ∧
      (∃ as, o'.attempts = o.attempts ++ as ∧ ∀ a ∈ as, ∃ c,
        m.controllers.get? a.frame.destination = some c ∧ c.supportsIndicator = true ∧
          c.AboutLights a.frame) ∧
      ∀ f, k.Ignores f → ∃ es, (handleFrame f).after (k, o') = (k, o'.noted es) := by
  have key := minds_received fs (m, o)
  generalize received fs (m, o) = t at key ⊢
  obtain ⟨k, o'⟩ := t
  obtain ⟨hsame, halike, as, has, habout⟩ := key
  have hsame : k = { m with controllers := k.controllers } := hsame
  have halike : m.controllers.Alike k.controllers := halike
  refine ⟨k, o', rfl, hsame, fun now => ?_, halike.contains, fun d c hc => ?_,
    ⟨as, has, fun a ha => ?_⟩, ?_⟩
  · rw [hsame]
    rfl
  · obtain ⟨b, hb, hcb⟩ := halike.exists_get? hc
    exact ⟨b.state, b.indicator, b.reported, hb.trans (congrArg some hcb.1)⟩
  · obtain ⟨d, c, hc, hs, hf⟩ := habout a ha
    rw [hf.destination, (h.coherent.controller d c hc).1]
    exact ⟨c, hc, hs, hf⟩
  · intro f hf
    exact after_handleFrame_of_ignores hf

/-- A keypad reports a light twice, then a stranger does. -/
theorem received_keeps_configuration_evening :
    ∃ m k o', Reachable Directory.Honest m ∧ m.Ignores (.ofClass ⟨4⟩ .indicator [0x03, 1]) ∧
      received [.ofClass ⟨2⟩ .indicator [0x03, 0], .ofClass ⟨2⟩ .indicator [0x03, 1]]
        (m, Outlet.opened FaultyChannel.sound) = (k, o') ∧
      o'.sent = [.setLights ⟨3⟩ 1, .askLights ⟨3⟩] ∧ k.scenes = m.scenes := by
  have h : Reachable Directory.Honest (afterCalls twoKeypads evening).1 :=
    reachable_afterCalls honest_twoKeypads evening
  obtain ⟨k, o', hrun, hk, -⟩ := received_keeps_configuration h
    [.ofClass ⟨2⟩ .indicator [0x03, 0], .ofClass ⟨2⟩ .indicator [0x03, 1]]
      (Outlet.opened FaultyChannel.sound)
  have hsent : (received [.ofClass ⟨2⟩ .indicator [0x03, 0], .ofClass ⟨2⟩ .indicator [0x03, 1]]
      ((afterCalls twoKeypads evening).1, Outlet.opened FaultyChannel.sound)).2.sent =
        [.setLights ⟨3⟩ 1, .askLights ⟨3⟩] := by decide +kernel
  rw [hrun] at hsent
  refine ⟨_, k, o', h, ?_, hrun, hsent, ?_⟩
  · show (afterCalls twoKeypads evening).1.controllers.contains ⟨4⟩ = false
    decide +kernel
  · rw [hk]

end Manager

end MeshScenes
