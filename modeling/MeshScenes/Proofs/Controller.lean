import MeshScenes.Controller.Registry
import MeshScenes.Proofs.Act
import MeshScenes.Proofs.Channel
import MeshScenes.Proofs.Lights

/-!
# Reactions of controllers

What each operation on a controller makes of its picture and what it asks of the device, and how the
registry changes when one of its controllers reacts: traffic moves lights, never the configuration.
-/

namespace MeshScenes

namespace Controller

def switched (c : Controller) (b : ButtonId) (on : Bool) : Controller :=
  if lightAt c.indicator b.place = on then c
  else { c with
    indicator := setLight c.indicator (b.byte - 1) on
    state := if c.supportsIndicator then .boundPending else c.state }

def switchRequests (c : Controller) (b : ButtonId) (on : Bool) : List Request :=
  if lightAt c.indicator b.place = on then []
  else if c.supportsIndicator then [.indicatorSet (c.switched b on).indicator.toUInt32,
    .indicatorGet]
  else []

theorem switched_of_lit {c : Controller} {b : ButtonId} {on : Bool}
    (h : lightAt c.indicator b.place = on) :
    c.switched b on = c := by
  unfold switched
  rw [if_pos h]

theorem reported_switched (c : Controller) (b : ButtonId) (on : Bool) :
    (c.switched b on).reported = c.reported := by
  unfold switched
  split <;> rfl

theorem reported_requestIndicator (c : Controller) :
    c.requestIndicator.controller.reported = c.reported := by
  unfold requestIndicator
  split <;> rfl

theorem indicator_requestIndicator (c : Controller) :
    c.requestIndicator.controller.indicator = c.indicator := by
  unfold requestIndicator
  split <;> rfl

theorem indicator_switched {c : Controller} {b : ButtonId} {on : Bool}
    (h : b.bit? = some (b.byte - 1)) :
    (c.switched b on).indicator = setLight c.indicator (b.byte - 1) on := by
  obtain ⟨h8, hp, -⟩ := ButtonId.bit?_eq_some h
  unfold switched
  split
  next hl =>
    refine lightAt_ext fun i _ => ?_
    rw [lightAt_setLight h8, hp]
    split
    next hi => rw [hi, hl]
    next => rfl
  next => rfl

theorem setIndicator_setLight {c : Controller} {b : ButtonId} {on : Bool}
    (h : b.bit? = some (b.byte - 1)) (hl : lightAt c.indicator b.place ≠ on) :
    (c.setIndicator (setLight c.indicator (b.byte - 1) on)).controller = c.switched b on ∧
      (c.setIndicator (setLight c.indicator (b.byte - 1) on)).requests = c.switchRequests b on := by
  obtain ⟨h8, hp, -⟩ := ButtonId.bit?_eq_some h
  have hne : c.indicator ≠ setLight c.indicator (b.byte - 1) on :=
    (setLight_ne h8 (by rwa [hp])).symm
  unfold setIndicator switchRequests switched
  rw [if_neg hne, if_neg hl, if_neg hl]
  by_cases hs : c.supportsIndicator = true
  · simp [hs]
  · simp [hs]

theorem setButton_eq_ok {c : Controller} {b : ButtonId} {on : Bool} {r : Reaction Bool}
    (h : c.setButton b on = .ok r) :
    c.isBound = true ∧ c.acceptsButton b = true ∧ b.bit? = some (b.byte - 1) ∧
      r.controller = c.switched b on ∧ r.requests = c.switchRequests b on := by
  unfold setButton at h
  by_cases hb : c.isBound = true
  case neg => simp [hb] at h; cases h
  by_cases ha : c.acceptsButton b = true
  case neg => simp [hb, ha] at h; cases h
  cases hbit : b.bit? with
  | none => simp [hb, ha, hbit] at h
  | some bit =>
    obtain ⟨-, hp, h1⟩ := ButtonId.bit?_eq_some hbit
    have he : bit = b.byte - 1 := by
      apply UInt8.toNat_inj.mp
      rw [hp, UInt8.toNat_sub_of_le _ _ h1]
      rfl
    subst he
    simp only [hb, ha, hbit, isOn_eq hbit] at h
    refine ⟨hb, ha, rfl, ?_⟩
    by_cases hl : lightAt c.indicator b.place = on
    · rw [if_pos hl] at h
      cases h
      simp [switched, switchRequests, hl]
    · rw [if_neg hl] at h
      cases h
      exact setIndicator_setLight hbit hl

theorem setButton_ok {c : Controller} {b : ButtonId} (on : Bool) (hb : c.isBound = true)
    (ha : c.acceptsButton b = true) (hn : c.buttonCount ≤ 8) : ∃ r, c.setButton b on = .ok r := by
  have h : 1 ≤ b.byte ∧ b.byte < c.buttonCount := by simpa [acceptsButton] using ha
  have hbit := ButtonId.bit?_of_le h.1 (UInt8.le_of_lt (UInt8.lt_of_lt_of_le h.2 hn))
  unfold setButton
  simp only [hb, ha, hbit]
  by_cases hl : c.isOn b = on
  · exact ⟨_, by rw [if_pos hl]; rfl⟩
  · exact ⟨_, by rw [if_neg hl]; rfl⟩

/-- The device is a scene controller, and the picture has what its descriptor says. -/
structure Fits (c : Controller) (x : Device) : Prop where
  isController : x.deviceClass.isSceneController = true
  configurable : x.supports .sceneControllerConf = true
  indicator : c.supportsIndicator = x.supports .indicator
  association : c.supportsAssociation = x.supports .association
  configuration : c.supportsConfiguration = x.supports .configuration

theorem bind_eq_ok {c : Controller} {directory : Directory} {r : Reaction Unit}
    (h : c.bind directory = .ok r) :
    ∃ x, directory c.device = some x ∧ r.controller.Fits x ∧
      r.controller.device = c.device ∧ r.controller.isBound = true ∧
      r.controller.buttonCount = c.buttonCount ∧ r.controller.indicator = c.indicator ∧
      r.controller.reported = none ∧ r.requests = if x.supports .indicator then [.indicatorGet]
        else [] := by
  unfold bind at h
  cases hd : directory c.device with
  | none => simp [hd] at h
  | some x =>
    by_cases hk : x.deviceClass.isSceneController = true
    case neg => simp [hd, hk] at h; cases h
    by_cases hs : x.supports .sceneControllerConf = true
    case neg => simp [hd, hk, hs] at h; cases h
    simp only [hd, hk, hs] at h
    cases h
    refine ⟨x, rfl, ?_⟩
    by_cases hi : x.supports .indicator = true
    · simp only [requestIndicator, isBound, hi]
      exact ⟨⟨hk, hs, hi.symm, rfl, rfl⟩, rfl, rfl, rfl, rfl, rfl, rfl⟩
    · simp only [requestIndicator, isBound, hi]
      exact ⟨⟨hk, hs, by simp [hi], rfl, rfl⟩, rfl, rfl, rfl, rfl, rfl, rfl⟩

theorem bind_ok {c : Controller} {directory : Directory} {x : Device}
    (hx : directory c.device = some x) (hclass : x.deviceClass.isSceneController = true)
    (hsupports : x.supports .sceneControllerConf = true) :
    ∃ r, c.bind directory = .ok r := by
  unfold bind
  simp only [hx, hclass, hsupports]
  exact ⟨_, rfl⟩

theorem bind_eq_error {c : Controller} {directory : Directory} {e : Error}
    (h : c.bind directory = .error e) :
    e = .notFound (.device c.device) ∨ e = .validation (.notASceneController c.device) ∨
      e = .unsupported c.device .sceneControllerConf := by
  cases hd : directory c.device with
  | none =>
    simp [bind, hd] at h
    cases h
    exact .inl rfl
  | some x =>
    by_cases hclass : x.deviceClass.isSceneController = true
    · by_cases hsupports : x.supports .sceneControllerConf = true
      · obtain ⟨r, hr⟩ := bind_ok hd hclass hsupports
        rw [h] at hr
        cases hr
      · simp [bind, hd, hclass, hsupports] at h
        cases h
        exact .inr (.inr rfl)
    · simp [bind, hd, hclass] at h
      cases h
      exact .inr (.inl rfl)

/-! ## What traffic leaves alone -/

/-- Pictures that differ at most in their lights and in how far these are trusted. -/
def Alike (c d : Controller) : Prop :=
  d = { c with state := d.state, indicator := d.indicator, reported := d.reported } ∧
    (c.isBound = true → d.isBound = true)

theorem Alike.refl (c : Controller) : c.Alike c := ⟨rfl, id⟩

theorem Alike.trans {c d e : Controller} (h : c.Alike d) (h' : d.Alike e) : c.Alike e := by
  refine ⟨?_, h'.2 ∘ h.2⟩
  rw [h'.1, h.1]

theorem Alike.device {c d : Controller} (h : c.Alike d) : d.device = c.device := by rw [h.1]

theorem Alike.buttonCount {c d : Controller} (h : c.Alike d) :
    d.buttonCount = c.buttonCount := by rw [h.1]

theorem Alike.supportsIndicator {c d : Controller} (h : c.Alike d) :
    d.supportsIndicator = c.supportsIndicator := by rw [h.1]

theorem alike_requestIndicator (c : Controller) : c.Alike c.requestIndicator.controller := by
  unfold requestIndicator
  split
  · exact ⟨rfl, fun _ => rfl⟩
  · exact Alike.refl c

theorem alike_switched (c : Controller) (b : ButtonId) (on : Bool) : c.Alike (c.switched b on) := by
  unfold switched
  split
  · exact Alike.refl c
  · refine ⟨rfl, fun h => ?_⟩
    by_cases hs : c.supportsIndicator = true
    · simp [isBound, hs]
    · simpa [isBound, hs] using h

theorem alike_handleReport (c : Controller) (bitmask : UInt8) :
    c.Alike (c.handleReport bitmask).1 := by
  refine ⟨rfl, fun h => ?_⟩
  simp [handleReport, h]
  rfl

end Controller

/-! ## Carrying a reaction out -/

namespace OutboundFrame

def setLights (d : DeviceId) (lights : UInt8) : OutboundFrame := ⟨d, .indicator, [0x01, lights]⟩

def askLights (d : DeviceId) : OutboundFrame := ⟨d, .indicator, [0x02]⟩

end OutboundFrame

theorem Request.frame_indicatorSet (d : DeviceId) (lights : UInt8) :
    (indicatorSet lights.toUInt32).frame d = .ok (.setLights d lights) := by
  simp [frame, encode, OutboundFrame.setLights, commandClass]

theorem Request.frame_indicatorGet (d : DeviceId) : indicatorGet.frame d = .ok (.askLights d) := rfl

namespace Controller

def askFrames (c : Controller) : List OutboundFrame :=
  if c.supportsIndicator then [.askLights c.device] else []

def switchFrames (c : Controller) (b : ButtonId) (on : Bool) : List OutboundFrame :=
  if lightAt c.indicator b.place = on then []
  else if c.supportsIndicator then [.setLights c.device (c.switched b on).indicator,
    .askLights c.device]
  else []

theorem switchFrames_of_lit {c : Controller} {b : ButtonId} {on : Bool}
    (h : lightAt c.indicator b.place = on) :
    c.switchFrames b on = [] := by
  unfold switchFrames
  rw [if_pos h]

theorem frames_requestIndicator (c : Controller) :
    List.Forall₂ (fun q f => q.frame c.requestIndicator.controller.device = .ok f)
      c.requestIndicator.requests c.askFrames := by
  rw [(alike_requestIndicator c).device]
  unfold requestIndicator askFrames
  split
  · exact .cons (Request.frame_indicatorGet _) .nil
  · exact .nil

theorem frames_switchRequests (c : Controller) (b : ButtonId) (on : Bool) :
    List.Forall₂ (fun q f => q.frame (c.switched b on).device = .ok f)
      (c.switchRequests b on) (c.switchFrames b on) := by
  rw [(alike_switched c b on).device]
  unfold switchRequests switchFrames
  split
  · exact .nil
  · split
    · exact .cons (Request.frame_indicatorSet _ _) (.cons (Request.frame_indicatorGet _) .nil)
    · exact .nil

/-- A frame that sets the lights of the controller or asks for them. -/
def AboutLights (c : Controller) (f : OutboundFrame) : Prop :=
  f = .askLights c.device ∨ ∃ lights, f = .setLights c.device lights

theorem aboutLights_askFrames {c : Controller} {f : OutboundFrame} (h : f ∈ c.askFrames) :
    c.supportsIndicator = true ∧ c.AboutLights f := by
  unfold askFrames at h
  split at h
  next hs => exact ⟨hs, .inl (List.mem_singleton.mp h)⟩
  next => cases h

theorem aboutLights_switchFrames {c : Controller} {b : ButtonId} {on : Bool} {f : OutboundFrame}
    (h : f ∈ c.switchFrames b on) : c.supportsIndicator = true ∧ c.AboutLights f := by
  unfold switchFrames at h
  split at h
  next => cases h
  next =>
    split at h
    next hs =>
      rcases List.mem_pair.mp h with rfl | rfl
      · exact ⟨hs, .inr ⟨_, rfl⟩⟩
      · exact ⟨hs, .inl rfl⟩
    next => cases h

theorem AboutLights.destination {c : Controller} {f : OutboundFrame} (h : c.AboutLights f) :
    f.destination = c.device := by
  rcases h with rfl | ⟨lights, rfl⟩ <;> rfl

theorem destination_switchFrames {c : Controller} {b : ButtonId} {on : Bool} {f : OutboundFrame}
    (h : f ∈ c.switchFrames b on) :
    f.destination = c.device := (aboutLights_switchFrames h).2.destination

theorem frames_setButton {c : Controller} {b : ButtonId} {on : Bool} {r : Reaction Bool}
    (h : c.setButton b on = .ok r) :
    List.Forall₂ (fun q f => q.frame r.controller.device = .ok f) r.requests
      (c.switchFrames b on) := by
  obtain ⟨-, -, -, hcontroller, hrequests⟩ := setButton_eq_ok h
  rw [hcontroller, hrequests]
  exact frames_switchRequests c b on

end Controller

section
variable {α χ : Type} [Channel χ]

theorem Reaction.run_run {r : Reaction α} {fs : List OutboundFrame}
    (h : List.Forall₂ (fun q f => q.frame r.controller.device = .ok f) r.requests fs)
    (s : Controller × Outlet χ) :
    r.run s = match (s.2.noted r.notes).sendAll fs with
      | (none, o) => .ok r.answer (r.controller, o)
      | (some refusal, o) => .error (.transport refusal) (r.controller, o) := by
  have hq : List.Forall₂ (fun (q : DeviceId × Request) f => q.2.frame q.1 = .ok f)
      (r.requests.map fun q => (r.controller.device, q)) fs := by
    rw [List.forall₂_map_left_iff]
    exact h
  unfold run
  rw [Act.run_bind, Act.run_replace]
  simp only
  rw [Act.run_bind, Act.run_notes]
  simp only
  rw [Act.run_bind, Act.run_requests hq]
  rcases (s.2.noted r.notes).sendAll fs with ⟨_ | refusal, o⟩ <;> rfl

theorem Registry.run_react {d : DeviceId} {f : Controller → Except Error (Reaction α)}
    {c : Controller} {r : Reaction α} {fs : List OutboundFrame} {s : Registry × Outlet χ}
    (hc : s.1.get? d = some c) (hf : f c = .ok r)
    (h : List.Forall₂ (fun q f => q.frame r.controller.device = .ok f) r.requests fs) :
    react d f s = match (s.2.noted r.notes).sendAll fs with
      | (none, o) => .ok r.answer (s.1.insert d r.controller, o)
      | (some refusal, o) => .error (.transport refusal) (s.1.insert d r.controller, o) := by
  unfold react
  rw [Act.run_bind, Act.run_subject]
  simp only [hc, hf]
  rw [Act.run_bind, Act.run_of_ok]
  simp only [Act.within]
  rw [Reaction.run_run h]
  rcases (s.2.noted r.notes).sendAll fs with ⟨_ | refusal, o⟩ <;> rfl

theorem Registry.after_react {d : DeviceId} {f : Controller → Except Error (Reaction α)}
    {c : Controller} {r : Reaction α} {fs : List OutboundFrame} {s : Registry × Outlet χ}
    (hc : s.1.get? d = some c) (hf : f c = .ok r)
    (h : List.Forall₂ (fun q f => q.frame r.controller.device = .ok f) r.requests fs) :
    (react d f).after s = (s.1.insert d r.controller, ((s.2.noted r.notes).sendAll fs).2) := by
  unfold Act.after
  rw [run_react hc hf h]
  rcases (s.2.noted r.notes).sendAll fs with ⟨_ | _, o⟩ <;> rfl

theorem Registry.react_eq_ok {d : DeviceId} {f : Controller → Except Error (Reaction α)}
    {s t : Registry × Outlet χ} {a : α} (h : react d f s = .ok a t) :
    ∃ c r, s.1.get? d = some c ∧ f c = .ok r := by
  unfold react at h
  rw [Act.run_bind, Act.run_subject] at h
  cases hc : s.1.get? d with
  | none =>
    simp only [hc, Act.run_of_error] at h
    cases h
  | some c =>
    cases hr : f c with
    | error e =>
      simp only [hc, hr, Act.run_bind, Act.run_of_error] at h
      cases h
    | ok r => exact ⟨c, r, rfl, hr⟩

theorem Registry.after_react_error {d : DeviceId} {f : Controller → Except Error (Reaction α)}
    {s : Registry × Outlet χ} (h : ∀ c, s.1.get? d = some c → ∃ e, f c = .error e) :
    (react d f).after s = s := by
  unfold react Act.after
  rw [Act.run_bind, Act.run_subject]
  cases hc : s.1.get? d with
  | none => simp only [hc, Act.run_of_error]
  | some c =>
    obtain ⟨e, he⟩ := h c hc
    simp only [hc, he, Act.run_bind, Act.run_of_error]

end

end MeshScenes
