import MeshScenes.Proofs.ClosedHub.Quiet
import MeshScenes.Proofs.Manager.Report

/-!
# What is written to lights

Lights are written all at once, from the picture. So one of two things happens to a keypad: nothing
is written, and lights and picture stay; or the lights become what the picture has become.
-/

namespace MeshScenes

/-! ## Frames that write lights -/

/-- The frame overwrites the lights of the node. -/
def OutboundFrame.writesLights (d : DeviceId) (f : OutboundFrame) : Bool :=
  f.destination = d ∧ f.commandClass = .indicator ∧ f.command? = some 0x01

theorem OutboundFrame.writesLights_setLights (d e : DeviceId) (l : UInt8) :
    (setLights e l).writesLights d = decide (e = d) := by
  simp [writesLights, setLights, command?]

theorem OutboundFrame.writesLights_askLights (d e : DeviceId) :
    (askLights e).writesLights d = false := by
  simp [writesLights, askLights, command?]

/-! ## What an operation writes -/

section
variable {P : DeviceId → Nat → Prop} {directory : Directory} {d : DeviceId}
  {fs gs : List OutboundFrame} {s t u : Registry × Outlet Network}

/-- Nothing was written to a node. -/
structure Kept (d : DeviceId) (fs : List OutboundFrame) (s t : Registry × Outlet Network) :
    Prop where
  unwritten : ∀ f ∈ fs, f.writesLights d = false
  lights : t.2.channel.lights? d = s.2.channel.lights? d
  picture : (t.1.get? d).map (·.indicator) = (s.1.get? d).map (·.indicator)

/-- The lights of a node became the picture, which changed at most where `P` holds. -/
structure Written (P : DeviceId → Nat → Prop) (d : DeviceId) (fs : List OutboundFrame)
    (s t : Registry × Outlet Network) : Prop where
  written : ∃ f ∈ fs, f.writesLights d = true
  picture : ∃ c c', s.1.get? d = some c ∧ t.1.get? d = some c' ∧
    t.2.channel.lights? d = some c'.indicator ∧
    ∀ i < 8, ¬ P d i → lightAt c'.indicator i = lightAt c.indicator i

theorem Kept.trans (h : Kept d fs s t) (h' : Kept d gs t u) : Kept d (fs ++ gs) s u := by
  refine ⟨fun f hf => ?_, h'.lights.trans h.lights, h'.picture.trans h.picture⟩
  rcases List.mem_append.mp hf with hf | hf
  · exact h.unwritten f hf
  · exact h'.unwritten f hf

theorem Kept.written (h : Kept d fs s t) (h' : Written P d gs t u) :
    Written P d (fs ++ gs) s u := by
  obtain ⟨⟨f, hf, hwrites⟩, c, c', hc, hc', hl, hP⟩ := h'
  obtain ⟨b, hb, hbc⟩ : ∃ b, s.1.get? d = some b ∧ b.indicator = c.indicator := by
    have := h.picture
    rw [hc] at this
    exact Option.map_eq_some_iff.mp this.symm
  refine ⟨⟨f, List.mem_append_right _ hf, hwrites⟩, b, c', hb, hc', hl, ?_⟩
  rw [hbc]
  exact hP

theorem Written.kept (h : Written P d fs s t) (h' : Kept d gs t u) :
    Written P d (fs ++ gs) s u := by
  obtain ⟨⟨f, hf, hwrites⟩, c, c', hc, hc', hl, hP⟩ := h
  obtain ⟨b, hb, hbc⟩ : ∃ b, u.1.get? d = some b ∧ b.indicator = c'.indicator := by
    have := h'.picture
    rw [hc'] at this
    exact Option.map_eq_some_iff.mp this
  refine ⟨⟨f, List.mem_append_left _ hf, hwrites⟩, c, b, hc, hb, ?_, ?_⟩
  · rw [h'.lights, hl, hbc]
  · rw [hbc]
    exact hP

theorem Written.trans (h : Written P d fs s t) (h' : Written P d gs t u) :
    Written P d (fs ++ gs) s u := by
  obtain ⟨⟨f, hf, hwrites⟩, c, c', hc, hc', -, hP⟩ := h
  obtain ⟨-, b, b', hb, hb', hl, hP'⟩ := h'
  rw [hc'] at hb
  cases hb
  refine ⟨⟨f, List.mem_append_left _ hf, hwrites⟩, c, b', hc, hb', hl, fun i hi hPi => ?_⟩
  exact (hP' i hi hPi).trans (hP i hi hPi)

/-- Frames were sent, and each node was kept or written. -/
def Writes (P : DeviceId → Nat → Prop) (directory : Directory) (s t : Registry × Outlet Network) :
    Prop :=
  Wired directory s → Wired directory t ∧
    ∃ fs, t.2.sent = s.2.sent ++ fs ∧ ∀ d, Kept d fs s t ∨ Written P d fs s t

instance : IsPreorder (Registry × Outlet Network) (Writes P directory) where
  refl _ h := ⟨h, [], (List.append_nil _).symm, fun _ => .inl ⟨by simp, rfl, rfl⟩⟩
  trans s t u hst htu h := by
    obtain ⟨ht, fs, hfs, hs⟩ := hst h
    obtain ⟨hu, gs, hgs, ht⟩ := htu ht
    refine ⟨hu, fs ++ gs, by rw [hgs, hfs, List.append_assoc], fun d => ?_⟩
    rcases hs d with hs | hs
    · rcases ht d with ht | ht
      · exact .inl (hs.trans ht)
      · exact .inr (hs.written ht)
    · rcases ht d with ht | ht
      · exact .inr (hs.kept ht)
      · exact .inr (hs.trans ht)

theorem writes_note (s : Registry × Outlet Network) (e : Journal.Entry) :
    Writes P directory s (s.1, s.2.note e) :=
  fun h => ⟨h.of_same rfl fun _ hf => hf, [], (List.append_nil _).symm,
    fun _ => .inl ⟨by simp, rfl, rfl⟩⟩

variable {r : Registry} {o o' : Outlet Network} {c c' : Controller} {l : UInt8}

theorem kept_of_ne {e : DeviceId} (he : e ≠ d) (hfs : ∀ f ∈ fs, f.destination = d)
    (htold : o.channel.Told d l o'.channel) : Kept e fs (r, o) (r.insert d c', o') := by
  refine ⟨fun f hf => ?_, htold.others e he, ?_⟩
  · have : f.destination ≠ e := fun h => he (h.symm.trans (hfs f hf))
    simp [OutboundFrame.writesLights, this]
  · rw [ByteMap.get?_insert, if_neg he]

theorem writes_ask (d : DeviceId) :
    (Registry.react d (.ok ·.requestIndicator)).Moves (Writes P directory) := by
  rintro ⟨r, o⟩ h
  rcases Registry.took_ask d (Network.accepts o.channel) with hafter | ⟨c, o', hc, htook, hafter⟩
  · rw [hafter]
    exact refl_of (Writes P directory) (r, o) h
  · rw [hafter]
    obtain ⟨l, hl, htold⟩ := h.told_asked hc htook
    have hinsert : Wired directory (r.insert d c.requestIndicator.controller, o) :=
      h.insert_alike hc (Controller.alike_requestIndicator c)
    have hframes : c.askFrames = [.askLights d] := by
      obtain ⟨hdevice, hs, -⟩ := h.keypad d c hc
      unfold Controller.askFrames
      rw [if_pos hs, hdevice]
    refine ⟨hinsert.touched htold, _, htook.sent, fun e => .inl ?_⟩
    rw [hframes]
    by_cases he : e = d
    · subst he
      refine ⟨fun f hf => ?_, htold.lights.trans hl.symm, ?_⟩
      · rw [List.mem_singleton.mp hf]
        exact OutboundFrame.writesLights_askLights e e
      · rw [ByteMap.get?_insert, if_pos rfl, hc]
        exact congrArg some (Controller.indicator_requestIndicator c)
    · apply kept_of_ne he _ htold
      intro f hf
      rw [List.mem_singleton.mp hf]
      rfl

/-- A light that is as it should be is left; any other is switched, written and told. -/
theorem Wired.setButton_cases (h : Wired directory (r, o)) (d : DeviceId) (b : ButtonId)
    (on : Bool) :
    (∃ o', (Registry.setButton d b on).after (r, o) = (r, o') ∧ Outlet.Took [] o o') ∨
      ∃ c o', (Registry.setButton d b on).after (r, o) = (r.insert d (c.switched b on), o') ∧
        r.get? d = some c ∧ b.bit? = some (b.byte - 1) ∧ lightAt c.indicator b.place ≠ on ∧
        Outlet.Took [.setLights d (c.switched b on).indicator, .askLights d] o o' ∧
        o.channel.Told d (c.switched b on).indicator o'.channel := by
  rcases Registry.took_setButton on d b (Network.accepts o.channel) with
    hafter | ⟨c, o', hc, hbit, htook, hafter⟩
  · exact .inl ⟨o, hafter, rfl, (List.append_nil _).symm⟩
  · by_cases hl : lightAt c.indicator b.place = on
    · left
      rw [Controller.switchFrames_of_lit hl] at htook
      rw [Controller.switched_of_lit hl, ByteMap.insert_of_get? hc] at hafter
      exact ⟨o', hafter, htook⟩
    · right
      obtain ⟨k, hk⟩ := h.exists_keypad hc
      rw [h.switchFrames_eq hc hl] at htook
      refine ⟨c, o', hafter, hc, hbit, hl, htook, ?_⟩
      rw [htook.channel]
      exact Network.told_write h.sound _ hk

theorem kept_of_unsent (htook : Outlet.Took [] o o') (e : DeviceId) : Kept e [] (r, o) (r, o') :=
  ⟨by simp, congrArg (Network.lights? · e) htook.channel, rfl⟩

theorem Wired.of_unsent (h : Wired directory (r, o)) (htook : Outlet.Took [] o o') :
    Wired directory (r, o') := by
  apply h.of_same (congrArg Network.nodes htook.channel)
  intro f hf
  rw [htook.channel] at hf
  exact hf

theorem writes_setButton {b : ButtonId} {on : Bool} (hP : P d b.place) :
    (Registry.setButton d b on).Moves (Writes P directory) := by
  rintro ⟨r, o⟩ h
  rcases h.setButton_cases d b on with ⟨o', hafter, htook⟩ |
    ⟨c, o', hafter, hc, hbit, -, htook, htold⟩
  · rw [hafter]
    exact ⟨h.of_unsent htook, [], htook.sent, fun e => .inl (kept_of_unsent htook e)⟩
  · rw [hafter]
    refine ⟨(h.insert_alike hc (Controller.alike_switched c b on)).touched htold, _, htook.sent,
      fun e => ?_⟩
    by_cases he : e = d
    · subst he
      refine .inr ⟨⟨_, List.mem_cons_self, ?_⟩, c, c.switched b on, hc, ?_, htold.lights,
        fun i hi hPi => ?_⟩
      · simp [OutboundFrame.writesLights_setLights]
      · rw [ByteMap.get?_insert, if_pos rfl]
      · obtain ⟨h8, hplace, -⟩ := ButtonId.bit?_eq_some hbit
        rw [Controller.indicator_switched hbit, lightAt_setLight h8, hplace]
        apply if_neg
        rintro rfl
        exact hPi hP
    · apply Or.inl
      apply kept_of_ne he _ htold
      intro f hf
      rcases List.mem_pair.mp hf with rfl | rfl <;> rfl

end

theorem ClosedHub.spares_sends {D : Directory → Prop} {h : ClosedHub} {rest : List InboundFrame}
    (hm : h.manager.Coherent D) {x : DeviceId} {q : UInt8} {c : Controller}
    (hw : h.waiting = .ofClass x .indicator [0x03, q] :: rest)
    (hc : h.manager.controllers.get? x = some c) :
    ∀ f ∈ h.sends, f.writesLights x = false := by
  have hi : h.manager.index.contains x = true := by
    rw [(hm.keyed x).2, ← (hm.keyed x).1]
    exact ByteMap.contains_iff.mpr ⟨c, hc⟩
  obtain ⟨as, has, hne⟩ := hm.spares_handleIndicator hi hc q (h.popped rest).2
  have hsends : h.sends = (as.filter (·.accepted)).map (·.frame) := by
    rw [sends_eq hw (e := ⟨x, .indicator q⟩) rfl]
    show (((Manager.handleIndicator x q).after
      (h.manager, (h.popped rest).2)).2.attempts.filter _).map _ = _
    rw [has]
    rfl
  rw [hsends]
  intro f hf
  obtain ⟨a, ha, rfl⟩ := List.mem_map.mp hf
  have := hne a (List.mem_of_mem_filter ha)
  simp [OutboundFrame.writesLights, this]

end MeshScenes
