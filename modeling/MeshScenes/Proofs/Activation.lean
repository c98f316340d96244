import MeshScenes.Proofs.Counting

/-!
# What activating a scene does

The controllers of a scene are looked up before the first light is switched. So an activation that
cannot find one of them does nothing at all; and where all are found and nothing is refused, the
scene's lights are on and only what was off has been written. `activate_all_or_nothing` says both,
and that activating once more does nothing.
-/

namespace MeshScenes

theorem Controller.isOn_switched {c : Controller} {b : ButtonId} (h : b.bit? = some (b.byte - 1))
    (b' : ButtonId) :
    (c.switched b true).isOn b' = (c.isOn b' || decide (b' = b)) := by
  obtain ⟨h8, hplace, h1⟩ := ButtonId.bit?_eq_some h
  cases hbit : b'.bit? with
  | none =>
    -- A button without a bit has no light, and is not the one that was switched.
    have hne : b' ≠ b := by
      rintro rfl
      rw [h] at hbit
      cases hbit
    simp [isOn, hbit, hne]
  | some bit =>
    have hsame : b'.place = b.place ↔ b' = b :=
      ⟨ButtonId.place_inj (ButtonId.bit?_eq_some hbit).2.2 h1, congrArg _⟩
    rw [isOn_eq hbit, isOn_eq hbit, indicator_switched h, lightAt_setLight h8, hplace, Bool.or_comm]
    by_cases hb : b' = b
    · simp [hb]
    · simp [hb, mt hsame.mp hb]

namespace Registry

section
variable {on : Bool} {r : Registry} {e : DeviceId × ButtonId} {es : List (DeviceId × ButtonId)}

theorem switch_of_not_changes (hplaced : r.Placed e) (h : r.changes on e = false) :
    r.switch on e = r ∧ r.switchFrames on e = [] := by
  unfold switch switchFrames
  cases hc : r.get? e.1 with
  | none => exact ⟨rfl, rfl⟩
  | some c =>
    have hlit : lightAt c.indicator e.2.place = on := by
      rw [← Controller.isOn_eq (hplaced c hc)]
      simpa [changes, hc] using h
    refine ⟨?_, Controller.switchFrames_of_lit hlit⟩
    simp only [Controller.switched_of_lit hlit, ByteMap.insert_of_get? hc]

theorem Switched.idle {χ : Type} [Channel χ] {n k : Nat} {s t : Registry × Outlet χ}
    (h : Switched on es n s k t) (hidle : ∀ e ∈ es, s.1.changes on e = false) :
    t.1 = s.1 ∧ t.2.attempts = s.2.attempts ∧ k = n := by
  have hstays : ∀ e ∈ es, s.1.switch on e = s.1 ∧ s.1.switchFrames on e = [] :=
    fun e he => switch_of_not_changes (h.placed e he) (hidle e he)
  refine ⟨?_, ?_, ?_⟩
  · rw [h.registry]
    refine List.foldlRecOn (motive := (· = s.1)) es (switch on) rfl ?_
    rintro _ rfl e he
    exact (hstays e he).1
  · rw [h.took.attempts, List.flatMap_eq_nil_iff.mpr fun e he => (hstays e he).2, List.map_nil,
      List.append_nil]
  · rw [h.count, List.countP_eq_zero.mpr fun e he => by simp [hidle e he], Nat.add_zero]

/-- The lights of a controller are written and asked for. -/
def confirmFrames (r : Registry) (e : DeviceId × ButtonId) : List OutboundFrame :=
  match r.get? e.1 with
  | some c => [.setLights c.device c.indicator, .askLights c.device]
  | none => []

theorem switchFrames_eq_ite {r' : Registry} (hplaced : r.Placed e)
    (hr' : r'.get? e.1 = (r.get? e.1).map (·.switched e.2 on)) :
    r.switchFrames on e = if r.writes on e = true then r'.confirmFrames e else [] := by
  unfold switchFrames writes confirmFrames
  rw [hr']
  cases hc : r.get? e.1 with
  | none => rfl
  | some c =>
    simp only [Option.any_some, Option.map_some, Controller.isOn_eq (hplaced c hc),
      Controller.switchFrames, (Controller.alike_switched c e.2 on).device]
    by_cases hl : lightAt c.indicator e.2.place = on
    · simp [hl]
    · cases hs : c.supportsIndicator <;> simp [hl]

end

end Registry

namespace Scene

/-- The scene's light is on at each of its controllers. Other lights and other controllers are as
they were. -/
structure TurnedOn (s : Scene) (r r' : Registry) : Prop where
  own : ∀ d b c, s.button? d = some b → r.get? d = some c → ∃ c', r'.get? d = some c' ∧
    c.Alike c' ∧ c'.reported = c.reported ∧ ∀ b', c'.isOn b' = (c.isOn b' || decide (b' = b))
  others : ∀ d, s.button? d = none → r'.get? d = r.get? d

section
variable {χ : Type} [Channel χ] {s : Scene} {r : Registry}

theorem Served.placed (h : s.Served r) {e : DeviceId × ButtonId} (he : e ∈ s.controllers.toList) :
    r.Placed e := by
  intro c _
  obtain ⟨c', -, hdrivable⟩ := h e.1 e.2 (ByteMap.get?_eq_some_iff.mpr he)
  exact hdrivable.bit?

theorem activate_of_missing {d : DeviceId} {b : ButtonId} (hb : s.button? d = some b)
    (hunbound : ∀ c, r.get? d = some c → c.isBound = false) (o : Outlet χ) :
    ∃ e, s.activate (r, o) = .error e (r, o) := by
  have hmem : (d, b) ∈ s.controllers.toList := ByteMap.get?_eq_some_iff.mp hb
  rcases s.resolve_cases r with ⟨l, hl, hfound⟩ | ⟨e, he, -⟩
  · -- Found are only controllers that are attached.
    obtain ⟨x, -, -, hc, hbound, -⟩ := exists_mem_of_forall₂ hfound hmem
    rw [hunbound x.1 hc] at hbound
    cases hbound
  · exact ⟨e, activate_of_unresolved he o⟩

theorem turnedOn_switchAll (h : s.Served r) : s.TurnedOn r (r.switchAll true s.controllers) := by
  refine ⟨fun d b c hb hc => ?_, fun d hd => ?_⟩
  · obtain ⟨c', hc', hdrivable⟩ := h d b hb
    rw [hc] at hc'
    cases hc'
    have hb' : s.controllers.get? d = some b := hb
    refine ⟨c.switched b true, ?_, Controller.alike_switched c b true,
      Controller.reported_switched c b true, Controller.isOn_switched hdrivable.bit?⟩
    simp [Registry.get?_switchAll, hc, hb']
  · have hd' : s.controllers.get? d = none := hd
    rw [Registry.get?_switchAll, hd']
    cases r.get? d <;> rfl

theorem TurnedOn.served {r' : Registry} (hon : s.TurnedOn r r') (h : s.Served r) : s.Served r' := by
  intro d b hb
  obtain ⟨c, hc, hdrivable⟩ := h d b hb
  obtain ⟨c', hc', halike, -⟩ := hon.own d b c hb hc
  exact ⟨c', hc', hdrivable.of_alike halike⟩

theorem TurnedOn.idle {r' : Registry} (hon : s.TurnedOn r r') (h : s.Served r)
    {e : DeviceId × ButtonId} (he : e ∈ s.controllers.toList) : r'.changes true e = false := by
  have hb : s.button? e.1 = some e.2 := ByteMap.get?_eq_some_iff.mpr he
  obtain ⟨c, hc, -⟩ := h e.1 e.2 hb
  obtain ⟨c', hc', -, -, hlights⟩ := hon.own e.1 e.2 c hb hc
  simp [Registry.changes, hc', hlights]

theorem activate_of_idle (h : s.Served r)
    (hidle : ∀ e ∈ s.controllers.toList, r.changes true e = false) (o : Outlet χ) :
    ∃ o', s.activate (r, o) = .ok 0 (r, o') ∧ o'.attempts = o.attempts := by
  cases hrun : s.activate (r, o) with
  | error err t =>
    -- It could only stop at a frame, and no light needs one.
    obtain ⟨before, e, later, pre, f, post, hes, hframes, -⟩ := activate_stops h hrun
    have he : e ∈ s.controllers.toList := by simp [hes]
    rw [(Registry.switch_of_not_changes (h.placed he) (hidle e he)).2] at hframes
    simp at hframes
  | ok n t =>
    obtain ⟨hregistry, hattempts, rfl⟩ := (switched_activate hrun).idle hidle
    obtain ⟨r', o'⟩ := t
    cases hregistry
    exact ⟨o', rfl, hattempts⟩

/-- An activation does nothing if a controller is missing or not attached. Where all are there and
nothing is refused, it turns on the scene's light at each of them, writes the lights of those where
it was off, in ascending order, and asks for them; and the next one finds nothing to do, whatever
the channel does. -/
theorem activate_all_or_nothing (s : Scene) (r : Registry) (o : Outlet χ) :
    (∀ d b, s.button? d = some b → (∀ c, r.get? d = some c → c.isBound = false) →
      ∃ e, s.activate (r, o) = .error e (r, o)) ∧
    (s.Served r → Channel.Accepts o.channel →
      ∃ n r' o', s.activate (r, o) = .ok n (r', o') ∧ s.TurnedOn r r' ∧
      o'.attempts = o.attempts ++
        ((s.controllers.toList.filter (r.writes true)).flatMap r'.confirmFrames).map
          (Attempt.mk · true) ∧
      ∀ u : Outlet χ, ∃ u', s.activate (r', u) = .ok 0 (r', u') ∧ u'.attempts = u.attempts) := by
  refine ⟨fun d b hb hunbound => activate_of_missing hb hunbound o, fun hserved ho => ?_⟩
  obtain ⟨n, o', hrun, htook⟩ := s.run_activate ho hserved
  have hon := turnedOn_switchAll hserved
  refine ⟨n, _, o', hrun, hon, ?_, activate_of_idle (hon.served hserved) fun e he =>
    hon.idle hserved he⟩
  have hframes : r.switchAllFrames true s.controllers =
      (s.controllers.toList.filter (r.writes true)).flatMap
        (r.switchAll true s.controllers).confirmFrames := by
    rw [Manager.flatMap_filter_eq]
    refine List.flatMap_congr fun e he => Registry.switchFrames_eq_ite (hserved.placed he) ?_
    have hb : s.controllers.get? e.1 = some e.2 := ByteMap.get?_eq_some_iff.mpr he
    rw [Registry.get?_switchAll, hb]
    rfl
  rw [htook.attempts, hframes]

end

end Scene

namespace Manager

/-- Two keypads are lit, and asked for their lights once. Were they gone, nothing would be done. -/
theorem activate_all_or_nothing_evening :
    ∃ m s, Reachable Directory.Honest m ∧ m.scene? ⟨7, by decide⟩ = some s ∧
      (∃ e, s.activate (ByteMap.empty, Outlet.opened FaultyChannel.sound) =
        .error e (ByteMap.empty, Outlet.opened FaultyChannel.sound)) ∧
      ∃ n r' o', s.activate (m.controllers, Outlet.opened FaultyChannel.sound) = .ok n (r', o') ∧
        s.TurnedOn m.controllers r' ∧
        o'.sent = [.setLights ⟨2⟩ 1, .askLights ⟨2⟩, .setLights ⟨3⟩ 1, .askLights ⟨3⟩] ∧
        ∃ o'', s.activate (r', o') = .ok 0 (r', o'') ∧ o''.attempts = o'.attempts := by
  obtain ⟨m, s, h, hm, hs, hserved, -⟩ := served_evening
  have hsent : ((afterCalls twoKeypads evening).1.scene? ⟨7, by decide⟩).map
      (fun s => (s.button? ⟨2⟩, (s.activate.after
        ((afterCalls twoKeypads evening).1.controllers, .opened FaultyChannel.sound)).2.sent)) =
      some (some ⟨1⟩, [.setLights ⟨2⟩ 1, .askLights ⟨2⟩, .setLights ⟨3⟩ 1, .askLights ⟨3⟩]) := by
    decide +kernel
  rw [← hm, hs, Option.map_some, Option.some.injEq, Prod.mk.injEq] at hsent
  obtain ⟨hbutton, hsent⟩ := hsent
  have hgone :=
    (Scene.activate_all_or_nothing s ByteMap.empty (Outlet.opened FaultyChannel.sound)).1 ⟨2⟩ ⟨1⟩
      hbutton fun c hc => by rw [ByteMap.get?_empty] at hc; cases hc
  obtain ⟨n, r', o', hrun, hon, -, hagain⟩ :=
    (Scene.activate_all_or_nothing s m.controllers (Outlet.opened FaultyChannel.sound)).2 hserved
      accepts_sound
  rw [(Act.run_eq_ok_iff.mp hrun).2] at hsent
  exact ⟨m, s, h, hs, hgone, n, r', o', hrun, hon, hsent, hagain o'⟩

end Manager

end MeshScenes
