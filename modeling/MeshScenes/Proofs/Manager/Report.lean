import MeshScenes.Proofs.Manager.Mirror

/-!
# What a report of lights does

The source of a report is never written to, whatever the channel does; where the channel refuses
nothing, the lights of all other controllers and the frames they are sent are known exactly.
-/

namespace MeshScenes

/-! ## No echo -/

section
variable {χ : Type}

/-- Nothing is sent to `x`, as long as controllers are registered under their devices. -/
def Registry.Spares (x : DeviceId) (s t : Registry × Outlet χ) : Prop :=
  (∀ d c, s.1.get? d = some c → c.device = d) →
    (∀ d c, t.1.get? d = some c → c.device = d) ∧
      ∃ as, t.2.attempts = s.2.attempts ++ as ∧ ∀ a ∈ as, a.frame.destination ≠ x

instance (x : DeviceId) : IsPreorder (Registry × Outlet χ) (Registry.Spares x) where
  refl _ h := ⟨h, [], (List.append_nil _).symm, by simp⟩
  trans s t u hst htu h := by
    obtain ⟨ht, as, has, hasx⟩ := hst h
    obtain ⟨hu, bs, hbs, hbsx⟩ := htu ht
    refine ⟨hu, as ++ bs, by rw [hbs, has, List.append_assoc], fun a ha => ?_⟩
    rcases List.mem_append.mp ha with ha | ha
    · exact hasx a ha
    · exact hbsx a ha

theorem Registry.spares_note (x : DeviceId) (e : Journal.Entry) :
    (Act.note e : Act Registry χ Unit).Moves (Spares x) :=
  fun _ h => ⟨h, [], (List.append_nil _).symm, by simp⟩

variable [Channel χ]

theorem Registry.spares_setButton {x d : DeviceId} (hd : d ≠ x) (b : ButtonId) (on : Bool) :
    (setButton d b on : Act Registry χ Bool).Moves (Spares x) := by
  intro s h
  rcases after_setButton on d b s with hafter | ⟨c, es, hc, -, hafter⟩
  · rw [hafter]
    exact refl_of (Spares x) s h
  · have hdevice : (c.switched b on).device = d :=
      (Controller.alike_switched c b on).device.trans (h d c hc)
    obtain ⟨as, has, hmem⟩ := Outlet.attempts_sendAll (s.2.noted es) (c.switchFrames b on)
    rw [hafter]
    refine ⟨fun e y hy => ?_, as, has, fun a ha => ?_⟩
    · rw [ByteMap.get?_insert] at hy
      split at hy
      next he => cases hy; rw [he, hdevice]
      next => exact h e y hy
    · rw [Controller.destination_switchFrames (hmem a ha), h d c hc]
      exact hd

end

namespace Manager

variable {χ : Type} [Channel χ] {D : Directory → Prop}

theorem Coherent.spares_handleIndicator {m : Manager} (h : m.Coherent D) {x : DeviceId}
    (hi : m.index.contains x = true) {c : Controller} (hc : m.controllers.get? x = some c)
    (q : UInt8) (o : Outlet χ) :
    ∃ as, ((handleIndicator x q).after (m, o)).2.attempts = o.attempts ++ as ∧
      ∀ a ∈ as, a.frame.destination ≠ x := by
  have hthrough :
      Through (Registry.Spares x) (m.reported x c q, o) ((handleIndicator x q).after (m, o)) :=
    through_handleIndicator (fun s e => Registry.spares_note x e s)
      (fun _ on _ _ _ d b _ hd => Registry.spares_setButton hd b on)
      (s := (m, o)) hi hc
  refine (hthrough.2 fun d y hy => ?_).2
  change (m.controllers.insert x (c.handleReport q).1).get? d = some y at hy
  rw [ByteMap.get?_insert] at hy
  split at hy
  next hd => cases hy; rw [hd]; exact (h.controller x c hc).1
  next => exact (h.controller d y hy).1

/-! ## The exact effect -/

/-- What a report of an indexed controller does. Through a channel that refuses nothing, it is taken
over, each light of another controller follows a changed light of the same scene, and the frames are
those that switch a light; through any channel, the source is sent nothing. -/
theorem report_mirrored {m : Manager} (h : Reachable D m) {x : DeviceId}
    {buttons : ByteMap ButtonId SceneId} (hx : m.index.get? x = some buttons) (q : UInt8)
    (o : Outlet χ) :
    ∃ c, m.controllers.get? x = some c ∧
      (Channel.Accepts o.channel → ∃ k o', handleEvent ⟨x, .indicator q⟩ (m, o) = .ok () (k, o') ∧
        (∃ d, k.controllers.get? x = some d ∧ d.indicator = q ∧ d.reported = some q ∧
          d.state = .boundValid) ∧
        match c.reported with
        | none =>
          o'.attempts = o.attempts ∧ ∀ y, y ≠ x → k.controllers.get? y = m.controllers.get? y
        | some p =>
          o'.attempts = o.attempts ++
            ((List.range 8).flatMap (m.mirrorFrames x p q)).map (Attempt.mk · true) ∧
            ∀ y e, y ≠ x → m.controllers.get? y = some e →
            ∃ d, k.controllers.get? y = some d ∧ ∀ i < 8,
              (∀ j < 8, lightAt p j ≠ lightAt q j → m.Shares x j y i →
                lightAt d.indicator i = lightAt q j) ∧
              ((∀ j < 8, lightAt p j ≠ lightAt q j → ¬ m.Shares x j y i) →
                lightAt d.indicator i = lightAt e.indicator i)) ∧
      ∃ as, ((handleEvent ⟨x, .indicator q⟩).after (m, o)).2.attempts = o.attempts ++ as ∧
        ∀ a ∈ as, a.frame.destination ≠ x := by
  have hm := h.coherent
  have hi : m.index.contains x = true := ByteMap.contains_iff.mpr ⟨buttons, hx⟩
  have hindexed : m.controllers.contains x = true := by
    rw [(hm.keyed x).1, ← (hm.keyed x).2]
    exact hi
  obtain ⟨c, hc⟩ := ByteMap.contains_iff.mp hindexed
  obtain ⟨-, hbound, -⟩ := hm.controller x c hc
  refine ⟨c, hc, fun ho => ?_, hm.spares_handleIndicator hi hc q o⟩
  obtain ⟨k, o', hrun, hend⟩ := hm.run_handleIndicator hx hc q ho
  have hvalid : (c.handleReport q).1.state = .boundValid := by
    unfold Controller.handleReport
    rw [if_pos hbound]
  refine ⟨k, o', hrun, ?_⟩
  -- a first report has nothing to be compared with, and so nothing is carried over
  cases hp : c.reported with
  | none =>
    rw [hp] at hend
    obtain ⟨htook, rfl⟩ := hend
    refine ⟨⟨_, by rw [ByteMap.get?_insert, if_pos rfl], rfl, rfl, hvalid⟩, ?_, fun y hy => ?_⟩
    · rw [htook.attempts, List.map_nil, List.append_nil]
    · rw [ByteMap.get?_insert, if_neg hy]
  | some p =>
    rw [hp] at hend
    obtain ⟨htook, hk⟩ := hend
    refine ⟨⟨_, hk.source, rfl, rfl, hvalid⟩, htook.attempts, fun y e hy he => ?_⟩
    obtain ⟨d, hd, -, -, hlights⟩ := hk.others y e hy he
    refine ⟨d, hd, fun i hi => ⟨fun j hj hpq hs => ?_, fun hs => ?_⟩⟩
    · rw [hlights]
      exact hm.lightAt_mirrored_of_shares (Nat.le_refl 8) hi hj hpq hs
    · rw [hlights]
      exact lightAt_mirrored_of_not_shares hi hs

theorem accepts_sound : Channel.Accepts FaultyChannel.sound := by
  have stays : ∀ fs, Channel.sendAll fs FaultyChannel.sound = FaultyChannel.sound := by
    intro fs
    induction fs with
    | nil => rfl
    | cons f fs ih => exact ih
  intro fs f
  rw [stays]
  rfl

theorem report_mirrored_evening :
    ∃ m k o', Reachable Directory.Honest m ∧
      handleEvent ⟨⟨2⟩, .indicator 1⟩ (m, Outlet.opened FaultyChannel.sound) = .ok () (k, o') ∧
      o'.attempts = [⟨.setLights ⟨3⟩ 1, true⟩, ⟨.askLights ⟨3⟩, true⟩] := by
  let s := (handleEvent ⟨⟨2⟩, .indicator 0⟩).after (afterCalls twoKeypads evening)
  have h : Reachable Directory.Honest s.1 :=
    (reachable_afterCalls honest_twoKeypads evening).event _ _
  have hx : ∃ buttons, s.1.index.get? ⟨2⟩ = some buttons :=
    ByteMap.contains_iff.mp (by decide +kernel)
  have hp : (s.1.controllers.get? ⟨2⟩).map (·.reported) = some (some 0) := by decide +kernel
  have hframes : (List.range 8).flatMap (s.1.mirrorFrames ⟨2⟩ 0 1) =
      [.setLights ⟨3⟩ 1, .askLights ⟨3⟩] := by
    decide +kernel
  obtain ⟨buttons, hx⟩ := hx
  obtain ⟨c, hc, hrun, -⟩ := report_mirrored h hx 1 (Outlet.opened FaultyChannel.sound)
  obtain ⟨k, o', hrun, -, hend⟩ := hrun accepts_sound
  have hc' : c.reported = some 0 := by
    rw [hc] at hp
    exact Option.some.inj hp
  rw [hc'] at hend
  simp only [hframes] at hend
  exact ⟨s.1, k, o', h, hrun, hend.1⟩

end Manager

end MeshScenes
