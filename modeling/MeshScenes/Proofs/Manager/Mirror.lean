import MeshScenes.Proofs.Manager.Reachable
import MeshScenes.Proofs.Switching

/-!
# Mirroring a report

A report is compared with the one before it, light by light. `mirrored` is what the lights of
another controller become once the first lights of the source are dealt with; since a scene has one
button of a controller and a button one scene, no light is written twice.
-/

namespace MeshScenes.Manager

/-! ## Buttons of one scene -/

/-- A button of `x` and one of `y` trigger the same scene. -/
def Shares (m : Manager) (x : DeviceId) (j : Nat) (y : DeviceId) (i : Nat) : Prop :=
  ∃ id, m.sceneForButton? x (.ofPlace j) = some id ∧ m.sceneForButton? y (.ofPlace i) = some id

instance (m : Manager) (x : DeviceId) (j : Nat) (y : DeviceId) (i : Nat) :
    Decidable (m.Shares x j y i) :=
  decidable_of_iff ((m.sceneForButton? x (.ofPlace j)).isSome ∧
    m.sceneForButton? x (.ofPlace j) = m.sceneForButton? y (.ofPlace i)) <| by
    unfold Shares
    cases m.sceneForButton? x (.ofPlace j) with
    | none => simp
    | some id => simp [eq_comm]

variable {D : Directory → Prop} {m : Manager} {x y : DeviceId}

theorem Coherent.shares_unique (h : m.Coherent D) {i j k : Nat} (hj : j < 8) (hk : k < 8)
    (hij : m.Shares x j y i) (hik : m.Shares x k y i) : j = k := by
  obtain ⟨id, hx, hy⟩ := hij
  obtain ⟨id', hx', hy'⟩ := hik
  rw [hy] at hy'
  cases hy'
  obtain ⟨s, hs, hb⟩ := (h.index_iff _ _ _).mp hx
  obtain ⟨s', hs', hb'⟩ := (h.index_iff _ _ _).mp hx'
  rw [hs] at hs'
  cases hs'
  rw [hb] at hb'
  exact ButtonId.ofPlace_inj hj hk (Option.some.inj hb')

theorem Coherent.bounds (h : m.Coherent D) {id : SceneId} {s : Scene} {b : ButtonId}
    (hs : m.scene? id = some s) (hb : s.button? y = some b) :
    1 ≤ b.byte ∧ b.byte ≤ 8 ∧ b.byte < m.buttonCount := by
  obtain ⟨h1, hn⟩ := h.button id y b ⟨s, hs, hb⟩
  exact ⟨h1, UInt8.le_of_lt (UInt8.lt_of_lt_of_le hn h.count.2), hn⟩

theorem Coherent.place_lt (h : m.Coherent D) {id : SceneId} {s : Scene} {b : ButtonId}
    (hs : m.scene? id = some s) (hb : s.button? y = some b) : b.place < 8 := by
  obtain ⟨h1, h8, -⟩ := h.bounds hs hb
  have := UInt8.le_iff_toNat_le.mp h8
  have : (8 : UInt8).toNat = 8 := rfl
  have := UInt8.le_iff_toNat_le.mp h1
  unfold ButtonId.place
  omega

theorem Coherent.button_iff (h : m.Coherent D) {id : SceneId} {s : Scene} {i : Nat} (hi : i < 8)
    (hs : m.scene? id = some s) :
    m.sceneForButton? y (.ofPlace i) = some id ↔ ∃ b, s.button? y = some b ∧ i = b.place := by
  rw [h.index_iff]
  constructor
  · rintro ⟨s', hs', hb⟩
    rw [hs] at hs'
    cases hs'
    exact ⟨_, hb, (ButtonId.place_ofPlace hi).symm⟩
  · rintro ⟨b, hb, rfl⟩
    obtain ⟨h1, h8, -⟩ := h.bounds hs hb
    rw [ButtonId.ofPlace_place h1 h8]
    exact ⟨s, hs, hb⟩

theorem Coherent.shares_iff (h : m.Coherent D) {id : SceneId} {s : Scene} {j i : Nat} (hi : i < 8)
    (hx : m.sceneForButton? x (.ofPlace j) = some id) (hs : m.scene? id = some s) :
    m.Shares x j y i ↔ ∃ b, s.button? y = some b ∧ i = b.place := by
  rw [← h.button_iff hi hs]
  constructor
  · rintro ⟨id', hx', hy⟩
    rw [hx] at hx'
    cases hx'
    exact hy
  · exact fun hy => ⟨id, hx, hy⟩

/-! ## Lights carried over -/

/-- The lights of `y` once the changes among the first `n` lights of `x` are carried over. -/
def mirrored (m : Manager) (x : DeviceId) (p q : UInt8) (n : Nat) (y : DeviceId) (lights : UInt8) :
    UInt8 :=
  ofLights fun i =>
    match (List.range n).find? fun j => lightAt p j ≠ lightAt q j ∧ m.Shares x j y i with
    | some j => lightAt q j
    | none => lightAt lights i

theorem mirrored_zero (m : Manager) (x y : DeviceId) (p q lights : UInt8) :
    m.mirrored x p q 0 y lights = lights :=
  lightAt_ext fun i hi => by
    unfold mirrored
    rw [lightAt_ofLights _ hi]
    rfl

theorem Coherent.lightAt_mirrored_of_shares (h : m.Coherent D) {p q lights : UInt8} {n i j : Nat}
    (hn : n ≤ 8) (hi : i < 8) (hj : j < n) (hpq : lightAt p j ≠ lightAt q j)
    (hs : m.Shares x j y i) :
    lightAt (m.mirrored x p q n y lights) i = lightAt q j := by
  unfold mirrored
  rw [lightAt_ofLights _ hi]
  cases hf : (List.range n).find? fun j => lightAt p j ≠ lightAt q j ∧ m.Shares x j y i with
  | none =>
    have := List.find?_eq_none.mp hf j (List.mem_range.mpr hj)
    simp [hpq, hs] at this
  | some k =>
    have hk : k < n := List.mem_range.mp (List.mem_of_find?_eq_some hf)
    have hks := List.find?_some hf
    simp only [ne_eq, decide_eq_true_eq] at hks
    rw [h.shares_unique (by omega) (by omega) hs hks.2]

theorem lightAt_mirrored_of_not_shares {p q lights : UInt8} {n i : Nat} (hi : i < 8)
    (hs : ∀ j < n, lightAt p j ≠ lightAt q j → ¬ m.Shares x j y i) :
    lightAt (m.mirrored x p q n y lights) i = lightAt lights i := by
  unfold mirrored
  rw [lightAt_ofLights _ hi]
  have : (List.range n).find? (fun j => lightAt p j ≠ lightAt q j ∧ m.Shares x j y i) = none := by
    rw [List.find?_eq_none]
    intro j hj
    simp only [ne_eq, decide_eq_true_eq, not_and]
    exact hs j (List.mem_range.mp hj)
  rw [this]

theorem mirrored_succ_of_not_shares {p q lights : UInt8} {n : Nat}
    (hs : lightAt p n ≠ lightAt q n → ∀ i < 8, ¬ m.Shares x n y i) :
    m.mirrored x p q (n + 1) y lights = m.mirrored x p q n y lights := by
  refine lightAt_ext fun i hi => ?_
  unfold mirrored
  rw [lightAt_ofLights _ hi, lightAt_ofLights _ hi, List.range_succ, List.find?_append]
  have : List.find? (fun j =>
      decide (lightAt p j ≠ lightAt q j ∧ m.Shares x j y i)) [n] = none := by
    rw [List.find?_eq_none]
    intro j hj
    rw [List.mem_singleton] at hj
    simp only [hj, ne_eq, decide_eq_true_eq, not_and]
    exact fun hpq => hs hpq i hi
  rw [this, Option.or_none]

theorem Coherent.mirrored_succ (h : m.Coherent D) {p q lights : UInt8} {n : Nat} {id : SceneId}
    {s : Scene} {b : ButtonId} (hn : n < 8) (hpq : lightAt p n ≠ lightAt q n)
    (hx : m.sceneForButton? x (.ofPlace n) = some id) (hs : m.scene? id = some s)
    (hb : s.button? y = some b) :
    m.mirrored x p q (n + 1) y lights =
      setLight (m.mirrored x p q n y lights) (b.byte - 1) (lightAt q n) := by
  obtain ⟨h1, h8, -⟩ := h.bounds hs hb
  obtain ⟨hbit, hp, -⟩ := ButtonId.bit?_eq_some (ButtonId.bit?_of_le h1 h8)
  refine lightAt_ext fun i hi => ?_
  rw [lightAt_setLight hbit, hp]
  split
  next hib =>
    exact h.lightAt_mirrored_of_shares (by omega) hi (by omega) hpq
      ((h.shares_iff hi hx hs).mpr ⟨b, hb, hib⟩)
  next hib =>
    have hnot : ¬ m.Shares x n y i := fun hsh => by
      obtain ⟨b', hb', hib'⟩ := (h.shares_iff hi hx hs).mp hsh
      rw [hb] at hb'
      cases hb'
      exact hib hib'
    by_cases hearlier : ∃ j < n, lightAt p j ≠ lightAt q j ∧ m.Shares x j y i
    · obtain ⟨j, hj, hpqj, hshares⟩ := hearlier
      rw [h.lightAt_mirrored_of_shares (by omega) hi (by omega) hpqj hshares,
        h.lightAt_mirrored_of_shares (by omega) hi hj hpqj hshares]
    · have hnone : ∀ j < n, lightAt p j ≠ lightAt q j → ¬ m.Shares x j y i :=
        fun j hj hpqj hshares => hearlier ⟨j, hj, hpqj, hshares⟩
      rw [lightAt_mirrored_of_not_shares hi hnone, lightAt_mirrored_of_not_shares hi]
      intro j hj hpqj
      rcases Nat.lt_succ_iff_lt_or_eq.mp hj with hj | rfl
      · exact hnone j hj hpqj
      · exact hnot

theorem Coherent.lightAt_mirrored_own (h : m.Coherent D) {p q lights : UInt8} {n : Nat}
    {id : SceneId} {s : Scene} {b : ButtonId} (hn : n < 8)
    (hx : m.sceneForButton? x (.ofPlace n) = some id) (hs : m.scene? id = some s)
    (hb : s.button? y = some b) :
    lightAt (m.mirrored x p q n y lights) b.place = lightAt lights b.place := by
  have hplace := h.place_lt hs hb
  refine lightAt_mirrored_of_not_shares hplace fun j hj _ hshares => ?_
  have := h.shares_unique (by omega) hn hshares ((h.shares_iff hplace hx hs).mpr ⟨b, hb, rfl⟩)
  omega

/-! ## One changed light -/

/-- The frames that carry the change of one light of `x` to the other controllers of its scene. -/
def mirrorFrames (m : Manager) (x : DeviceId) (p q : UInt8) (j : Nat) : List OutboundFrame :=
  if lightAt p j = lightAt q j then []
  else match (m.sceneForButton? x (.ofPlace j)).bind m.scene? with
    | none => []
    | some s => s.controllers.toList.flatMap fun (y, b) =>
      if y = x then []
      else match m.controllers.get? y with
        | some c =>
          if c.supportsIndicator ∧ lightAt c.indicator b.place ≠ lightAt q j then
            [.setLights y (m.mirrored x p q (j + 1) y c.indicator), .askLights y]
          else []
        | none => []

/-- The manager `k` came out of `m` by taking over a report of `x` and carrying over the changes
among its first `n` lights. -/
structure Mirroring (m : Manager) (x : DeviceId) (p q : UInt8) (source : Controller) (n : Nat)
    (k : Manager) : Prop where
  config : k = { m with controllers := k.controllers }
  source : k.controllers.get? x = some source
  others : ∀ y c, y ≠ x → m.controllers.get? y = some c →
    ∃ d, k.controllers.get? y = some d ∧ c.Alike d ∧ d.reported = c.reported ∧
      d.indicator = m.mirrored x p q n y c.indicator

theorem Mirroring.scene? {p q : UInt8} {c : Controller} {n : Nat} {k : Manager}
    (h : m.Mirroring x p q c n k) (id : SceneId) :
    k.scene? id = m.scene? id := by rw [h.config]; rfl

theorem Coherent.drivable (h : m.Coherent D) {id : SceneId} {s : Scene} {b : ButtonId}
    {c d : Controller} (hs : m.scene? id = some s) (hb : s.button? y = some b)
    (hc : m.controllers.get? y = some c) (hd : c.Alike d) :
    Registry.Drivable d b := by
  obtain ⟨-, hbound, hcount⟩ := h.controller y c hc
  obtain ⟨h1, -, hn⟩ := h.bounds hs hb
  refine Registry.Drivable.of_alike ⟨hbound, ?_, ?_⟩ hd
  · unfold Controller.acceptsButton
    rw [hcount]
    simpa using ⟨h1, hn⟩
  · rw [hcount]
    exact h.count.2

variable {χ : Type} [Channel χ]

theorem flatMap_filter_eq {α β : Type} (p : α → Bool) (f : α → List β) (l : List α) :
    (l.filter p).flatMap f = l.flatMap fun a => if p a then f a else [] := by
  induction l with
  | nil => rfl
  | cons a l ih =>
    by_cases hp : p a = true
    · simp [hp, ih]
    · simp [hp, ih]

section
variable {p q : UInt8} {source : Controller} {n : Nat} {k : Manager} {id : SceneId} {s : Scene}

theorem Coherent.switchAllFrames_eq (h : m.Coherent D) (hk : m.Mirroring x p q source n k)
    (hn : n < 8) (hpq : lightAt p n ≠ lightAt q n) (hx : m.sceneForButton? x (.ofPlace n) = some id)
    (hs : m.scene? id = some s) :
    k.controllers.switchAllFrames (lightAt q n) (s.controllers.erase x) =
      m.mirrorFrames x p q n := by
  unfold mirrorFrames Registry.switchAllFrames
  rw [if_neg hpq, hx]
  simp only [Option.bind_some, hs, Scene.toList_erase, flatMap_filter_eq]
  refine List.flatMap_congr fun e he => ?_
  by_cases hne : e.1 = x
  · simp [hne]
  · have hb : s.button? e.1 = some e.2 := ByteMap.get?_eq_some_iff.mpr he
    obtain ⟨c, hc⟩ := h.registered hs hb
    obtain ⟨d, hd, halike, -, hlights⟩ := hk.others e.1 c hne hc
    obtain ⟨h1, h8, -⟩ := h.bounds hs hb
    have hdevice : d.device = e.1 := halike.device.trans (h.controller e.1 c hc).1
    have hown : lightAt d.indicator e.2.place = lightAt c.indicator e.2.place := by
      rw [hlights, h.lightAt_mirrored_own hn hx hs hb]
    simp only [hne, hc, Registry.switchFrames, hd, Controller.switchFrames, hown,
      halike.supportsIndicator, hdevice, Controller.indicator_switched (ButtonId.bit?_of_le h1 h8)]
    rw [hlights, ← h.mirrored_succ hn hpq hx hs hb]
    by_cases hl : lightAt c.indicator e.2.place = lightAt q n
    · simp [hl]
    · simp [hl, hne]

theorem Coherent.mirroring_succ (h : m.Coherent D) (hk : m.Mirroring x p q source n k) (hn : n < 8)
    (hpq : lightAt p n ≠ lightAt q n) (hx : m.sceneForButton? x (.ofPlace n) = some id)
    (hs : m.scene? id = some s) :
    m.Mirroring x p q source (n + 1)
      { k with controllers := k.controllers.switchAll (lightAt q n) (s.controllers.erase x) } := by
  refine ⟨by rw [hk.config], ?_, fun y c hne hc => ?_⟩
  · rw [Registry.get?_switchAll, hk.source, ByteMap.get?_erase]
    simp
  · obtain ⟨d, hd, halike, hreported, hlights⟩ := hk.others y c hne hc
    simp only [Registry.get?_switchAll, hd, ByteMap.get?_erase, hne, ite_false]
    cases hb : s.controllers.get? y with
    | none =>
      refine ⟨d, rfl, halike, hreported, ?_⟩
      rw [hlights, mirrored_succ_of_not_shares]
      intro _ i hi hshares
      obtain ⟨b', hb', -⟩ := (h.shares_iff hi hx hs).mp hshares
      rw [Scene.button?, hb] at hb'
      cases hb'
    | some b =>
      refine ⟨_, rfl, halike.trans (Controller.alike_switched d b _),
        (Controller.reported_switched d b _).trans hreported, ?_⟩
      obtain ⟨h1, h8, -⟩ := h.bounds hs hb
      simp only [Option.map_some, Option.getD_some]
      rw [Controller.indicator_switched (ButtonId.bit?_of_le h1 h8), hlights,
        h.mirrored_succ hn hpq hx hs hb]

theorem Coherent.run_syncScene (h : m.Coherent D) {o : Outlet χ} (hk : m.Mirroring x p q source n k)
    (hn : n < 8) (hpq : lightAt p n ≠ lightAt q n) (hx : m.sceneForButton? x (.ofPlace n) = some id)
    (ho : Channel.Accepts o.channel) :
    ∃ k' o', syncScene x id (.ofPlace n) (lightAt q n) (k, o) = .ok () (k', o') ∧
      Outlet.Took (m.mirrorFrames x p q n) o o' ∧ m.Mirroring x p q source (n + 1) k' := by
  obtain ⟨s, hs, hb⟩ := (h.index_iff _ _ _).mp hx
  have hdrivable : ∀ y b d, y ≠ x → s.button? y = some b → k.controllers.get? y = some d →
      Registry.Drivable d b := by
    intro y b d hne hy hd
    obtain ⟨c, hc⟩ := h.registered hs hy
    obtain ⟨d', hd', halike, -, -⟩ := hk.others y c hne hc
    rw [hd] at hd'
    cases hd'
    exact h.drivable hs hy hc halike
  let noted := o.note (.debug "indicator changed" [
    ("source", .show x), ("button", .show (ButtonId.ofPlace n)), ("on", .flag (lightAt q n)),
      ("scene", .show id)])
  obtain ⟨a, o', hrun, htook⟩ := s.run_sync x (lightAt q n) (o := noted) ho hdrivable
  rw [h.switchAllFrames_eq hk hn hpq hx hs] at htook
  refine ⟨_, o', ?_, ⟨htook.channel, htook.attempts⟩, h.mirroring_succ hk hn hpq hx hs⟩
  have hbound : s.isBoundTo x (.ofPlace n) = true := by simp [Scene.isBoundTo, hb]
  unfold syncScene
  rw [Act.run_bind, Act.run_subject]
  simp only [hk.scene?, hs, hbound, ite_true]
  rw [Act.run_bind, Act.run_note]
  simp only
  rw [Act.run_bind, Act.run_outcome, run_onControllers]
  simp only [noted] at hrun
  simp only [hrun]
  rfl

end

/-! ## A whole report -/

/-- Whatever holds of the first `n` lights for every `n`: lights without a change to carry over keep
it, and so does carrying one over. -/
theorem run_transitions {p q : UInt8} {buttons : ByteMap ButtonId SceneId}
    (hx : m.index.get? x = some buttons) {I : Nat → Manager → Outlet χ → Prop}
    (skip : ∀ n k o, I n k o →
      (lightAt p n ≠ lightAt q n → m.sceneForButton? x (.ofPlace n) = none) → I (n + 1) k o)
    (step : ∀ n k o id, n < 8 → I n k o → lightAt p n ≠ lightAt q n →
      m.sceneForButton? x (.ofPlace n) = some id →
      ∃ k' o', syncScene x id (.ofPlace n) (lightAt q n) (k, o) = .ok () (k', o') ∧ I (n + 1) k' o')
    {k : Manager} {o : Outlet χ} (start : I 0 k o) :
    ∃ k' o', ((transitions buttons p q).forM fun e => syncScene x e.1 e.2.1 e.2.2) (k, o) =
      .ok () (k', o') ∧
      I 8 k' o' := by
  have run : ∀ l n, n + l = 8 → ∀ k o, I n k o → ∃ k' o',
      (((List.range' n l).filterMap fun j =>
        if lightAt p j = lightAt q j then none
        else (buttons.get? (.ofPlace j)).map fun id =>
          (id, ButtonId.ofPlace j, lightAt q j)).forM fun e =>
          syncScene x e.1 e.2.1 e.2.2) (k, o) = .ok () (k', o') ∧ I 8 k' o' := by
    -- over the `l` places that are left from place `n` on
    intro l
    induction l with
    | zero =>
      intro n hn k o hk
      have : n = 8 := hn
      subst this
      exact ⟨k, o, rfl, hk⟩
    | succ l ih =>
      intro n hn k o hk
      have hfor : buttons.get? (.ofPlace n) = m.sceneForButton? x (.ofPlace n) := by
        unfold sceneForButton?
        rw [hx]
        rfl
      rw [List.range'_succ, List.filterMap_cons]
      by_cases hpq : lightAt p n = lightAt q n
      · rw [if_pos hpq]
        exact ih (n + 1) (by omega) k o (skip n k o hk fun hne => absurd hpq hne)
      · rw [if_neg hpq, hfor]
        cases hid : m.sceneForButton? x (.ofPlace n) with
        | none => exact ih (n + 1) (by omega) k o (skip n k o hk fun _ => hid)
        | some id =>
          obtain ⟨k₁, o₁, hrun, hk₁⟩ := step n k o id (by omega) hk hpq hid
          obtain ⟨k₂, o₂, hrun', hk₂⟩ := ih (n + 1) (by omega) k₁ o₁ hk₁
          refine ⟨k₂, o₂, ?_, hk₂⟩
          simp only [Option.map_some]
          rw [List.forM_eq_forM, List.forM_cons, Act.run_bind, hrun]
          exact hrun'
  rw [transitions_eq, List.range_eq_range']
  exact run 8 0 rfl k o start

theorem mirrorFrames_of_unused {p q : UInt8} {n : Nat}
    (hn : lightAt p n ≠ lightAt q n → m.sceneForButton? x (.ofPlace n) = none) :
    m.mirrorFrames x p q n = [] := by
  unfold mirrorFrames
  by_cases hpq : lightAt p n = lightAt q n
  · rw [if_pos hpq]
  · rw [if_neg hpq, hn hpq]
    rfl

theorem Mirroring.skip {p q : UInt8} {source : Controller} {n : Nat} {k : Manager}
    (hk : m.Mirroring x p q source n k)
    (hn : lightAt p n ≠ lightAt q n → m.sceneForButton? x (.ofPlace n) = none) :
    m.Mirroring x p q source (n + 1) k := by
  refine ⟨hk.config, hk.source, fun y c hne hc => ?_⟩
  obtain ⟨d, hd, halike, hreported, hlights⟩ := hk.others y c hne hc
  refine ⟨d, hd, halike, hreported, ?_⟩
  rw [hlights, mirrored_succ_of_not_shares]
  rintro hpq i - ⟨id, hid, -⟩
  rw [hn hpq] at hid
  cases hid

theorem Coherent.run_mirroring (h : m.Coherent D) {p q : UInt8} {source : Controller}
    {buttons : ByteMap ButtonId SceneId} (hx : m.index.get? x = some buttons) {k : Manager}
    {o : Outlet χ} (hk : m.Mirroring x p q source 0 k) (ho : Channel.Accepts o.channel) :
    ∃ k' o', ((transitions buttons p q).forM fun e => syncScene x e.1 e.2.1 e.2.2) (k, o) =
      .ok () (k', o') ∧
      Outlet.Took ((List.range 8).flatMap (m.mirrorFrames x p q)) o o' ∧
      m.Mirroring x p q source 8 k' := by
  refine run_transitions hx
    (I := fun n k' o' => Outlet.Took ((List.range n).flatMap (m.mirrorFrames x p q)) o o' ∧
      m.Mirroring x p q source n k') ?_ ?_ ⟨⟨rfl, (List.append_nil _).symm⟩, hk⟩
  · rintro n k' o' ⟨htook, hk'⟩ hn
    refine ⟨?_, hk'.skip hn⟩
    rw [List.range_succ, List.flatMap_append, List.flatMap_singleton, mirrorFrames_of_unused hn,
      List.append_nil]
    exact htook
  · rintro n k' o' id hn ⟨htook, hk'⟩ hpq hid
    obtain ⟨k₁, o₁, hrun, htook', hk₁⟩ := h.run_syncScene hk' hn hpq hid (htook.accepts ho)
    refine ⟨k₁, o₁, hrun, ?_, hk₁⟩
    rw [List.range_succ, List.flatMap_append, List.flatMap_singleton]
    exact htook.trans htook'

theorem Coherent.run_handleIndicator (h : m.Coherent D) {c : Controller}
    {buttons : ByteMap ButtonId SceneId} (hx : m.index.get? x = some buttons)
    (hc : m.controllers.get? x = some c) (q : UInt8) {o : Outlet χ}
    (ho : Channel.Accepts o.channel) :
    ∃ k o', handleIndicator x q (m, o) = .ok () (k, o') ∧
      match c.reported with
      | none => Outlet.Took [] o o' ∧
          k = { m with controllers := m.controllers.insert x (c.handleReport q).1 }
      | some p => Outlet.Took ((List.range 8).flatMap (m.mirrorFrames x p q)) o o' ∧
          m.Mirroring x p q (c.handleReport q).1 8 k := by
  unfold handleIndicator
  rw [Act.run_bind, Act.run_subject]
  simp only [hx, hc]
  rw [Act.run_bind, Act.run_replace]
  simp only
  have hprevious : (c.handleReport q).2 = c.reported := rfl
  rw [hprevious]
  cases c.reported with
  | none => exact ⟨_, _, rfl, Outlet.took_note o _, rfl⟩
  | some p =>
    have start : m.Mirroring x p q (c.handleReport q).1 0
        { m with controllers := m.controllers.insert x (c.handleReport q).1 } := by
      refine ⟨rfl, ?_, fun y d hne hd => ?_⟩
      · rw [ByteMap.get?_insert, if_pos rfl]
      · refine ⟨d, ?_, Controller.Alike.refl d, rfl, (mirrored_zero m x y p q _).symm⟩
        rw [ByteMap.get?_insert, if_neg hne, hd]
    exact h.run_mirroring hx start ho

end MeshScenes.Manager
