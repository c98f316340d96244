import MeshScenes.Manager.Routing
import MeshScenes.Proofs.Planning
import MeshScenes.Proofs.Registry

/-!
# Traffic and configuration

Programming, activating, refreshing and received frames change what the manager knows of lights and
nothing else: scenes, index and the set of controllers stay.
-/

namespace MeshScenes

namespace Act

variable {σ χ α : Type}

theorem Moves.mono {R R' : σ × Outlet χ → σ × Outlet χ → Prop} {x : Act σ χ α} (hx : x.Moves R)
    (h : ∀ s t, R s t → R' s t) : x.Moves R' := fun s => h _ _ (hx s)

theorem run_discard (x : Act σ χ α) (s : σ × Outlet χ) :
    (discard x : Act σ χ Unit) s = match x s with
      | .ok _ t => .ok () t
      | .error e t => .error e t := by
  show EStateM.map (Function.const α PUnit.unit) x s = _
  unfold EStateM.map
  cases x s <;> rfl

theorem ends_discard {x : Act σ χ α} {s : σ × Outlet χ}
    {post : Except Error Unit → σ × Outlet χ → Prop} :
    Ends (discard x) s post ↔ x.Ends s fun r t => post (r.map fun _ => ()) t := by
  unfold Ends
  rw [run_discard]
  cases x s <;> exact Iff.rfl

theorem after_discard (x : Act σ χ α) (s : σ × Outlet χ) :
    (discard x : Act σ χ Unit).after s = x.after s := by
  unfold after
  rw [run_discard]
  cases x s <;> rfl

theorem moves_discard {R : σ × Outlet χ → σ × Outlet χ → Prop} {x : Act σ χ α} (hx : x.Moves R) :
    Moves R (discard x : Act σ χ Unit) := by
  intro s
  rw [after_discard]
  exact hx s

end Act

namespace Manager

/-- Managers of the same configuration. -/
def Alike (m n : Manager) : Prop :=
  n = { m with controllers := n.controllers } ∧ m.controllers.Alike n.controllers

theorem alike_refl (m : Manager) : m.Alike m := ⟨rfl, Registry.alike_refl _⟩

theorem Alike.trans {m n k : Manager} (h : m.Alike n) (h' : n.Alike k) : m.Alike k := by
  refine ⟨?_, h.2.trans h'.2⟩
  rw [h'.1, h.1]

theorem Alike.scenes {m n : Manager} (h : m.Alike n) : n.scenes = m.scenes := by rw [h.1]

theorem Alike.index {m n : Manager} (h : m.Alike n) : n.index = m.index := by rw [h.1]

theorem Alike.buttonCount {m n : Manager} (h : m.Alike n) :
    n.buttonCount = m.buttonCount := by rw [h.1]

theorem Alike.scene? {m n : Manager} (h : m.Alike n) (id : SceneId) :
    n.scene? id = m.scene? id := by
  unfold Manager.scene?
  rw [h.scenes]

theorem Alike.sceneForButton? {m n : Manager} (h : m.Alike n) (c : DeviceId) (b : ButtonId) :
    n.sceneForButton? c b = m.sceneForButton? c b := by
  unfold Manager.sceneForButton?
  rw [h.index]

theorem alike_controllers {m : Manager} {r : Registry} (h : m.controllers.Alike r) :
    m.Alike { m with controllers := r } := ⟨rfl, h⟩

/-! ## Operations on controllers -/

variable {χ : Type}

/-- The configuration stays, and the controllers and the outlet are related by `R`. -/
def Through (R : Registry × Outlet χ → Registry × Outlet χ → Prop) (s t : Manager × Outlet χ) :
    Prop :=
  t.1 = { s.1 with controllers := t.1.controllers } ∧
    R (s.1.controllers, s.2) (t.1.controllers, t.2)

section
variable {R : Registry × Outlet χ → Registry × Outlet χ → Prop} [IsPreorder _ R]

instance : IsPreorder (Manager × Outlet χ) (Through R) where
  refl _ := ⟨rfl, refl_of R _⟩
  trans _ _ _ h h' := ⟨by rw [h'.1, h.1], trans_of R h.2 h'.2⟩

omit [IsPreorder _ R] in
theorem through_note (hnote : ∀ s e, R s (s.1, s.2.note e)) (e : Journal.Entry) :
    (Act.note e : Act Manager χ Unit).Moves (Through R) := fun _ => ⟨rfl, hnote _ e⟩

theorem run_onControllers {α : Type} (x : Act Registry χ α) (s : Manager × Outlet χ) :
    onControllers x s = match x (s.1.controllers, s.2) with
      | .ok a t => .ok a ({ s.1 with controllers := t.1 }, t.2)
      | .error e t => .error e ({ s.1 with controllers := t.1 }, t.2) := by
  unfold onControllers
  rw [Act.run_bind, Act.run_subject]
  unfold Act.within
  cases h : x (s.1.controllers, s.2) <;> simp only [h]

theorem ends_onControllers {α : Type} {x : Act Registry χ α} {s : Manager × Outlet χ}
    {post : Except Error α → Manager × Outlet χ → Prop} :
    (onControllers x).Ends s post ↔
      x.Ends (s.1.controllers, s.2) fun r t => post r ({ s.1 with controllers := t.1 }, t.2) := by
  unfold onControllers
  rw [Act.ends_bind, Act.ends_subject]
  exact Act.ends_within

omit [IsPreorder _ R] in
theorem through_onControllers {α : Type} {x : Act Registry χ α} (hx : x.Moves R) :
    (onControllers x).Moves (Through R) := by
  refine Act.moves_iff_ends.mpr fun s => ends_onControllers.mpr (Act.ends_iff.mpr ?_)
  exact ⟨rfl, hx (s.1.controllers, s.2)⟩

theorem through_sceneNamed (id : SceneId) :
    (sceneNamed id : Act Manager χ Scene).Moves (Through R) := by
  unfold sceneNamed
  refine Act.moves_bind Act.moves_subject fun m => ?_
  split
  · exact Act.moves_pure _
  · exact Act.moves_throw _

variable [Channel χ]

theorem commandClass_plan {s : Scene} {r : Registry} {coordinator : DeviceId} {plan : Plan}
    (h : s.plan r coordinator = .ok plan) :
    (∀ e ∈ plan.resets, e.2.commandClass ≠ .indicator) ∧
      (∀ e ∈ plan.grouped, e.2.commandClass ≠ .indicator) ∧
      (∀ e ∈ plan.controllers, e.2.commandClass ≠ .indicator) ∧
      ∀ e ∈ plan.capable, e.2.commandClass ≠ .indicator := by
  have : ∃ cs, plan = s.planFor cs coordinator := by
    rcases s.plan_spec r coordinator with ⟨cs, hplan, -⟩ | ⟨e, hplan, -⟩
    · rw [h] at hplan
      exact ⟨cs, Except.ok.inj hplan⟩
    · rw [h] at hplan
      cases hplan
  obtain ⟨cs, rfl⟩ := this
  refine ⟨fun e he => ?_, fun e he => ?_, fun e he => ?_, fun e he => ?_⟩
  · obtain ⟨c, -, rfl⟩ := List.mem_map.mp he
    exact fun h => by cases h
  · obtain ⟨l, -, he⟩ := List.mem_flatMap.mp he
    obtain ⟨c, -, he⟩ := List.mem_flatMap.mp he
    rcases List.mem_pair.mp he with rfl | rfl <;> exact fun h => by cases h
  · obtain ⟨c, -, he⟩ := List.mem_flatMap.mp he
    rcases List.mem_pair.mp he with rfl | rfl <;> exact fun h => by cases h
  · obtain ⟨c, -, rfl⟩ := List.mem_map.mp he
    exact fun h => by cases h

theorem through_program (hnote : ∀ s e, R s (s.1, s.2.note e))
    (hsend : ∀ s f, f.commandClass ≠ .indicator → R s (s.1, (s.2.send f).2)) (id : SceneId) :
    (programScene id : Act Manager χ ProgramSummary).Moves (Through R) := by
  have note : ∀ e, (Act.note e : Act Manager χ Unit).Moves (Through R) := through_note hnote
  have requests : ∀ rs : List (DeviceId × Request), (∀ r ∈ rs, r.2.commandClass ≠ .indicator) →
      (Act.requests rs : Act Manager χ Unit).Moves (Through R) := fun rs hrs =>
    Act.moves_requests fun r hr f hf s =>
      ⟨rfl, hsend (s.1.controllers, s.2) f (by rw [Request.commandClass_frame hf]; exact hrs r hr)⟩
  refine Act.moves_bind (through_sceneNamed id) fun s =>
    Act.moves_bind Act.moves_subject fun m => ?_
  unfold Scene.program
  refine Act.moves_bind_of fun plan hplan => ?_
  obtain ⟨h1, h2, h3, h4⟩ := commandClass_plan hplan
  refine Act.moves_bind (requests _ h1) fun _ => Act.moves_bind (note _) fun _ => ?_
  refine Act.moves_bind (requests _ h2) fun _ => Act.moves_bind (note _) fun _ => ?_
  refine Act.moves_bind (requests _ h3) fun _ => Act.moves_bind (note _) fun _ => ?_
  exact Act.moves_bind (requests _ h4) fun _ => Act.moves_bind (note _) fun _ => Act.moves_pure _

theorem moves_activate (hnote : ∀ s e, R s (s.1, s.2.note e)) (s : Scene)
    (hset : ∀ d b, s.button? d = some b → (Registry.setButton d b true).Moves R) :
    (s.activate : Act Registry χ Nat).Moves R := by
  have note : ∀ e, (Act.note e : Act Registry χ Unit).Moves R := fun e t => hnote t e
  unfold Scene.activate
  split
  · exact Act.moves_bind (note _) fun _ => Act.moves_pure _
  · refine Act.moves_bind Act.moves_subject fun r => Act.moves_bind (Act.moves_of _) fun _ => ?_
    refine Act.moves_bind (Act.moves_foldlM (fun e he n => ?_) 0) fun n => ?_
    · have hb : s.button? e.1 = some e.2 := ByteMap.get?_eq_some_iff.mpr he
      exact Act.moves_bind (hset e.1 e.2 hb) fun _ => Act.moves_pure _
    · exact Act.moves_bind (note _) fun _ => Act.moves_pure _

theorem moves_sync (hnote : ∀ s e, R s (s.1, s.2.note e)) {origin : DeviceId} (s : Scene)
    (on : Bool)
    (hset : ∀ d b, s.button? d = some b → d ≠ origin → (Registry.setButton d b on).Moves R) :
    (s.sync origin on : Act Registry χ Nat).Moves R := by
  have note : ∀ e, (Act.note e : Act Registry χ Unit).Moves R := fun e t => hnote t e
  unfold Scene.sync
  refine Act.moves_bind (Act.moves_foldlM (fun e he n => ?_) 0) fun n => ?_
  · obtain ⟨he, hne⟩ := List.mem_filter.mp he
    have hb : s.button? e.1 = some e.2 := ByteMap.get?_eq_some_iff.mpr he
    refine Act.moves_bind Act.moves_subject fun r => ?_
    split
    · exact Act.moves_bind (hset e.1 e.2 hb (by simpa using hne)) fun _ => Act.moves_pure _
    · exact Act.moves_bind (note _) fun _ => Act.moves_pure _
  · exact Act.moves_bind (note _) fun _ => Act.moves_pure _

theorem through_activateScene (hnote : ∀ s e, R s (s.1, s.2.note e)) {id : SceneId}
    {s : Manager × Outlet χ}
    (hset : ∀ sc, s.1.scene? id = some sc → ∀ d b, sc.button? d = some b →
      (Registry.setButton d b true).Moves R) :
    Through R s ((activateScene id).after s) := by
  have key : (activateScene id : Act Manager χ Nat).Ends s fun _ t => Through R s t := by
    unfold activateScene sceneNamed
    rw [Act.ends_bind, Act.ends_bind, Act.ends_subject]
    cases hs : s.1.scene? id with
    | none =>
      simp only [hs]
      exact refl_of (Through R) s
    | some sc =>
      simp only [hs]
      show (onControllers sc.activate : Act Manager χ Nat).Ends s fun _ t => Through R s t
      exact Act.ends_iff.mpr (through_onControllers (moves_activate hnote sc (hset sc hs)) s)
  exact Act.ends_iff.mp key

theorem through_refreshIndicators
    (hask : ∀ d, (Registry.react d (.ok ·.requestIndicator)).Moves R) :
    (refreshIndicators : Act Manager χ Unit).Moves (Through R) := by
  refine through_onControllers (Act.moves_bind Act.moves_subject fun r =>
    Act.moves_forM fun d _ => ?_)
  exact hask d

theorem through_syncScene (hnote : ∀ s e, R s (s.1, s.2.note e)) {source : DeviceId} {id : SceneId}
    (b : ButtonId) {on : Bool} {s : Manager × Outlet χ}
    (hset : ∀ sc, s.1.scene? id = some sc → ∀ d b, sc.button? d = some b → d ≠ source →
      (Registry.setButton d b on).Moves R) :
    Through R s ((syncScene source id b on).after s) := by
  have note : ∀ e, (Act.note e : Act Manager χ Unit).Moves (Through R) := through_note hnote
  have key : (syncScene source id b on : Act Manager χ Unit).Ends s fun _ t => Through R s t := by
    unfold syncScene
    rw [Act.ends_bind, Act.ends_subject]
    cases hs : s.1.scene? id with
    | none =>
      simp only [hs]
      exact refl_of (Through R) s
    | some sc =>
      simp only [hs]
      refine Act.moves_iff_ends.mp ?_ s
      split
      · refine Act.moves_bind (note _) fun _ => ?_
        have hsync := through_onControllers (moves_sync hnote sc on (hset sc hs))
        refine Act.moves_bind (Act.moves_outcome hsync) fun r => ?_
        split
        · exact Act.moves_pure _
        · exact note _
      · exact Act.moves_pure _
  exact Act.ends_iff.mp key

/-! ## Lights that turned -/

/-- A report of `x` tells that the light of a button of the scene went on, or off, since the one
before. -/
def Turns (m : Manager) (x : DeviceId) (q : UInt8) (id : SceneId) (on : Bool) : Prop :=
  ∃ c p j, m.controllers.get? x = some c ∧ c.reported = some p ∧ j < 8 ∧
    m.sceneForButton? x (.ofPlace j) = some id ∧ lightAt p j ≠ lightAt q j ∧ lightAt q j = on

theorem and_bit_eq_zero_iff {i : Nat} (hi : i < 8) (v : UInt8) :
    v &&& (1 <<< UInt8.ofNat i) = 0 ↔ lightAt v i = false := by
  have hbit : (UInt8.ofNat i).toNat = i := UInt8.toNat_ofNat_of_lt' (Nat.lt_trans hi (by decide))
  have hlt : UInt8.ofNat i < 8 := UInt8.lt_iff_toNat_lt.mpr (by rw [hbit]; exact hi)
  have := and_bit_ne_zero_iff hlt v
  rw [hbit] at this
  rw [← Bool.not_eq_true, ← this, ne_eq, not_not]

theorem transitions_eq (buttons : ByteMap ButtonId SceneId) (p q : UInt8) :
    transitions buttons p q = (List.range 8).filterMap fun j =>
      if lightAt p j = lightAt q j then none
      else (buttons.get? (.ofPlace j)).map fun id => (id, .ofPlace j, lightAt q j) := by
  unfold transitions
  refine List.filterMap_congr fun j hj => ?_
  have hj := List.mem_range.mp hj
  have hp := and_bit_eq_zero_iff hj (p ^^^ q)
  have hq := and_bit_eq_zero_iff hj q
  rw [lightAt_xor] at hp
  by_cases hl : lightAt p j = lightAt q j
  · simp only [hp, hl, bne_self_eq_false, ite_true]
  · have hne : ¬ (lightAt p j != lightAt q j) = false := by simpa using hl
    simp only [hp, hne, hl, ite_false, ne_eq, hq, Bool.not_eq_false, Bool.decide_eq_true]
    rfl

theorem turns_of_mem_transitions {m : Manager} {x : DeviceId} {p q : UInt8} {c : Controller}
    {buttons : ByteMap ButtonId SceneId} {e : SceneId × ButtonId × Bool}
    (hi : m.index.get? x = some buttons) (hc : m.controllers.get? x = some c)
    (hp : c.reported = some p) (he : e ∈ transitions buttons p q) :
    m.Turns x q e.1 e.2.2 := by
  rw [transitions_eq] at he
  obtain ⟨j, hj, hopen⟩ := List.mem_filterMap.mp he
  split at hopen
  · cases hopen
  next hpq =>
    obtain ⟨id, hid, rfl⟩ := Option.map_eq_some_iff.mp hopen
    refine ⟨c, p, j, hc, hp, List.mem_range.mp hj, ?_, hpq, rfl⟩
    unfold sceneForButton?
    rw [hi]
    exact hid

def reported (m : Manager) (source : DeviceId) (c : Controller) (bitmask : UInt8) : Manager :=
  { m with controllers := m.controllers.insert source (c.handleReport bitmask).1 }

private theorem through_syncScenes (hnote : ∀ s e, R s (s.1, s.2.note e)) {source : DeviceId}
    (l : List (SceneId × ButtonId × Bool)) (s : Manager × Outlet χ)
    (hset : ∀ e ∈ l, ∀ sc, s.1.scene? e.1 = some sc → ∀ d b, sc.button? d = some b → d ≠ source →
      (Registry.setButton d b e.2.2).Moves R) :
    Through R s
      ((l.forM fun e => syncScene source e.1 e.2.1 e.2.2 : Act Manager χ Unit).after s) := by
  induction l generalizing s with
  | nil => exact refl_of (Through R) s
  | cons e l ih =>
    have first := through_syncScene hnote e.2.1 (hset e List.mem_cons_self)
    have key : ((e :: l).forM fun e => syncScene source e.1 e.2.1 e.2.2 : Act Manager χ Unit).Ends s
        fun _ t =>
        Through R s t := by
      rw [List.forM_eq_forM, List.forM_cons, Act.ends_bind, Act.ends_iff]
      cases (syncScene source e.1 e.2.1 e.2.2).answer s with
      | error err => exact first
      | ok u =>
        refine Act.ends_iff.mpr (trans_of (Through R) first (ih _ fun e' he' sc hsc => ?_))
        refine hset e' (List.mem_cons_of_mem _ he') sc ?_
        rw [first.1] at hsc
        exact hsc
    exact Act.ends_iff.mp key

/-- A report of a registered controller is taken over. Then other controllers change at most, and
only those of scenes whose light turned. -/
theorem through_handleIndicator (hnote : ∀ s e, R s (s.1, s.2.note e)) {source : DeviceId}
    {bitmask : UInt8} {s : Manager × Outlet χ} {c : Controller}
    (hset : ∀ id on sc, s.1.Turns source bitmask id on → s.1.scene? id = some sc →
      ∀ d b, sc.button? d = some b → d ≠ source → (Registry.setButton d b on).Moves R)
    (hi : s.1.index.contains source = true) (hc : s.1.controllers.get? source = some c) :
    Through R (s.1.reported source c bitmask, s.2) ((handleIndicator source bitmask).after s) := by
  have note : ∀ e, (Act.note e : Act Manager χ Unit).Moves (Through R) := through_note hnote
  obtain ⟨buttons, hi⟩ := ByteMap.contains_iff.mp hi
  have key : (handleIndicator source bitmask : Act Manager χ Unit).Ends s fun _ t =>
      Through R (s.1.reported source c bitmask, s.2) t := by
    unfold handleIndicator
    rw [Act.ends_bind, Act.ends_subject]
    simp only [hi, hc]
    rw [Act.ends_bind, Act.ends_replace]
    have hprevious : (c.handleReport bitmask).2 = c.reported := rfl
    simp only [hprevious]
    cases hp : c.reported with
    | none => exact note _ (s.1.reported source c bitmask, s.2)
    | some previous =>
      exact Act.ends_iff.mpr <| through_syncScenes hnote _ _ fun e he sc hsc =>
        hset e.1 e.2.2 sc (turns_of_mem_transitions hi hc hp he) hsc
  exact Act.ends_iff.mp key

theorem through_handleIndicator_unused (hnote : ∀ s e, R s (s.1, s.2.note e)) {source : DeviceId}
    {bitmask : UInt8} {s : Manager × Outlet χ}
    (hc : s.1.index.contains source = false ∨ s.1.controllers.get? source = none) :
    Through R s ((handleIndicator source bitmask).after s) := by
  have key : (handleIndicator source bitmask : Act Manager χ Unit).Ends s fun _ t =>
    Through R s t := by
    unfold handleIndicator
    rw [Act.ends_bind, Act.ends_subject]
    cases hi : s.1.index.get? source with
    | none =>
      simp only [hi]
      exact through_note hnote _ s
    | some buttons =>
      have hnone : s.1.controllers.get? source = none := by
        rcases hc with hc | hc
        · rw [ByteMap.contains_eq_false_iff, hi] at hc
          cases hc
        · exact hc
      simp only [hi, hnone]
      exact refl_of (Through R) s
  exact Act.ends_iff.mp key

theorem through_handleActivation (hnote : ∀ s e, R s (s.1, s.2.note e)) (source : DeviceId)
    {activation : Activation} {s : Manager × Outlet χ}
    (hset : ∀ id sc, SceneId.ofByte? activation.scene = some id → s.1.scene? id = some sc →
      ∀ d b, sc.button? d = some b → (Registry.setButton d b true).Moves R) :
    Through R s ((handleActivation source activation).after s) := by
  have note : ∀ e, (Act.note e : Act Manager χ Unit).Moves (Through R) := through_note hnote
  have key : (handleActivation source activation : Act Manager χ Unit).Ends s fun _ t =>
    Through R s t := by
    unfold handleActivation
    cases hid : SceneId.ofByte? activation.scene with
    | none => exact note _ s
    | some id =>
      simp only
      rw [Act.ends_bind, Act.ends_subject]
      by_cases hs : s.1.scenes.contains id = true
      · simp only [hs, ite_true]
        rw [Act.ends_bind, Act.ends_note]
        simp only
        rw [Act.ends_bind, Act.ends_iff]
        have first : Through R s (s.1, s.2.note (.info "scene activation received" [
          ("source", .show source), ("scene", .show id)])) := ⟨rfl, hnote _ _⟩
        have all := trans_of (Through R) first (through_activateScene hnote fun sc hsc =>
          hset id sc hid hsc)
        cases (activateScene id).answer (s.1, s.2.note (.info "scene activation received" [
            ("source", .show source), ("scene", .show id)])) with
        | ok n => exact all
        | error e => exact all
      · simp only [hs]
        exact note _ s
  exact Act.ends_iff.mp key

theorem through_handleBasic (hnote : ∀ s e, R s (s.1, s.2.note e)) {source : DeviceId}
    (hask : (Registry.react source (.ok ·.requestIndicator)).Moves R) (value : UInt8) :
    (handleBasic source value : Act Manager χ Unit).Moves (Through R) := by
  unfold handleBasic
  refine Act.moves_bind Act.moves_subject fun m => ?_
  split
  · exact Act.moves_bind (through_note hnote _) fun _ => through_onControllers hask
  · exact Act.moves_pure _

omit [Channel χ] in
theorem through_handleControllerReport (hnote : ∀ s e, R s (s.1, s.2.note e)) (source : DeviceId)
    (report : ControllerReport) :
    (handleControllerReport source report : Act Manager χ Unit).Moves (Through R) := by
  unfold handleControllerReport
  refine Act.moves_bind Act.moves_subject fun m => ?_
  simp only
  split
  · split
    · exact through_note hnote _
    · exact through_note hnote _
  · exact through_note hnote _

omit [IsPreorder _ R] in
theorem after_handleFrame {f : InboundFrame} {e : Event} (hf : Event.decode f = .ok (some e))
    (s : Manager × Outlet χ) :
    ∃ es, (handleFrame f).after s =
      (((handleEvent e).after s).1, ((handleEvent e).after s).2.noted es) := by
  unfold handleFrame
  rw [hf]
  simp only
  unfold Act.after
  rw [Act.run_bind, Act.run_outcome]
  cases handleEvent e s with
  | ok u t => exact ⟨[], by simp [Outlet.noted]⟩
  | error err t => exact ⟨[_], rfl⟩

omit [IsPreorder _ R] in
theorem after_handleFrame_other {f : InboundFrame} (hf : ∀ e, Event.decode f ≠ .ok (some e))
    (s : Manager × Outlet χ) :
    ∃ es, (handleFrame f).after s = (s.1, s.2.noted es) := by
  unfold handleFrame
  rcases hd : Event.decode f with e | _ | e
  · exact ⟨[_], rfl⟩
  · exact ⟨[], by simp [Outlet.noted, Act.after]⟩
  · exact absurd hd (hf e)

/-- Whatever is received, lights are taken over, switched and asked for, and nothing else is
done. -/
theorem through_handleEvent (hnote : ∀ s e, R s (s.1, s.2.note e))
    (hset : ∀ d b on, (Registry.setButton d b on).Moves R)
    (hask : ∀ d, (Registry.react d (.ok ·.requestIndicator)).Moves R)
    (hreport : ∀ r o d c bitmask, r.get? d = some c →
      R (r, o) (r.insert d (c.handleReport bitmask).1, o))
    (e : Event) :
    (handleEvent e : Act Manager χ Unit).Moves (Through R) := by
  unfold handleEvent
  split
  · exact fun _ => through_handleActivation hnote _ fun _ _ _ _ d b _ => hset d b true
  next bitmask _ =>
    intro s
    by_cases hused : s.1.index.contains e.source = true ∧
        ∃ c, s.1.controllers.get? e.source = some c
    · obtain ⟨hi, c, hc⟩ := hused
      have first : Through R s (s.1.reported e.source c bitmask, s.2) :=
        ⟨rfl, hreport _ _ _ c bitmask hc⟩
      apply trans_of (Through R) first
      exact through_handleIndicator hnote (fun _ on _ _ _ d b _ _ => hset d b on) hi hc
    · apply through_handleIndicator_unused hnote
      by_cases hi : s.1.index.contains e.source = true
      · exact .inr (Option.eq_none_iff_forall_ne_some.mpr fun c hc => hused ⟨hi, c, hc⟩)
      · exact .inl (by simpa using hi)
  · exact through_handleBasic hnote (hask _) _
  · exact through_note hnote _
  · exact through_handleControllerReport hnote _ _
  · exact through_note hnote _

theorem through_handleFrame (hnote : ∀ s e, R s (s.1, s.2.note e))
    (hset : ∀ d b on, (Registry.setButton d b on).Moves R)
    (hask : ∀ d, (Registry.react d (.ok ·.requestIndicator)).Moves R)
    (hreport : ∀ r o d c bitmask, r.get? d = some c →
      R (r, o) (r.insert d (c.handleReport bitmask).1, o))
    (f : InboundFrame) : (handleFrame f : Act Manager χ Unit).Moves (Through R) := by
  unfold handleFrame
  split
  · exact Act.moves_pure _
  · exact through_note hnote _
  · refine Act.moves_bind (Act.moves_outcome (through_handleEvent hnote hset hask hreport _))
      fun r => ?_
    split
    · exact Act.moves_pure _
    · exact through_note hnote _

end

/-! ## What traffic leaves alone -/

def Stays (s t : Manager × Outlet χ) : Prop := s.1.Alike t.1

theorem stays_note (e : Journal.Entry) : (Act.note e : Act Manager χ Unit).Moves Stays :=
  fun s => alike_refl s.1

private theorem stays_of_through {α : Type} {x : Act Manager χ α}
    (hx : x.Moves (Through Registry.Stays)) :
    x.Moves Stays := hx.mono fun _ _ h => h

variable [Channel χ]

theorem stays_program (id : SceneId) :
    (programScene id : Act Manager χ ProgramSummary).Moves Stays :=
  stays_of_through
    (through_program (fun s _ => Registry.alike_refl s.1) (fun s _ _ => Registry.alike_refl s.1) id)

theorem stays_activateScene (id : SceneId) : (activateScene id : Act Manager χ Nat).Moves Stays :=
  stays_of_through fun _ =>
    through_activateScene (fun s _ => Registry.alike_refl s.1) fun _ _ d b _ =>
    Registry.stays_setButton d b true

theorem stays_refreshIndicators : (refreshIndicators : Act Manager χ Unit).Moves Stays :=
  stays_of_through (through_refreshIndicators Registry.stays_requestIndicator)

theorem stays_handleEvent (e : Event) : (handleEvent e : Act Manager χ Unit).Moves Stays :=
  stays_of_through
    (through_handleEvent (fun s _ => Registry.alike_refl s.1) Registry.stays_setButton
    Registry.stays_requestIndicator
      (fun _ _ _ _ bitmask hc => Registry.alike_handleReport bitmask hc) e)

theorem stays_handleFrame (f : InboundFrame) : (handleFrame f : Act Manager χ Unit).Moves Stays :=
  stays_of_through
    (through_handleFrame (fun s _ => Registry.alike_refl s.1) Registry.stays_setButton
    Registry.stays_requestIndicator
      (fun _ _ _ _ bitmask hc => Registry.alike_handleReport bitmask hc) f)

end Manager

end MeshScenes
