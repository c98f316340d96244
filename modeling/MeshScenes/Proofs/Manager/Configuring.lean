import MeshScenes.Proofs.Manager.Coherence

/-!
# Configuring scenes

What the configuration calls make of a manager, in one statement for each: where a call fails the
manager is as before, and where it succeeds the scene is put, loses buttons or gets one. A
controller that was attached in vain is forgotten again.
-/

namespace MeshScenes.Manager

variable {χ : Type} {D : Directory → Prop}

theorem ends_sceneNamed {id : SceneId} {s : Manager × Outlet χ}
    {post : Except Error Scene → Manager × Outlet χ → Prop} :
    (sceneNamed id).Ends s post ↔ match s.1.scene? id with
      | some x => post (.ok x) s
      | none => post (.error (.notFound (.scene id))) s := by
  unfold sceneNamed
  rw [Act.ends_bind, Act.ends_subject]
  simp only
  cases s.1.scene? id <;> exact Iff.rfl

theorem run_sceneNamed {id : SceneId} {s : Manager × Outlet χ} {x : Scene}
    (hs : s.1.scene? id = some x) :
    (sceneNamed id : Act Manager χ Scene) s = .ok x s := by
  unfold sceneNamed
  rw [Act.run_bind, Act.run_subject]
  simp only [hs]
  rfl

theorem run_changeScene {m : Manager} {id : SceneId} {x : Scene} (hx : m.scene? id = some x)
    (f : Scene → Scene) (o : Outlet χ) :
    (do putScene (f (← sceneNamed id)) : Act Manager χ Unit) (m, o) =
      .ok () (m.withScene (f x), o) := by
  rw [Act.run_bind, run_sceneNamed hx]
  rfl

theorem ends_putScene {x : Scene} {s : Manager × Outlet χ}
    {post : Except Error Unit → Manager × Outlet χ → Prop} :
    (putScene x).Ends s post ↔ post (.ok ()) (s.1.withScene x, s.2) := Iff.rfl

/-! ## Making scenes -/

/-- The id that a new scene is to get. -/
def given? (m : Manager) (number : UInt32) : Option SceneId :=
  if number = 0 then m.lowestUnusedId? else (SceneId.ofNumber number).toOption

theorem run_newSceneWithId (number : UInt32) (name : String) (s : Manager × Outlet χ) :
    (∃ e, newSceneWithId number name s = .error e s) ∨
      ∃ id, s.1.given? number = some id ∧ s.1.scene? id = none ∧ newSceneWithId number name s =
        .ok id (s.1.withScene (Scene.new id name),
          s.2.note (.info "scene created" [("scene", .show id)])) := by
  unfold newSceneWithId given?
  simp only
  by_cases hmax : maxScenes ≤ s.1.scenes.size
  · refine .inl ?_
    by_cases h0 : number = 0
    · exact ⟨.capacity, by simp [h0, Act.run_bind, hmax]⟩
    · cases SceneId.ofNumber number with
      | error e => exact ⟨.validation e, by simp [h0, Act.run_bind, Except.mapError]⟩
      | ok id => exact ⟨.capacity, by simp [h0, Act.run_bind, Except.mapError, hmax]⟩
  · by_cases h0 : number = 0
    · cases hl : s.1.lowestUnusedId? with
      | none => exact .inl ⟨.capacity, by simp [h0, Act.run_bind, hmax, hl]⟩
      | some id =>
        have hfree : s.1.scenes.contains id = false := by simpa using List.find?_some hl
        refine .inr ⟨id, if_pos h0, ByteMap.contains_eq_false_iff.mp hfree, ?_⟩
        simp [h0, Act.run_bind, hmax, hl]
        rfl
    · cases SceneId.ofNumber number with
      | error e => exact .inl ⟨.validation e, by simp [h0, Act.run_bind, Except.mapError]⟩
      | ok id =>
        by_cases hc : s.1.scenes.contains id = true
        · exact .inl ⟨.validation (.sceneIdInUse id),
            by simp [h0, Act.run_bind, Except.mapError, hmax, hc]⟩
        · refine .inr ⟨id, if_neg h0, ByteMap.contains_eq_false_iff.mp (by simpa using hc), ?_⟩
          simp [h0, Act.run_bind, Except.mapError, hmax, hc]
          rfl

theorem addDevice_eq_ok {directory : Directory} {s t : Scene} {device : DeviceId} {value : UInt8}
    (h : s.addDevice directory device value = .ok t) :
    t.id = s.id ∧ t.controllers = s.controllers := by
  unfold Scene.addDevice at h
  cases hx : directory device with
  | none => rw [hx] at h; cases h
  | some d =>
    rw [hx] at h
    cases h
    unfold Scene.putMember
    split <;> exact ⟨rfl, rfl⟩

/-! ## Attaching controllers -/

theorem putController_eq_ok {x : Scene} {c : Controller} {b : ButtonId}
    {r : Scene × Option ButtonId} (h : x.putController c b = .ok r) :
    c.acceptsButton b = true ∧
      r = ({ x with controllers := x.controllers.insert c.device b }, x.button? c.device) := by
  unfold Scene.putController at h
  by_cases hb : c.isBound = true
  case neg => simp [hb] at h; cases h
  by_cases ha : c.acceptsButton b = true
  case neg => simp [hb, ha] at h; cases h
  simp [hb, ha] at h
  cases h
  exact ⟨ha, rfl⟩

theorem putController_eq_error {x : Scene} {c : Controller} {b : ButtonId} {e : ValidationError}
    (hc : c.isBound = true) (h : x.putController c b = .error e) :
    c.acceptsButton b = false ∧ e = .invalidButton c.device b := by
  unfold Scene.putController at h
  by_cases ha : c.acceptsButton b = true
  · simp [hc, ha] at h
    cases h
  · simp [hc, ha] at h
    cases h
    exact ⟨by simpa using ha, rfl⟩

theorem run_giveButton {id : SceneId} {c : DeviceId} {y : Controller} {b : ButtonId}
    {s : Manager × Outlet χ} {x : Scene} (hs : s.1.scene? id = some x) (hid : x.id = id)
    (hy : y.device = c) :
    (¬ (y.isBound = true ∧ y.acceptsButton b = true) ∧ ∃ e, giveButton id c y b s = .error e s) ∨
      y.acceptsButton b = true ∧ ∃ es, giveButton id c y b s =
        .ok () (s.1.rebound s.1.controllers x c b, s.2.noted es) := by
  subst hid hy
  unfold giveButton
  rw [Act.run_bind, run_sceneNamed hs]
  simp only
  rw [Act.run_bind]
  cases hp : x.putController y b with
  | error e =>
    refine .inl ⟨fun ⟨hb, ha⟩ => ?_, .validation e, rfl⟩
    rw [(putController_eq_error hb hp).1] at ha
    cases ha
  | ok p =>
    obtain ⟨haccepts, rfl⟩ := putController_eq_ok hp
    refine .inr ⟨haccepts, ?_⟩
    unfold rebound withScene
    simp only [Except.mapError, Act.run_of_ok]
    rw [Act.run_bind]
    unfold putScene
    rw [Act.run_change]
    simp only
    rw [Act.run_bind, Act.run_change]
    simp only
    -- a button that the scene had before leaves the index, unless it is the same one
    cases x.button? y.device with
    | none => exact ⟨[_], rfl⟩
    | some p =>
      by_cases hpb : p = b
      · simp only [hpb, ne_eq, not_true_eq_false, ite_false]
        exact ⟨[_], rfl⟩
      · simp only [ne_eq, hpb, not_false_eq_true, ite_true]
        obtain ⟨es, he⟩ := run_unindex y.device p ((Manager.enterButton { s.1 with
          scenes := s.1.scenes.insert x.id
            { x with controllers := x.controllers.insert y.device b } }
          y.device b x.id), s.2)
        refine ⟨es ++ [.info "scene controller bound" [
          ("scene", .show x.id), ("controller", .show y.device), ("button", .show b)]], ?_⟩
        rw [Act.run_bind, he]
        simp only
        rw [Act.run_note, Outlet.note_noted]

theorem Coherent.get?_index_of_unregistered {m : Manager} (h : m.Coherent D) {c : DeviceId}
    (hnone : m.controllers.get? c = none) : m.uses c = false ∧ m.index.get? c = none := by
  have hc := h.keyed c
  have hu : m.uses c = false := by rw [← hc.1, ByteMap.contains_eq_false_iff, hnone]
  refine ⟨hu, ?_⟩
  rw [← ByteMap.contains_eq_false_iff, hc.2, hu]

theorem Coherent.release_attached {m : Manager} (h : m.Coherent D) {c : DeviceId} (y : Controller)
    (hnone : m.controllers.get? c = none) :
    release { m with controllers := m.controllers.insert c y } c = m := by
  obtain ⟨hu, hi⟩ := h.get?_index_of_unregistered hnone
  have hu' : ({ m with controllers := m.controllers.insert c y } : Manager).uses c = false := hu
  unfold release
  rw [hu', if_neg Bool.false_ne_true]
  simp only [ByteMap.erase_insert, ByteMap.erase_of_get? hnone, ByteMap.erase_of_get? hi]

theorem Coherent.release_eq {m : Manager} (h : m.Coherent D) (c : DeviceId) : m.release c = m := by
  unfold release
  by_cases hu : m.uses c = true
  · rw [if_pos hu]
  · have hnone : m.controllers.get? c = none := by
      rw [← ByteMap.contains_eq_false_iff, (h.keyed c).1]
      simpa using hu
    rw [if_neg hu, ByteMap.erase_of_get? hnone,
      ByteMap.erase_of_get? (h.get?_index_of_unregistered hnone).2]

/-- A registry that knows a controller, which may have been attached for it. -/
def Knows (m : Manager) (directory : Directory) (c : DeviceId) (r : Registry) : Prop :=
  m.controllers.contains c = true ∧ r = m.controllers ∨
    m.controllers.get? c = none ∧ ∃ y, Registry.Attached directory c m.buttonCount y ∧
      r = m.controllers.insert c y

theorem ends_bindButton [Channel χ] {directory : Directory} {id : SceneId} {c : DeviceId}
    {b : ButtonId} {s : Manager × Outlet χ} (h : s.1.Coherent D) {x : Scene}
    (hs : s.1.scene? id = some x) :
    (bindButton directory id c b).Ends s fun r t =>
      match r with
      | .ok () =>
        ∃ registry, s.1.Knows directory c registry ∧ 1 ≤ b.byte ∧ b.byte < s.1.buttonCount ∧
          t.1 = s.1.rebound registry x c b
      | .error _ =>
        t.1 = s.1 ∨ ∃ registry, s.1.Knows directory c registry ∧
          t.1 = { s.1 with controllers := registry } := by
  unfold bindButton
  rw [Act.ends_bind, Act.ends_subject]
  simp only
  rw [Act.ends_bind, ends_onControllers]
  have hknown := Registry.ends_getOrBind c s.1.buttonCount directory (s.1.controllers, s.2)
  refine hknown.mono fun r t ht => ?_
  cases r with
  | error e =>
    refine .inl ?_
    rw [ht.1]
  | ok y =>
    have hknows : s.1.Knows directory c t.1 := by
      rcases ht with ⟨hy, rfl⟩ | ⟨hnone, ht, hy, -⟩
      · exact .inl ⟨ByteMap.contains_iff.mpr ⟨y, hy⟩, rfl⟩
      · exact .inr ⟨hnone, y, hy, ht⟩
    have hy : y.device = c ∧ y.buttonCount = s.1.buttonCount := by
      rcases ht with ⟨hy, -⟩ | ⟨-, -, hy, -⟩
      · exact ⟨(h.controller c y hy).1, (h.controller c y hy).2.2⟩
      · exact ⟨hy.device, hy.buttonCount⟩
    show Act.Ends (giveButton id c y b) (({ s.1 with controllers := t.1 } : Manager), t.2) _
    -- the registry may have gained the controller by now, also where the button is refused
    unfold Act.Ends
    rcases run_giveButton (s := (({ s.1 with controllers := t.1 } : Manager), t.2)) (b := b) hs
      (h.stored id x hs) hy.1
      with ⟨-, e, hr⟩ | ⟨haccepts, es, hr⟩
    · rw [hr]
      exact .inr ⟨t.1, hknows, rfl⟩
    · rw [hr]
      have hb : 1 ≤ b.byte ∧ b.byte < s.1.buttonCount := by
        rw [← hy.2]
        simpa [Controller.acceptsButton] using haccepts
      exact ⟨t.1, hknows, hb.1, hb.2, rfl⟩

theorem Coherent.release_of_knows {m : Manager} (h : m.Coherent D) {directory : Directory}
    {c : DeviceId} {r : Registry} (hr : m.Knows directory c r) :
    release { m with controllers := r } c = m := by
  rcases hr with ⟨-, rfl⟩ | ⟨hnone, y, -, rfl⟩
  · exact h.release_eq c
  · exact h.release_attached y hnone

/-! ## Calls that change buttons -/

theorem ends_removeScene (id : SceneId) (s : Manager × Outlet χ) :
    (removeScene id).Ends s fun r t =>
      match r with
      | .ok x => s.1.scene? id = some x ∧
          t.1 = unindexAll { s.1 with scenes := s.1.scenes.erase id } x.controllers.toList
      | .error _ => t.1 = s.1 := by
  unfold removeScene
  rw [Act.ends_bind, ends_sceneNamed]
  cases hs : s.1.scene? id with
  | none => rfl
  | some x =>
    obtain ⟨es, he⟩ := run_unindexAll x.controllers.toList
      (({ s.1 with scenes := s.1.scenes.erase id } : Manager), s.2)
    simp only
    rw [Act.ends_bind, Act.ends_change]
    simp only
    rw [Act.ends_bind]
    unfold Act.Ends
    rw [he]
    exact ⟨rfl, rfl⟩

theorem ends_removeController (id : SceneId) (c : DeviceId) (s : Manager × Outlet χ) :
    (removeController id c).Ends s fun r t =>
      match r with
      | .ok b => ∃ x, s.1.scene? id = some x ∧ b = x.button? c ∧
          t.1 = (s.1.withScene (x.removeController c).1).unindexAll (b.toList.map (c, ·))
      | .error _ => t.1 = s.1 := by
  unfold removeController
  rw [Act.ends_bind, ends_sceneNamed]
  cases hs : s.1.scene? id with
  | none => rfl
  | some x =>
    simp only
    rw [Act.ends_bind, ends_putScene]
    cases hb : x.button? c with
    | none =>
      simp only [Scene.removeController, hb]
      exact ⟨x, rfl, hb.symm, rfl⟩
    | some b =>
      obtain ⟨es, he⟩ := run_unindex c b (s.1.withScene (x.removeController c).1, s.2)
      simp only [Scene.removeController, hb] at he ⊢
      rw [Act.ends_bind]
      unfold Act.Ends
      rw [he]
      exact ⟨x, rfl, hb.symm, rfl⟩

/-- A free button of a controller is given to the scene; the controller is attached if need be. -/
def Gives (m : Manager) (directory : Directory) (id : SceneId) (c : DeviceId) (b : ButtonId)
    (k : Manager) : Prop :=
  ∃ x registry, m.scene? id = some x ∧ (∀ other, m.sceneForButton? c b = some other → other = id) ∧
    m.Knows directory c registry ∧ (1 ≤ b.byte ∧ b.byte < m.buttonCount) ∧
    k = m.rebound registry x c b

theorem ends_addController [Channel χ] {directory : Directory} {id : SceneId} {c : DeviceId}
    {b : ButtonId} {s : Manager × Outlet χ} {post : Except Error Unit → Manager × Outlet χ → Prop}
    (hmissing : s.1.scene? id = none → post (.error (.notFound (.scene id))) s)
    (htaken : ∀ other, other ≠ id → post (.error (.validation (.buttonAlreadyBound c b other))) s)
    (hbind : ∀ x, s.1.scene? id = some x →
      (∀ other, s.1.sceneForButton? c b = some other → other = id) →
      (bindButton directory id c b).Ends s fun r t =>
        match r with
        | .ok () => post (.ok ()) t
        | .error e => ∀ es, post (.error e) (t.1.release c, t.2.noted es)) :
    (addController directory id c b).Ends s post := by
  unfold addController
  rw [Act.ends_bind, ends_sceneNamed]
  cases hs : s.1.scene? id with
  | none => exact hmissing hs
  | some x =>
    -- what follows the look into the index is the same whether the button is free or the own one
    have bind (hfree : ∀ other, s.1.sceneForButton? c b = some other → other = id) :
        (do
          match ← Act.outcome (bindButton directory id c b) with
          | .ok () => pure ()
          | .error e =>
            Act.note (.warn "scene controller rejected" [
              ("scene", .show id), ("controller", .show c), ("button", .show b),
                ("err", .text e.summary)])
            releaseController c
            throw e : Act Manager χ Unit).Ends s post := by
      rw [Act.ends_bind, Act.ends_outcome]
      apply (hbind x hs hfree).mono
      intro r t ht
      cases r with
      | ok u => exact ht
      | error e =>
        simp only
        rw [Act.ends_bind, Act.ends_note]
        simp only
        rw [Act.ends_bind]
        unfold Act.Ends
        rw [run_releaseController, Outlet.noted_note]
        exact ht _
    simp only
    rw [Act.ends_bind, Act.ends_subject]
    simp only
    cases hf : s.1.sceneForButton? c b with
    | none =>
      apply bind
      intro other ho
      rw [hf] at ho
      cases ho
    | some other =>
      by_cases hid : other = id
      · simp only [ne_eq, hid, not_true_eq_false, ite_false]
        apply bind
        intro o ho
        rw [hf] at ho
        cases ho
        exact hid
      · simp only [ne_eq, hid, not_false_eq_true, ite_true]
        exact htaken other hid

theorem Coherent.gives_addController [Channel χ] {s : Manager × Outlet χ} (h : s.1.Coherent D)
    (directory : Directory) (id : SceneId) (c : DeviceId) (b : ButtonId) :
    (addController directory id c b).Ends s fun r t =>
      match r with
      | .ok () => s.1.Gives directory id c b t.1
      | .error _ => t.1 = s.1 := by
  refine ends_addController (fun _ => rfl) (fun _ _ => rfl) fun x hs hfree => ?_
  apply (ends_bindButton h hs).mono
  intro r t ht
  cases r with
  | ok u =>
    obtain ⟨registry, hknows, h1, hn, ht⟩ := ht
    exact ⟨x, registry, hs, hfree, hknows, ⟨h1, hn⟩, ht⟩
  | error e =>
    intro es
    rcases ht with ht | ⟨registry, hknows, ht⟩
    · show t.1.release c = s.1
      rw [ht]
      exact h.release_eq c
    · show t.1.release c = s.1
      rw [ht]
      exact h.release_of_knows hknows

end MeshScenes.Manager
