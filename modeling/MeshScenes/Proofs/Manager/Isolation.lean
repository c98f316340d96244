import MeshScenes.Proofs.Manager.Reachable

/-!
# Scenes are isolated

A configuration call either is rejected, and then nothing is changed, or changes the scene it is
about (`Edited`). All other scenes keep their buttons and their controllers: a button of the index
leads to one scene only, and a controller is forgotten only when no button of it is left.
-/

namespace MeshScenes

namespace Call

/-- Whether a call configures a scene; the others use the network, or make many scenes. -/
def configures : Call → Bool
  | program _ | activate _ | refresh | restore _ => false
  | _ => true

/-- The scene that a call is about. For a new scene that is the one it would be. -/
def scene? (m : Manager) : Call → Option SceneId
  | newScene number _ => m.given? number
  | removeScene id | setName id _ | setDuration id _ | setOverride id _ | addDevice id _ _
  | removeDevice id _ | setValue id _ _ | addController id _ _ | removeController id _
  | program id | activate id => some id
  | refresh | restore _ => none

end Call

namespace Manager

variable {χ : Type} {D : Directory → Prop} {m k : Manager} {directory : Directory}
  {id other : SceneId}

/-! ## What a call makes of a manager -/

/-- The manager after one scene was changed. -/
inductive Edited (m : Manager) (directory : Directory) (id : SceneId) : Manager → Prop where
  | put (x : Scene) : x.id = id → (∀ d b, x.button? d = some b ↔ m.Binds id d b) →
    Edited m directory id (m.withScene x)
  | lose (scenes : ByteMap SceneId Scene) (es : List (DeviceId × ButtonId)) :
      (∀ e ∈ es, m.Binds id e.1 e.2) →
        (∀ other, other ≠ id → scenes.get? other = m.scenes.get? other) →
      Edited m directory id (unindexAll { m with scenes } es)
  | gain {c : DeviceId} {b : ButtonId} {k : Manager} : m.Gives directory id c b k →
    Edited m directory id k

/-- A call has changed the scene it is about, or failed and changed nothing. -/
def EditsAt (m : Manager) (directory : Directory) (about : Option SceneId) {α : Type}
    (r : Except Error α) (t : Manager × Outlet χ) : Prop :=
  match r with
  | .ok _ => ∃ id, about = some id ∧ m.Edited directory id t.1
  | .error _ => t.1 = m

section
variable {s : Manager × Outlet χ}

theorem editsAt_sceneNamed {α : Type} {about : Option SceneId} {f : Scene → Act Manager χ α}
    (hf : ∀ x, s.1.scene? id = some x → (f x).Ends s (s.1.EditsAt directory about)) :
    (sceneNamed id >>= f).Ends s (s.1.EditsAt directory about) := by
  rw [Act.ends_bind, ends_sceneNamed]
  cases hs : s.1.scene? id with
  | none => rfl
  | some x => exact hf x hs

theorem editsAt_discard {α : Type} {about : Option SceneId} {x : Act Manager χ α}
    (hx : x.Ends s (s.1.EditsAt directory about)) :
    Act.Ends (discard x) s (s.1.EditsAt directory about) := by
  rw [Act.ends_discard]
  apply hx.mono
  intro r t ht
  cases r <;> exact ht

theorem Coherent.edited_put {x y : Scene} (h : m.Coherent D) (hx : m.scene? id = some x)
    (hid : y.id = x.id) (hc : y.controllers = x.controllers) :
    m.Edited directory id (m.withScene y) := by
  apply Edited.put y (hid.trans (h.stored id x hx))
  intro d b
  unfold Binds Scene.button?
  rw [hc, hx]
  simp

theorem editsAt_newSceneWithId (number : UInt32) (name : String) :
    (newSceneWithId number name).Ends s (s.1.EditsAt directory (s.1.given? number)) := by
  unfold Act.Ends
  rcases run_newSceneWithId number name s with ⟨e, hr⟩ | ⟨id, hgiven, hnone, hr⟩
  · rw [hr]
    rfl
  · rw [hr]
    refine ⟨id, hgiven, Edited.put _ rfl fun d b => ?_⟩
    unfold Binds
    rw [hnone]
    constructor
    · intro hb
      cases hb
    · rintro ⟨x, hx, -⟩
      cases hx

theorem editsAt_removeScene : (removeScene id).Ends s (s.1.EditsAt directory (some id)) := by
  apply (ends_removeScene id s).mono
  intro r t ht
  cases r with
  | error e => exact ht
  | ok x =>
    obtain ⟨hs, ht⟩ := ht
    refine ⟨id, rfl, ?_⟩
    rw [ht]
    apply Edited.lose
    · intro e he
      exact ⟨x, hs, ByteMap.get?_eq_some_iff.mpr he⟩
    · intro other hne
      rw [ByteMap.get?_erase, if_neg hne]

theorem Coherent.editsAt_addDevice (h : s.1.Coherent D) (device : DeviceId) (value : UInt8) :
    (addDevice directory id device value).Ends s (s.1.EditsAt directory (some id)) := by
  apply editsAt_sceneNamed
  intro x hx
  rw [Act.ends_bind, Act.ends_of]
  cases ha : x.addDevice directory device value with
  | error e => rfl
  | ok y => exact ⟨id, rfl, h.edited_put hx (addDevice_eq_ok ha).1 (addDevice_eq_ok ha).2⟩

theorem Coherent.editsAt_setValue (h : s.1.Coherent D) (device : DeviceId) (value : UInt8) :
    (setValue id device value).Ends s (s.1.EditsAt directory (some id)) := by
  apply editsAt_sceneNamed
  intro x hx
  rw [Act.ends_bind, Act.ends_of]
  unfold Scene.setValue
  cases x.member? device with
  | none => rfl
  | some n => exact ⟨id, rfl, h.edited_put hx rfl rfl⟩

theorem Coherent.editsAt_addController [Channel χ] (h : s.1.Coherent D) (c : DeviceId)
    (b : ButtonId) :
    (addController directory id c b).Ends s (s.1.EditsAt directory (some id)) := by
  apply (h.gives_addController directory id c b).mono
  intro r t ht
  cases r with
  | error e => exact ht
  | ok u => exact ⟨id, rfl, .gain ht⟩

theorem Coherent.editsAt_removeController (h : s.1.Coherent D) (c : DeviceId) :
    (removeController id c).Ends s (s.1.EditsAt directory (some id)) := by
  apply (ends_removeController id c s).mono
  intro r t ht
  cases r with
  | error e => exact ht
  | ok b =>
    obtain ⟨x, hs, rfl, ht⟩ := ht
    refine ⟨id, rfl, ?_⟩
    rw [ht]
    apply Edited.lose
    · intro e he
      obtain ⟨b, hb, rfl⟩ := List.mem_map.mp he
      exact ⟨x, hs, Option.mem_toList.mp hb⟩
    · intro other hne
      have hid : (x.removeController c).1.id = id := h.stored id x hs
      rw [ByteMap.get?_insert, hid, if_neg hne]

theorem Coherent.editsAt_run [Channel χ] (h : s.1.Coherent D) (directory : Directory) {c : Call}
    (hc : c.configures = true) :
    (c.run directory).Ends s (s.1.EditsAt directory (c.scene? s.1)) := by
  cases c with
  | newScene number name => exact editsAt_discard (editsAt_newSceneWithId number name)
  | removeScene id => exact editsAt_discard editsAt_removeScene
  | setName id name => exact editsAt_sceneNamed fun x hx => ⟨id, rfl, h.edited_put hx rfl rfl⟩
  | setDuration id duration =>
    exact editsAt_sceneNamed fun x hx => ⟨id, rfl, h.edited_put hx rfl rfl⟩
  | setOverride id overrideLevel =>
    exact editsAt_sceneNamed fun x hx => ⟨id, rfl, h.edited_put hx rfl rfl⟩
  | addDevice id device value => exact h.editsAt_addDevice device value
  | removeDevice id device =>
    exact editsAt_discard (editsAt_sceneNamed fun x hx => ⟨id, rfl, h.edited_put hx rfl rfl⟩)
  | setValue id device value => exact h.editsAt_setValue device value
  | addController id c b => exact h.editsAt_addController c b
  | removeController id c => exact editsAt_discard (h.editsAt_removeController c)
  | program id => cases hc
  | activate id => cases hc
  | refresh => cases hc
  | restore snapshot => cases hc

end

/-- A configuration call that fails leaves scenes, index and controllers as they were, whatever it
did before it failed. -/
theorem rejected_changes_nothing [Channel χ] (h : Reachable D m) {c : Call}
    (hc : c.configures = true) (directory : Directory) (o : Outlet χ) {e : Error}
    (he : (c.run directory).answer (m, o) = .error e) :
    ((c.run directory).after (m, o)).1 = m := by
  have key := Act.ends_iff.mp (h.coherent.editsAt_run (s := (m, o)) directory hc)
  rw [he] at key
  exact key

/-- A keypad is asked for its lights before it turns out that it has no ninth button. -/
theorem rejected_changes_nothing_ninth_button :
    let s := afterCalls twoKeypads (evening.take 2)
    let c : Call := .addController ⟨7, by decide⟩ ⟨3⟩ ⟨9⟩
    ((c.run twoKeypads).after s).2.attempts = s.2.attempts ++ [⟨.askLights ⟨3⟩, true⟩] ∧
      ((c.run twoKeypads).after s).1 = s.1 := by
  have hreachable : Reachable Directory.Honest (afterCalls twoKeypads (evening.take 2)).1 :=
    reachable_afterCalls honest_twoKeypads _
  have hrejected : ((Call.addController ⟨7, by decide⟩ ⟨3⟩ ⟨9⟩).run twoKeypads).answer
      (afterCalls twoKeypads (evening.take 2)) = .error (.validation (.invalidButton ⟨3⟩ ⟨9⟩)) := by
    decide +kernel
  exact ⟨by decide +kernel, rejected_changes_nothing hreachable rfl twoKeypads _ hrejected⟩

/-! ## What belongs to other scenes -/

/-- What belongs to a scene is in `k` as it was in `m`: the scene, the buttons that lead to it and
the controllers they are of. -/
structure SameFor (m k : Manager) (id : SceneId) : Prop where
  scene : k.scene? id = m.scene? id
  buttons : ∀ d b, k.sceneForButton? d b = some id ↔ m.sceneForButton? d b = some id
  controllers : ∀ d b, m.sceneForButton? d b = some id →
    ∃ x, m.controllers.get? d = some x ∧ k.controllers.get? d = some x

theorem SameFor.trans {l : Manager} (h : m.SameFor k id) (h' : k.SameFor l id) :
    m.SameFor l id := by
  refine ⟨h'.scene.trans h.scene, fun d b => (h'.buttons d b).trans (h.buttons d b),
    fun d b hb => ?_⟩
  obtain ⟨x, hx, hkx⟩ := h.controllers d b hb
  obtain ⟨y, hky, hy⟩ := h'.controllers d b ((h.buttons d b).mpr hb)
  rw [hkx] at hky
  cases hky
  exact ⟨x, hx, hy⟩

section
variable (h : m.Coherent D)
include h

theorem Coherent.exists_controller {d : DeviceId} {b : ButtonId}
    (hb : m.sceneForButton? d b = some id) :
    ∃ x, m.controllers.get? d = some x := by
  obtain ⟨s, hs, hb⟩ := (h.index_iff d b id).mp hb
  exact h.registered hs hb

theorem Coherent.sameFor_self (id : SceneId) : m.SameFor m id := by
  refine ⟨rfl, fun _ _ => Iff.rfl, fun d b hb => ?_⟩
  obtain ⟨x, hx⟩ := h.exists_controller hb
  exact ⟨x, hx, hx⟩

variable (hk : m.Edited directory id k) (hne : other ≠ id)
include hk hne

theorem Edited.scene? : k.scene? other = m.scene? other := by
  cases hk with
  | put x hid hx => rw [scene?_withScene, hid, if_neg hne]
  | lose scenes es hes hscenes =>
    unfold Manager.scene?
    rw [scenes_unindexAll]
    exact hscenes other hne
  | gain hk =>
    obtain ⟨x, registry, hx, -, -, -, rfl⟩ := hk
    unfold Manager.scene?
    rw [scenes_rebound]
    have hid : x.id = id := h.stored id x hx
    show (m.withScene _).scene? other = _
    rw [scene?_withScene, if_neg (by rwa [hid])]
    rfl

theorem Edited.sceneForButton?_iff (d : DeviceId) (b : ButtonId) :
    k.sceneForButton? d b = some other ↔ m.sceneForButton? d b = some other := by
  have hnot : some id ≠ some other := fun heq => hne (Option.some.inj heq).symm
  cases hk with
  | put x hid hx => exact Iff.rfl
  | lose scenes es hes hscenes =>
    rw [sceneForButton?_unindexAll]
    split
    next hmem =>
      -- Each button that was taken led to the scene that lost it.
      rw [(h.index_iff d b id).mpr (hes (d, b) hmem)]
      simp [hnot]
    next => exact Iff.rfl
  | @gain c e k hk =>
    obtain ⟨x, registry, hx, hfree, -, -, rfl⟩ := hk
    have hid : x.id = id := h.stored id x hx
    rw [sceneForButton?_rebound, hid]
    by_cases hd : d = c
    · rw [if_pos hd, hd]
      by_cases hb : b = e
      · rw [if_pos hb, hb]
        constructor
        · intro ho
          exact absurd ho hnot
        · intro ho
          exact absurd (hfree other ho) hne
      · rw [if_neg hb]
        by_cases hp : x.button? c = some b
        · rw [if_pos hp, (h.index_iff c b id).mpr ⟨x, hx, hp⟩]
          simp [hnot]
        · rw [if_neg hp]
    · rw [if_neg hd]

theorem Edited.get?_controllers {d : DeviceId} {b : ButtonId}
    (hb : m.sceneForButton? d b = some other) :
    k.controllers.get? d = m.controllers.get? d := by
  have huses : k.uses d = true := uses_iff.mpr ⟨b, other, (hk.sceneForButton?_iff h hne d b).mpr hb⟩
  cases hk with
  | put x hid hx => rfl
  | lose scenes es hes hscenes => exact get?_controllers_unindexAll_of_uses huses
  | @gain c e k hk =>
    obtain ⟨x, registry, hx, hfree, hknows, -, rfl⟩ := hk
    rw [get?_controllers_rebound_of_uses _ _ _ _ _ huses]
    rcases hknows with ⟨-, rfl⟩ | ⟨hnone, y, -, rfl⟩
    · rfl
    · -- A controller is attached only if it was not registered; then no scene has a button of it.
      have hd : d ≠ c := by
        rintro rfl
        obtain ⟨z, hz⟩ := h.exists_controller hb
        rw [hnone] at hz
        cases hz
      rw [ByteMap.get?_insert, if_neg hd]

theorem Edited.sameFor : m.SameFor k other := by
  refine ⟨hk.scene? h hne, hk.sceneForButton?_iff h hne, fun d b hb => ?_⟩
  obtain ⟨x, hx⟩ := h.exists_controller hb
  refine ⟨x, hx, ?_⟩
  rw [hk.get?_controllers h hne hb]
  exact hx

end

theorem scene?_of_newScene (number : UInt32) (name : String) (s : Manager × Outlet χ)
    (hid : (newSceneWithId number name).answer s = .ok id) :
    (Call.newScene number name).scene? s.1 = some id := by
  unfold Act.answer at hid
  rcases run_newSceneWithId number name s with ⟨e, hr⟩ | ⟨given, hgiven, -, hr⟩
  · rw [hr] at hid
    cases hid
  · rw [hr] at hid
    cases hid
    exact hgiven

/-- A configuration call, also one that fails, leaves alone what belongs to scenes that it is not
about. A new scene is about the id it gets. -/
theorem other_scenes_untouched [Channel χ] (h : Reachable D m) {c : Call} (hc : c.configures = true)
    (directory : Directory) (o : Outlet χ) :
    (∀ number name id, c = .newScene number name →
      (newSceneWithId number name).answer (m, o) = .ok id →
        c.scene? m = some id) ∧
      ∀ other, c.scene? m ≠ some other → m.SameFor ((c.run directory).after (m, o)).1 other := by
  constructor
  · rintro number name id rfl hid
    exact scene?_of_newScene number name (m, o) hid
  intro other hother
  have hm := h.coherent
  have key := Act.ends_iff.mp (hm.editsAt_run (s := (m, o)) directory hc)
  generalize (c.run directory).after (m, o) = t at key ⊢
  generalize (c.run directory).answer (m, o) = r at key
  cases r with
  | error e =>
    have key : t.1 = m := key
    rw [key]
    exact hm.sameFor_self other
  | ok u =>
    obtain ⟨id, hid, hk⟩ := key
    apply hk.sameFor hm
    intro heq
    exact hother (by rw [heq, ← hid])

/-- Two scenes share a keypad, and one of them is removed. -/
theorem other_scenes_untouched_shared_keypad :
    let s := afterCalls twoKeypads
      (evening ++ [.newScene 8 "supper", .addController ⟨8, by decide⟩ ⟨2⟩ ⟨2⟩])
    let c : Call := .removeScene ⟨7, by decide⟩
    ((c.run twoKeypads).after s).1 ≠ s.1 ∧
      s.1.SameFor ((c.run twoKeypads).after s).1 ⟨8, by decide⟩ := by
  have hreachable : Reachable Directory.Honest
      (afterCalls twoKeypads (evening ++
        [.newScene 8 "supper", .addController ⟨8, by decide⟩ ⟨2⟩ ⟨2⟩])).1 :=
    reachable_afterCalls honest_twoKeypads _
  exact ⟨by decide +kernel, (other_scenes_untouched hreachable rfl twoKeypads _).2 _ (by decide)⟩

end Manager

end MeshScenes
