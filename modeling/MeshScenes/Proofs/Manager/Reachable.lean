import MeshScenes.Channel.Faulty
import MeshScenes.Proofs.Manager.Configuring
import MeshScenes.Simulation.Keypad

/-!
# Reachable managers are coherent

Every call keeps coherence, whether it succeeds or not, so all managers that come about have it.
-/

namespace MeshScenes.Manager

variable {χ : Type} {D : Directory → Prop}

/-- Coherence is not lost, whatever became of the outlet. -/
def Keeps (D : Directory → Prop) (s t : Manager × Outlet χ) : Prop :=
  s.1.Coherent D → t.1.Coherent D

instance : IsPreorder (Manager × Outlet χ) (Keeps D) where
  refl _ := id
  trans _ _ _ h h' := h' ∘ h

theorem keeps_of_stays {α : Type} {x : Act Manager χ α} (hx : x.Moves Stays) : x.Moves (Keeps D) :=
  hx.mono fun _ _ ha h => h.of_alike ha

theorem keeps_sceneNamed {α : Type} {id : SceneId} {f : Scene → Act Manager χ α}
    (hf : ∀ x s, s.1.scene? id = some x → s.1.Coherent D → (f x).Ends s fun _ t => t.1.Coherent D) :
    (sceneNamed id >>= f).Moves (Keeps D) := by
  refine Act.moves_iff_ends.mpr fun s => ?_
  rw [Act.ends_bind, ends_sceneNamed]
  cases hs : s.1.scene? id with
  | none => exact refl_of (Keeps D) s
  | some x =>
    by_cases h : s.1.Coherent D
    · exact (hf x s hs h).mono fun _ _ ht _ => ht
    · exact Act.ends_iff.mpr fun h' => absurd h' h

/-! ## Scenes -/

theorem keeps_newSceneWithId (number : UInt32) (name : String) :
    (newSceneWithId number name : Act Manager χ SceneId).Moves (Keeps D) := by
  intro s h
  unfold Act.after
  rcases run_newSceneWithId number name s with ⟨e, hr⟩ | ⟨id, -, hnone, hr⟩
  · rw [hr]
    exact h
  · rw [hr]
    refine h.withScene (fun c b => ?_) fun _ => ⟨List.nodup_nil, by simp [Scene.new]⟩
    show ByteMap.empty.get? c = some b ↔ s.1.Binds id c b
    unfold Binds
    rw [hnone]
    simp

theorem keeps_removeScene (id : SceneId) :
    (removeScene id : Act Manager χ Scene).Moves (Keeps D) := by
  refine Act.moves_iff_ends.mpr fun s => (ends_removeScene id s).mono fun r t ht h => ?_
  cases r with
  | error e => rwa [ht]
  | ok x =>
    obtain ⟨hs, ht⟩ := ht
    have erased : ∀ k, ({ s.1 with scenes := s.1.scenes.erase id } : Manager).scene? k =
        if k = id then none else s.1.scene? k := fun k => ByteMap.get?_erase _ _ _
    rw [ht]
    refine h.unindexAll rfl rfl rfl (fun k c b => ?_) (fun k t hk => ?_) fun honest k t hk => ?_
    · -- The index gives a button to one scene, so no other scene loses one.
      have hmem : (c, b) ∈ x.controllers.toList ↔ s.1.Binds id c b := by
        rw [← ByteMap.get?_eq_some_iff]
        unfold Binds
        rw [hs]
        simp [Scene.button?]
      rw [hmem]
      unfold Binds
      rw [erased]
      by_cases hk : k = id
      · simp [hk]
      · simp only [hk, ite_false]
        refine ⟨fun hb => ⟨hb, fun hb' => hk ?_⟩, And.left⟩
        have h1 := (h.index_iff c b k).mpr hb
        have h2 := (h.index_iff c b id).mpr hb'
        rw [h1] at h2
        exact Option.some.inj h2
    all_goals
      rw [erased] at hk
      split at hk
    next => cases hk
    next => exact h.stored k t hk
    next => cases hk
    next => exact h.recorded honest k t hk

theorem keeps_setName (id : SceneId) (name : String) :
    (setName id name : Act Manager χ Unit).Moves (Keeps D) :=
  keeps_sceneNamed fun x _ hs h => h.changeScene hs rfl rfl fun hd => h.recorded hd id x hs

theorem keeps_setDuration (id : SceneId) (duration : Duration) :
    (setDuration id duration : Act Manager χ Unit).Moves (Keeps D) :=
  keeps_sceneNamed fun x _ hs h => h.changeScene hs rfl rfl fun hd => h.recorded hd id x hs

theorem keeps_setOverride (id : SceneId) (overrideLevel : Bool) :
    (setOverride id overrideLevel : Act Manager χ Unit).Moves (Keeps D) :=
  keeps_sceneNamed fun x _ hs h => h.changeScene hs rfl rfl fun hd => h.recorded hd id x hs

/-! ## Members -/

theorem nodup_addDevice {directory : Directory} (hd : directory.Honest) {s t : Scene}
    {device : DeviceId} {value : UInt8} (h : s.addDevice directory device value = .ok t)
    (hs : (s.members.map (·.device)).Nodup) :
    (t.members.map (·.device)).Nodup := by
  unfold Scene.addDevice at h
  cases hx : directory device with
  | none => rw [hx] at h; cases h
  | some d =>
    have hdev : d.id = device := hd device d hx
    rw [hx] at h
    cases h
    unfold Scene.putMember
    split
    next =>
      rw [Scene.map_device_changeMember fun _ _ => hdev]
      exact hs
    next hnone =>
      rw [List.map_append, List.nodup_append]
      refine ⟨hs, by simp, fun y hy z hz hyz => hnone ?_⟩
      obtain ⟨n, hn, rfl⟩ := List.mem_map.mp hy
      unfold Scene.member?
      rw [List.find?_isSome]
      refine ⟨n, hn, ?_⟩
      simp only [List.map_cons, List.map_nil, List.mem_singleton] at hz
      rw [hyz, hz]
      exact decide_eq_true hdev

theorem mem_changeMember {device : DeviceId} {f : Member → Member} {l : List Member} {y : Member}
    (h : y ∈ Scene.changeMember device f l) : y ∈ l ∨ ∃ x ∈ l, x.device = device ∧ y = f x := by
  induction l with
  | nil => cases h
  | cons x l ih =>
    unfold Scene.changeMember at h
    split at h
    next hx =>
      rcases List.mem_cons.mp h with rfl | h
      · exact .inr ⟨x, List.mem_cons_self, hx, rfl⟩
      · exact .inl (List.mem_cons_of_mem _ h)
    next =>
      rcases List.mem_cons.mp h with rfl | h
      · exact .inl List.mem_cons_self
      · rcases ih h with h | ⟨z, hz, hzd, rfl⟩
        · exact .inl (List.mem_cons_of_mem _ h)
        · exact .inr ⟨z, List.mem_cons_of_mem _ hz, hzd, rfl⟩

theorem recorded_addDevice {directory : Directory} (hd : directory.Honest) (hD : D directory)
    {s t : Scene} {device : DeviceId} {value : UInt8}
    (h : s.addDevice directory device value = .ok t) (hs : Recorded D s.members) :
    Recorded D t.members := by
  refine ⟨nodup_addDevice hd h hs.distinct, fun y hy => ?_⟩
  unfold Scene.addDevice at h
  cases hx : directory device with
  | none => rw [hx] at h; cases h
  | some x =>
    have hnew : ∃ directory d, D directory ∧ directory (Member.ofDevice x value).device = some d ∧
        (Member.ofDevice x value).sceneCapable = d.isSceneCapable := by
      refine ⟨directory, x, hD, ?_, rfl⟩
      show directory x.id = some x
      rw [hd device x hx, hx]
    rw [hx] at h
    cases h
    unfold Scene.putMember at hy
    split at hy
    · rcases mem_changeMember hy with hy | ⟨_, _, _, rfl⟩
      · exact hs.noted y hy
      · exact hnew
    · rcases List.mem_append.mp hy with hy | hy
      · exact hs.noted y hy
      · rw [List.mem_singleton.mp hy]
        exact hnew

theorem keeps_addDevice {directory : Directory} (hD : D directory) (id : SceneId)
    (device : DeviceId) (value : UInt8) :
    (addDevice directory id device value : Act Manager χ Unit).Moves (Keeps D) := by
  refine keeps_sceneNamed fun x s hs h => ?_
  rw [Act.ends_bind, Act.ends_of]
  cases ha : x.addDevice directory device value with
  | error e => exact h
  | ok t =>
    obtain ⟨hid, hc⟩ := addDevice_eq_ok ha
    exact h.changeScene hs hid hc fun hd =>
      recorded_addDevice (hd directory hD) hD ha (h.recorded hd id x hs)

theorem keeps_removeDevice (id : SceneId) (device : DeviceId) :
    (removeDevice id device : Act Manager χ Bool).Moves (Keeps D) :=
  keeps_sceneNamed fun x _ hs h => h.changeScene hs rfl rfl fun hd =>
    have hx := h.recorded hd id x hs
    ⟨hx.distinct.sublist (List.filter_sublist.map _), fun y hy =>
      hx.noted y (List.mem_filter.mp hy).1⟩

theorem keeps_setValue (id : SceneId) (device : DeviceId) (value : UInt8) :
    (setValue id device value : Act Manager χ Unit).Moves (Keeps D) := by
  refine keeps_sceneNamed fun x s hs h => ?_
  rw [Act.ends_bind, Act.ends_of]
  unfold Scene.setValue
  cases hm : x.member? device with
  | none => exact h
  | some n =>
    refine h.changeScene hs rfl rfl fun hd => ⟨?_, fun y hy => ?_⟩
    · show ((Scene.changeMember device (fun m => { m with value }) x.members).map (·.device)).Nodup
      rw [Scene.map_device_changeMember (f := fun m => { m with value }) fun _ hn => hn]
      exact (h.recorded hd id x hs).distinct
    · rcases mem_changeMember hy with hy | ⟨z, hz, -, rfl⟩
      · exact (h.recorded hd id x hs).noted y hy
      · exact (h.recorded hd id x hs).noted z hz

/-! ## Controllers -/

theorem keeps_removeController (id : SceneId) (c : DeviceId) :
    (removeController id c : Act Manager χ (Option ButtonId)).Moves (Keeps D) := by
  refine Act.moves_iff_ends.mpr fun s => (ends_removeController id c s).mono fun r t ht h => ?_
  cases r with
  | error e => rwa [ht]
  | ok b =>
    obtain ⟨x, hs, rfl, ht⟩ := ht
    have hid : x.id = id := h.stored id x hs
    rw [ht]
    refine h.unindexAll rfl rfl rfl (fun k d b => ?_) (fun k y hk => ?_) fun honest k y hk => ?_
    · have hbinds : (s.1.withScene (x.removeController c).1).Binds k d b ↔
          s.1.Binds k d b ∧ ¬ (k = id ∧ d = c) := by
        rw [binds_withScene]
        simp only [Scene.removeController, Scene.button?, ByteMap.get?_erase, hid]
        split
        next hk =>
          unfold Binds
          rw [hk, hs]
          by_cases hd : d = c <;> simp [hd, Scene.button?]
        next hk => simp [hk]
      have hleft : (d, b) ∈ (x.button? c).toList.map (c, ·) ↔ d = c ∧ x.button? c = some b := by
        cases x.button? c <;> simp [eq_comm]
      -- the scene had one button at the controller, and the index gives that to no other scene
      rw [hbinds, hleft]
      refine and_congr_right fun hb => not_congr ⟨?_, ?_⟩
      · rintro ⟨rfl, rfl⟩
        obtain ⟨y, hy, hyb⟩ := hb
        rw [hs] at hy
        cases hy
        exact ⟨rfl, hyb⟩
      · rintro ⟨rfl, hxb⟩
        refine ⟨?_, rfl⟩
        have h1 := (h.index_iff d b k).mpr hb
        have h2 := (h.index_iff d b id).mpr ⟨x, hs, hxb⟩
        rw [h1] at h2
        exact Option.some.inj h2
    all_goals
      rw [scene?_withScene] at hk
      split at hk
    next hkid => cases hk; exact hkid.symm
    next => exact h.stored k y hk
    next => cases hk; exact h.recorded honest id x hs
    next => exact h.recorded honest k y hk

theorem Coherent.rebound_of_knows {m : Manager} (h : m.Coherent D) {directory : Directory}
    {id : SceneId} {x : Scene} {c : DeviceId} {b : ButtonId} {r : Registry}
    (hs : m.scene? id = some x) (hfree : ∀ other, m.sceneForButton? c b = some other → other = id)
    (hr : m.Knows directory c r) (hb : 1 ≤ b.byte ∧ b.byte < m.buttonCount) :
    (m.rebound r x c b).Coherent D := by
  rcases hr with ⟨hc, rfl⟩ | ⟨-, y, hy, rfl⟩
  · exact h.rebound hs hfree hc (fun _ _ => rfl) (h.controller c) hb
  · refine h.rebound hs hfree ?_ (fun d hd => ?_) (fun z hz => ?_) hb
    · exact ByteMap.contains_iff.mpr ⟨y, by rw [ByteMap.get?_insert, if_pos rfl]⟩
    · rw [ByteMap.get?_insert, if_neg hd]
    · rw [ByteMap.get?_insert, if_pos rfl] at hz
      cases hz
      exact ⟨hy.device, hy.isBound, hy.buttonCount⟩

theorem keeps_addController [Channel χ] (directory : Directory) (id : SceneId) (c : DeviceId)
    (b : ButtonId) :
    (addController directory id c b : Act Manager χ Unit).Moves (Keeps D) := by
  intro s h
  have key : (addController directory id c b : Act Manager χ Unit).Ends s fun _ t =>
    t.1.Coherent D := by
    refine (h.gives_addController directory id c b).mono fun r t ht => ?_
    cases r with
    | error e => rwa [ht]
    | ok u =>
      obtain ⟨x, registry, hs, hfree, hknows, hb, ht⟩ := ht
      rw [ht]
      exact h.rebound_of_knows hs hfree hknows hb
  exact Act.ends_iff.mp key

/-! ## Restoring -/

theorem keeps_restore [Channel χ] {directory : Directory} (hD : D directory) (snapshot : Snapshot) :
    (restore directory snapshot : Act Manager χ Nat).Moves (Keeps D) := by
  have note : ∀ e, (Act.note e : Act Manager χ Unit).Moves (Keeps D) :=
    fun e => keeps_of_stays (stays_note e)
  have device : ∀ id record,
      (restoreDevice directory id record : Act Manager χ Unit).Moves (Keeps D) := by
    intro id record
    refine Act.moves_bind (Act.moves_outcome (keeps_addDevice hD id _ _)) fun r => ?_
    split
    · exact Act.moves_pure _
    · exact note _
  have controller : ∀ id record,
      (restoreController directory id record : Act Manager χ Unit).Moves (Keeps D) := by
    intro id record
    refine Act.moves_bind (Act.moves_outcome (keeps_addController directory id _ _)) fun r => ?_
    split
    · exact Act.moves_pure _
    · exact note _
  have scene : ∀ record, (restoreScene directory record : Act Manager χ Bool).Moves (Keeps D) := by
    intro record
    refine Act.moves_bind (Act.moves_outcome (keeps_newSceneWithId _ _)) fun r => ?_
    split
    · exact Act.moves_bind (note _) fun _ => Act.moves_pure _
    · refine Act.moves_bind (keeps_setDuration _ _) fun _ =>
        Act.moves_bind (keeps_setOverride _ _) fun _ => ?_
      refine Act.moves_bind (Act.moves_forM fun d _ => device _ d) fun _ => ?_
      exact Act.moves_bind (Act.moves_forM fun c _ => controller _ c) fun _ => Act.moves_pure _
  unfold restore
  refine Act.moves_bind (Act.moves_foldlM (fun record _ n => ?_) 0) fun n => ?_
  · exact Act.moves_bind (scene record) fun _ => Act.moves_pure _
  · exact Act.moves_bind (note _) fun _ => Act.moves_pure _

/-! ## Every reachable manager -/

theorem keeps_call [Channel χ] {directory : Directory} (hD : D directory) (c : Call) :
    (c.run directory : Act Manager χ Unit).Moves (Keeps D) := by
  cases c with
  | newScene number name => exact Act.moves_discard (keeps_newSceneWithId number name)
  | removeScene id => exact Act.moves_discard (keeps_removeScene id)
  | setName id name => exact keeps_setName id name
  | setDuration id duration => exact keeps_setDuration id duration
  | setOverride id overrideLevel => exact keeps_setOverride id overrideLevel
  | addDevice id device value => exact keeps_addDevice hD id device value
  | removeDevice id device => exact Act.moves_discard (keeps_removeDevice id device)
  | setValue id device value => exact keeps_setValue id device value
  | addController id controller button => exact keeps_addController directory id controller button
  | removeController id controller => exact Act.moves_discard (keeps_removeController id controller)
  | program id => exact Act.moves_discard (keeps_of_stays (stays_program id))
  | activate id => exact Act.moves_discard (keeps_of_stays (stays_activateScene id))
  | refresh => exact keeps_of_stays stays_refreshIndicators
  | restore snapshot => exact Act.moves_discard (keeps_restore hD snapshot)

theorem coherent_start {coordinator : DeviceId} {count : UInt8} {m : Manager}
    (h : (new.withCoordinator coordinator).withButtonCount count = .ok m) : m.Coherent D := by
  unfold withButtonCount at h
  split at h
  next hcount =>
    cases h
    refine coherent_of_keyed (fun _ => ⟨rfl, rfl⟩) (fun c b id => ?_) hcount (fun c x hx => ?_)
      (fun id c b hb => ?_) (fun id s hs => ?_) fun _ id s hs => ?_
    · constructor
      · intro hb
        cases hb
      · rintro ⟨s, hs, -⟩
        cases hs
    · cases hx
    · obtain ⟨s, hs, -⟩ := hb
      cases hs
    · cases hs
    · cases hs
  next => cases h

theorem Reachable.coherent {m : Manager} (h : Reachable D m) : m.Coherent D := by
  induction h with
  | start h => exact coherent_start h
  | call c o _ hD ih => exact keeps_call hD c (_, o) ih
  | frame f o _ ih => exact keeps_of_stays (stays_handleFrame f) (_, o) ih
  | event e o _ ih => exact keeps_of_stays (stays_handleEvent e) (_, o) ih

/-- Only a directory that answers an id with another device makes a device a member twice. -/
theorem Reachable.nodup_members {m : Manager} (h : Reachable D m) (honest : ∀ d, D d → d.Honest)
    {id : SceneId} {s : Scene} (hs : m.scene? id = some s) : (s.members.map (·.device)).Nodup :=
  (h.coherent.recorded honest id s hs).distinct

/-- In every reachable manager the index holds the buttons of the scenes, the registry holds the
controllers of these buttons, bound and with room for them, and scenes are stored under their ids.
Where all directories are honest, no device is a member of a scene twice. -/
theorem tables_agree {m : Manager} (h : Reachable D m) :
    (∀ c b id, m.sceneForButton? c b = some id ↔ ∃ s, m.scene? id = some s ∧ s.button? c = some b) ∧
      (∀ c, m.controllers.contains c = true ↔
        ∃ id s b, m.scene? id = some s ∧ s.button? c = some b) ∧
      (∀ c buttons, m.index.get? c = some buttons → buttons.isEmpty = false) ∧
      (∀ c x, m.controllers.get? c = some x →
        x.device = c ∧ x.isBound = true ∧ x.buttonCount = m.buttonCount ∧
          ∀ id s b, m.scene? id = some s → s.button? c = some b →
            1 ≤ b.byte ∧ b.byte < m.buttonCount) ∧
      (∀ id s, m.scene? id = some s → s.id = id) ∧
      ((∀ d, D d → d.Honest) →
        ∀ id s, m.scene? id = some s → (s.members.map (·.device)).Nodup) := by
  have hm := h.coherent
  refine ⟨hm.index_iff, fun c => ?_, hm.nonempty, fun c x hx => ?_, hm.stored,
    fun honest _ _ hs => h.nodup_members honest hs⟩
  · rw [hm.registered_iff]
    constructor
    · rintro ⟨id, b, s, hs, hb⟩
      exact ⟨id, s, b, hs, hb⟩
    · rintro ⟨id, s, b, hs, hb⟩
      exact ⟨id, b, s, hs, hb⟩
  · obtain ⟨hdevice, hbound, hcount⟩ := hm.controller c x hx
    exact ⟨hdevice, hbound, hcount, fun id s b hs hb => hm.button id c b ⟨s, hs, hb⟩⟩

/-! ## A manager with one scene -/

def twoKeypads : Directory := fun id =>
  if id = ⟨2⟩ ∨ id = ⟨3⟩ then some (Keypad.new id false).descriptor else none

theorem honest_twoKeypads : twoKeypads.Honest := by
  intro id d hd
  unfold twoKeypads at hd
  split at hd
  · cases hd
    rfl
  · cases hd

def afterCalls (directory : Directory) (cs : List Call) : Manager × Outlet FaultyChannel :=
  cs.foldl (fun s c => (c.run directory).after s) (new, Outlet.opened .sound)

theorem reachable_afterCalls {directory : Directory} (hD : D directory) (cs : List Call) :
    Reachable D (afterCalls directory cs).1 := by
  have step : ∀ (cs : List Call) (s : Manager × Outlet FaultyChannel), Reachable D s.1 →
      Reachable D (cs.foldl (fun s c => (c.run directory).after s) s).1 := by
    intro cs
    induction cs with
    | nil => exact fun s h => h
    | cons c cs ih => exact fun s h => ih _ (h.call c s.2 hD)
  exact step cs _ (@Reachable.start D ⟨1⟩ 5 new rfl)

theorem seven_ne_zero : (7 : UInt8) ≠ 0 := by decide

theorem eight_ne_zero : (8 : UInt8) ≠ 0 := by decide

/-- The evening scene is triggered by the first buttons of two keypads. -/
def evening : List Call :=
  [.newScene 7 "evening", .addController ⟨7, by decide⟩ ⟨2⟩ ⟨1⟩,
    .addController ⟨7, by decide⟩ ⟨3⟩ ⟨1⟩]

/-- The keypads are members of the scene as well. -/
theorem tables_agree_evening :
    ∃ m s, Reachable Directory.Honest m ∧ m.controllers.contains ⟨2⟩ = true ∧
      (∃ id s b, m.scene? id = some s ∧ s.button? ⟨2⟩ = some b) ∧
      m.scene? ⟨7, seven_ne_zero⟩ = some s ∧ s.members.length = 2 ∧
      (s.members.map (·.device)).Nodup := by
  let m := (afterCalls twoKeypads (evening ++
    [.addDevice ⟨7, seven_ne_zero⟩ ⟨2⟩ 40, .addDevice ⟨7, seven_ne_zero⟩ ⟨3⟩ 90])).1
  have h : Reachable Directory.Honest m := reachable_afterCalls honest_twoKeypads _
  have hc : m.controllers.contains ⟨2⟩ = true := by decide +kernel
  have hmembers : (m.scene? ⟨7, seven_ne_zero⟩).map (·.members.length) = some 2 := by decide +kernel
  obtain ⟨s, hs, hlength⟩ := Option.map_eq_some_iff.mp hmembers
  obtain ⟨-, hregistered, -, -, -, hdistinct⟩ := tables_agree h
  exact ⟨m, s, h, hc, (hregistered ⟨2⟩).mp hc, hs, hlength, hdistinct (fun _ hd => hd) _ s hs⟩

end MeshScenes.Manager
