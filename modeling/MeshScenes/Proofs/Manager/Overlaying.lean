import Mathlib.Data.Finset.Card
import MeshScenes.Proofs.Failures
import MeshScenes.Proofs.Manager.Isolation
import MeshScenes.Proofs.Manager.Restoring

/-!
# Restoring over what is there

Nothing is known of a snapshot: ids may be in use or occur twice, buttons may be taken or not exist,
devices may be unknown. `restore_adds`: what is there already stays as it is, each id that was free
gets the scene of its first record, and restoring the same snapshot again does nothing.
-/

namespace MeshScenes

/-- What a record says of a scene beside its members and controllers. -/
structure Scene.Headed (s : Scene) (record : SceneRecord) : Prop where
  id : s.id = record.id
  name : s.name = record.name
  duration : s.duration = record.duration
  overrideLevel : s.overrideLevel = record.overrideLevel

theorem Scene.Headed.addDevice {s t : Scene} {record : SceneRecord} (h : s.Headed record)
    {directory : Directory} {device : DeviceId} {value : UInt8}
    (ht : s.addDevice directory device value = .ok t) : t.Headed record := by
  unfold Scene.addDevice at ht
  cases hx : directory device with
  | none =>
    rw [hx] at ht
    cases ht
  | some d =>
    rw [hx] at ht
    cases ht
    unfold putMember
    split <;> exact ⟨h.id, h.name, h.duration, h.overrideLevel⟩

/-- The scene of a record before its members and controllers are added. -/
def SceneRecord.bare (record : SceneRecord) : Scene :=
  { Scene.new record.id record.name with
    duration := record.duration, overrideLevel := record.overrideLevel }

theorem Act.Throws.succeeds {σ χ α : Type} {I : σ → Prop} {x : Act σ χ α}
    (hx : x.Throws I fun _ => False) {s : σ × Outlet χ} (hs : I s.1) :
    ∃ a t, x s = .ok a t ∧ I t.1 := by
  have hend := hx s hs
  unfold Ends at hend
  cases hrun : x s with
  | ok a t =>
    rw [hrun] at hend
    exact ⟨a, t, rfl, hend.1⟩
  | error e t =>
    rw [hrun] at hend
    exact hend.2.elim

namespace Manager

variable {χ : Type} {D : Directory → Prop} {directory : Directory} {m k : Manager}
  {record : SceneRecord}

/-! ## The scene of a record -/

/-- The manager has the scene of a record, and is otherwise as `m`. -/
structure Gained (D : Directory → Prop) (m : Manager) (record : SceneRecord) (k : Manager) :
    Prop where
  coherent : k.Coherent D
  others : ∀ other, other ≠ record.id → m.SameFor k other
  own : ∃ s, k.scene? record.id = some s ∧ s.Headed record

theorem Gained.edit {α : Type} {x : Act Manager χ α} {s : Manager × Outlet χ}
    (h : Gained D m record s.1) (hkeeps : x.Moves (Keeps D))
    (hedits : x.Ends s (s.1.EditsAt directory (some record.id)))
    (hheaded : x.Ends s fun _ t => ∃ y, t.1.scene? record.id = some y ∧ y.Headed record) :
    x.Ends s fun r t => Gained D m record t.1 ∧ Act.FailsBy (fun _ => True) r := by
  apply ((Act.moves_iff_ends.mp hkeeps s).and (hedits.and hheaded)).mono
  intro r t ht
  obtain ⟨hcoherent, hedits, hown⟩ := ht
  cases r with
  | error e =>
    have ht : t.1 = s.1 := hedits
    rw [ht]
    exact ⟨h, trivial⟩
  | ok a =>
    obtain ⟨id, hid, hedited⟩ := hedits
    cases hid
    exact ⟨⟨hcoherent h.coherent, fun other hne =>
      (h.others other hne).trans (hedited.sameFor h.coherent hne), hown⟩, trivial⟩

theorem gains_addDevice (hD : D directory) (device : DeviceId) (value : UInt8) :
    (addDevice directory record.id device value : Act Manager χ Unit).Throws
      (Gained D m record) fun _ => True := by
  intro s hs
  apply hs.edit (keeps_addDevice hD _ _ _) (hs.coherent.editsAt_addDevice device value)
  obtain ⟨x, hx, hheaded⟩ := hs.own
  unfold addDevice
  rw [Act.ends_bind, ends_sceneNamed, hx]
  simp only
  rw [Act.ends_bind, Act.ends_of]
  cases ha : x.addDevice directory device value with
  | error e => exact ⟨x, hx, hheaded⟩
  | ok y =>
    have hy := hheaded.addDevice ha
    refine ⟨y, ?_, hy⟩
    show (s.1.withScene y).scene? record.id = some y
    rw [scene?_withScene, if_pos hy.id.symm]

theorem gains_addController [Channel χ] (directory : Directory) (c : DeviceId) (b : ButtonId) :
    (addController directory record.id c b : Act Manager χ Unit).Throws (Gained D m record) fun _ =>
      True := by
  intro s hs
  apply hs.edit (keeps_addController directory _ _ _) (hs.coherent.editsAt_addController c b)
  apply (hs.coherent.gives_addController directory record.id c b).mono
  intro r t ht
  cases r with
  | error e =>
    have ht : t.1 = s.1 := ht
    rw [ht]
    exact hs.own
  | ok u =>
    obtain ⟨x, hx, hheaded⟩ := hs.own
    obtain ⟨y, registry, hy, -, -, -, ht⟩ := ht
    rw [hx] at hy
    cases hy
    refine ⟨{ x with controllers := x.controllers.insert c b }, ?_,
      hheaded.id, hheaded.name, hheaded.duration, hheaded.overrideLevel⟩
    rw [ht]
    unfold Manager.scene?
    rw [scenes_rebound]
    show (s.1.withScene _).scene? record.id = _
    rw [scene?_withScene, if_pos hheaded.id.symm]

theorem gains_restoreDevice (hD : D directory) (device : DeviceRecord) :
    (restoreDevice directory record.id device : Act Manager χ Unit).Throws
      (Gained D m record) fun _ => False := by
  apply (Act.throws_outcome (gains_addDevice hD _ _)).bind
  intro r
  cases r with
  | ok u => exact Act.throws_pure _
  | error e => exact Act.throws_note _

theorem gains_restoreController [Channel χ] (controller : ControllerRecord) :
    (restoreController directory record.id controller : Act Manager χ Unit).Throws
      (Gained D m record)
      fun _ => False := by
  apply (Act.throws_outcome (gains_addController directory _ _)).bind
  intro r
  cases r with
  | ok u => exact Act.throws_pure _
  | error e => exact Act.throws_note _

theorem Coherent.gained_bare (h : m.Coherent D) (hfree : m.scene? record.id = none) :
    Gained D m record (m.withScene record.bare) := by
  have hbinds : ∀ d b, record.bare.button? d = some b ↔ m.Binds record.id d b := by
    intro d b
    show ByteMap.empty.get? d = some b ↔ _
    unfold Binds
    rw [hfree]
    simp
  refine ⟨h.withScene hbinds fun _ => ⟨List.nodup_nil, by simp [SceneRecord.bare, Scene.new]⟩,
    fun other hne => ?_, ?_⟩
  · have hedited : m.Edited (fun _ => none) record.id (m.withScene record.bare) := .put _ rfl hbinds
    exact hedited.sameFor h hne
  · exact ⟨record.bare, by rw [scene?_withScene]; exact if_pos rfl, rfl, rfl, rfl, rfl⟩

variable [Channel χ]

theorem restoreScene_of_free (directory : Directory) (hfree : m.scene? record.id = none)
    (o : Outlet χ) :
    restoreScene directory record (m, o) = (do
      record.devices.forM (restoreDevice directory record.id)
      record.controllers.forM (restoreController directory record.id)
      return true : Act Manager χ Bool)
        (m.withScene record.bare, o.note (.info "scene created" [("scene", .show record.id)])) := by
  let x := Scene.new record.id record.name
  let y := { x with duration := record.duration }
  have hx : (m.withScene x).scene? record.id = some x := by
    rw [scene?_withScene]
    exact if_pos rfl
  have hy : ((m.withScene x).withScene y).scene? record.id = some y := by
    rw [scene?_withScene]
    exact if_pos rfl
  have hsame : ((m.withScene x).withScene y).withScene record.bare = m.withScene record.bare := by
    unfold withScene
    exact congrArg (fun scenes => { m with scenes })
      ((ByteMap.insert_insert ..).trans (ByteMap.insert_insert ..))
  unfold restoreScene
  rw [Act.run_bind, Act.run_outcome, run_newSceneWithId_of_free hfree]
  simp only
  unfold setDuration setOverride
  rw [Act.run_bind, run_changeScene hx (fun s => { s with duration := record.duration })]
  simp only
  rw [Act.run_bind, run_changeScene hy (fun s => { s with overrideLevel := record.overrideLevel }),
    ← hsame]
  rfl

theorem restoreScene_free (h : m.Coherent D) (hD : D directory) (hfree : m.scene? record.id = none)
    (o : Outlet χ) :
    ∃ k o', restoreScene directory record (m, o) = .ok true (k, o') ∧ Gained D m record k := by
  have hdevices :
      (record.devices.forM (restoreDevice directory record.id) : Act Manager χ Unit).Throws
      (Gained D m record) fun _ => False :=
        Act.throws_forM fun device _ => gains_restoreDevice hD device
  have hcontrollers :
      (record.controllers.forM (restoreController directory record.id) : Act Manager χ Unit).Throws
      (Gained D m record) fun _ => False :=
        Act.throws_forM fun controller _ => gains_restoreController controller
  obtain ⟨⟨⟩, t, hrun, ht⟩ := hdevices.succeeds (s := (m.withScene record.bare,
    o.note (.info "scene created" [("scene", .show record.id)]))) (h.gained_bare hfree)
  obtain ⟨⟨⟩, u, hrun', hu⟩ := hcontrollers.succeeds ht
  refine ⟨u.1, u.2, ?_, hu⟩
  rw [restoreScene_of_free directory hfree o, Act.run_bind, hrun]
  simp only
  rw [Act.run_bind, hrun']
  rfl

theorem restoreScene_inUse (directory : Directory) {s : Scene} (hs : m.scene? record.id = some s)
    (o : Outlet χ) :
    ∃ o', restoreScene directory record (m, o) = .ok false (m, o') ∧ o'.attempts = o.attempts := by
  rcases run_newSceneWithId record.id.byte.toUInt32 record.name (m, o) with ⟨e, hrun⟩ |
    ⟨id, hid, hnone, -⟩
  · unfold restoreScene
    rw [Act.run_bind, Act.run_outcome, hrun]
    exact ⟨_, rfl, rfl⟩
  · rw [given?_toUInt32] at hid
    cases hid
    rw [hs] at hnone
    cases hnone

/-! ## All records -/

/-- The ids of the records that are not in use, each once. -/
def newIds (m : Manager) (l : List SceneRecord) : Finset SceneId :=
  (l.map (·.id)).toFinset.filter fun id => m.scene? id = none

/-- What is in `m` is in `k`, and each id that was free in `m` has the scene of its first record, if
there is one. -/
structure Overlaid (D : Directory → Prop) (m : Manager) (l : List SceneRecord) (k : Manager) :
    Prop where
  coherent : k.Coherent D
  kept : ∀ id s, m.scene? id = some s → m.SameFor k id
  gained : ∀ id, m.scene? id = none → Option.Rel Scene.Headed (k.scene? id) (l.find? (·.id = id))

variable {l : List SceneRecord}

theorem Overlaid.cons_inUse {s : Scene} (h : Overlaid D m l k) (hs : m.scene? record.id = some s) :
    Overlaid D m (record :: l) k := by
  refine ⟨h.coherent, h.kept, fun id hid => ?_⟩
  have hne : record.id ≠ id := by
    rintro rfl
    rw [hs] at hid
    cases hid
  rw [List.find?_cons_of_neg (by simpa using hne)]
  exact h.gained id hid

theorem newIds_cons_inUse {s : Scene} (hs : m.scene? record.id = some s) :
    m.newIds (record :: l) = m.newIds l := by
  unfold newIds
  rw [List.map_cons, List.toFinset_cons, Finset.filter_insert, if_neg (by simp [hs])]

theorem Overlaid.cons_free {k' : Manager} (h : Overlaid D k l k') (hk : Gained D m record k)
    (hfree : m.scene? record.id = none) : Overlaid D m (record :: l) k' := by
  refine ⟨h.coherent, fun id s hs => ?_, fun id hid => ?_⟩
  · have hne : id ≠ record.id := by
      rintro rfl
      rw [hs] at hfree
      cases hfree
    have hsame := hk.others id hne
    exact hsame.trans (h.kept id s (hsame.scene.trans hs))
  · by_cases hrecord : id = record.id
    · -- What the first record of an id adds is there for the later ones.
      subst hrecord
      obtain ⟨s, hs, hheaded⟩ := hk.own
      rw [(h.kept record.id s hs).scene, hs, List.find?_cons_of_pos (by simp)]
      exact .some hheaded
    · rw [List.find?_cons_of_neg (by simpa using Ne.symm hrecord)]
      exact h.gained id ((hk.others id hrecord).scene.trans hid)

theorem card_newIds_cons (hk : Gained D m record k) (hfree : m.scene? record.id = none) :
    (m.newIds (record :: l)).card = (k.newIds l).card + 1 := by
  have hinsert : m.newIds (record :: l) = insert record.id (k.newIds l) := by
    ext id
    by_cases hid : id = record.id
    · simp [newIds, hid, hfree]
    · simp [newIds, hid, (hk.others id hid).scene]
  have hnot : record.id ∉ k.newIds l := by
    obtain ⟨s, hs, -⟩ := hk.own
    simp [newIds, hs]
  rw [hinsert, Finset.card_insert_of_notMem hnot]

def restoreOne (directory : Directory) (n : Nat) (record : SceneRecord) : Act Manager χ Nat := do
  let done ← restoreScene directory record
  return if done then n + 1 else n

theorem restore_eq (directory : Directory) (snapshot : Snapshot) :
    (restore directory snapshot : Act Manager χ Nat) = do
      let restored ← snapshot.scenes.foldlM (restoreOne directory) 0
      Act.note (.info "scenes restored" [("restored", .number restored)])
      return restored := rfl

theorem restoreScenes_adds (h : m.Coherent D) (directory : Directory) (hD : D directory)
    (l : List SceneRecord) (n : Nat) (o : Outlet χ) :
    ∃ k o', l.foldlM (restoreOne directory) n (m, o) = .ok (n + (m.newIds l).card) (k, o') ∧
      Overlaid D m l k := by
  induction l generalizing m n o with
  | nil =>
    refine ⟨m, o, rfl, h, fun id s _ => h.sameFor_self id, fun id hid => ?_⟩
    rw [hid]
    exact .none
  | cons record l ih =>
    rw [List.foldlM_cons, Act.run_bind]
    unfold restoreOne
    cases hs : m.scene? record.id with
    | some s =>
      obtain ⟨o₁, hrun, -⟩ := restoreScene_inUse directory hs o
      obtain ⟨k, o', hrun', hk⟩ := ih h n o₁
      refine ⟨k, o', ?_, hk.cons_inUse hs⟩
      rw [Act.run_bind, hrun, newIds_cons_inUse hs]
      exact hrun'
    | none =>
      obtain ⟨m₁, o₁, hrun, hm₁⟩ := restoreScene_free h hD hs o
      obtain ⟨k, o', hrun', hk⟩ := ih hm₁.coherent (n + 1) o₁
      refine ⟨k, o', ?_, hk.cons_free hm₁ hs⟩
      have hcount : n + ((m₁.newIds l).card + 1) = n + 1 + (m₁.newIds l).card := by omega
      rw [Act.run_bind, hrun, card_newIds_cons hm₁ hs, hcount]
      exact hrun'

theorem restoreScenes_inUse (directory : Directory)
    (hl : ∀ record ∈ l, ∃ s, m.scene? record.id = some s) (n : Nat) (o : Outlet χ) :
    ∃ o', l.foldlM (restoreOne directory) n (m, o) = .ok n (m, o') ∧ o'.attempts = o.attempts := by
  induction l generalizing o with
  | nil => exact ⟨o, rfl, rfl⟩
  | cons record l ih =>
    obtain ⟨s, hs⟩ := hl record List.mem_cons_self
    obtain ⟨o₁, hrun, hattempts⟩ := restoreScene_inUse directory hs o
    obtain ⟨o', hrun', hattempts'⟩ := ih (fun x hx => hl x (List.mem_cons_of_mem _ hx)) o₁
    refine ⟨o', ?_, hattempts'.trans hattempts⟩
    rw [List.foldlM_cons, Act.run_bind]
    unfold restoreOne
    rw [Act.run_bind, hrun]
    exact hrun'

theorem Overlaid.inUse (h : Overlaid D m l k) {record : SceneRecord} (hrecord : record ∈ l) :
    ∃ s, k.scene? record.id = some s := by
  cases hs : m.scene? record.id with
  | some s => exact ⟨s, (h.kept record.id s hs).scene.trans hs⟩
  | none =>
    have hgained := h.gained record.id hs
    cases hk : k.scene? record.id with
    | some s => exact ⟨s, rfl⟩
    | none =>
      rw [hk] at hgained
      cases hfind : l.find? (·.id = record.id) with
      | none =>
        have hne := List.find?_eq_none.mp hfind record hrecord
        simp at hne
      | some x =>
        rw [hfind] at hgained
        cases hgained

/-- Restoring any snapshot succeeds and changes nothing that is there. Each id that was free and
occurs in the snapshot is added with what its first record says, and their number is the answer.
Restoring the snapshot again does nothing. -/
theorem restore_adds (h : Reachable D m) (snapshot : Snapshot) (directory : Directory)
    (o : Outlet χ) :
    ∃ k o', restore directory snapshot (m, o) = .ok (m.newIds snapshot.scenes).card (k, o') ∧
      (∀ id s, m.scene? id = some s → k.scene? id = some s) ∧
      (∀ c b id, m.sceneForButton? c b = some id → k.sceneForButton? c b = some id) ∧
      (∀ c x, m.controllers.get? c = some x → k.controllers.get? c = some x) ∧
      (∀ id, m.scene? id = none →
        Option.Rel Scene.Headed (k.scene? id) (snapshot.scenes.find? (·.id = id))) ∧
      ∀ (directory' : Directory) (u : Outlet χ), ∃ u', restore directory' snapshot (k, u) =
        .ok 0 (k, u') ∧
        u'.attempts = u.attempts := by
  -- The directory need not be one of those before.
  have hm : m.Coherent fun _ => True := h.coherent.mono fun _ _ => trivial
  obtain ⟨k, o', hrun, hk⟩ := restoreScenes_adds hm directory trivial snapshot.scenes 0 o
  refine ⟨k,
    o'.note (.info "scenes restored" [("restored", .number (m.newIds snapshot.scenes).card)]),
    ?_, ?_, ?_, ?_, hk.gained, fun directory' u => ?_⟩
  · rw [Nat.zero_add] at hrun
    rw [restore_eq, Act.run_bind, hrun]
    rfl
  · intro id s hs
    exact (hk.kept id s hs).scene.trans hs
  · intro c b id hb
    obtain ⟨s, hs, -⟩ := (hm.index_iff c b id).mp hb
    exact ((hk.kept id s hs).buttons c b).mpr hb
  · -- A controller that is registered has a button of some scene, and that scene was there before.
    intro c x hx
    obtain ⟨id, b, s, hs, hb⟩ := (hm.registered_iff c).mp (ByteMap.contains_iff.mpr ⟨x, hx⟩)
    obtain ⟨y, hy, hky⟩ := (hk.kept id s hs).controllers c b ((hm.index_iff c b id).mpr ⟨s, hs, hb⟩)
    rw [hx] at hy
    cases hy
    exact hky
  · obtain ⟨u', hagain, hattempts⟩ := restoreScenes_inUse directory' (fun _ => hk.inUse) 0 u
    refine ⟨u'.note (.info "scenes restored" [("restored", .number 0)]), ?_, hattempts⟩
    rw [restore_eq, Act.run_bind, hagain]
    rfl

/-- Scene 7 exists, and scene 8 occurs twice. Of its controllers one has a button that is taken, and
one a button that it does not have; its member is unknown. -/
def untrusted : Snapshot where
  savedAt := none
  scenes := [
    ⟨⟨7, seven_ne_zero⟩, "morning", default, false, [], [⟨⟨2⟩, ⟨2⟩⟩]⟩,
    ⟨⟨8, eight_ne_zero⟩, "supper", default, false, [⟨⟨9⟩, 40⟩],
      [⟨⟨2⟩, ⟨1⟩⟩, ⟨⟨3⟩, ⟨9⟩⟩, ⟨⟨2⟩, ⟨2⟩⟩]⟩,
    ⟨⟨8, eight_ne_zero⟩, "night", default, true, [], [⟨⟨3⟩, ⟨1⟩⟩]⟩]

theorem restore_adds_untrusted :
    ∃ m k o', Reachable Directory.Honest m ∧
      restore twoKeypads untrusted (m, Outlet.opened FaultyChannel.sound) = .ok 1 (k, o') ∧
      (k.scene? ⟨7, by decide⟩).map (·.name) = some "evening" ∧
        (k.scene? ⟨8, by decide⟩).map (·.name) = some "supper" ∧
      k.sceneForButton? ⟨2⟩ ⟨1⟩ = some ⟨7, by decide⟩ ∧
      ∃ o'', restore twoKeypads untrusted (k, o') = .ok 0 (k, o'') ∧
      o''.attempts = o'.attempts := by
  let m := (afterCalls twoKeypads evening).1
  have h : Reachable Directory.Honest m := reachable_afterCalls honest_twoKeypads evening
  have hcard : (m.newIds untrusted.scenes).card = 1 := by decide +kernel
  have hseven : (m.scene? ⟨7, by decide⟩).map (·.name) = some "evening" := by decide +kernel
  have hnew : m.scene? ⟨8, by decide⟩ = none := by decide +kernel
  have hbutton : m.sceneForButton? ⟨2⟩ ⟨1⟩ = some ⟨7, by decide⟩ := by decide +kernel
  clear_value m
  obtain ⟨k, o', hrun, hscenes, hbuttons, -, hgained, hagain⟩ :=
    restore_adds h untrusted twoKeypads (Outlet.opened FaultyChannel.sound)
  rw [hcard] at hrun
  refine ⟨m, k, o', h, hrun, ?_, ?_, hbuttons _ _ _ hbutton, hagain twoKeypads o'⟩
  · obtain ⟨s, hs, hname⟩ := Option.map_eq_some_iff.mp hseven
    rw [hscenes _ s hs, Option.map_some, hname]
  · have hfirst := hgained ⟨8, by decide⟩ hnew
    generalize k.scene? ⟨8, by decide⟩ = x at hfirst ⊢
    cases hfirst with
    | some hheaded => rw [Option.map_some, hheaded.name]

end Manager

end MeshScenes
