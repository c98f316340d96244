import Mathlib.Data.List.Perm.Subperm
import MeshScenes.Proofs.Manager.Devices
import MeshScenes.Proofs.Manager.Report

/-!
# Restoring a snapshot

A snapshot is restored by the calls that configure scenes. `Builds` says of an operation that it
succeeds and which scenes it leaves; the calls of a restoration are chained by it. The scenes
determine the index and the set of controllers, so nothing else has to be followed.
-/

namespace MeshScenes

/-! ## Room for a scene -/

theorem SceneId.mem_all (id : SceneId) : id ∈ SceneId.all := by
  unfold all
  rw [List.mem_filterMap]
  refine ⟨id.byte, ?_, ofByte?_byte id⟩
  rw [List.mem_map]
  exact ⟨id.byte.toNat, List.mem_range.mpr id.byte.toNat_lt, UInt8.ofNat_toNat⟩

theorem SceneId.length_all : SceneId.all.length = maxScenes := by decide +kernel

theorem SceneId.ofNumber_toUInt32 (id : SceneId) : SceneId.ofNumber id.byte.toUInt32 = .ok id := by
  unfold ofNumber ofByte
  simp [toUInt32_le id.byte, id.ne_zero]

theorem SceneId.toUInt32_ne_zero (id : SceneId) : id.byte.toUInt32 ≠ 0 := by
  intro h
  apply id.ne_zero
  apply UInt8.toNat_inj.mp
  simpa using congrArg UInt32.toNat h

theorem size_lt_maxScenes {α : Type} {m : ByteMap SceneId α} {id : SceneId} (h : m.get? id = none) :
    m.size < maxScenes := by
  have hnodup : (id :: m.keys).Nodup := by
    refine List.nodup_cons.mpr ⟨fun hmem => ?_, m.nodup_keys⟩
    obtain ⟨v, hv⟩ := ByteMap.contains_iff.mp (ByteMap.mem_keys_iff.mp hmem)
    rw [h] at hv
    cases hv
  have hlength := (List.subperm_of_subset hnodup fun k _ => SceneId.mem_all k).length_le
  have hkeys : m.keys.length = m.size := List.length_map _
  rw [List.length_cons, SceneId.length_all, hkeys] at hlength
  exact hlength

namespace Manager

variable {χ α β : Type}

theorem given?_toUInt32 (m : Manager) (id : SceneId) : m.given? id.byte.toUInt32 = some id := by
  unfold given?
  rw [if_neg id.toUInt32_ne_zero, SceneId.ofNumber_toUInt32]
  rfl

theorem run_newSceneWithId_of_free {m : Manager} {id : SceneId} (hfree : m.scene? id = none)
    (name : String) (o : Outlet χ) : newSceneWithId id.byte.toUInt32 name (m, o) =
      .ok id (m.withScene (Scene.new id name),
        o.note (.info "scene created" [("scene", .show id)])) := by
  have hroom : ¬ maxScenes ≤ m.scenes.size := Nat.not_le.mpr (size_lt_maxScenes hfree)
  have hcontains : m.scenes.contains id = false := ByteMap.contains_eq_false_iff.mpr hfree
  unfold newSceneWithId
  simp [id.toUInt32_ne_zero, Act.run_bind, SceneId.ofNumber_toUInt32, Except.mapError, hroom,
    hcontains]
  rfl

/-! ## Operations that build scenes -/

/-- A coherent manager with these scenes. -/
structure Carries (D : Directory → Prop) (count : UInt8) (scenes : ByteMap SceneId Scene)
    (m : Manager) : Prop where
  coherent : m.Coherent D
  count : m.buttonCount = count
  scenes : m.scenes = scenes

variable {D : Directory → Prop} {count : UInt8} {S T U : ByteMap SceneId Scene} {id : SceneId}
  {y : Scene}

theorem Carries.scene?_eq {m : Manager} (h : Carries D count S m) (id : SceneId) :
    m.scene? id = S.get? id := by
  unfold Manager.scene?
  rw [h.scenes]

theorem Carries.scene?_insert {m : Manager} (h : Carries D count (S.insert id y) m) :
    m.scene? id = some y := by
  rw [h.scene?_eq, ByteMap.get?_insert, if_pos rfl]

theorem Carries.scenes_withScene {m : Manager} (h : Carries D count (S.insert id y) m) {z : Scene}
    (hz : z.id = id) :
    (m.withScene z).scenes = S.insert id z := by
  unfold withScene
  rw [h.scenes, hz, ByteMap.insert_insert]

variable [Channel χ]

/-- Over a channel that refuses nothing, the operation succeeds and turns the scenes `S` into
`T`. -/
def Builds (D : Directory → Prop) (count : UInt8) (x : Act Manager χ α) (S : ByteMap SceneId Scene)
    (a : α) (T : ByteMap SceneId Scene) : Prop :=
  ∀ m o, Carries D count S m → Channel.Accepts o.channel →
    ∃ k o', x (m, o) = .ok a (k, o') ∧ Carries D count T k ∧ Channel.Accepts o'.channel

theorem builds_pure (a : α) : Builds D count (pure a : Act Manager χ α) S a S :=
  fun m o hm ho => ⟨m, o, rfl, hm, ho⟩

theorem Builds.bind {x : Act Manager χ β} {f : β → Act Manager χ α} {a : α} {b : β}
    (hx : Builds D count x S b T) (hf : Builds D count (f b) T a U) :
    Builds D count (x >>= f) S a U := by
  intro m o hm ho
  obtain ⟨k, o₁, hrun, hk, ho₁⟩ := hx m o hm ho
  obtain ⟨k', o₂, hrun', hk', ho₂⟩ := hf k o₁ hk ho₁
  refine ⟨k', o₂, ?_, hk', ho₂⟩
  rw [Act.run_bind, hrun]
  exact hrun'

theorem Builds.outcome {x : Act Manager χ α} {a : α} (hx : Builds D count x S a T) :
    Builds D count (Act.outcome x) S (.ok a) T := by
  intro m o hm ho
  obtain ⟨k, o', hrun, hk, ho'⟩ := hx m o hm ho
  refine ⟨k, o', ?_, hk, ho'⟩
  rw [Act.run_outcome, hrun]

theorem builds_of_keeps {x : Act Manager χ α} {a : α} (hkeeps : x.Moves (Keeps D))
    (hrun : ∀ m o, Carries D count S m → Channel.Accepts o.channel →
      ∃ k o', x (m, o) = .ok a (k, o') ∧ k.buttonCount = m.buttonCount ∧ k.scenes = T ∧
        Channel.Accepts o'.channel) :
    Builds D count x S a T := by
  intro m o hm ho
  obtain ⟨k, o', hx, hcount, hscenes, ho'⟩ := hrun m o hm ho
  have hk := hkeeps (m, o) hm.coherent
  unfold Act.after at hk
  rw [hx] at hk
  exact ⟨k, o', hx, ⟨hk, hcount.trans hm.count, hscenes⟩, ho'⟩

theorem builds_note (e : Journal.Entry) : Builds D count (Act.note e : Act Manager χ Unit) S () S :=
  fun m o hm ho => ⟨m, o.note e, rfl, hm, ho⟩

/-! ## Scenes -/

theorem builds_newScene (hfree : S.get? id = none) (name : String) :
    Builds D count (newSceneWithId id.byte.toUInt32 name : Act Manager χ SceneId) S id
      (S.insert id (Scene.new id name)) := by
  apply builds_of_keeps (keeps_newSceneWithId _ _)
  intro m o hm ho
  rw [← hm.scenes] at hfree ⊢
  exact ⟨_, _, run_newSceneWithId_of_free hfree name o, rfl, rfl, ho⟩

theorem builds_changeScene {f : Scene → Scene}
    (hkeeps : (do putScene (f (← sceneNamed id)) : Act Manager χ Unit).Moves (Keeps D))
    (hf : (f y).id = y.id) :
    Builds D count (do putScene (f (← sceneNamed id)) : Act Manager χ Unit) (S.insert id y) ()
      (S.insert id (f y)) := by
  apply builds_of_keeps hkeeps
  intro m o hm ho
  have hid : (f y).id = id := hf.trans (hm.coherent.stored id y hm.scene?_insert)
  exact ⟨m.withScene (f y), o, run_changeScene hm.scene?_insert f o, rfl,
    hm.scenes_withScene hid, ho⟩

theorem builds_setDuration (duration : Duration) :
    Builds D count (setDuration id duration : Act Manager χ Unit) (S.insert id y) ()
      (S.insert id { y with duration }) :=
  builds_changeScene (f := fun s => { s with duration }) (keeps_setDuration id duration) rfl

theorem builds_setOverride (overrideLevel : Bool) :
    Builds D count (setOverride id overrideLevel : Act Manager χ Unit) (S.insert id y) ()
      (S.insert id { y with overrideLevel }) :=
  builds_changeScene (f := fun s => { s with overrideLevel })
    (keeps_setOverride id overrideLevel) rfl

theorem builds_addDevice {directory : Directory} (hD : D directory) (honest : directory.Honest)
    {x : Member} {d : Device} (hd : directory x.device = some d)
    (hcapable : x.sceneCapable = d.isSceneCapable) (hnew : x.device ∉ y.members.map (·.device)) :
    Builds D count (addDevice directory id x.device x.value : Act Manager χ Unit) (S.insert id y) ()
      (S.insert id { y with members := y.members ++ [x] }) := by
  apply builds_of_keeps (keeps_addDevice hD _ _ _)
  intro m o hm ho
  have hid : y.id = id := hm.coherent.stored id y hm.scene?_insert
  have hmember : Member.ofDevice d x.value = x := by
    unfold Member.ofDevice
    rw [honest x.device d hd, ← hcapable]
  have hnone : (y.member? x.device).isSome = false := by
    rw [Option.isSome_eq_false_iff, Option.isNone_iff_eq_none]
    unfold Scene.member?
    rw [List.find?_eq_none]
    intro z hz hzx
    exact hnew (of_decide_eq_true hzx ▸ List.mem_map_of_mem hz)
  have hadd : y.addDevice directory x.device x.value =
      .ok { y with members := y.members ++ [x] } := by
    unfold Scene.addDevice Scene.putMember
    simp only [hd, hmember, hnone]
    rfl
  refine ⟨m.withScene { y with members := y.members ++ [x] }, o.note (.debug "device added" [
    ("scene", .show id), ("device", .show x.device), ("value", .number x.value.toNat)]), ?_, rfl,
    hm.scenes_withScene hid, ho⟩
  unfold addDevice
  rw [Act.run_bind, run_sceneNamed hm.scene?_insert]
  simp only [hadd]
  rfl

/-! ## Controllers -/

/-- The directory has the device as a controller that scenes can be stored in. -/
def Attachable (directory : Directory) (c : DeviceId) : Prop :=
  ∃ x, directory c = some x ∧ x.deviceClass.isSceneController = true ∧
    x.supports .sceneControllerConf = true

variable {directory : Directory} {c : DeviceId} {b : ButtonId}

theorem Attachable.run_getOrBind (hc : Attachable directory c) (hcount : 2 ≤ count ∧ count ≤ 8)
    (r : Registry) {o : Outlet χ} (ho : Channel.Accepts o.channel) :
    ∃ y r' o', Registry.getOrBind c count directory (r, o) = .ok y (r', o') ∧
      Channel.Accepts o'.channel := by
  cases hr : r.get? c with
  | some y =>
    refine ⟨y, r, o, ?_, ho⟩
    unfold Registry.getOrBind
    rw [Act.run_bind, Act.run_subject]
    simp only [hr]
    rfl
  | none =>
    obtain ⟨x, hx, hclass, hsupports⟩ := hc
    obtain ⟨reaction, hbind⟩ :=
      Controller.bind_ok (c := { Controller.new c with buttonCount := count }) hx hclass hsupports
    have hnew : ((Controller.new c).setButtonCount count).mapError Error.validation =
        .ok { Controller.new c with buttonCount := count } := by
      unfold Controller.setButtonCount
      rw [if_pos hcount]
      rfl
    have hnoted := Outlet.took_noted o reaction.notes
    obtain ⟨o', hsend, htook⟩ :=
      Outlet.took_sendAll (hnoted.accepts ho) reaction.controller.askFrames
    refine ⟨reaction.controller, r.insert c reaction.controller, o', ?_,
      (hnoted.trans htook).accepts ho⟩
    rw [Registry.run_getOrBind hr hnew hbind, hsend]

theorem Attachable.run_bindButton (hc : Attachable directory c) {m : Manager} (h : m.Coherent D)
    (hy : m.scene? id = some y) (hb : 1 ≤ b.byte ∧ b.byte < m.buttonCount) {o : Outlet χ}
    (ho : Channel.Accepts o.channel) :
    ∃ r o', bindButton directory id c b (m, o) = .ok () (m.rebound r y c b, o') ∧
      Channel.Accepts o'.channel := by
  obtain ⟨x, r, o', hrun, ho'⟩ := hc.run_getOrBind h.count m.controllers ho
  have hfound := Registry.ends_getOrBind c m.buttonCount directory (m.controllers, o)
  unfold Act.Ends at hfound
  rw [hrun] at hfound
  have hx : x.device = c ∧ x.isBound = true ∧ x.buttonCount = m.buttonCount := by
    rcases hfound with ⟨hx, -⟩ | ⟨-, -, hx, -⟩
    · exact h.controller c x hx
    · exact ⟨hx.device, hx.isBound, hx.buttonCount⟩
  have haccepts : x.acceptsButton b = true := by
    unfold Controller.acceptsButton
    rw [hx.2.2]
    exact decide_eq_true hb
  unfold bindButton
  rw [Act.run_bind, Act.run_subject]
  simp only
  rw [Act.run_bind, run_onControllers, hrun]
  simp only
  rcases run_giveButton (s := (({ m with controllers := r } : Manager), o')) (b := b) hy
    (h.stored id y hy) hx.1
    with ⟨hrejects, -⟩ | ⟨-, es, hgive⟩
  · exact absurd ⟨hx.2.1, haccepts⟩ hrejects
  · exact ⟨r, _, hgive, ho'⟩

theorem builds_addController (hc : Attachable directory c) (hb : 1 ≤ b.byte ∧ b.byte < count)
    (hunshared : ∀ other z, other ≠ id → S.get? other = some z → z.button? c ≠ some b) :
    Builds D count (addController directory id c b : Act Manager χ Unit) (S.insert id y) ()
      (S.insert id { y with controllers := y.controllers.insert c b }) := by
  apply builds_of_keeps (keeps_addController directory id c b)
  intro m o hm ho
  have hy := hm.scene?_insert
  have hid : y.id = id := hm.coherent.stored id y hy
  rw [← hm.count] at hb
  -- the button is free or the own one, as no other scene so far has it
  have hfree : ∀ other, m.sceneForButton? c b = some other → other = id := by
    intro other hother
    obtain ⟨z, hz, hzb⟩ := (hm.coherent.index_iff c b other).mp hother
    by_contra hne
    rw [hm.scene?_eq, ByteMap.get?_insert, if_neg hne] at hz
    exact hunshared other z hne hz hzb
  obtain ⟨r, o', hrun, ho'⟩ := hc.run_bindButton hm.coherent hy hb ho
  refine ⟨m.rebound r y c b, o', ?_, buttonCount_rebound m r y c b, ?_, ho'⟩
  · unfold addController
    rw [Act.run_bind, run_sceneNamed hy]
    simp only
    rw [Act.run_bind, Act.run_subject]
    simp only
    cases hother : m.sceneForButton? c b with
    | none =>
      simp only
      rw [Act.run_bind, Act.run_outcome, hrun]
      rfl
    | some other =>
      simp only [hfree other hother, ne_eq, not_true_eq_false, ite_false]
      rw [Act.run_bind, Act.run_outcome, hrun]
      rfl
  · rw [scenes_rebound]
    exact hm.scenes_withScene hid

/-! ## A whole scene -/

/-- What restoring a scene needs beside the scenes `S`, which are there already. -/
structure Restorable (directory : Directory) (count : UInt8) (S : ByteMap SceneId Scene)
    (s : Scene) : Prop where
  free : S.get? s.id = none
  distinct : (s.members.map (·.device)).Nodup
  noted : ∀ x ∈ s.members, ∃ d, directory x.device = some d ∧ x.sceneCapable = d.isSceneCapable
  attachable : ∀ c b, s.button? c = some b → Attachable directory c ∧ 1 ≤ b.byte ∧ b.byte < count
  unshared : ∀ c b, s.button? c = some b → ∀ other z, S.get? other = some z → z.button? c ≠ some b

theorem builds_restoreDevices (hD : D directory) (honest : directory.Honest) {ms : List Member}
    (hms : ∀ x ∈ ms, ∃ d, directory x.device = some d ∧ x.sceneCapable = d.isSceneCapable)
    (hdistinct : ((y.members ++ ms).map (·.device)).Nodup) :
    Builds D count
      ((ms.map fun x => ⟨x.device, x.value⟩).forM (restoreDevice directory id) : Act Manager χ Unit)
      (S.insert id y) () (S.insert id { y with members := y.members ++ ms }) := by
  rw [List.forM_eq_forM]
  induction ms generalizing y with
  | nil =>
    rw [List.append_nil]
    exact builds_pure ()
  | cons x ms ih =>
    obtain ⟨d, hd, hcapable⟩ := hms x List.mem_cons_self
    rw [List.map_cons, List.forM_cons]
    have hnew : x.device ∉ y.members.map (·.device) := by
      intro hmem
      rw [List.map_append, List.nodup_append] at hdistinct
      exact hdistinct.2.2 _ hmem _ (by simp) rfl
    refine Builds.bind (T := S.insert id { y with members := y.members ++ [x] }) (b := ()) ?_ ?_
    · exact (builds_addDevice hD honest hd hcapable hnew).outcome.bind (builds_pure ())
    · have hrest :=
        ih (y := { y with members := y.members ++ [x] })
          (fun z hz => hms z (List.mem_cons_of_mem _ hz))
        (by simpa using hdistinct)
      simpa using hrest

theorem builds_restoreControllers {es : List (DeviceId × ButtonId)}
    (hes : ∀ e ∈ es, Attachable directory e.1 ∧ 1 ≤ e.2.byte ∧ e.2.byte < count)
    (hunshared : ∀ e ∈ es, ∀ other z, other ≠ id → S.get? other = some z →
      z.button? e.1 ≠ some e.2) :
    Builds D count
      ((es.map fun e => ⟨e.1, e.2⟩).forM (restoreController directory id) : Act Manager χ Unit)
      (S.insert id y) ()
      (S.insert id
        { y with controllers := es.foldl (fun m e => m.insert e.1 e.2) y.controllers }) := by
  rw [List.forM_eq_forM]
  induction es generalizing y with
  | nil => exact builds_pure ()
  | cons e es ih =>
    obtain ⟨hattachable, hb⟩ := hes e List.mem_cons_self
    rw [List.map_cons, List.forM_cons]
    refine Builds.bind (T := S.insert id { y with controllers := y.controllers.insert e.1 e.2 })
      (b := ()) ?_ ?_
    · exact (builds_addController hattachable hb (hunshared e List.mem_cons_self)).outcome.bind
        (builds_pure ())
    · exact ih (fun x hx => hes x (List.mem_cons_of_mem _ hx)) fun x hx =>
        hunshared x (List.mem_cons_of_mem _ hx)

theorem builds_restoreScene (hD : D directory) (honest : directory.Honest) {s : Scene}
    (hs : Restorable directory count S s) :
    Builds D count (restoreScene directory s.toRecord : Act Manager χ Bool) S true
      (S.insert s.id s) := by
  have hcontrollers : s.controllers.toList.foldl (fun m e => m.insert e.1 e.2) ByteMap.empty =
      s.controllers :=
    s.controllers.ofList_toList
  unfold restoreScene
  apply (builds_newScene hs.free s.name).outcome.bind
  apply (builds_setDuration s.duration).bind
  apply (builds_setOverride s.overrideLevel).bind
  refine (builds_restoreDevices hD honest hs.noted ?_).bind ?_
  · exact hs.distinct
  refine Builds.bind (T := S.insert s.id s) (b := ()) ?_ (builds_pure true)
  have hbuilds :
      Builds D count
        (s.toRecord.controllers.forM (restoreController directory s.id) : Act Manager χ Unit)
      (S.insert s.id { s with controllers := ByteMap.empty }) ()
      (S.insert s.id { s with
        controllers := s.controllers.toList.foldl (fun m e => m.insert e.1 e.2) ByteMap.empty }) :=
    builds_restoreControllers (fun e he => hs.attachable e.1 e.2 (ByteMap.get?_eq_some_iff.mpr he))
      fun e he other z _ => hs.unshared e.1 e.2 (ByteMap.get?_eq_some_iff.mpr he) other z
  rw [hcontrollers] at hbuilds
  exact hbuilds

/-! ## All scenes -/

variable {m k : Manager}

theorem restorable (h : m.Coherent (· = directory))
    (hdescribed : m.controllers.Described (· = directory)) (honest : directory.Honest) {s : Scene}
    (hs : m.scene? s.id = some s) (hfree : S.get? s.id = none)
    (hS : ∀ other z, S.get? other = some z → m.scene? other = some z) :
    Restorable directory m.buttonCount S s := by
  have hrecorded := h.recorded (fun d hd => hd ▸ honest) s.id s hs
  refine ⟨hfree, hrecorded.distinct, fun x hx => ?_, fun c b hb => ?_,
    fun c b hb other z hz hzb => ?_⟩
  · obtain ⟨_, d, rfl, hd, hcapable⟩ := hrecorded.noted x hx
    exact ⟨d, hd, hcapable⟩
  · obtain ⟨x, hx⟩ := h.registered hs hb
    obtain ⟨_, d, rfl, hd, hfits⟩ := hdescribed c x hx
    exact ⟨⟨d, hd, hfits.isController, hfits.configurable⟩, h.button s.id c b ⟨s, hs, hb⟩⟩
  · -- A button triggers one scene, and this one is not restored yet.
    have hother := (h.index_iff c b other).mpr ⟨z, hS other z hz, hzb⟩
    rw [(h.index_iff c b s.id).mpr ⟨s, hs, hb⟩] at hother
    cases hother
    rw [hfree] at hz
    cases hz

theorem builds_restoreScenes (h : m.Coherent (· = directory))
    (hdescribed : m.controllers.Described (· = directory)) (honest : directory.Honest)
    {l : List (SceneId × Scene)}
    (hascending : l.Pairwise fun a b => ByteKey.rank a.1 < ByteKey.rank b.1)
    (hl : ∀ e ∈ l, m.scene? e.1 = some e.2) (hfree : ∀ e ∈ l, S.get? e.1 = none)
    (hS : ∀ other z, S.get? other = some z → m.scene? other = some z) (n : Nat) :
    Builds (· = directory) m.buttonCount
      ((l.map fun e => e.2.toRecord).foldlM (fun n record => do
        let done ← restoreScene directory record
        return if done then n + 1 else n) n : Act Manager χ Nat)
      S (n + l.length) (l.foldl (fun S e => S.insert e.1 e.2) S) := by
  induction l generalizing S n with
  | nil => exact builds_pure n
  | cons e l ih =>
    obtain ⟨hhead, htail⟩ := List.pairwise_cons.mp hascending
    have hs := hl e List.mem_cons_self
    have hid : e.2.id = e.1 := h.stored e.1 e.2 hs
    rw [← hid] at hs
    have hscene := restorable h hdescribed honest hs (hid ▸ hfree e List.mem_cons_self) hS
    rw [List.map_cons, List.foldlM_cons, List.length_cons, List.foldl_cons, ← Nat.add_assoc,
      Nat.add_right_comm]
    -- the scenes so far are part of what is to come back, and the next id is still free
    apply Builds.bind (T := S.insert e.1 e.2) (b := n + 1)
    · refine Builds.bind (b := true) ?_ (builds_pure _)
      have hfirst : Builds (· = directory) m.buttonCount
          (restoreScene directory e.2.toRecord : Act Manager χ Bool) S true
          (S.insert e.2.id e.2) := builds_restoreScene (D := (· = directory)) rfl honest hscene
      rwa [hid] at hfirst
    · apply ih htail (fun x hx => hl x (List.mem_cons_of_mem _ hx))
      · intro x hx
        have hne : x.1 ≠ e.1 := fun hxe => by
          have := hhead x hx
          rw [hxe] at this
          omega
        rw [ByteMap.get?_insert, if_neg hne]
        exact hfree x (List.mem_cons_of_mem _ hx)
      · intro other z hz
        rw [ByteMap.get?_insert] at hz
        split at hz
        next hother =>
          cases hz
          rw [hother, ← hid]
          exact hs
        next => exact hS other z hz

/-! ## What the scenes determine -/

theorem Coherent.sceneForButton?_eq {D' : Directory → Prop} (hk : k.Coherent D') (hm : m.Coherent D)
    (h : k.scenes = m.scenes) (c : DeviceId) (b : ButtonId) :
    k.sceneForButton? c b = m.sceneForButton? c b := by
  apply Option.ext
  intro id
  rw [hk.index_iff, hm.index_iff]
  unfold Binds Manager.scene?
  rw [h]

theorem get?_of_index {c : DeviceId} {buttons : ByteMap ButtonId SceneId}
    (h : m.index.get? c = some buttons) (b : ButtonId) :
    buttons.get? b = m.sceneForButton? c b := by
  unfold sceneForButton?
  rw [h]
  rfl

theorem Coherent.index_eq {D' : Directory → Prop} (hk : k.Coherent D') (hm : m.Coherent D)
    (h : k.scenes = m.scenes) : k.index = m.index := by
  have hbutton := hk.sceneForButton?_eq hm h
  have hcontains : ∀ c, k.index.contains c = m.index.contains c := by
    intro c
    rw [(hk.keyed c).2, (hm.keyed c).2]
    exact uses_congr (hbutton c)
  apply ByteMap.ext_get?
  intro c
  have hc := hcontains c
  unfold ByteMap.contains at hc
  cases hkc : k.index.get? c with
  | none =>
    rw [hkc] at hc
    exact (Option.isSome_eq_false_iff.mp hc.symm |> Option.isNone_iff_eq_none.mp).symm
  | some buttons =>
    rw [hkc] at hc
    obtain ⟨buttons', hmc⟩ := Option.isSome_iff_exists.mp hc.symm
    rw [hmc, Option.some_inj]
    apply ByteMap.ext_get?
    intro b
    rw [get?_of_index hkc, get?_of_index hmc, hbutton]

theorem Coherent.contains_eq {D' : Directory → Prop} (hk : k.Coherent D') (hm : m.Coherent D)
    (h : k.scenes = m.scenes) (c : DeviceId) :
    k.controllers.contains c = m.controllers.contains c := by
  rw [(hk.keyed c).1, (hm.keyed c).1]
  exact uses_congr (hk.sceneForButton?_eq hm h c)

/-- Restoring a snapshot into a new manager brings back the scenes, the index and the set of
controllers. -/
theorem restore_snapshot (honest : directory.Honest) (h : Reachable (· = directory) m)
    (now : Timestamp) {o : Outlet χ} (ho : Channel.Accepts o.channel) :
    ∃ m₀, (new.withCoordinator m.coordinator).withButtonCount m.buttonCount = .ok m₀ ∧
      ∃ k o', restore directory (m.snapshot now) (m₀, o) = .ok m.scenes.size (k, o') ∧
      k.scenes = m.scenes ∧
        k.index = m.index ∧ (∀ c, k.controllers.contains c = m.controllers.contains c) ∧
        ∀ later, (k.snapshot later).scenes = (m.snapshot now).scenes := by
  have hm := h.coherent
  have hnew : (new.withCoordinator m.coordinator).withButtonCount m.buttonCount =
      .ok { new with coordinator := m.coordinator, buttonCount := m.buttonCount } := by
    unfold withButtonCount
    rw [if_pos hm.count]
    rfl
  have hstart : Carries (· = directory) m.buttonCount ByteMap.empty
      { new with coordinator := m.coordinator, buttonCount := m.buttonCount } :=
        ⟨coherent_start hnew, rfl, rfl⟩
  -- the records are restored one by one into a manager that has the scenes so far
  have hrestore :
      Builds (· = directory) m.buttonCount (restore directory (m.snapshot now) : Act Manager χ Nat)
      ByteMap.empty m.scenes.size m.scenes := by
    have hrecords : (m.snapshot now).scenes = m.scenes.toList.map fun e => e.2.toRecord :=
      List.map_map
    have hall : m.scenes.toList.foldl (fun S e => S.insert e.1 e.2) ByteMap.empty = m.scenes :=
      m.scenes.ofList_toList
    refine Builds.bind (T := m.scenes.toList.foldl (fun S e => S.insert e.1 e.2) ByteMap.empty)
      (b := 0 + m.scenes.toList.length) ?_ ?_
    · rw [hrecords]
      apply builds_restoreScenes hm h.described honest m.scenes.ascending
      · exact fun e he => ByteMap.get?_eq_some_iff.mpr he
      · exact fun _ _ => rfl
      · intro other z hz
        cases hz
    · rw [hall, Nat.zero_add]
      exact (builds_note _).bind (builds_pure _)
  obtain ⟨k, o', hrun, hk, -⟩ := hrestore _ o hstart ho
  refine ⟨_, hnew, k, o', hrun, hk.scenes, hk.coherent.index_eq hm hk.scenes,
    hk.coherent.contains_eq hm hk.scenes, ?_⟩
  intro later
  unfold snapshot
  rw [hk.scenes]

/-- Members keep the order in which they joined. -/
theorem restore_snapshot_evening :
    ∃ m, twoKeypads.Honest ∧ Reachable (· = twoKeypads) m ∧ m.scenes.size = 1 ∧
      (m.scene? ⟨7, by decide⟩).map (fun s => s.members.map (·.device)) = some [⟨3⟩, ⟨2⟩] ∧
      Channel.Accepts FaultyChannel.sound ∧
      ∀ now, ∃ m₀ k o', restore twoKeypads (m.snapshot now)
        (m₀, Outlet.opened FaultyChannel.sound) = .ok 1 (k, o') ∧
        (k.scene? ⟨7, by decide⟩).map (fun s => s.members.map (·.device)) = some [⟨3⟩, ⟨2⟩] ∧
        k.controllers.contains ⟨3⟩ = true := by
  let m := (afterCalls twoKeypads
    (evening ++ [.addDevice ⟨7, by decide⟩ ⟨3⟩ 40, .addDevice ⟨7, by decide⟩ ⟨2⟩ 99])).1
  have h : Reachable (· = twoKeypads) m := reachable_afterCalls (D := (· = twoKeypads)) rfl _
  have hsize : m.scenes.size = 1 := by decide +kernel
  have hmembers : (m.scene? ⟨7, by decide⟩).map (fun s => s.members.map (·.device)) =
      some [⟨3⟩, ⟨2⟩] := by decide +kernel
  have hcontains : m.controllers.contains ⟨3⟩ = true := by decide +kernel
  clear_value m
  refine ⟨m, honest_twoKeypads, h, hsize, hmembers, accepts_sound, fun now => ?_⟩
  obtain ⟨m₀, -, k, o', hrun, hscenes, -, hcontrollers, -⟩ :=
    restore_snapshot honest_twoKeypads h now
    (o := .opened FaultyChannel.sound) accepts_sound
  rw [hsize] at hrun
  refine ⟨m₀, k, o', hrun, ?_, ?_⟩
  · unfold Manager.scene? at hmembers ⊢
    rw [hscenes, hmembers]
  · rw [hcontrollers, hcontains]

end Manager

end MeshScenes
