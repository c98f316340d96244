import Mathlib.Data.List.Perm.Basic
import MeshScenes.Proofs.Manager.Programmed

/-!
# Programming several scenes

What programming leaves at a node is kept for a button of the scene or under the id of the scene. No
two scenes share either, so at every node one scene can be programmed before the other or behind it.
-/

namespace MeshScenes

/-! ## One node -/

theorem Keypad.programmed_comm (k : Keypad) (s t : Scene) (coordinator : DeviceId) {b e : ButtonId}
    (h : b ≠ e) :
    (k.programmed s coordinator b).programmed t coordinator e =
      (k.programmed t coordinator e).programmed s coordinator b := by
  have hbyte : b.byte ≠ e.byte := fun hb => h (ByteKey.byte_inj hb)
  unfold programmed
  cases s.topLevel? with
  | none => cases t.topLevel? <;> simp [ByteMap.insert_comm _ hbyte]
  | some l => cases t.topLevel? <;> simp [ByteMap.insert_comm _ hbyte]

theorem Dimmer.programmed_comm (k : Dimmer) {s t : Scene} (h : s.id ≠ t.id) (x y : Member) :
    (k.programmed s x).programmed t y = (k.programmed t y).programmed s x := by
  have hbyte : s.id.byte ≠ t.id.byte := fun hb => h (SceneId.ext hb)
  unfold programmed
  by_cases hx : (x.sceneCapable && k.sceneCapable) = true
  · by_cases hy : (y.sceneCapable && k.sceneCapable) = true
    · simp [hx, hy, ByteMap.insert_comm _ hbyte]
    · simp [hx, hy]
  · by_cases hy : (y.sceneCapable && k.sceneCapable) = true
    · simp [hx, hy]
    · simp [hx, hy]

namespace Node

theorem programmed_comm (node : Node) {s t : Scene} (coordinator d : DeviceId) (hids : s.id ≠ t.id)
    (hbuttons : ∀ b, s.button? d = some b → t.button? d ≠ some b) :
    (node.programmed s coordinator d).programmed t coordinator d =
      (node.programmed t coordinator d).programmed s coordinator d := by
  unfold programmed
  cases node with
  | keypad k =>
    cases hs : s.button? d with
    | none => cases t.button? d <;> rfl
    | some b =>
      cases ht : t.button? d with
      | none => rfl
      | some e =>
        have hne : b ≠ e := fun he => hbuttons b hs (he ▸ ht)
        simp only [k.programmed_comm s t coordinator hne]
  | dimmer k =>
    cases s.member? d with
    | none => cases t.member? d <;> rfl
    | some x =>
      cases t.member? d with
      | none => rfl
      | some y => simp only [k.programmed_comm hids x y]

theorem takeAll_groupFrames_dimmer (s : Scene) (coordinator d : DeviceId) (b : ButtonId)
    (k : Dimmer) :
    (dimmer k).takeAll (s.groupFrames coordinator d b) = .dimmer k := by
  have hlevels : ∀ gs : List (UInt8 × List DeviceId),
      (dimmer k).takeAll (gs.flatMap fun g => [.joinGroup d b g.2, .storeLevel d b g.1]) =
        .dimmer k := by
    intro gs
    induction gs with
    | nil => rfl
    | cons g gs ih =>
      rw [List.flatMap_cons, takeAll_append]
      exact ih
  unfold Scene.groupFrames
  rw [takeAll_append, takeAll_append]
  change ((dimmer k).takeAll _).takeAll _ = _
  rw [hlevels]
  rfl

theorem takeAll_programFrames {s : Scene} (h : (s.members.map (·.device)).Nodup)
    (coordinator d : DeviceId) (node : Node) :
    node.takeAll ((s.programFrames coordinator).filter (·.destination = d)) =
      node.programmed s coordinator d := by
  rw [Scene.filter_programFrames h, takeAll_append]
  unfold programmed
  cases node with
  | keypad k => cases s.button? d <;> cases s.member? d <;> simp [takeAll_groupFrames,
    takeAll_memberFrames]
  | dimmer k => cases s.button? d <;> cases s.member? d <;> simp [takeAll_groupFrames_dimmer,
    takeAll_memberFrames]

end Node

/-! ## One scene after the other -/

namespace Manager

variable {D : Directory → Prop} {m : Manager}

/-- The node `d` after the scene of an id was programmed. -/
def programmedNode (m : Manager) (d : DeviceId) (node : Node) (id : SceneId) : Node :=
  match m.scene? id with
  | some s => node.programmed s m.coordinator d
  | none => node

theorem Coherent.programmedNode_comm (h : m.Coherent D) (d : DeviceId) (node : Node)
    (a b : SceneId) :
    m.programmedNode d (m.programmedNode d node a) b =
      m.programmedNode d (m.programmedNode d node b) a := by
  by_cases hab : a = b
  · rw [hab]
  unfold programmedNode
  cases ha : m.scene? a with
  | none => rfl
  | some s =>
    cases hb : m.scene? b with
    | none => rfl
    | some t =>
      apply node.programmed_comm
      · rw [h.stored a s ha, h.stored b t hb]
        exact hab
      · -- The index has one scene for the button.
        intro e hs ht
        have hsa := (h.index_iff d e a).mpr ⟨s, ha, hs⟩
        have htb := (h.index_iff d e b).mpr ⟨t, hb, ht⟩
        rw [hsa] at htb
        exact hab (Option.some.inj htb)

def programAll {χ : Type} [Channel χ] (ids : List SceneId) : Act Manager χ Unit :=
  ids.forM fun id => discard (programScene id)

theorem Reachable.run_programAll (h : Reachable Network.Gives m) {ids : List SceneId}
    (hids : ∀ id ∈ ids, ∃ s, m.scene? id = some s) (o : Outlet Network) :
    ∃ o', programAll ids (m, o) = .ok () (m, o') ∧
      ∀ d, o'.channel.nodes.get? d =
        (o.channel.nodes.get? d).map fun node => ids.foldl (m.programmedNode d) node := by
  unfold programAll
  induction ids generalizing o with
  | nil => exact ⟨o, rfl, fun d => by simp⟩
  | cons id ids ih =>
    obtain ⟨s, hs⟩ := hids id List.mem_cons_self
    obtain ⟨summary, o₁, hrun, hchannel⟩ := h.run_programScene hs o
    obtain ⟨o₂, hrest, hnodes⟩ := ih (fun x hx => hids x (List.mem_cons_of_mem _ hx)) o₁
    refine ⟨o₂, ?_, fun d => ?_⟩
    · rw [List.forM_eq_forM, List.forM_cons, Act.run_bind, Act.run_discard, hrun]
      exact hrest
    · rw [hnodes, hchannel, Network.get?_nodes_sendAll, Option.map_map]
      congr 1
      funext node
      simp only [Function.comp_apply, List.foldl_cons,
        node.takeAll_programFrames (h.recorded hs).distinct]
      unfold programmedNode
      rw [hs]

/-- Scenes can be programmed in any order, two of them as `[a, b]` or as `[b, a]`: all programming
succeeds and every node ends up the same. -/
theorem programming_commutes (h : Reachable Network.Gives m) {ids ids' : List SceneId}
    (hids : ∀ id ∈ ids, ∃ s, m.scene? id = some s) (hperm : ids.Perm ids') (o : Outlet Network) :
    ∃ o₁ o₂, programAll ids (m, o) = .ok () (m, o₁) ∧ programAll ids' (m, o) = .ok () (m, o₂) ∧
      o₁.channel.nodes = o₂.channel.nodes := by
  obtain ⟨o₁, hrun, hnodes⟩ := h.run_programAll hids o
  obtain ⟨o₂, hrun', hnodes'⟩ := h.run_programAll (fun id hid => hids id (hperm.mem_iff.mpr hid)) o
  refine ⟨o₁, o₂, hrun, hrun', ?_⟩
  apply ByteMap.ext_get?
  intro d
  have : RightCommutative (m.programmedNode d) := ⟨h.coherent.programmedNode_comm d⟩
  rw [hnodes, hnodes']
  congr 1
  funext node
  exact hperm.foldl_eq node

/-- Two scenes that share a keypad and both of their members. -/
def supperAndNight : List Call :=
  [.newScene 8 "supper", .newScene 9 "night",
    .addDevice ⟨8, by decide⟩ ⟨10⟩ 40, .addDevice ⟨8, by decide⟩ ⟨12⟩ 80,
    .addController ⟨8, by decide⟩ ⟨2⟩ ⟨1⟩, .addDevice ⟨9, by decide⟩ ⟨10⟩ 5,
    .addDevice ⟨9, by decide⟩ ⟨12⟩ 0, .addController ⟨9, by decide⟩ ⟨2⟩ ⟨2⟩]

theorem programming_commutes_shared_keypad :
    ∃ m, ∃ o : Outlet Network, Reachable Network.Gives m ∧
      m.sceneForButton? ⟨2⟩ ⟨1⟩ = some ⟨8, by decide⟩ ∧
      m.sceneForButton? ⟨2⟩ ⟨2⟩ = some ⟨9, by decide⟩ ∧
      ∃ o₁ o₂, programAll [⟨8, by decide⟩, ⟨9, by decide⟩] (m, o) = .ok () (m, o₁) ∧
        programAll [⟨9, by decide⟩, ⟨8, by decide⟩] (m, o) = .ok () (m, o₂) ∧
        o₁.channel.nodes = o₂.channel.nodes := by
  let m := (afterCalls Network.demo.directory supperAndNight).1
  have h : Reachable Network.Gives m := reachable_afterCalls gives_demo supperAndNight
  have hscenes : ∀ id ∈ [(⟨8, by decide⟩ : SceneId), ⟨9, by decide⟩], m.scenes.contains id =
      true := by decide +kernel
  refine ⟨m, .opened Network.demo, h, by decide +kernel, by decide +kernel, ?_⟩
  clear_value m
  exact programming_commutes h (fun id hid => ByteMap.contains_iff.mp (hscenes id hid))
    (.swap _ _ []) _

end Manager

end MeshScenes
