import MeshScenes.Proofs.Manager.Devices
import MeshScenes.Proofs.Manager.Presses
import MeshScenes.Proofs.Network
import MeshScenes.Proofs.Programming

/-!
# What programming leaves on the nodes

`Node.programmed` says what a node holds once a scene was programmed. It overwrites, so it does not
matter what the node held of the scene before, and programming again changes nothing.
-/

namespace MeshScenes

/-! ## Nodes that took a scene -/

/-- The group of the button is all of the scene's members and the coordinator, bound to the scene;
the parameter of the button is the highest level that is reached through the group, if there is
one. -/
def Keypad.programmed (k : Keypad) (s : Scene) (coordinator : DeviceId) (b : ButtonId) : Keypad :=
  { k with
    groups := k.groups.insert b.byte (ByteSet.ofList (s.members.map (·.device) ++ [coordinator]))
    parameters := match s.topLevel? with
      | some level => k.parameters.insert b.byte level
      | none => k.parameters
    scenes := k.scenes.insert b.byte (s.id.byte, s.duration.byte) }

/-- A scene-capable dimmer stores the level of a scene-capable member. -/
def Dimmer.programmed (k : Dimmer) (s : Scene) (m : Member) : Dimmer :=
  if m.sceneCapable && k.sceneCapable then
    { k with scenes := k.scenes.insert s.id.byte (m.value, s.duration.byte) }
  else k

def Node.programmed (s : Scene) (coordinator d : DeviceId) : Node → Node
  | .keypad k =>
    match s.button? d with
    | some b => .keypad (k.programmed s coordinator b)
    | none => .keypad k
  | .dimmer k =>
    match s.member? d with
    | some m => .dimmer (k.programmed s m)
    | none => .dimmer k

theorem Keypad.programmed_programmed (k : Keypad) (s : Scene) (coordinator : DeviceId)
    (b : ButtonId) :
    (k.programmed s coordinator b).programmed s coordinator b = k.programmed s coordinator b := by
  unfold programmed
  cases s.topLevel? <;> simp

theorem Dimmer.programmed_programmed (k : Dimmer) (s : Scene) (m : Member) :
    (k.programmed s m).programmed s m = k.programmed s m := by
  unfold programmed
  by_cases h : (m.sceneCapable && k.sceneCapable) = true
  · simp [h]
  · simp [h]

theorem Node.programmed_programmed (s : Scene) (coordinator d : DeviceId) (node : Node) :
    (node.programmed s coordinator d).programmed s coordinator d =
      node.programmed s coordinator d := by
  unfold programmed
  cases node with
  | keypad k =>
    cases s.button? d with
    | none => rfl
    | some b => simp only [Keypad.programmed_programmed]
  | dimmer k =>
    cases s.member? d with
    | none => rfl
    | some m => simp only [Dimmer.programmed_programmed]

namespace Node

/-! ## Frames one after the other -/

def takeAll (node : Node) (fs : List OutboundFrame) : Node :=
  fs.foldl (fun n f => (n.receive f).1) node

@[simp] theorem takeAll_nil (node : Node) : node.takeAll [] = node := rfl

@[simp] theorem takeAll_cons (node : Node) (f : OutboundFrame) (fs : List OutboundFrame) :
    node.takeAll (f :: fs) = (node.receive f).1.takeAll fs := rfl

@[simp] theorem takeAll_append (node : Node) (fs gs : List OutboundFrame) :
    node.takeAll (fs ++ gs) = (node.takeAll fs).takeAll gs := List.foldl_append

theorem receive_clearGroup (k : Keypad) (d : DeviceId) (b : ButtonId) :
    ((keypad k).receive (.clearGroup d b)).1 = .keypad { k with groups := k.groups.erase b.byte } :=
  rfl

theorem receive_joinGroup (k : Keypad) (d : DeviceId) (b : ButtonId) (devices : List DeviceId) :
    ((keypad k).receive (.joinGroup d b devices)).1 = .keypad { k with
      groups := k.groups.insert b.byte
        (ByteSet.addAll ((k.groups.get? b.byte).getD ByteMap.empty) devices) } := by
  conv_rhs => rw [← DeviceId.map_mk devices]
  rfl

theorem receive_storeLevel (k : Keypad) (d : DeviceId) (b : ButtonId) (level : UInt8) :
    ((keypad k).receive (.storeLevel d b level)).1 =
      .keypad { k with parameters := k.parameters.insert b.byte level } := rfl

theorem receive_bindGroup (k : Keypad) (d : DeviceId) (b : ButtonId) (scene : SceneId)
    (duration : Duration) :
    ((keypad k).receive (.bindGroup d b scene duration)).1 =
      .keypad { k with scenes := k.scenes.insert b.byte (scene.byte, duration.byte) } := rfl

theorem takeAll_levels (d : DeviceId) (b : ButtonId) (gs : List (UInt8 × List DeviceId))
    (k : Keypad) :
    (keypad k).takeAll (gs.flatMap fun g => [.joinGroup d b g.2, .storeLevel d b g.1]) =
      .keypad { k with
        groups := if gs = [] then k.groups else k.groups.insert b.byte
          (ByteSet.addAll ((k.groups.get? b.byte).getD ByteMap.empty) (gs.flatMap (·.2)))
        parameters := match gs.getLast?.map (·.1) with
          | some level => k.parameters.insert b.byte level
          | none => k.parameters } := by
  induction gs generalizing k with
  | nil => rfl
  | cons g gs ih =>
    simp only [List.flatMap_cons, takeAll_append, takeAll_cons, takeAll_nil, receive_joinGroup,
      receive_storeLevel, ih, List.getLast?_cons]
    by_cases hgs : gs = []
    · simp [hgs]
    · obtain ⟨last, hlast⟩ := Option.isSome_iff_exists.mp (List.getLast?_isSome.mpr hgs)
      simp [hgs, hlast, ByteMap.get?_insert, ByteSet.addAll_append]

theorem mem_group (s : Scene) (coordinator d : DeviceId) :
    d ∈ s.levelGroups.toList.flatMap (·.2) ++ s.listeners coordinator ↔
      d ∈ s.members.map (·.device) ++ [coordinator] := by
  unfold Scene.listeners
  rw [← List.append_assoc, List.mem_append, List.mem_append, List.mem_append,
    s.mem_levelGroups_device]
  unfold Scene.capableMembers Scene.groupedMembers
  apply or_congr_left
  simp only [List.mem_map, List.mem_filter]
  constructor
  · intro h
    rcases h with ⟨m, ⟨hm, -⟩, hd⟩ | ⟨m, ⟨hm, -⟩, hd⟩ <;> exact ⟨m, hm, hd⟩
  · intro ⟨m, hm, hd⟩
    by_cases hc : m.sceneCapable = true
    · exact .inr ⟨m, ⟨hm, hc⟩, hd⟩
    · exact .inl ⟨m, ⟨hm, by simp [hc]⟩, hd⟩

theorem takeAll_groupFrames (s : Scene) (coordinator d : DeviceId) (b : ButtonId) (k : Keypad) :
    (keypad k).takeAll (s.groupFrames coordinator d b) =
      .keypad (k.programmed s coordinator b) := by
  unfold Scene.groupFrames Keypad.programmed
  rw [← ByteSet.ofList_congr (mem_group s coordinator), ← s.getLast?_levelGroups]
  simp only [takeAll_append, takeAll_cons, takeAll_nil, receive_clearGroup, takeAll_levels,
    receive_bindGroup, receive_joinGroup]
  by_cases hnil : s.levelGroups.toList = []
  · simp [hnil, ByteMap.get?_erase, ByteSet.ofList]
  · simp [hnil, ByteMap.get?_insert, ByteMap.get?_erase, ByteSet.ofList, ByteSet.addAll_append]

theorem takeAll_memberFrames (s : Scene) (m : Member) (node : Node) :
    node.takeAll (s.memberFrames m) = match node with
      | keypad k => .keypad k
      | dimmer k => .dimmer (k.programmed s m) := by
  unfold Scene.memberFrames Dimmer.programmed
  by_cases hm : m.sceneCapable = true
  · cases node with
    | keypad k =>
      simp [hm]
      rfl
    | dimmer k =>
      by_cases hk : k.sceneCapable = true
      · simp [hm, hk, receive, Dimmer.receive?, OutboundFrame.storeScene]
      · simp [hm, hk, receive, Dimmer.receive?, OutboundFrame.storeScene]
  · cases node <;> simp [hm]

theorem replies_programFrames {s : Scene} {coordinator : DeviceId} {f : OutboundFrame}
    (hf : f ∈ s.programFrames coordinator) (node : Node) : (node.receive f).2.1 = [] := by
  unfold Scene.programFrames Scene.phaseFrames Scene.resetFrames Scene.groupedFrames
    Scene.controllerFrames Scene.capableFrames at hf
  simp only [List.mem_append, List.mem_flatMap, List.mem_cons, List.not_mem_nil, or_false] at hf
  rcases hf with ⟨e, -, rfl⟩ | ⟨g, -, e, -, rfl | rfl⟩ | ⟨e, -, rfl | rfl⟩ | ⟨m, -, rfl⟩
  case inr.inr.inr =>
    cases node with
    | keypad k => rfl
    | dimmer k =>
      by_cases hk : k.sceneCapable = true
      · simp [hk, receive, Dimmer.receive?, OutboundFrame.storeScene]
      · simp [hk, receive, Dimmer.receive?, OutboundFrame.storeScene]
  all_goals cases node <;> rfl

end Node

namespace Network

theorem get?_nodes_sendAll (fs : List OutboundFrame) (n : Network) (d : DeviceId) :
    (Channel.sendAll fs n).nodes.get? d =
      (n.nodes.get? d).map (·.takeAll (fs.filter (·.destination = d))) := by
  induction fs generalizing n with
  | nil => simp [Channel.sendAll]
  | cons f fs ih =>
    have hfirst : Channel.sendAll (f :: fs) n = Channel.sendAll fs (n.deliver f).1 := rfl
    rw [hfirst, ih, get?_nodes_deliver]
    by_cases hd : d = f.destination
    · simp [hd, Option.map_map, Function.comp_def]
    · have : ¬ f.destination = d := fun h => hd h.symm
      simp [hd, this]

theorem published_sendAll_of_silent {fs : List OutboundFrame}
    (hfs : ∀ f ∈ fs, ∀ node : Node, (node.receive f).2.1 = []) (n : Network) :
    (Channel.sendAll fs n).published = n.published := by
  induction fs generalizing n with
  | nil => rfl
  | cons f fs ih =>
    refine (ih (fun g hg => hfs g (List.mem_cons_of_mem _ hg)) (n.deliver f).1).trans ?_
    rw [published_deliver]
    unfold replies
    cases n.nodes.get? f.destination with
    | none => exact List.append_nil _
    | some node => simp only [hfs f List.mem_cons_self, List.append_nil]

theorem sendAll_programFrames {n : Network} {s : Scene}
    (hdistinct : (s.members.map (·.device)).Nodup)
    (hkeypads : ∀ c b, s.button? c = some b → ∃ k, n.keypad? c = some k) (coordinator : DeviceId) :
    (Channel.sendAll (s.programFrames coordinator) n).published = n.published ∧
      ∀ d, (Channel.sendAll (s.programFrames coordinator) n).nodes.get? d =
        (n.nodes.get? d).map (·.programmed s coordinator d) := by
  constructor
  · apply published_sendAll_of_silent
    intro f hf node
    exact node.replies_programFrames hf
  · intro d
    rw [get?_nodes_sendAll, Scene.filter_programFrames hdistinct]
    cases hnode : n.nodes.get? d with
    | none => rfl
    | some node =>
      simp only [Option.map_some, Node.takeAll_append]
      unfold Node.programmed
      cases node with
      | keypad k =>
        cases s.button? d <;> cases s.member? d <;>
          simp [Node.takeAll_groupFrames, Node.takeAll_memberFrames]
      | dimmer k =>
        have hbutton : s.button? d = none := by
          apply Option.eq_none_iff_forall_ne_some.mpr
          intro b hb
          obtain ⟨k', hk'⟩ := hkeypads d b hb
          rw [keypad?_eq_some_iff, hnode] at hk'
          cases hk'
        cases s.member? d <;> simp [hbutton, Node.takeAll_memberFrames]

theorem Sound.honest {n : Network} (h : n.Sound) : n.directory.Honest := by
  intro d x hx
  obtain ⟨node, hnode, rfl⟩ := Option.map_eq_some_iff.mp hx
  exact h.own d node hnode

/-- The directory is that of a network, as it is at some moment. -/
def Gives (directory : Directory) : Prop := ∃ n : Network, n.Sound ∧ directory = n.directory

theorem Gives.honest {directory : Directory} (h : Gives directory) : directory.Honest := by
  obtain ⟨n, hn, rfl⟩ := h
  exact hn.honest

theorem keypad?_programmed {n n' : Network} {s : Scene} {coordinator c : DeviceId} {b : ButtonId}
    {k : Keypad}
    (hnodes : ∀ d, n'.nodes.get? d = (n.nodes.get? d).map (·.programmed s coordinator d))
    (hb : s.button? c = some b) (hk : n.keypad? c = some k) :
    n'.keypad? c = some (k.programmed s coordinator b) := by
  apply keypad?_eq_some_iff.mpr
  rw [hnodes, keypad?_eq_some_iff.mp hk]
  simp only [Option.map_some, Node.programmed, hb]

end Network

namespace Manager

variable {m : Manager} {id : SceneId} {s : Scene}

theorem Reachable.programmable (h : Reachable Network.Gives m) (hs : m.scene? id = some s) :
    s.Programmable m.controllers := by
  intro d b hb
  obtain ⟨c, hc⟩ := h.coherent.registered hs hb
  obtain ⟨directory, x, ⟨n, -, rfl⟩, hx, hfits⟩ := h.described d c hc
  obtain ⟨hassociation, hconfiguration⟩ := Network.supports_programming hx hfits.isController
  refine ⟨c, hc, (h.coherent.controller d c hc).1, ?_, ?_⟩
  · rw [hfits.association, hassociation]
  · rw [hfits.configuration, hconfiguration]

theorem Reachable.recorded (h : Reachable Network.Gives m) (hs : m.scene? id = some s) :
    Recorded Network.Gives s.members :=
  h.coherent.recorded (fun _ => Network.Gives.honest) id s hs

theorem Reachable.run_programScene (h : Reachable Network.Gives m) (hs : m.scene? id = some s)
    (o : Outlet Network) :
    ∃ summary o', programScene id (m, o) = .ok summary (m, o') ∧
      o'.channel = Channel.sendAll (s.programFrames m.coordinator) o.channel := by
  obtain ⟨summary, o', hrun, htook⟩ :=
    Scene.delivers_program (h.coherent.served hs) (h.programmable hs) m.coordinator
    (m, o) (Network.accepts _)
  refine ⟨summary, o', ?_, htook.channel⟩
  unfold programScene
  rw [Act.run_bind, run_sceneNamed hs, ← hrun]
  rfl

/-- Programming a scene whose controllers are keypads succeeds and makes nothing public. It leaves
every node programmed, whatever the node held before, so doing it again changes no node. -/
theorem programScene_leaves_programmed (h : Reachable Network.Gives m) (hs : m.scene? id = some s)
    {o : Outlet Network}
    (hkeypads : ∀ c b, s.button? c = some b → ∃ k, o.channel.keypad? c = some k) :
    ∃ summary o', programScene id (m, o) = .ok summary (m, o') ∧
      o'.channel.published = o.channel.published ∧
      (∀ d, o'.channel.nodes.get? d =
        (o.channel.nodes.get? d).map (·.programmed s m.coordinator d)) ∧
      ∃ summary' o'', programScene id (m, o') = .ok summary' (m, o'') ∧
        o''.channel.nodes = o'.channel.nodes := by
  have hrecorded := h.coherent.recorded (fun directory hD => by
    obtain ⟨n, hn, rfl⟩ := hD
    exact hn.honest) id s hs
  obtain ⟨summary, o', hrun, hchannel⟩ := h.run_programScene hs o
  obtain ⟨hpublished, hnodes⟩ :=
    Network.sendAll_programFrames hrecorded.distinct hkeypads m.coordinator
  rw [← hchannel] at hpublished hnodes
  refine ⟨summary, o', hrun, hpublished, hnodes, ?_⟩
  have hkeypads' : ∀ c b, s.button? c = some b → ∃ k, o'.channel.keypad? c = some k := by
    intro c b hb
    obtain ⟨k, hk⟩ := hkeypads c b hb
    refine ⟨k.programmed s m.coordinator b, Network.keypad?_eq_some_iff.mpr ?_⟩
    rw [hnodes, Network.keypad?_eq_some_iff.mp hk]
    simp only [Option.map_some, Node.programmed, hb]
  obtain ⟨summary', o'', hrun', hchannel'⟩ := h.run_programScene hs o'
  refine ⟨summary', o'', hrun', ?_⟩
  apply ByteMap.ext_get?
  intro d
  rw [hchannel', (Network.sendAll_programFrames hrecorded.distinct hkeypads' m.coordinator).2,
    hnodes, Option.map_map]
  congr 1
  funext node
  exact node.programmed_programmed s m.coordinator d

/-- A scene with plain and scene-capable members, and two keypads. -/
def supper : List Call :=
  [.newScene 7 "supper", .addDevice ⟨7, seven_ne_zero⟩ ⟨10⟩ 40,
    .addDevice ⟨7, seven_ne_zero⟩ ⟨11⟩ 99, .addDevice ⟨7, seven_ne_zero⟩ ⟨12⟩ 80,
    .addController ⟨7, seven_ne_zero⟩ ⟨2⟩ ⟨1⟩, .addController ⟨7, seven_ne_zero⟩ ⟨3⟩ ⟨2⟩]

theorem gives_demo : Network.Gives Network.demo.directory := by
  refine ⟨Network.demo, ⟨fun d node hd => ?_, fun f hf => by cases hf⟩, rfl⟩
  have hall : ∀ e ∈ Network.demo.nodes.toList, e.2.descriptor.id = e.1 := by decide +kernel
  exact hall (d, node) (ByteMap.get?_eq_some_iff.mp hd)

/-- A device that is no member leaves the group. -/
theorem programScene_leaves_programmed_supper :
    ∃ m s, ∃ o : Outlet Network, Reachable Network.Gives m ∧ m.scene? ⟨7, by decide⟩ = some s ∧
      (o.channel.keypad? ⟨2⟩).bind (·.groups.get? 1) = some (ByteSet.ofList [⟨77⟩]) ∧
      ∃ summary o', programScene ⟨7, by decide⟩ (m, o) = .ok summary (m, o') ∧
        o'.channel.published = o.channel.published ∧
        (o'.channel.keypad? ⟨2⟩).bind (·.groups.get? 1) =
          some (ByteSet.ofList [⟨10⟩, ⟨11⟩, ⟨12⟩, ⟨1⟩]) := by
  let m := (afterCalls Network.demo.directory supper).1
  let n := (Network.demo.deliver (.joinGroup ⟨2⟩ ⟨1⟩ [⟨77⟩])).1
  have h : Reachable Network.Gives m := reachable_afterCalls gives_demo supper
  have hscene : (m.scene? ⟨7, by decide⟩).map
      (fun s => (s.button? ⟨2⟩, s.controllers.keys, s.members.map (·.device))) =
      some (some ⟨1⟩, [⟨2⟩, ⟨3⟩], [⟨10⟩, ⟨11⟩, ⟨12⟩]) := by decide +kernel
  have hcoordinator : m.coordinator = ⟨1⟩ := by decide +kernel
  have hgroup : (n.keypad? ⟨2⟩).bind (·.groups.get? 1) = some (ByteSet.ofList [⟨77⟩]) := by
    decide +kernel
  have hkeypads : ∀ c ∈ [(⟨2⟩ : DeviceId), ⟨3⟩], (n.keypad? c).isSome = true := by decide +kernel
  clear_value m n
  obtain ⟨s, hs, hfields⟩ := Option.map_eq_some_iff.mp hscene
  simp only [Prod.mk.injEq] at hfields
  obtain ⟨hbutton, hkeys, hmembers⟩ := hfields
  obtain ⟨summary, o, hrun, hpublished, hnodes, -⟩ :=
    programScene_leaves_programmed h hs (o := .opened n)
    (fun c b hb => by
      apply Option.isSome_iff_exists.mp
      apply hkeypads
      rw [← hkeys, ByteMap.mem_keys_iff]
      exact ByteMap.contains_iff.mpr ⟨b, hb⟩)
  obtain ⟨k, hk⟩ := Option.isSome_iff_exists.mp (hkeypads ⟨2⟩ (by decide))
  refine ⟨m, s, .opened n, h, hs, hgroup, summary, o, hrun, hpublished, ?_⟩
  have hnode := hnodes ⟨2⟩
  change _ = (n.nodes.get? ⟨2⟩).map _ at hnode
  rw [Network.keypad?_eq_some_iff.mp hk, Option.map_some] at hnode
  simp only [Node.programmed, hbutton] at hnode
  rw [Network.keypad?_eq_some_iff.mpr hnode, Option.bind_some]
  unfold Keypad.programmed
  rw [hmembers, hcoordinator, ByteMap.get?_insert, if_pos rfl]
  rfl

end Manager

end MeshScenes
