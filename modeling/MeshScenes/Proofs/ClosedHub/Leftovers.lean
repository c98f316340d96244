import MeshScenes.Proofs.ClosedHub.Quiet
import MeshScenes.Proofs.Manager.Commuting

/-!
# What programming leaves behind

Programming writes a scene into the groups that it is bound to at that moment. A group keeps what
was last programmed into it (`Ran.remembers`), so a group that a scene was taken from still holds
the scene when it is programmed again, and a press there still activates it (`leftovers_iff`).
-/

namespace MeshScenes

theorem Controller.AboutLights.binds_no_group {c : Controller} {f : OutboundFrame}
    (h : c.AboutLights f) :
    f.commandClass ≠ .sceneControllerConf := by
  rcases h with rfl | ⟨lights, rfl⟩ <;> exact nofun

/-! ## Scenes in groups -/

namespace Node

/-- The scene and the duration that each group of a keypad is bound to. -/
def stored? : Node → Option (ByteMap UInt8 (UInt8 × UInt8))
  | keypad k => some k.scenes
  | dimmer _ => none

theorem stored?_receive (node : Node) {f : OutboundFrame}
    (hf : f.commandClass ≠ .sceneControllerConf) :
    (node.receive f).1.stored? = node.stored? := by
  cases node with
  | keypad k =>
    unfold receive
    cases h : k.receive? f.commandClass f.payload with
    | none => simp [h]
    | some r =>
      have hscenes : r.1.scenes = k.scenes := by
        unfold Keypad.receive? at h
        split at h
        case h_7 hclass _ => exact absurd hclass hf
        all_goals cases h <;> rfl
      simp [h, stored?, hscenes]
  | dimmer k =>
    unfold receive
    cases h : k.receive? f.commandClass f.payload with
    | none => simp [h]
    | some r => simp [h, stored?]

theorem stored?_programmed (s : Scene) (coordinator d : DeviceId) (node : Node) :
    (node.programmed s coordinator d).stored? = node.stored?.map fun t =>
      match s.button? d with
      | some b => t.insert b.byte (s.id.byte, s.duration.byte)
      | none => t := by
  unfold programmed
  cases node with
  | keypad k => cases s.button? d <;> rfl
  | dimmer k => cases s.member? d <;> rfl

theorem Fresh.stored?_eq_some {node : Node} (h : node.Fresh) {t : ByteMap UInt8 (UInt8 × UInt8)}
    (ht : node.stored? = some t) : t = ByteMap.empty := by
  cases h with
  | keypad =>
    cases ht
    rfl
  | dimmer => cases ht

end Node

namespace Network

def stored? (n : Network) (d : DeviceId) : Option (ByteMap UInt8 (UInt8 × UInt8)) :=
  (n.nodes.get? d).bind Node.stored?

theorem stored?_eq_some_iff {n : Network} {d : DeviceId} {t : ByteMap UInt8 (UInt8 × UInt8)} :
    n.stored? d = some t ↔ ∃ k, n.keypad? d = some k ∧ k.scenes = t := by
  unfold stored? keypad?
  rcases n.nodes.get? d with _ | ⟨k | k⟩ <;> simp [Node.stored?]

/-- The group of a button is bound to the scene. -/
def Holds (n : Network) (d : DeviceId) (b : ButtonId) (id : SceneId) : Prop :=
  ∃ k duration, n.keypad? d = some k ∧ k.scenes.get? b.byte = some (id.byte, duration)

/-- Nothing that is bound at one time is not so at the other. -/
def KeepsStored (n n' : Network) : Prop := (n.Sound → n'.Sound) ∧ ∀ d, n'.stored? d = n.stored? d

theorem KeepsStored.trans {n n' n'' : Network} (h : n.KeepsStored n') (h' : n'.KeepsStored n'') :
    n.KeepsStored n'' :=
  ⟨h'.1 ∘ h.1, fun d => (h'.2 d).trans (h.2 d)⟩

theorem keepsStored_of_nodes {n n' : Network} (hnodes : n'.nodes = n.nodes)
    (hpublished : ∀ f ∈ n'.published, f ∈ n.published) : n.KeepsStored n' := by
  refine ⟨fun hn =>
    ⟨fun d node hd => hn.own d node (hnodes ▸ hd), fun f hf => hn.plain f (hpublished f hf)⟩,
      fun d => ?_⟩
  unfold stored?
  rw [hnodes]

theorem keepsStored_sendAll {fs : List OutboundFrame}
    (hfs : ∀ f ∈ fs, f.commandClass ≠ .sceneControllerConf) (n : Network) :
    n.KeepsStored (Channel.sendAll fs n) := by
  induction fs generalizing n with
  | nil => exact ⟨id, fun _ => rfl⟩
  | cons f fs ih =>
    have hfirst : n.KeepsStored (n.deliver f).1 := by
      refine ⟨fun h => h.deliver f, fun d => ?_⟩
      unfold stored?
      rw [get?_nodes_deliver]
      split
      · cases n.nodes.get? d with
        | none => rfl
        | some node => exact node.stored?_receive (hfs f List.mem_cons_self)
      · rfl
    exact hfirst.trans (ih (fun g hg => hfs g (List.mem_cons_of_mem _ hg)) _)

theorem keepsStored_press {n n' : Network} {d : DeviceId} {button : UInt8}
    {notes : List Journal.Entry} (hp : n.press d button = .ok (n', notes)) : n.KeepsStored n' := by
  refine ⟨fun hn => ?_, fun e => ?_⟩
  · rcases press_cases hn hp with rfl | ⟨k, bit, value, fs, -, -, -, htouched⟩
    · exact hn
    · exact htouched.sound hn
  · unfold press at hp
    split at hp
    next k hk =>
      cases hp
      have hscenes : (k.press button).1.scenes = k.scenes := by
        unfold Keypad.press
        split <;> rfl
      show ((n.nodes.insert d _).get? e).bind Node.stored? = (n.nodes.get? e).bind Node.stored?
      rw [ByteMap.get?_insert]
      split
      next he =>
        rw [he, hk]
        exact congrArg some hscenes
      next => rfl
    next => cases hp

theorem stored?_join (n : Network) (node : Node) (d : DeviceId) :
    (n.join node).stored? d = if d = node.descriptor.id then node.stored? else n.stored? d := by
  show ((n.nodes.insert node.descriptor.id node).get? d).bind Node.stored? = _
  rw [ByteMap.get?_insert]
  split <;> rfl

theorem stored?_joined {nodes : List Node} (hfresh : ∀ node ∈ nodes, node.Fresh) {n : Network}
    (hn : ∀ d t, n.stored? d = some t → t = ByteMap.empty) :
    ∀ d t, (nodes.foldl join n).stored? d = some t → t = ByteMap.empty := by
  induction nodes generalizing n with
  | nil => exact hn
  | cons node nodes ih =>
    refine ih (fun x hx => hfresh x (List.mem_cons_of_mem _ hx)) fun d t ht => ?_
    rw [stored?_join] at ht
    split at ht
    · exact (hfresh node List.mem_cons_self).stored?_eq_some ht
    · exact hn d t ht

theorem stored?_programFrames {n : Network} {s : Scene}
    (hdistinct : (s.members.map (·.device)).Nodup) (coordinator d : DeviceId) :
    (Channel.sendAll (s.programFrames coordinator) n).stored? d = (n.stored? d).map fun t =>
      match s.button? d with
      | some b => t.insert b.byte (s.id.byte, s.duration.byte)
      | none => t := by
  unfold stored?
  rw [get?_nodes_sendAll]
  cases n.nodes.get? d with
  | none => rfl
  | some node =>
    simp only [Option.map_some, Option.bind_some, node.takeAll_programFrames hdistinct]
    exact node.stored?_programmed s coordinator d

end Network

namespace Manager

/-! ## Calls and frames that bind no group -/

def KeepsStored (s t : Registry × Outlet Network) : Prop := s.2.channel.KeepsStored t.2.channel

instance : IsPreorder (Registry × Outlet Network) KeepsStored where
  refl _ := ⟨id, fun _ => rfl⟩
  trans _ _ _ h h' := Network.KeepsStored.trans h h'

theorem keepsStored_took {fs : List OutboundFrame} {r r' : Registry} {o o' : Outlet Network}
    (hfs : ∀ f ∈ fs, f.commandClass ≠ .sceneControllerConf) (htook : Outlet.Took fs o o') :
    KeepsStored (r, o) (r', o') := by
  unfold KeepsStored
  rw [htook.channel]
  exact Network.keepsStored_sendAll hfs _

theorem keepsStored_note (s : Registry × Outlet Network) (e : Journal.Entry) :
    KeepsStored s (s.1, s.2.note e) :=
  ⟨id, fun _ => rfl⟩

theorem keepsStored_ask (d : DeviceId) :
    (Registry.react d (.ok ·.requestIndicator) : Act Registry Network Unit).Moves KeepsStored := by
  intro s
  rcases Registry.took_ask d (Network.accepts s.2.channel) with hafter | ⟨c, o', -, htook, hafter⟩
  · rw [hafter]
    exact refl_of KeepsStored s
  · rw [hafter]
    exact keepsStored_took
      (fun f hf => (Controller.aboutLights_askFrames hf).2.binds_no_group) htook

theorem keepsStored_setButton (d : DeviceId) (b : ButtonId) (on : Bool) :
    (Registry.setButton d b on : Act Registry Network Bool).Moves KeepsStored := by
  intro s
  rcases Registry.took_setButton on d b (Network.accepts s.2.channel) with
    hafter | ⟨c, o', -, -, htook, hafter⟩
  · rw [hafter]
    exact refl_of KeepsStored s
  · rw [hafter]
    exact keepsStored_took
      (fun f hf => (Controller.aboutLights_switchFrames hf).2.binds_no_group) htook

theorem steps_keepsStored (directory : Directory) : Steps directory KeepsStored where
  note := keepsStored_note
  forget _ _ _ _ _ := ⟨id, fun _ => rfl⟩
  attach r o o' d count c es _ _ hsend := by
    obtain ⟨o₁, hsend', htook⟩ :=
      Outlet.took_sendAll (o := o.noted es) (Network.accepts _) c.askFrames
    rw [hsend] at hsend'
    cases hsend'
    exact keepsStored_took (r := r) (o := o.noted es)
      (fun f hf => (Controller.aboutLights_askFrames hf).2.binds_no_group) htook
  refused _ o o' es fs refusal hsend := by
    obtain ⟨o₁, hsend', -⟩ := Outlet.took_sendAll (o := o.noted es) (Network.accepts _) fs
    rw [hsend] at hsend'
    cases hsend'
  ask := keepsStored_ask

def programs? (m : Manager) : Call → Option Scene
  | .program id => m.scene? id
  | _ => none

theorem keepsStored_call {m : Manager} {c : Call} (hc : m.programs? c = none) (o : Outlet Network) :
    o.channel.KeepsStored ((c.run o.channel.directory).after (m, o)).2.channel := by
  by_cases hprogram : ∃ id, c = .program id
  · obtain ⟨id, rfl⟩ := hprogram
    have hafter : ((Call.program id).run o.channel.directory).after (m, o) = (m, o) := by
      show (discard (programScene id) : Act Manager Network Unit).after (m, o) = _
      rw [Act.after_discard]
      unfold programScene sceneNamed Act.after
      rw [Act.run_bind, Act.run_bind, Act.run_subject]
      simp only [show m.scene? id = none from hc]
      rfl
    rw [hafter]
    exact ⟨fun h => h, fun _ => rfl⟩
  · exact (steps_keepsStored o.channel.directory).on_call c (fun id heq =>
      absurd ⟨id, heq⟩ hprogram)
      (fun _ _ d b => keepsStored_setButton d b true) (m, o)

theorem keepsStored_handleFrame (f : InboundFrame) (s : Manager × Outlet Network) :
    s.2.channel.KeepsStored ((handleFrame f).after s).2.channel :=
  (through_handleFrame keepsStored_note keepsStored_setButton keepsStored_ask
    (fun _ _ _ _ _ _ => ⟨id, fun _ => rfl⟩) f s).2

theorem keepsStored_handleEvent (e : Event) (s : Manager × Outlet Network) :
    s.2.channel.KeepsStored ((handleEvent e).after s).2.channel :=
  (through_handleEvent keepsStored_note keepsStored_setButton keepsStored_ask
    (fun _ _ _ _ _ _ => ⟨id, fun _ => rfl⟩) e s).2

end Manager

/-! ## Presses -/

def Keypad.Publishes (k : Keypad) (b : ButtonId) (id : SceneId) : Prop :=
  ∃ duration, .ofClass k.id .sceneActivation [0x01, id.byte, duration] ∈ (k.press b.byte).2

theorem Keypad.publishes_iff {k : Keypad} {b : ButtonId} {id : SceneId} (h1 : 1 ≤ b.byte)
    (h8 : b.byte ≤ 8) :
    k.Publishes b id ↔
      lightAt k.lights b.place = false ∧
        ∃ duration, k.scenes.get? b.byte = some (id.byte, duration) := by
  have hbit : Keypad.bit? b.byte = some (b.byte - 1) := if_pos ⟨h1, h8⟩
  obtain ⟨hlt, -⟩ := Keypad.bit?_eq_some hbit
  have hplace : (b.byte - 1).toNat = b.place := UInt8.toNat_sub_of_le _ _ h1
  have hlit : Keypad.isLit { k with lights := k.lights ^^^ (1 <<< (b.byte - 1)) } (b.byte - 1) =
      !lightAt k.lights b.place := by
    have hturned := lightAt_turned (UInt8.lt_iff_toNat_lt.mpr hlt) k.lights (b.byte - 1).toNat
    rw [if_pos rfl, hplace] at hturned
    rw [← hturned, ← hplace, Bool.eq_iff_iff]
    unfold Keypad.isLit
    rw [decide_eq_true_iff]
    exact and_bit_ne_zero_iff (UInt8.lt_iff_toNat_lt.mpr hlt) _
  unfold Publishes press
  simp only [hbit, hlit]
  cases hscene : k.scenes.get? b.byte with
  | none => simp [InboundFrame.ofClass, CommandClass.id]
  | some e =>
    cases hl : lightAt k.lights b.place with
    | true => simp [InboundFrame.ofClass, CommandClass.id]
    | false =>
      simp [InboundFrame.ofClass, CommandClass.id, Prod.ext_iff, eq_comm]

/-! ## Runs and what was programmed -/

/-- What decides which scene a group holds. -/
inductive Deed where
  | programmed (s : Scene)
  /-- The node joined the network, with groups that hold nothing. -/
  | joined (device : DeviceId)
  deriving DecidableEq

/-- The scene that was last programmed into the group of a button. The latest deed comes first. -/
def lastProgrammed? (d : DeviceId) (b : ButtonId) : List Deed → Option Scene
  | [] => none
  | .programmed s :: log => if s.button? d = some b then some s else lastProgrammed? d b log
  | .joined e :: log => if e = d then none else lastProgrammed? d b log

def Deed.scene? : Deed → Option Scene
  | programmed s => some s
  | joined _ => none

theorem mem_of_lastProgrammed? {d : DeviceId} {b : ButtonId} {log : List Deed} {s : Scene}
    (h : lastProgrammed? d b log = some s) :
    s ∈ log.filterMap Deed.scene? ∧ (d, b) ∈ s.controllers.toList := by
  fun_induction lastProgrammed? d b log with
  | case1 => cases h
  | case2 t log hb =>
    cases h
    exact ⟨List.mem_cons_self, ByteMap.get?_eq_some_iff.mp hb⟩
  | case3 t log _ ih => exact ⟨List.mem_cons_of_mem t (ih h).1, (ih h).2⟩
  | case4 => cases h
  | case5 e log _ ih => exact ih h

namespace Manager

def deeds (m : Manager) (c : Call) : List Deed := ((m.programs? c).map Deed.programmed).toList

/-- The managers that come about over a network into which scenes are programmed by calls only, with
the network and the deeds. Between what the manager does, anything may happen to the network that
binds no group: presses, frames that others send, frames that are taken away. -/
inductive Ran : Manager → Network → List Deed → Prop where
  | start {coordinator : DeviceId} {count : UInt8} {m : Manager} {n : Network} :
      (new.withCoordinator coordinator).withButtonCount count = .ok m → n.Sound →
      (∀ d t, n.stored? d = some t → t = ByteMap.empty) → Ran m n []
  | call {m : Manager} {o : Outlet Network} {log : List Deed} (c : Call) : Ran m o.channel log →
      Ran ((c.run o.channel.directory).after (m, o)).1
        ((c.run o.channel.directory).after (m, o)).2.channel
        (m.deeds c ++ log)
  | frame {m : Manager} {o : Outlet Network} {log : List Deed} (f : InboundFrame) :
    Ran m o.channel log →
      Ran ((handleFrame f).after (m, o)).1 ((handleFrame f).after (m, o)).2.channel log
  | event {m : Manager} {o : Outlet Network} {log : List Deed} (e : Event) : Ran m o.channel log →
      Ran ((handleEvent e).after (m, o)).1 ((handleEvent e).after (m, o)).2.channel log
  | elsewhere {m : Manager} {n n' : Network} {log : List Deed} :
      n.KeepsStored n' → Ran m n log → Ran m n' log
  | join {m : Manager} {n : Network} {log : List Deed} {node : Node} : node.Fresh → Ran m n log →
      Ran m (n.join node) (.joined node.descriptor.id :: log)

variable {m : Manager} {n : Network} {log : List Deed} {id : SceneId} {s : Scene}

theorem exists_of_programs? {c : Call} (h : m.programs? c = some s) :
    ∃ id, c = .program id ∧ m.scene? id = some s := by
  cases c with
  | program id => exact ⟨id, rfl, h⟩
  | _ => cases h

theorem Reachable.after_program (h : Reachable Network.Gives m) (hs : m.scene? id = some s)
    (directory : Directory) (o : Outlet Network) :
    ∃ o', ((Call.program id).run directory).after (m, o) = (m, o') ∧
      o'.channel = Channel.sendAll (s.programFrames m.coordinator) o.channel := by
  obtain ⟨summary, o', hrun, hchannel⟩ := h.run_programScene hs o
  refine ⟨o', ?_, hchannel⟩
  show (discard (programScene id) : Act Manager Network Unit).after (m, o) = _
  rw [Act.after_discard]
  exact (Act.run_eq_ok_iff.mp hrun).2

theorem Ran.reachable (h : Ran m n log) : Reachable Network.Gives m ∧ n.Sound := by
  induction h with
  | start hm hn _ => exact ⟨.start hm, hn⟩
  | @call m o log c _ ih =>
    obtain ⟨hm, hn⟩ := ih
    refine ⟨hm.call c o ⟨o.channel, hn, rfl⟩, ?_⟩
    cases hc : m.programs? c with
    | none => exact (keepsStored_call hc o).1 hn
    | some s =>
      obtain ⟨id, rfl, hs⟩ := exists_of_programs? hc
      obtain ⟨o', hafter, hchannel⟩ := hm.after_program hs o.channel.directory o
      rw [hafter, hchannel]
      exact hn.sendAll _
  | frame f _ ih => exact ⟨ih.1.frame f _, (keepsStored_handleFrame f _).1 ih.2⟩
  | event e _ ih => exact ⟨ih.1.event e _, (keepsStored_handleEvent e _).1 ih.2⟩
  | elsewhere hkept _ ih => exact ⟨ih.1, hkept.1 ih.2⟩
  | join _ _ ih => exact ⟨ih.1, ih.2.join _⟩

theorem Ran.of_nodes {n' : Network} (h : Ran m n log) (hnodes : n'.nodes = n.nodes)
    (hpublished : ∀ f ∈ n'.published, f ∈ n.published) : Ran m n' log :=
  .elsewhere (Network.keepsStored_of_nodes hnodes hpublished) h

/-- The groups hold what was last programmed into them. -/
def Remembers (n : Network) (log : List Deed) : Prop :=
  ∀ d t, n.stored? d = some t → ∀ b : ButtonId,
    t.get? b.byte = (lastProgrammed? d b log).map fun s => (s.id.byte, s.duration.byte)

theorem Remembers.keepsStored {n' : Network} (h : Remembers n log) (hkept : n.KeepsStored n') :
    Remembers n' log :=
  fun d t ht => h d t ((hkept.2 d).symm.trans ht)

theorem Remembers.programmed (h : Remembers n log) (hdistinct : (s.members.map (·.device)).Nodup)
    (coordinator : DeviceId) :
    Remembers (Channel.sendAll (s.programFrames coordinator) n) (.programmed s :: log) := by
  intro d t ht b
  rw [Network.stored?_programFrames hdistinct] at ht
  obtain ⟨u, hu, rfl⟩ := Option.map_eq_some_iff.mp ht
  have hbefore := h d u hu b
  unfold lastProgrammed?
  cases hb : s.button? d with
  | none => simpa using hbefore
  | some e =>
    simp only [ByteMap.get?_insert, Option.some.injEq]
    by_cases heq : b = e
    · rw [if_pos (congrArg _ heq), if_pos heq.symm]
      rfl
    · have hne : b.byte ≠ e.byte := fun hbyte => heq (ByteKey.byte_inj hbyte)
      rw [if_neg hne, if_neg (Ne.symm heq)]
      exact hbefore

theorem Remembers.join (h : Remembers n log) {node : Node} (hfresh : node.Fresh) :
    Remembers (n.join node) (.joined node.descriptor.id :: log) := by
  intro d t ht b
  rw [Network.stored?_join] at ht
  unfold lastProgrammed?
  split at ht
  next hd =>
    rw [if_pos hd.symm, hfresh.stored?_eq_some ht]
    rfl
  next hd =>
    rw [if_neg (Ne.symm hd)]
    exact h d t ht b

theorem Ran.remembers (h : Ran m n log) : Remembers n log := by
  induction h with
  | start _ _ hempty =>
    intro d t ht b
    rw [hempty d t ht]
    rfl
  | @call m o log c h ih =>
    unfold deeds
    cases hc : m.programs? c with
    | none => exact ih.keepsStored (keepsStored_call hc o)
    | some s =>
      obtain ⟨id, rfl, hs⟩ := exists_of_programs? hc
      have hm := h.reachable.1
      obtain ⟨o', hafter, hchannel⟩ := hm.after_program hs o.channel.directory o
      rw [hafter, hchannel]
      exact ih.programmed (hm.recorded hs).distinct m.coordinator
  | frame f _ ih => exact ih.keepsStored (keepsStored_handleFrame f (_, _))
  | event e _ ih => exact ih.keepsStored (keepsStored_handleEvent e (_, _))
  | elsewhere hkept _ ih => exact ih.keepsStored hkept
  | join hfresh _ ih => exact ih.join hfresh

theorem Remembers.holds_iff (h : Remembers n log) {d : DeviceId} {b : ButtonId} :
    n.Holds d b id ↔ n.keypad? d ≠ none ∧ ∃ t, lastProgrammed? d b log = some t ∧ t.id = id := by
  constructor
  · rintro ⟨k, duration, hk, hscene⟩
    rw [h d k.scenes (Network.stored?_eq_some_iff.mpr ⟨k, hk, rfl⟩) b] at hscene
    obtain ⟨t, ht, heq⟩ := Option.map_eq_some_iff.mp hscene
    exact ⟨by rw [hk]; exact nofun, t, ht, SceneId.ext (congrArg Prod.fst heq)⟩
  · rintro ⟨hk, t, ht, rfl⟩
    obtain ⟨k, hk⟩ := Option.ne_none_iff_exists'.mp hk
    refine ⟨k, t.duration.byte, hk, ?_⟩
    rw [h d k.scenes (Network.stored?_eq_some_iff.mpr ⟨k, hk, rfl⟩) b, ht]
    rfl

/-- To program a scene succeeds, whatever was called before, and the groups that it is bound to hold
it then. They are the only ones exactly if each group into which the scene was the last to be
programmed is still bound to it. A press that turns a light on publishes an activation of the scene
where the group holds it, and nowhere else. -/
theorem leftovers_iff {o : Outlet Network} (h : Ran m o.channel log) (hs : m.scene? id = some s) :
    ∃ summary o', programScene id (m, o) = .ok summary (m, o') ∧
      Ran m o'.channel (.programmed s :: log) ∧
      (∀ d b, s.button? d = some b → o'.channel.keypad? d ≠ none → o'.channel.Holds d b id) ∧
      (∀ d b k, o'.channel.keypad? d = some k → 1 ≤ b.byte → b.byte ≤ 8 →
        lightAt k.lights b.place = false →
        (k.Publishes b id ↔ o'.channel.Holds d b id)) ∧
      ((∀ d b, o'.channel.Holds d b id → s.button? d = some b) ↔
        ∀ d b t, o'.channel.keypad? d ≠ none → lastProgrammed? d b log = some t → t.id = id →
          s.button? d = some b) := by
  have hm := h.reachable.1
  obtain ⟨summary, o', hrun, hchannel⟩ := hm.run_programScene hs o
  have hran : Ran m o'.channel (.programmed s :: log) := by
    have hcall := h.call (.program id)
    have hafter : ((Call.program id).run o.channel.directory).after (m, o) = (m, o') :=
      (Act.after_discard (programScene id) _).trans (Act.run_eq_ok_iff.mp hrun).2
    have hdeeds : m.deeds (.program id) = [.programmed s] := by simp [deeds, programs?, hs]
    rwa [hafter, hdeeds] at hcall
  -- from here on the groups are spoken of through the deeds alone
  have hholds {d b} : o'.channel.Holds d b id ↔ _ := hran.remembers.holds_iff
  refine ⟨summary, o', hrun, hran, fun d b hb hk => ?_, fun d b k hk h1 h8 hl => ?_,
    fun hall d b t hk ht hid => ?_, fun hall d b hb => ?_⟩
  · exact hholds.mpr ⟨hk, s, if_pos hb, hm.coherent.stored id s hs⟩
  · rw [Keypad.publishes_iff h1 h8]
    constructor
    · rintro ⟨-, duration, hscene⟩
      exact ⟨k, duration, hk, hscene⟩
    · rintro ⟨k', duration, hk', hscene⟩
      rw [hk] at hk'
      cases hk'
      exact ⟨hl, duration, hscene⟩
  · -- A group that the scene is not bound to now holds what it held before.
    by_cases hb : s.button? d = some b
    · exact hb
    · exact hall d b (hholds.mpr ⟨hk, t, (if_neg hb).trans ht, hid⟩)
  · by_cases hbound : s.button? d = some b
    · exact hbound
    · obtain ⟨hk, t, ht, hid⟩ := hholds.mp hb
      exact hall d b t hk ((if_neg hbound).symm.trans ht) hid

end Manager

/-! ## The closed hub -/

namespace ClosedHub

open Manager (Ran)

variable {h : ClosedHub} {log : List Deed}

theorem ran_afterwards {s : Manager × Outlet Network} (hs : Ran s.1 s.2.channel log) :
    Ran (afterwards s).manager (afterwards s).network log :=
  hs.of_nodes rfl fun _ hf => hf

theorem ran_call (hr : Ran h.manager h.network log) (c : Call) :
    Ran (h.call c).manager (h.call c).network (h.manager.deeds c ++ log) :=
  ran_afterwards (Ran.call (o := .opened h.network) c hr)

theorem ran_start {coordinator : DeviceId} {count : UInt8} {m : Manager} {nodes : List Node}
    (hm : (Manager.new.withCoordinator coordinator).withButtonCount count = .ok m)
    (hfresh : ∀ n ∈ nodes, n.Fresh) :
    Ran (start m nodes).manager (start m nodes).network [] :=
  have hr : (start m nodes).Reachable False := .start hm hfresh
  .start hm hr.fit.sound
    (Network.stored?_joined hfresh (n := .empty) fun _ _ ht => by cases ht)

/-- Every hub that comes about is the end of a run. -/
theorem Reachable.ran {lossy : Prop} (hr : h.Reachable lossy) :
    ∃ log, Ran h.manager h.network log := by
  induction hr with
  | start hm hfresh => exact ⟨[], ran_start hm hfresh⟩
  | @deliver h _ ih =>
    obtain ⟨log, hran⟩ := ih
    refine ⟨log, ?_⟩
    unfold ClosedHub.deliver
    split
    · exact hran
    next f waiting hw =>
      have hpopped : Ran h.manager ({ h with waiting } : ClosedHub).network log :=
        hran.of_nodes rfl fun g hg => by
          show g ∈ h.waiting
          rw [hw]
          exact List.mem_cons_of_mem _ hg
      exact ran_afterwards (Ran.frame (o := .opened _) f hpopped)
  | @press h id button _ ih =>
    obtain ⟨log, hran⟩ := ih
    refine ⟨log, ?_⟩
    unfold ClosedHub.press
    split
    next n notes hp =>
      exact (Ran.elsewhere (Network.keepsStored_press hp) hran).of_nodes rfl fun _ hf => hf
    next => exact hran
  | @call h c _ ih =>
    obtain ⟨log, hran⟩ := ih
    exact ⟨_, ran_call hran c⟩
  | @lag h lost _ _ ih =>
    obtain ⟨log, hran⟩ := ih
    have hdropped :
        Ran h.manager ({ h with waiting := h.waiting.drop lost } : ClosedHub).network log :=
      hran.of_nodes rfl fun _ hf => List.mem_of_mem_drop hf
    exact ⟨_, ran_call (h := { h with waiting := h.waiting.drop lost }) hdropped .refresh⟩

/-! ## A scene that changes its button -/

def deeds (h : ClosedHub) : List Call → List Deed
  | [] => []
  | c :: cs => (h.call c).deeds cs ++ h.manager.deeds c

theorem ran_calls (hr : Ran h.manager h.network log) (cs : List Call) :
    Ran (cs.foldl call h).manager (cs.foldl call h).network (h.deeds cs ++ log) := by
  induction cs generalizing h log with
  | nil => exact hr
  | cons c cs ih =>
    have hnext := ih (ran_call hr c)
    rwa [← List.append_assoc] at hnext

/-- The first scene is programmed and gets another button. -/
def rebound (evening : SceneId) : List Call :=
  [.newScene 1 "evening", .addController evening ⟨2⟩ ⟨1⟩, .program evening,
    .addController evening ⟨2⟩ ⟨2⟩]

/-- The scene is programmed again, and its old button still activates it. -/
theorem rebound_leaves_trigger :
    let h := afterCalls (rebound ⟨1, by decide⟩ ++ [.program ⟨1, by decide⟩])
    h.Reachable False ∧ (h.manager.scene? ⟨1, by decide⟩).map (·.controllers.toList) =
      some [(⟨2⟩, ⟨2⟩)] ∧
      h.network.Holds ⟨2⟩ ⟨1⟩ ⟨1, by decide⟩ ∧
      (h.press ⟨2⟩ 1).waiting = h.waiting ++
        [.ofClass ⟨2⟩ .basic [0x01, 0xFF], .ofClass ⟨2⟩ .sceneActivation [0x01, 1, 3]] := by
  have hheld :
      ((afterCalls (rebound ⟨1, by decide⟩ ++ [.program ⟨1, by decide⟩])).network.keypad? ⟨2⟩).bind
        (·.scenes.get? 1) = some (1, 3) := by decide +kernel
  obtain ⟨k, hk, hscene⟩ := Option.bind_eq_some_iff.mp hheld
  exact ⟨reachable_afterCalls _, by decide +kernel, ⟨k, 3, hk, hscene⟩, by decide +kernel⟩

/-- The old button goes to another scene, which is programmed. -/
def rewired (evening night : SceneId) : List Call :=
  rebound evening ++ [.newScene 2 "night", .addController night ⟨2⟩ ⟨1⟩, .program night]

theorem leftovers_iff_rewired :
    ∃ m s log summary, ∃ o o' : Outlet Network, Ran m o.channel log ∧
      m.scene? ⟨1, by decide⟩ = some s ∧
      s.button? ⟨2⟩ = some ⟨2⟩ ∧ (lastProgrammed? ⟨2⟩ ⟨1⟩ log).map (·.name) = some "night" ∧
      Manager.programScene ⟨1, by decide⟩ (m, o) = .ok summary (m, o') ∧
      o'.channel.Holds ⟨2⟩ ⟨2⟩ ⟨1, by decide⟩ ∧
      ∀ d b, o'.channel.Holds d b ⟨1, by decide⟩ → s.button? d = some b := by
  have hran := ran_calls (@ran_start ⟨1⟩ 5 _ [.keypad (.new ⟨2⟩ false)] rfl
    fun n hn => List.mem_singleton.mp hn ▸
      .keypad ⟨2⟩ false) (rewired ⟨1, by decide⟩ ⟨2, by decide⟩)
  rw [List.append_nil] at hran
  generalize hlog : deeds _ (rewired _ _) = log at hran
  generalize hh : List.foldl call _ (rewired _ _) = h at hran
  have hscene : (h.manager.scene? ⟨1, by decide⟩).map (fun s => s.button? ⟨2⟩) =
      some (some ⟨2⟩) := by
    rw [← hh]
    decide +kernel
  have hnight : (lastProgrammed? ⟨2⟩ ⟨1⟩ log).map (·.name) = some "night" := by
    rw [← hlog]
    decide +kernel
  have hbound : ∀ t ∈ log.filterMap Deed.scene?, ∀ e ∈ t.controllers.toList,
      (lastProgrammed? e.1 e.2 log).map (·.id) = some ⟨1, by decide⟩ →
        (h.manager.scene? ⟨1, by decide⟩).bind (fun s => s.button? e.1) = some e.2 := by
    rw [← hlog, ← hh]
    decide +kernel
  have hkeypad :
      (((Manager.programScene ⟨1, by decide⟩).after
        (h.manager, Outlet.opened h.network)).2.channel.keypad? ⟨2⟩).isSome = true := by
    rw [← hh]
    decide +kernel
  clear hh hlog
  obtain ⟨s, hs, hbutton⟩ := Option.map_eq_some_iff.mp hscene
  obtain ⟨summary, o', hrun, -, hholds, -, hiff⟩ :=
    Manager.leftovers_iff (o := .opened h.network) hran hs
  rw [(Act.run_eq_ok_iff.mp hrun).2] at hkeypad
  refine ⟨h.manager, s, log, summary, .opened h.network, o', hran, hs, hbutton, hnight, hrun,
    hholds ⟨2⟩ ⟨2⟩ hbutton (Option.isSome_iff_ne_none.mp hkeypad),
    hiff.mpr fun d b t _ ht hid => ?_⟩
  obtain ⟨hmem, he⟩ := mem_of_lastProgrammed? ht
  have hlast := hbound t hmem (d, b) he (by rw [ht, ← hid]; rfl)
  rwa [hs] at hlast

end ClosedHub

end MeshScenes
