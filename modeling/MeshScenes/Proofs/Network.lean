import MeshScenes.Proofs.Controller
import MeshScenes.Simulation.Network
import MeshScenes.Wire.Event

/-!
# What the simulated network does with a frame

A frame changes the node it is meant for and nothing else, and what is published in answer comes
from that node. Only frames about lights change lights or make a node tell about them.
-/

namespace MeshScenes

/-! ## Frames that nodes publish -/

/-- The frames that nodes publish. -/
inductive InboundFrame.Plain : InboundFrame → Prop where
  | press (d : DeviceId) (value : UInt8) : Plain (.ofClass d .basic [0x01, value])
  | lights (d : DeviceId) (lights : UInt8) : Plain (.ofClass d .indicator [0x03, lights])
  | activation (d : DeviceId) (scene duration : UInt8) :
    Plain (.ofClass d .sceneActivation [0x01, scene, duration])
  | controller (d : DeviceId) (group scene duration : UInt8) :
      Plain (.ofClass d .sceneControllerConf [0x03, group, scene, duration])
  | actuator (d : DeviceId) (scene level duration : UInt8) :
      Plain (.ofClass d .sceneActuatorConf [0x03, scene, level, duration])

/-- The frame tells of a node that its lights changed, or what they are. -/
def InboundFrame.tells (d : DeviceId) (f : InboundFrame) : Bool :=
  f.source = d ∧
    (f.commandClass = CommandClass.basic.id ∨ f.commandClass = CommandClass.indicator.id)

def lastTold (d : DeviceId) (fs : List InboundFrame) : Option InboundFrame :=
  (fs.filter (·.tells d)).getLast?

theorem lastTold_append (d : DeviceId) (fs gs : List InboundFrame) :
    lastTold d (fs ++ gs) = (lastTold d gs).or (lastTold d fs) := by
  unfold lastTold
  rw [List.filter_append, List.getLast?_append]

theorem lastTold_cons_of_not_tells {d : DeviceId} {f : InboundFrame} (h : f.tells d = false)
    (fs : List InboundFrame) :
    lastTold d (f :: fs) = lastTold d fs := by
  unfold lastTold
  rw [List.filter_cons_of_neg (by simp [h])]

theorem lastTold_cons (d : DeviceId) (f : InboundFrame) (fs : List InboundFrame) :
    lastTold d (f :: fs) = (lastTold d fs).or (if f.tells d then some f else none) := by
  rw [← List.singleton_append, lastTold_append]
  congr 1
  unfold lastTold
  by_cases h : f.tells d = true
  · simp [h]
  · simp [h]

theorem lastTold_eq_none {d : DeviceId} {fs : List InboundFrame} (h : ∀ f ∈ fs, f.tells d = false) :
    lastTold d fs = none := by
  unfold lastTold
  rw [List.filter_eq_nil_iff.mpr fun f hf => by simp [h f hf]]
  rfl

theorem tells_of_source_ne {d : DeviceId} {f : InboundFrame} (h : f.source ≠ d) :
    f.tells d = false := by
  simp [InboundFrame.tells, h]

theorem tells_ofClass (d e : DeviceId) (c : CommandClass) (payload : List UInt8) :
    (InboundFrame.ofClass d c payload).tells e =
      decide (d = e ∧ (c = .basic ∨ c = .indicator)) := by
  cases c <;> simp [InboundFrame.tells, InboundFrame.ofClass, CommandClass.id]

/-- Frames by which a keypad tells that it was pressed. -/
def InboundFrame.isPress (f : InboundFrame) : Bool :=
  f.commandClass = CommandClass.basic.id ∨ f.commandClass = CommandClass.sceneActivation.id

/-! ## Nodes -/

/-- What a node that takes a frame in keeps, and what it sends back. -/
structure Keypad.Took (k : Keypad) (c : CommandClass) (k' : Keypad) (replies : List InboundFrame) :
    Prop where
  id : k'.id = k.id
  portable : k'.portable = k.portable
  plain : ∀ g ∈ replies, g.Plain ∧ g.source = k.id
  lights : c ≠ .indicator → k'.lights = k.lights ∧ ∀ g ∈ replies, ∀ d, g.tells d = false

theorem Keypad.took_of_receive {k k' : Keypad} {c : CommandClass} {payload : List UInt8}
    {replies : List InboundFrame} (h : k.receive? c payload = some (k', replies)) :
    k.Took c k' replies := by
  unfold Keypad.receive? at h
  split at h
  next => cases h; exact ⟨rfl, rfl, by simp, fun hc => absurd rfl hc⟩
  next =>
    cases h
    refine ⟨rfl, rfl, fun g hg => ?_, fun hc => absurd rfl hc⟩
    rw [List.mem_singleton.mp hg]
    exact ⟨.lights k.id k.lights, rfl⟩
  next => cases h; exact ⟨rfl, rfl, by simp, fun _ => ⟨rfl, by simp⟩⟩
  next => cases h; exact ⟨rfl, rfl, by simp, fun _ => ⟨rfl, by simp⟩⟩
  next => cases h; exact ⟨rfl, rfl, by simp, fun _ => ⟨rfl, by simp⟩⟩
  next => cases h; exact ⟨rfl, rfl, by simp, fun _ => ⟨rfl, by simp⟩⟩
  next => cases h; exact ⟨rfl, rfl, by simp, fun _ => ⟨rfl, by simp⟩⟩
  next group =>
    cases h
    refine ⟨rfl, rfl, fun g hg => ?_, fun _ => ⟨rfl, fun g hg d => ?_⟩⟩
    · rw [List.mem_singleton.mp hg]
      exact ⟨.controller k.id group _ _, rfl⟩
    · rw [List.mem_singleton.mp hg]
      simp [InboundFrame.tells, InboundFrame.ofClass, CommandClass.id]
  next => cases h

theorem Dimmer.replies_of_receive {k k' : Dimmer} {c : CommandClass} {payload : List UInt8}
    {replies : List InboundFrame} (h : k.receive? c payload = some (k', replies)) :
    k'.id = k.id ∧ k'.sceneCapable = k.sceneCapable ∧
      ∀ g ∈ replies, g.Plain ∧ g.source = k.id ∧ ∀ d, g.tells d = false := by
  unfold Dimmer.receive? at h
  split at h
  next => cases h; exact ⟨rfl, rfl, by simp⟩
  next =>
    split at h
    · cases h; exact ⟨rfl, rfl, by simp⟩
    · cases h
  next scene =>
    split at h
    · cases h
      refine ⟨rfl, rfl, fun g hg => ?_⟩
      rw [List.mem_singleton.mp hg]
      exact ⟨.actuator k.id scene _ _, rfl,
        by simp [InboundFrame.tells, InboundFrame.ofClass, CommandClass.id]⟩
    · cases h
  next => cases h

/-- What follows the Basic frame of a press: the activation of the scene that the group of the
button is bound to, if the light went on. -/
def Keypad.Activates (k : Keypad) (button bit : UInt8) (fs : List InboundFrame) : Prop :=
  fs = [] ∨ ∃ scene duration, k.scenes.get? button = some (scene, duration) ∧
    lightAt (k.lights ^^^ (1 <<< bit)) bit.toNat = true ∧
    fs = [.ofClass k.id .sceneActivation [0x01, scene, duration]]

theorem Keypad.bit?_eq_some {button bit : UInt8} (h : Keypad.bit? button = some bit) :
    bit.toNat < 8 ∧ (⟨button⟩ : ButtonId) = .ofPlace bit.toNat := by
  unfold Keypad.bit? at h
  split at h
  next hb =>
    cases h
    obtain ⟨h1, h8⟩ := hb
    have hplace := ButtonId.ofPlace_place (b := ⟨button⟩) h1 h8
    have htoNat : (button - 1).toNat = (⟨button⟩ : ButtonId).place := UInt8.toNat_sub_of_le _ _ h1
    refine ⟨?_, by rw [htoNat, hplace]⟩
    have := UInt8.le_iff_toNat_le.mp h8
    have : (8 : UInt8).toNat = 8 := rfl
    have : (⟨button⟩ : ButtonId).place = button.toNat - 1 := rfl
    have := UInt8.le_iff_toNat_le.mp h1
    have : (1 : UInt8).toNat = 1 := rfl
    omega
  next => cases h

theorem Keypad.press_of_bit (k : Keypad) {button bit : UInt8}
    (hbit : Keypad.bit? button = some bit) :
    ∃ value fs, k.Activates button bit fs ∧ k.press button =
      ({ k with lights := k.lights ^^^ (1 <<< bit) },
        .ofClass k.id .basic [0x01, value] :: fs) := by
  unfold Keypad.press
  rw [hbit]
  refine ⟨_, _, ?_, rfl⟩
  have hb : bit < 8 := UInt8.lt_iff_toNat_lt.mpr (Keypad.bit?_eq_some hbit).1
  have hlit : Keypad.isLit { k with lights := k.lights ^^^ (1 <<< bit) } bit =
      lightAt (k.lights ^^^ (1 <<< bit)) bit.toNat := by
    unfold Keypad.isLit
    rw [Bool.eq_iff_iff, decide_eq_true_iff]
    exact and_bit_ne_zero_iff hb _
  unfold Keypad.Activates
  cases hscene : k.scenes.get? button with
  | none => exact .inl rfl
  | some e =>
    simp only [hlit]
    by_cases hl : lightAt (k.lights ^^^ (1 <<< bit)) bit.toNat = true
    · exact .inr ⟨e.1, e.2, rfl, hl, by simp [hl]⟩
    · exact .inl (by simp [hl])

theorem Keypad.Activates.plain {k : Keypad} {button bit : UInt8} {fs : List InboundFrame}
    (h : k.Activates button bit fs) : ∀ g ∈ fs, g.Plain ∧ ∀ d, g.tells d = false := by
  rcases h with rfl | ⟨scene, duration, -, -, rfl⟩
  · simp
  · intro g hg
    rw [List.mem_singleton.mp hg]
    exact ⟨.activation k.id scene duration, fun d => by rw [tells_ofClass]; simp⟩

theorem Keypad.Activates.isPress {k : Keypad} {button bit : UInt8} {fs : List InboundFrame}
    (h : k.Activates button bit fs) : ∀ g ∈ fs, g.isPress = true := by
  rcases h with rfl | ⟨scene, duration, -, -, rfl⟩
  · simp
  · intro g hg
    rw [List.mem_singleton.mp hg]
    rfl

namespace Node

def lights? : Node → Option UInt8
  | keypad k => some k.lights
  | dimmer _ => none

/-- A frame leaves what a node is, and what the node sends back comes from it. Lights are changed,
and told about, on frames about lights only. -/
theorem receive_spec (n : Node) (f : OutboundFrame) :
    (n.receive f).1.descriptor = n.descriptor ∧
      (∀ g ∈ (n.receive f).2.1, g.Plain ∧ g.source = n.descriptor.id) ∧
      (f.commandClass ≠ .indicator →
        (n.receive f).1.lights? = n.lights? ∧ ∀ g ∈ (n.receive f).2.1, ∀ d, g.tells d = false) := by
  cases n with
  | keypad k =>
    unfold receive
    cases h : k.receive? f.commandClass f.payload with
    | none => simp [h]
    | some r =>
      have htook := Keypad.took_of_receive h
      simp only [h]
      refine ⟨?_, htook.plain, fun hc => ⟨?_, (htook.lights hc).2⟩⟩
      · unfold descriptor Keypad.descriptor
        simp only [htook.id, htook.portable]
      · exact congrArg some (htook.lights hc).1
  | dimmer k =>
    unfold receive
    cases h : k.receive? f.commandClass f.payload with
    | none => simp [h]
    | some r =>
      obtain ⟨hid, hcapable, hreplies⟩ := Dimmer.replies_of_receive h
      simp only [h]
      refine ⟨?_, fun g hg => ⟨(hreplies g hg).1, (hreplies g hg).2.1⟩,
        fun _ => ⟨rfl, fun g hg => (hreplies g hg).2.2⟩⟩
      unfold descriptor Dimmer.descriptor
      simp only [hid, hcapable]

theorem isPress_receive (n : Node) (f : OutboundFrame) :
    ∀ g ∈ (n.receive f).2.1, g.isPress = false := by
  cases n with
  | keypad k =>
    unfold receive
    cases h : k.receive? f.commandClass f.payload with
    | none => simp [h]
    | some r =>
      simp only [h]
      unfold Keypad.receive? at h
      split at h <;> cases h <;> simp [InboundFrame.isPress, Keypad.indicatorReport,
        InboundFrame.ofClass, CommandClass.id]
  | dimmer k =>
    unfold receive
    cases h : k.receive? f.commandClass f.payload with
    | none => simp [h]
    | some r =>
      simp only [h]
      unfold Dimmer.receive? at h
      split at h
      next => cases h; simp
      next =>
        split at h
        · cases h; simp
        · cases h
      next =>
        split at h
        · cases h; simp [InboundFrame.isPress, InboundFrame.ofClass, CommandClass.id]
        · cases h
      next => cases h

end Node

/-! ## The network -/

namespace Network

theorem accepts (n : Network) : Channel.Accepts n := fun _ _ => rfl

def replies (n : Network) (f : OutboundFrame) : List InboundFrame :=
  match n.nodes.get? f.destination with
  | some node => (node.receive f).2.1
  | none => []

theorem published_deliver (n : Network) (f : OutboundFrame) :
    (n.deliver f).1.published = n.published ++ n.replies f := by
  unfold deliver replies
  cases n.nodes.get? f.destination with
  | none => simp
  | some node => rfl

theorem get?_nodes_deliver (n : Network) (f : OutboundFrame) (d : DeviceId) :
    (n.deliver f).1.nodes.get? d =
      if d = f.destination then (n.nodes.get? d).map fun node => (node.receive f).1
        else n.nodes.get? d := by
  unfold deliver
  cases h : n.nodes.get? f.destination with
  | none =>
    by_cases hd : d = f.destination
    · rw [if_pos hd, hd, h]
      rfl
    · rw [if_neg hd]
  | some node =>
    show (n.nodes.insert f.destination _).get? d = _
    rw [ByteMap.get?_insert]
    split
    next hd => rw [hd, h]; rfl
    next => rfl

theorem directory_deliver (n : Network) (f : OutboundFrame) :
    (n.deliver f).1.directory = n.directory := by
  funext d
  unfold directory
  rw [get?_nodes_deliver]
  split
  · cases n.nodes.get? d with
    | none => rfl
    | some node => exact congrArg some (node.receive_spec f).1
  · rfl

theorem published_sendAll (fs : List OutboundFrame) (n : Network) :
    ∃ new, (Channel.sendAll fs n).published = n.published ++ new ∧
      ∀ g ∈ new, g.isPress = false := by
  induction fs generalizing n with
  | nil => exact ⟨[], (List.append_nil _).symm, by simp⟩
  | cons f fs ih =>
    obtain ⟨new, hnew, hpress⟩ := ih (n.deliver f).1
    refine ⟨n.replies f ++ new, ?_, fun g hg => ?_⟩
    · rw [← List.append_assoc, ← published_deliver, ← hnew]
      rfl
    · rcases List.mem_append.mp hg with hg | hg
      · unfold replies at hg
        split at hg
        next node _ => exact node.isPress_receive f g hg
        next => cases hg
      · exact hpress g hg

/-- Nodes are found under their own ids, and what they published is of their kind. -/
structure Sound (n : Network) : Prop where
  own : ∀ d node, n.nodes.get? d = some node → node.descriptor.id = d
  plain : ∀ f ∈ n.published, f.Plain

theorem Sound.source_replies {n : Network} (h : n.Sound) {f : OutboundFrame} {g : InboundFrame}
    (hg : g ∈ n.replies f) : g.Plain ∧ g.source = f.destination := by
  unfold replies at hg
  cases hn : n.nodes.get? f.destination with
  | none =>
    rw [hn] at hg
    cases hg
  | some node =>
    rw [hn] at hg
    obtain ⟨hplain, hsource⟩ := (node.receive_spec f).2.1 g hg
    exact ⟨hplain, hsource.trans (h.own _ _ hn)⟩

theorem Sound.deliver {n : Network} (h : n.Sound) (f : OutboundFrame) : (n.deliver f).1.Sound := by
  refine ⟨fun d node hd => ?_, fun g hg => ?_⟩
  · rw [get?_nodes_deliver] at hd
    split at hd
    next he =>
      cases hn : n.nodes.get? d with
      | none =>
        rw [hn] at hd
        cases hd
      | some node' =>
        rw [hn] at hd
        cases hd
        rw [(node'.receive_spec f).1]
        exact h.own d node' hn
    next => exact h.own d node hd
  · rw [published_deliver] at hg
    rcases List.mem_append.mp hg with hg | hg
    · exact h.plain g hg
    · exact (h.source_replies hg).1

theorem Sound.sendAll {n : Network} (h : n.Sound) (fs : List OutboundFrame) :
    (Channel.sendAll fs n).Sound := by
  induction fs generalizing n with
  | nil => exact h
  | cons f fs ih => exact ih (h.deliver f)

theorem sound_empty : empty.Sound := ⟨fun _ _ h => (by cases h), fun _ h => (by cases h)⟩

theorem Sound.join {n : Network} (h : n.Sound) (node : Node) : (n.join node).Sound := by
  refine ⟨fun d node' hd => ?_, h.plain⟩
  change (n.nodes.insert node.descriptor.id node).get? d = some node' at hd
  rw [ByteMap.get?_insert] at hd
  split at hd
  next hd' => cases hd; exact hd'.symm
  next => exact h.own d node' hd

theorem Sound.joined {n : Network} (h : n.Sound) (nodes : List Node) :
    (nodes.foldl Network.join n).Sound := by
  induction nodes generalizing n with
  | nil => exact h
  | cons node nodes ih => exact ih (h.join node)

/-! ## Lights -/

def lights? (n : Network) (d : DeviceId) : Option UInt8 := (n.nodes.get? d).bind Node.lights?

theorem lights?_of_keypad {n : Network} {d : DeviceId} {k : Keypad}
    (h : n.nodes.get? d = some (.keypad k)) :
    n.lights? d = some k.lights := by
  unfold lights?
  rw [h]
  rfl

theorem keypad?_eq_some_iff {n : Network} {d : DeviceId} {k : Keypad} :
    n.keypad? d = some k ↔ n.nodes.get? d = some (.keypad k) := by
  unfold keypad?
  rcases n.nodes.get? d with _ | ⟨k' | k'⟩ <;> simp

theorem exists_keypad {n : Network} {d : DeviceId} {x : Device} (h : n.directory d = some x)
    (hx : x.deviceClass.isSceneController = true) : ∃ k, n.nodes.get? d = some (.keypad k) := by
  unfold directory at h
  cases hn : n.nodes.get? d with
  | none =>
    rw [hn] at h
    cases h
  | some node =>
    rw [hn] at h
    cases h
    cases node with
    | keypad k => exact ⟨k, rfl⟩
    | dimmer k => cases hx

theorem supports_indicator {n : Network} {d : DeviceId} {x : Device} (h : n.directory d = some x)
    (hx : x.deviceClass.isSceneController = true) : x.supports .indicator = true := by
  obtain ⟨k, hk⟩ := exists_keypad h hx
  unfold directory at h
  rw [hk] at h
  cases h
  rfl

theorem supports_programming {n : Network} {d : DeviceId} {x : Device} (h : n.directory d = some x)
    (hx : x.deviceClass.isSceneController = true) :
    x.supports .association = true ∧ x.supports .configuration = true := by
  obtain ⟨k, hk⟩ := exists_keypad h hx
  unfold directory at h
  rw [hk] at h
  cases h
  exact ⟨rfl, rfl⟩

theorem lights?_deliver_of_ne_indicator (n : Network) {f : OutboundFrame}
    (hf : f.commandClass ≠ .indicator) (d : DeviceId) :
    (n.deliver f).1.lights? d = n.lights? d := by
  unfold lights?
  rw [get?_nodes_deliver]
  split
  · cases n.nodes.get? d with
    | none => rfl
    | some node => exact ((node.receive_spec f).2.2 hf).1
  · rfl

theorem tells_replies_of_ne_indicator {n : Network} {f : OutboundFrame}
    (hf : f.commandClass ≠ .indicator) :
    ∀ g ∈ n.replies f, ∀ d, g.tells d = false := by
  intro g hg
  unfold replies at hg
  cases hn : n.nodes.get? f.destination with
  | none =>
    rw [hn] at hg
    cases hg
  | some node =>
    rw [hn] at hg
    exact ((node.receive_spec f).2.2 hf).2 g hg

theorem lastTold_deliver_of_ne_indicator (n : Network) {f : OutboundFrame}
    (hf : f.commandClass ≠ .indicator) (d : DeviceId) :
    lastTold d (n.deliver f).1.published = lastTold d n.published := by
  rw [published_deliver, lastTold_append, lastTold_eq_none fun g hg =>
    tells_replies_of_ne_indicator hf g hg d]
  rfl

/-- Nothing happened in `n` but at one keypad: its lights are `l` in `n'`, and it published
frames. -/
structure Touched (d : DeviceId) (l : UInt8) (new : List InboundFrame) (n n' : Network) : Prop where
  sound : n.Sound → n'.Sound
  directory : n'.directory = n.directory
  others : ∀ e, e ≠ d → n'.lights? e = n.lights? e
  lights : n'.lights? d = some l
  published : n'.published = n.published ++ new

abbrev Told (d : DeviceId) (l : UInt8) : Network → Network → Prop :=
  Touched d l [.ofClass d .indicator [0x03, l]]

theorem deliver_askLights {n : Network} (h : n.Sound) {d : DeviceId} {k : Keypad}
    (hk : n.nodes.get? d = some (.keypad k)) : n.Told d k.lights (n.deliver (.askLights d)).1 := by
  have hid : k.id = d := h.own d _ hk
  have hnodes : ∀ e, (n.deliver (.askLights d)).1.nodes.get? e = n.nodes.get? e := fun e => by
    rw [get?_nodes_deliver]
    split
    next he =>
      have hed : e = d := he
      rw [hed, hk]
      rfl
    next => rfl
  refine ⟨fun hs => hs.deliver _, directory_deliver n _, fun e _ => ?_, ?_, ?_⟩
  · unfold lights?
    rw [hnodes]
  · exact lights?_of_keypad ((hnodes d).trans hk)
  · rw [published_deliver, replies]
    show n.published ++ (match n.nodes.get? d with
      | some node => (node.receive (.askLights d)).2.1
      | none => []) = _
    rw [hk, ← hid]
    rfl

theorem deliver_setLights {n : Network} {d : DeviceId} {k : Keypad} (l : UInt8)
    (hk : n.nodes.get? d = some (.keypad k)) :
    (n.deliver (.setLights d l)).1.nodes.get? d = some (.keypad { k with lights := l }) ∧
      (∀ e, e ≠ d → (n.deliver (.setLights d l)).1.nodes.get? e = n.nodes.get? e) ∧
      (n.deliver (.setLights d l)).1.published = n.published := by
  refine ⟨?_, fun e he => ?_, ?_⟩
  · rw [get?_nodes_deliver, hk]
    exact if_pos rfl
  · rw [get?_nodes_deliver]
    exact if_neg he
  · rw [published_deliver, replies]
    show n.published ++ (match n.nodes.get? d with
      | some node => (node.receive (.setLights d l)).2.1
      | none => []) = _
    rw [hk]
    exact List.append_nil _

theorem told_ask {n : Network} (h : n.Sound) {d : DeviceId} {k : Keypad}
    (hk : n.nodes.get? d = some (.keypad k)) :
    n.Told d k.lights (Channel.sendAll [.askLights d] n) := deliver_askLights h hk

theorem told_write {n : Network} (h : n.Sound) {d : DeviceId} {k : Keypad} (l : UInt8)
    (hk : n.nodes.get? d = some (.keypad k)) :
    n.Told d l (Channel.sendAll [.setLights d l, .askLights d] n) := by
  obtain ⟨hset, hothers, hpublished⟩ := deliver_setLights l hk
  have htold := deliver_askLights (h.deliver _) hset
  refine ⟨fun hs => htold.sound (hs.deliver _), htold.directory.trans (directory_deliver n _),
    fun e he => ?_, htold.lights, ?_⟩
  · refine (htold.others e he).trans ?_
    unfold lights?
    rw [hothers e he]
  · rw [← hpublished]
    exact htold.published

theorem press_of_bit {n : Network} (h : n.Sound) {d : DeviceId} {k : Keypad} {button bit : UInt8}
    (hk : n.nodes.get? d = some (.keypad k)) (hbit : Keypad.bit? button = some bit) :
    ∃ n' notes value fs, n.press d button = .ok (n', notes) ∧ k.Activates button bit fs ∧
      n.Touched d (k.lights ^^^ (1 <<< bit)) (.ofClass d .basic [0x01, value] :: fs) n' := by
  have hid : k.id = d := h.own d _ hk
  obtain ⟨value, fs, hfs, hpress⟩ := k.press_of_bit hbit
  let pressed : Keypad := { k with lights := k.lights ^^^ (1 <<< bit) }
  have hnodes : ∀ e, (n.nodes.insert d (.keypad pressed)).get? e =
      if e = d then some (.keypad pressed) else n.nodes.get? e :=
        fun e => ByteMap.get?_insert _ _ _ _
  -- the keypad is put back in its place, and what it sends stands behind what waits
  refine ⟨⟨n.nodes.insert d (.keypad pressed), n.sent,
      n.published ++ (.ofClass k.id .basic [0x01, value] :: fs)⟩,
    [.debug "virtual button pressed" [("controller", .show d), ("button", .number button.toNat)]],
    value, fs, ?_, hfs, fun hs => ⟨fun e node he => ?_, fun g hg => ?_⟩, ?_, fun e he => ?_, ?_, ?_⟩
  · unfold press
    simp only [hk, hpress]
    rfl
  · change (n.nodes.insert d (.keypad pressed)).get? e = some node at he
    rw [hnodes] at he
    split at he
    next hed => cases he; rw [hed]; exact hid
    next => exact hs.own e node he
  · rcases List.mem_append.mp hg with hg | hg
    · exact hs.plain g hg
    · rcases List.mem_cons.mp hg with rfl | hg
      · exact .press k.id value
      · exact (hfs.plain g hg).1
  · funext e
    unfold directory
    show ((n.nodes.insert d (.keypad pressed)).get? e).map _ = _
    rw [hnodes]
    split
    next hed => rw [hed, hk]; rfl
    next => rfl
  · unfold lights?
    show ((n.nodes.insert d (.keypad pressed)).get? e).bind _ = _
    rw [hnodes, if_neg he]
  · unfold lights?
    show ((n.nodes.insert d (.keypad pressed)).get? d).bind _ = _
    rw [hnodes, if_pos rfl]
    rfl
  · rw [hid]

theorem press_cases {n n' : Network} {notes : List Journal.Entry} (h : n.Sound) {d : DeviceId}
    {button : UInt8} (hp : n.press d button = .ok (n', notes)) :
    n' = n ∨ ∃ k bit value fs, n.nodes.get? d = some (.keypad k) ∧ Keypad.bit? button = some bit ∧
      k.Activates button bit fs ∧
      n.Touched d (k.lights ^^^ (1 <<< bit)) (.ofClass d .basic [0x01, value] :: fs) n' := by
  cases hk : n.nodes.get? d with
  | none => simp [press, hk] at hp
  | some node =>
    cases node with
    | dimmer k => simp [press, hk] at hp
    | keypad k =>
      cases hbit : Keypad.bit? button with
      | none =>
        left
        simp only [press, hk, Keypad.press, hbit] at hp
        cases hp
        rw [ByteMap.insert_of_get? hk, List.append_nil]
      | some bit =>
        obtain ⟨n₁, notes', value, fs, hpress, hfs, htouched⟩ := press_of_bit h hk hbit
        rw [hpress] at hp
        cases hp
        exact .inr ⟨k, bit, value, fs, rfl, rfl, hfs, htouched⟩

theorem lights?_eq_some_iff {n : Network} {d : DeviceId} {l : UInt8} :
    n.lights? d = some l ↔ ∃ k, n.keypad? d = some k ∧ k.lights = l := by
  unfold lights? keypad?
  rcases n.nodes.get? d with _ | ⟨k | k⟩ <;> simp [Node.lights?]

end Network

end MeshScenes
