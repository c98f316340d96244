import Mathlib.Logic.Relation
import MeshScenes.Hub.Basic
import MeshScenes.Proofs.Agreement
import MeshScenes.Proofs.ClosedHub.Quiet

/-!
# The event loop and the closed hub

The tasks of a hub whose bus and queue are open do what the closed hub does. The closed hub's frames
wait at three places here: on the bus, in the nodes that the queue did not reach yet, and, where the
loop fell behind, nowhere any more. A turn of the event loop is a delivery or a lag, and nothing is
seen of the transmitter (`Shows.step`). So what holds of every closed hub holds of a hub that came
to rest.
-/

namespace MeshScenes

variable {earlier : List InboundFrame}

/-! ## Networks with the same nodes -/

namespace Network

variable {n n' n'' : Network}

/-- The nodes of `n'` are those of `n`, and what waits there waits in `n'` behind earlier frames. -/
structure Ahead (earlier : List InboundFrame) (n n' : Network) : Prop where
  nodes : n'.nodes = n.nodes
  published : n'.published = earlier ++ n.published

theorem Ahead.deliver (h : Ahead earlier n n') (f : OutboundFrame) :
    Ahead earlier (n.deliver f).1 (n'.deliver f).1 := by
  constructor
  · unfold Network.deliver
    rw [h.nodes]
    cases n.nodes.get? f.destination with
    | none => rfl
    | some node => rfl
  · have hreplies : n'.replies f = n.replies f := by
      unfold replies
      rw [h.nodes]
    rw [published_deliver, published_deliver, h.published, hreplies, List.append_assoc]

theorem Ahead.sendAll (h : Ahead earlier n n') (fs : List OutboundFrame) :
    Ahead earlier (Channel.sendAll fs n) (Channel.sendAll fs n') := by
  induction fs generalizing n n' with
  | nil => exact h
  | cons f fs ih => exact ih (h.deliver f)

theorem Ahead.trans {later : List InboundFrame} (h : Ahead later n n') (h' : Ahead earlier n' n'') :
    Ahead (earlier ++ later) n n'' := by
  refine ⟨h'.nodes.trans h.nodes, ?_⟩
  rw [h'.published, h.published, List.append_assoc]

theorem Ahead.press (h : Ahead earlier n n') {d : DeviceId} {button : UInt8}
    {notes : List Journal.Entry} (hp : n.press d button = .ok (n'', notes)) :
    ∃ p, n'.press d button = .ok (p, notes) ∧ Ahead earlier n'' p := by
  unfold Network.press at hp ⊢
  rw [h.nodes]
  split at hp
  next k _ =>
    cases hp
    refine ⟨_, rfl, rfl, ?_⟩
    dsimp only
    rw [h.published, List.append_assoc]
  next => cases hp

theorem directory_sendAll (fs : List OutboundFrame) (n : Network) :
    (Channel.sendAll fs n).directory = n.directory := by
  induction fs generalizing n with
  | nil => rfl
  | cons f fs ih => exact (ih (n.deliver f).1).trans (directory_deliver n f)

theorem published_joined (nodes : List Node) (n : Network) :
    (nodes.foldl Network.join n).published = n.published := by
  induction nodes generalizing n with
  | nil => rfl
  | cons node nodes ih => exact ih (n.join node)

end Network

/-! ## The way into the network -/

namespace Uplink

variable {u : Uplink} {n : Network}

def outbound (u : Uplink) : List OutboundFrame :=
  match u.queue with
  | some q => q.waiting
  | none => []

/-- The network once all that was sent has arrived. -/
def drained (u : Uplink) : Network := Channel.sendAll u.outbound u.network

theorem drained_of_outbound (h : u.outbound = []) : u.drained = u.network := by
  unfold drained
  rw [h]
  rfl

def IsOpen (u : Uplink) : Prop := ∀ q, u.queue = some q → q.hasReceiver = true

theorem IsOpen.send (h : u.IsOpen) (f : OutboundFrame) :
    (Channel.send f u).refusal = none ∧ (Channel.send f u).channel.IsOpen ∧
      (Channel.send f u).channel.drained = (u.drained.deliver f).1 := by
  -- a frame at the end of the queue arrives after those before it
  obtain ⟨network, _ | q⟩ := u
  · exact ⟨rfl, fun q hq => (by cases hq), rfl⟩
  · have hreceiver : q.hasReceiver = true := h q rfl
    have hsend : Channel.send f (⟨network, some q⟩ : Uplink) =
        ⟨⟨network, some { q with waiting := q.waiting ++ [f] }⟩, none, []⟩ := by
      show (⟨_, _, _⟩ : Sending Uplink) = _
      rw [OutboundQueue.send_of_hasReceiver hreceiver]
    rw [hsend]
    refine ⟨rfl, ?_, List.foldl_append⟩
    rintro _ ⟨⟩
    exact hreceiver

/-- All of it open, the uplink leads to the nodes of `n`, where earlier frames wait as well. -/
structure LeadsTo (earlier : List InboundFrame) (u : Uplink) (n : Network) : Prop where
  isOpen : u.IsOpen
  ahead : u.drained.Ahead earlier n

theorem agree_leadsTo (earlier : List InboundFrame) : Channel.Agree (LeadsTo earlier) := by
  intro f u n h
  obtain ⟨hrefusal, hopen, hdrained⟩ := h.isOpen.send f
  exact ⟨hrefusal, hopen, hdrained ▸ h.ahead.deliver f⟩

end Uplink

/-! ## The hub between two turns -/

namespace Hub

/-- The hub `h` is `c` while nothing was closed: `all` was published on the bus, and the event loop
is at `position` in it. -/
structure Underway (capacity : Nat) (all : List InboundFrame) (position : Nat) (h : Hub)
    (c : ClosedHub) : Prop where
  manager : h.manager = c.manager
  uplink : h.uplink.LeadsTo (all.drop position) c.network
  bus : h.bus.Keeps all
  capacity : h.bus.capacity = capacity
  notClosed : h.bus.closed = false
  subscription : h.subscription = some ⟨position⟩
  position : position ≤ all.length

/-- Between two turns the bus has all that the nodes published, and no task with work is
forgotten. -/
structure ShowsAt (capacity : Nat) (all : List InboundFrame) (position : Nat) (h : Hub)
    (c : ClosedHub) : Prop extends h.Underway capacity all position c where
  flushed : h.network.published = []
  enlisted : ∀ t, h.hasWork t = true → t ∈ h.waiting

def Shows (capacity : Nat) (h : Hub) (c : ClosedHub) : Prop :=
  ∃ all position, h.ShowsAt capacity all position c

variable {capacity position : Nat} {all : List InboundFrame} {h h' : Hub} {c : ClosedHub}

theorem mem_waiting_enlist (h : Hub) (t : Task) (ht : h.enlist.hasWork t = true) :
    t ∈ h.enlist.waiting := by
  have hwork : h.hasWork t = true := by cases t <;> exact ht
  by_cases hmem : t ∈ h.waiting
  · exact List.mem_append_left _ hmem
  · refine List.mem_append_right _ (List.mem_filter.mpr ⟨by cases t <;> simp, ?_⟩)
    simp [hwork, hmem]

theorem Underway.flush (hu : h.Underway capacity all position c) :
    h.flush.ShowsAt capacity (all ++ h.network.published) position c := by
  have hbus : h.flush.bus = h.network.published.foldl Bus.publish h.bus :=
    if_neg (by rw [hu.notClosed]; simp)
  have hemptied : Network.Ahead h.network.published { h.network with published := [] } h.network :=
    ⟨rfl, (List.append_nil _).symm⟩
  refine ⟨⟨hu.manager, ⟨hu.uplink.isOpen, ?_⟩, ?_, ?_, ?_, hu.subscription, ?_⟩, rfl,
    mem_waiting_enlist _⟩
  · rw [List.drop_append_of_le_length hu.position]
    exact (hemptied.sendAll h.uplink.outbound).trans hu.uplink.ahead
  · rw [hbus]
    exact hu.bus.foldl_publish _
  · rw [hbus, Bus.capacity_foldl_publish, hu.capacity]
  · rw [hbus, Bus.closed_foldl_publish, hu.notClosed]
  · exact Nat.le_trans hu.position (List.length_append ▸ Nat.le_add_right _ _)

/-- The bus and the place in it stay while the manager and the network go on. -/
theorem Underway.moved (hu : h.Underway capacity all position c) {m : Manager} {u : Uplink}
    {c' : ClosedHub} {tasks : List Task} {fs : List InboundFrame} {es : List Journal.Entry}
    (hm : m = c'.manager) (hleads : u.LeadsTo (all.drop position) c'.network) :
    Underway capacity all position
      { h with manager := m, uplink := u, waiting := tasks, published := fs, journal := es } c' :=
  ⟨hm, hleads, hu.bus, hu.capacity, hu.notClosed, hu.subscription, hu.position⟩

theorem Underway.left (hu : h.Underway capacity all position c) (m : Manager) {o : Outlet Uplink}
    {o' : Outlet Network} (ho : o.Alike (Uplink.LeadsTo (all.drop position)) o')
    (es : List Journal.Entry) :
    ({ h with manager := m, uplink := o.channel, journal := es } : Hub).Underway
      capacity all position (ClosedHub.afterwards (m, o')) := by
  have hleads := ho.channel
  exact hu.moved rfl ⟨hleads.isOpen, hleads.ahead.nodes, hleads.ahead.published⟩

theorem Underway.note (hu : h.Underway capacity all position c) (e : Journal.Entry) :
    (h.note e).Underway capacity all position c :=
  hu.moved hu.manager hu.uplink

/-- An operation does here what it does to the closed hub, and ends alike. -/
theorem Underway.call (hu : h.Underway capacity all position c) {x : Act Manager Uplink Unit}
    {y : Act Manager Network Unit}
    (hxy : Act.Agrees (Uplink.LeadsTo (all.drop position)) x y) :
    (h.call x).1 = y.answer (c.manager, Outlet.opened c.network) ∧
      (h.call x).2.Shows capacity (c.run y) := by
  have hends := @hxy h.manager (Outlet.opened h.uplink) (Outlet.opened c.network) ⟨hu.uplink, rfl⟩
  unfold Hub.call ClosedHub.run Act.answer Act.after
  rw [← hu.manager]
  match x (h.manager, Outlet.opened h.uplink), y (h.manager, Outlet.opened c.network), hends with
  | _, _, .ok _ m ho => exact ⟨rfl, _, position, (hu.left m ho _).flush⟩
  | _, _, .error _ m ho => exact ⟨rfl, _, position, (hu.left m ho _).flush⟩

theorem Shows.note (hs : h.Shows capacity c) (e : Journal.Entry) : (h.note e).Shows capacity c := by
  obtain ⟨all, position, hs⟩ := hs
  refine ⟨all, position, hs.toUnderway.note e, hs.flushed, fun t ht => hs.enlisted t ?_⟩
  cases t <;> exact ht

theorem ShowsAt.enlist_eq (hs : h.ShowsAt capacity all position c) : h.enlist = h := by
  have hfresh : [Task.eventLoop, .transmitter].filter
      (fun t => h.hasWork t && !h.waiting.contains t) = [] := by
    rw [List.filter_eq_nil_iff]
    intro t _ ht
    rw [Bool.and_eq_true] at ht
    simpa [hs.enlisted t ht.1] using ht.2
  unfold Hub.enlist
  rw [hfresh]
  dsimp only
  rw [List.append_nil]

theorem Shows.enlist_eq (hs : h.Shows capacity c) : h.enlist = h := by
  obtain ⟨_, _, hs⟩ := hs
  exact hs.enlist_eq

/-! ## Turns -/

/-- What a turn of the event loop is to the closed hub: it loses frames only where more of them wait
than the bus keeps. -/
inductive Turn (capacity : Nat) : ClosedHub → ClosedHub → Prop where
  | deliver {c : ClosedHub} : c.waiting ≠ [] → Turn capacity c c.deliver
  | lag {c : ClosedHub} {lost : Nat} : 0 < lost → lost + capacity ≤ c.waiting.length →
      Turn capacity c (c.lag lost)

def unrest (h : Hub) : Nat := 2 * h.uplink.outbound.length + h.waiting.length

theorem ShowsAt.pending (hs : h.ShowsAt capacity all position c) :
    c.waiting = all.drop position ++ h.uplink.drained.published :=
  hs.uplink.ahead.published

theorem ShowsAt.taken (hs : h.ShowsAt capacity all position c) {n : Nat}
    (hn : n ≤ (all.drop position).length) :
    ({ h with subscription := some ⟨position + n⟩ } : Hub).Underway capacity all (position + n)
      { c with waiting := c.waiting.drop n } := by
  have hposition := hs.position
  rw [List.length_drop] at hn
  refine ⟨hs.manager, ⟨hs.uplink.isOpen, hs.uplink.ahead.nodes, ?_⟩, hs.bus, hs.capacity,
    hs.notClosed, rfl, by omega⟩
  show c.waiting.drop n = _
  rw [hs.pending, List.drop_append_of_le_length (by rw [List.length_drop]; exact hn),
    List.drop_drop]

theorem ShowsAt.hasWork_eventLoop_iff (hs : h.ShowsAt capacity all position c) :
    h.hasWork .eventLoop = true ↔ all.drop position ≠ [] := by
  have hlength : h.bus.published = all.length := hs.bus.published
  unfold Hub.hasWork
  rw [hs.subscription, hs.notClosed, ne_eq, List.drop_eq_nil_iff]
  simp [hlength]

theorem hasWork_transmitter_iff : h.hasWork .transmitter = true ↔ h.uplink.outbound ≠ [] := by
  unfold Hub.hasWork Uplink.outbound
  cases h.uplink.queue <;> simp

theorem exists_arrival (hwork : h.hasWork .transmitter = true) :
    ∃ q f rest, h.uplink.queue = some q ∧ q.waiting = f :: rest := by
  have hne := hasWork_transmitter_iff.mp hwork
  unfold Uplink.outbound at hne
  cases hq : h.uplink.queue with
  | none => simp [hq] at hne
  | some q =>
    rw [hq] at hne
    obtain ⟨f, rest, hout⟩ := List.exists_cons_of_ne_nil hne
    exact ⟨q, f, rest, rfl, hout⟩

theorem ShowsAt.receive (hs : h.ShowsAt capacity all position c)
    (hwork : h.hasWork .eventLoop = true) :
    ∃ c', Turn capacity c c' ∧ (h.receive ⟨position⟩).Shows capacity c' := by
  have hpending := hs.pending
  by_cases hlt : capacity < (all.drop position).length
  · -- the bus dropped the frames by which the loop is behind
    have hbehind : h.bus.capacity < (all.drop position).length := hs.capacity.symm ▸ hlt
    have hreceive := hs.bus.receive_of_lt hbehind
    rw [hs.capacity] at hreceive
    generalize hlost : (all.drop position).length - capacity = lost at hreceive
    have hunder := hs.taken (n := lost) (by omega)
    have hrefreshed := fun e => (hunder.note e).call
      (Manager.agrees_refreshIndicators (Uplink.agree_leadsTo _))
    refine ⟨c.lag lost, .lag (by omega) ?_, ?_⟩
    · rw [hpending, List.length_append]
      omega
    · unfold Hub.receive
      rw [hreceive]
      dsimp only
      generalize hcall : Hub.call _ Manager.refreshIndicators = r
      have hshows : r.2.Shows capacity (c.lag lost) := by
        rw [← hcall]
        exact (hrefreshed _).2
      match r, hshows with
      | (.ok (), _), hshows => exact hshows
      | (.error _, _), hshows => exact hshows.note _
  -- the oldest frame is still on the bus
  · cases hall : all.drop position with
    | nil => exact absurd hall (hs.hasWork_eventLoop_iff.mp hwork)
    | cons f rest =>
      have hreceive := hs.bus.receive_cons hall (by rw [hs.capacity]; exact Nat.not_lt.mp hlt)
      have hwaiting : c.waiting = f :: (rest ++ h.uplink.drained.published) := by
        rw [hpending, hall, List.cons_append]
      have hhandled := (hs.taken (n := 1) (by rw [hall]; simp)).call
        (Manager.agrees_handleFrame (Uplink.agree_leadsTo _) f)
      refine ⟨c.deliver, .deliver (by rw [hwaiting]; simp), ?_⟩
      unfold Hub.receive ClosedHub.deliver
      rw [hreceive, hwaiting]
      rw [hwaiting] at hhandled
      exact hhandled.2

theorem length_waiting_enlist (hmem : Task.transmitter ∈ h.waiting) :
    h.enlist.waiting.length ≤ h.waiting.length + 1 := by
  unfold Hub.enlist
  rw [List.length_append]
  apply Nat.add_le_add_left
  simp only [List.filter_cons, List.contains_iff_mem.mpr hmem, Bool.not_true, Bool.and_false]
  split <;> simp

theorem ShowsAt.transmit (hs : h.ShowsAt capacity all position c) {q : OutboundQueue}
    (hq : h.uplink.queue = some q) {f : OutboundFrame} {rest : List OutboundFrame}
    (hwaiting : q.waiting = f :: rest) (hmem : Task.transmitter ∈ h.waiting) :
    (h.transmit q).Shows capacity c ∧ (h.transmit q).unrest < h.unrest := by
  have hreceive : q.receive = (.frame f, { q with waiting := rest }) := by
    unfold OutboundQueue.receive
    rw [hwaiting]
  have houtbound : h.uplink.outbound = f :: rest := by
    unfold Uplink.outbound
    rw [hq]
    exact hwaiting
  have hahead := hs.uplink.ahead
  unfold Uplink.drained at hahead
  rw [houtbound] at hahead
  let sent : Hub := { h with
    uplink := ⟨(h.network.deliver f).1, some { q with waiting := rest }⟩
    journal := h.journal ++ (h.network.deliver f).2 }
  have hunder : sent.Underway capacity all position c := by
    refine hs.toUnderway.moved hs.manager ⟨?_, hahead⟩
    rintro _ ⟨⟩
    exact hs.uplink.isOpen q hq
  have htransmit : h.transmit q = sent.flush := by
    unfold Hub.transmit
    rw [hreceive]
    rfl
  rw [htransmit]
  refine ⟨⟨_, position, hunder.flush⟩, ?_⟩
  have hlength : sent.flush.waiting.length ≤ h.waiting.length + 1 := length_waiting_enlist hmem
  have hrest : sent.flush.uplink.outbound = rest := rfl
  unfold Hub.unrest
  rw [hrest, houtbound, List.length_cons]
  omega

/-- A task makes way, a frame goes from the queue into the network, or the event loop has a turn. -/
theorem Shows.step (hs : h.Shows capacity c) (hstep : h.step = some h') :
    (h'.Shows capacity c ∧ h'.unrest < h.unrest) ∨
      ∃ c', Turn capacity c c' ∧ h'.Shows capacity c' := by
  obtain ⟨all, position, hs⟩ := hs
  unfold Hub.step at hstep
  split at hstep
  next => cases hstep
  next task others hwaiting =>
    by_cases hwork : h.hasWork task = true
    · rw [if_pos hwork] at hstep
      -- the event loop has a frame to take, and the transmitter one to send
      cases task with
      | eventLoop =>
        rw [hs.subscription] at hstep
        cases hstep
        obtain ⟨c', hturn, hshows⟩ := hs.receive hwork
        exact .inr ⟨c', hturn, hshows.enlist_eq.symm ▸ hshows⟩
      | transmitter =>
        obtain ⟨q, f, rest, hq, hout⟩ := exists_arrival hwork
        obtain ⟨hshows, hless⟩ := hs.transmit hq hout (hwaiting ▸ List.mem_cons_self)
        rw [hs.subscription, hq] at hstep
        cases hstep
        rw [hshows.enlist_eq]
        exact .inl ⟨hshows, hless⟩
    · rw [if_neg hwork] at hstep
      cases hstep
      refine .inl ⟨⟨all, position, ?_⟩, ?_⟩
      · refine ⟨hs.toUnderway.moved hs.manager hs.uplink, hs.flushed, fun t ht => ?_⟩
        have hwork' : h.hasWork t = true := by cases t <;> exact ht
        have hmem := hs.enlisted t hwork'
        rw [hwaiting] at hmem
        exact (List.mem_cons.mp hmem).resolve_left fun heq => hwork (heq ▸ hwork')
      · unfold Hub.unrest
        rw [hwaiting, List.length_cons]
        exact Nat.add_lt_add_left (Nat.lt_succ_self _) _

theorem Shows.at_rest (hs : h.Shows capacity c) (hrest : h.waiting = []) :
    c.waiting = [] ∧ h.network.nodes = c.nodes := by
  obtain ⟨all, position, hs⟩ := hs
  have hidle : ∀ t, ¬ h.hasWork t = true := fun t ht => by
    have := hs.enlisted t ht
    rw [hrest] at this
    cases this
  have htaken : all.drop position = [] :=
    not_ne_iff.mp fun hne => hidle _ (hs.hasWork_eventLoop_iff.mpr hne)
  have hout : h.uplink.outbound = [] :=
    not_ne_iff.mp fun hne => hidle _ (hasWork_transmitter_iff.mpr hne)
  have hdrained : h.uplink.drained = h.network := Uplink.drained_of_outbound hout
  have hpublished := hs.pending
  have hnodes := hs.uplink.ahead.nodes
  rw [htaken, hdrained, hs.flushed] at hpublished
  rw [hdrained] at hnodes
  exact ⟨hpublished, hnodes.symm⟩

theorem step_eq_none_iff : h.step = none ↔ h.waiting = [] := by
  unfold Hub.step
  split
  next hnil => simp [hnil]
  next hcons =>
    rw [hcons]
    constructor
    · intro hnone
      split at hnone
      · split at hnone <;> cases hnone
      · cases hnone
    · intro hnil
      cases hnil

/-! ## Runs -/

theorem Shows.stepsWithin (n : Nat) (hs : h.Shows capacity c) :
    ∃ c', Relation.ReflTransGen (Turn capacity) c c' ∧ (h.stepsWithin n).2.Shows capacity c' ∧
      ((h.stepsWithin n).1 = true →
        c'.waiting = [] ∧ (h.stepsWithin n).2.network.nodes = c'.nodes) := by
  induction n generalizing h c with
  | zero => exact ⟨c, .refl, hs, fun hrest => hs.at_rest (List.isEmpty_iff.mp hrest)⟩
  | succ n ih =>
    unfold Hub.stepsWithin
    cases hstep : h.step with
    | none => exact ⟨c, .refl, hs, fun _ => hs.at_rest (step_eq_none_iff.mp hstep)⟩
    | some h' =>
      rcases hs.step hstep with ⟨hs', -⟩ | ⟨c₁, hturn, hs'⟩
      · exact ih hs'
      · obtain ⟨c', hturns, hshows⟩ := ih hs'
        exact ⟨c', hturns.head hturn, hshows⟩

/-- Where the traffic of the closed hub dies out, and no more frames wait than the bus keeps, the
tasks come to rest, and they have made exactly its deliveries. -/
theorem Shows.exists_rest {h : Hub} {c : ClosedHub} (hs : h.Shows capacity c) {n : Nat}
    (hquiet : (ClosedHub.deliver^[n] c).waiting = [])
    (hroom : ∀ k ≤ n, (ClosedHub.deliver^[k] c).waiting.length ≤ capacity) :
    ∃ steps h', h.stepsWithin steps = (true, h') ∧
      h'.Shows capacity (ClosedHub.deliver^[n] c) := by
  cases hstep : h.step with
  | none =>
    obtain ⟨hwaiting, -⟩ := hs.at_rest (step_eq_none_iff.mp hstep)
    refine ⟨1, h, ?_, ?_⟩
    · unfold Hub.stepsWithin
      rw [hstep]
    · rwa [Function.iterate_fixed (ClosedHub.deliver_of_waiting_nil hwaiting)]
  | some h₁ =>
    have hlater : ∀ {steps h'}, h₁.stepsWithin steps = (true, h') →
        h.stepsWithin (steps + 1) = (true, h') := by
      intro steps h' hsteps
      unfold Hub.stepsWithin
      rw [hstep]
      exact hsteps
    -- a step that is no turn leaves the deliveries and lessens the unrest, a turn is one of them
    rcases hs.step hstep with ⟨hs', hless⟩ | ⟨c', hturn, hs'⟩
    · obtain ⟨steps, h', hsteps, hshows⟩ := hs'.exists_rest hquiet hroom
      exact ⟨steps + 1, h', hlater hsteps, hshows⟩
    · cases hturn with
      | deliver hne =>
        cases n with
        | zero => exact absurd hquiet hne
        | succ n =>
          obtain ⟨steps, h', hsteps, hshows⟩ :=
            hs'.exists_rest (n := n) hquiet fun k hk => hroom (k + 1) (Nat.succ_le_succ hk)
          exact ⟨steps + 1, h', hlater hsteps, hshows⟩
      | lag hlost hle =>
        have hfits : c.waiting.length ≤ capacity := hroom 0 (Nat.zero_le n)
        omega
termination_by (n, h.unrest)

theorem Shows.new (m : Manager) (nodes : List Node) (capacity : Nat) (queued : Bool) :
    (Hub.new m (nodes.foldl Network.join Network.empty) capacity queued).Shows
      capacity.nextPowerOfTwo (ClosedHub.start m nodes) := by
  have hpublished := Network.published_joined nodes Network.empty
  refine ⟨[], 0, ⟨rfl, ⟨?_, ?_, ?_⟩, Bus.keeps_new capacity, rfl, rfl, rfl, Nat.le_refl 0⟩,
    hpublished, ?_⟩
  · intro q hq
    cases queued with
    | true => cases hq; rfl
    | false => cases hq
  · cases queued <;> rfl
  · cases queued <;> exact hpublished.symm
  · intro t ht
    cases t <;> cases queued <;> cases ht

theorem Shows.call (hs : h.Shows capacity c) (call : Call) :
    (h.call (call.run h.network.directory)).1 =
        (call.run c.network.directory).answer (c.manager, Outlet.opened c.network) ∧
      (h.call (call.run h.network.directory)).2.Shows capacity (c.call call) := by
  obtain ⟨all, position, hs⟩ := hs
  have hdirectory : h.network.directory = c.network.directory := by
    rw [← Network.directory_sendAll h.uplink.outbound h.network]
    unfold Network.directory
    rw [hs.uplink.ahead.nodes]
    rfl
  rw [hdirectory]
  exact hs.toUnderway.call (Manager.agrees_call (Uplink.agree_leadsTo _) _ call)

theorem Shows.press (hs : h.Shows capacity c) (hout : h.uplink.outbound = []) {d : DeviceId}
    {button : UInt8} {n : Network} {notes : List Journal.Entry}
    (hp : h.network.press d button = .ok (n, notes)) :
    (h.onNetwork n notes).Shows capacity (c.press d button) := by
  obtain ⟨all, position, hs⟩ := hs
  have hahead := hs.uplink.ahead
  rw [Uplink.drained_of_outbound hout] at hahead
  obtain ⟨p, hpress, hpressed⟩ := hahead.press hp
  have hunder : ({ h with
      uplink := { h.uplink with network := n }, journal := h.journal ++ notes } : Hub).Underway
        capacity all position { c with nodes := p.nodes, waiting := p.published } := by
    refine hs.toUnderway.moved hs.manager ⟨hs.uplink.isOpen, ?_⟩
    rw [Uplink.drained_of_outbound
      (show Uplink.outbound { h.uplink with network := n } = [] from hout)]
    exact ⟨hpressed.nodes, hpressed.published⟩
  unfold ClosedHub.press
  rw [hpress]
  exact ⟨_, position, hunder.flush⟩

theorem Shows.forget (hs : h.Shows capacity c) : h.forget.Shows capacity c := by
  obtain ⟨all, position, hs⟩ := hs
  have hforgot : Network.Ahead [] { h.network with sent := [] } h.network := ⟨rfl, rfl⟩
  have hahead := (hforgot.sendAll h.uplink.outbound).trans hs.uplink.ahead
  rw [List.append_nil] at hahead
  refine ⟨all, position, hs.toUnderway.moved hs.manager ⟨hs.uplink.isOpen, hahead⟩, hs.flushed,
    fun t ht => hs.enlisted t ?_⟩
  cases t <;> exact ht

/-- The hubs that come about while nothing is closed. Buttons are pressed while the queue is
empty. -/
inductive Ran (capacity : Nat) : Hub → Prop where
  | new {coordinator : DeviceId} {count : UInt8} {m : Manager} {nodes : List Node} (queued : Bool) :
      (Manager.new.withCoordinator coordinator).withButtonCount count = .ok m →
      (∀ n ∈ nodes, n.Fresh) →
      Ran capacity (Hub.new m (nodes.foldl Network.join Network.empty) capacity queued)
  | tasks {h : Hub} (n : Nat) : Ran capacity h → Ran capacity (h.enlist.stepsWithin n).2
  | call {h : Hub} (c : Call) : Ran capacity h →
      Ran capacity (h.call (c.run h.network.directory)).2
  | press {h : Hub} {d : DeviceId} {button : UInt8} {n : Network} {notes : List Journal.Entry} :
      h.uplink.outbound = [] → h.network.press d button = .ok (n, notes) → Ran capacity h →
      Ran capacity (h.onNetwork n notes)
  | forget {h : Hub} : Ran capacity h → Ran capacity h.forget

theorem Turn.reachable {c c' : ClosedHub} (h : Relation.ReflTransGen (Turn capacity) c c')
    (hr : c.Reachable True) : c'.Reachable True := by
  induction h with
  | refl => exact hr
  | tail _ hturn ih =>
    cases hturn with
    | deliver => exact ih.deliver
    | lag => exact ih.lag _ trivial

/-- Every such hub is a closed hub that loses frames at most where its bus is full. -/
theorem Ran.shows (hr : h.Ran capacity) :
    ∃ c, c.Reachable True ∧ h.Shows capacity.nextPowerOfTwo c := by
  induction hr with
  | new queued hm hnodes => exact ⟨_, .start hm hnodes, .new _ _ _ queued⟩
  | tasks n _ ih =>
    obtain ⟨c, hc, hs⟩ := ih
    rw [hs.enlist_eq]
    obtain ⟨c', hturns, hshows, -⟩ := hs.stepsWithin n
    exact ⟨c', Turn.reachable hturns hc, hshows⟩
  | call call _ ih =>
    obtain ⟨c, hc, hs⟩ := ih
    exact ⟨_, hc.call call, (hs.call call).2⟩
  | press hout hp _ ih =>
    obtain ⟨c, hc, hs⟩ := ih
    exact ⟨_, hc.press _ _, hs.press hout hp⟩
  | forget _ ih =>
    obtain ⟨c, hc, hs⟩ := ih
    exact ⟨c, hc, hs.forget⟩

/-- A hub that came to rest agrees with its keypads, also after its event loop fell behind. -/
theorem Ran.settled (hr : h.Ran capacity) (hrest : h.settle = (true, h')) {d : DeviceId}
    {x : Controller} (hx : h'.manager.controllers.get? d = some x) :
    ∃ k, h'.network.keypad? d = some k ∧ x.state = .boundValid ∧ x.indicator = k.lights ∧
      x.reported = some k.lights := by
  obtain ⟨c, hc, hs⟩ := hr.shows
  unfold Hub.settle at hrest
  rw [hs.enlist_eq] at hrest
  obtain ⟨c', hturns, hshows, hquiet⟩ := hs.stepsWithin stepLimit
  rw [hrest] at hshows hquiet
  obtain ⟨hwaiting, hnodes⟩ := hquiet rfl
  obtain ⟨all, position, hshows⟩ := hshows
  rw [hshows.manager] at hx
  obtain ⟨k, hk, hsettled⟩ := (Turn.reachable hturns hc).fit.settled hwaiting hx
  refine ⟨k, Network.keypad?_eq_some_iff.mpr ?_, hsettled⟩
  rw [hnodes]
  exact hk

end Hub

end MeshScenes
