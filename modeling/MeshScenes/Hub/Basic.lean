import MeshScenes.Bus
import MeshScenes.Channel.Queue
import MeshScenes.Manager.Restore
import MeshScenes.Manager.Routing
import MeshScenes.Simulation.Network
import MeshScenes.Store.Basic

/-!
# The hub

The parts wired together: a manager, a simulated network, the bus that carries what nodes publish,
and a file system for the store. Two tasks work in the background. The event loop takes frames from
the bus and hands them to the manager; the transmitter, where there is one, takes frames from the
outbound queue and puts them into the network. They take turns: a task runs until its input is
empty, and the one that has had something waiting longest goes first.
-/

namespace MeshScenes

open Journal (Entry)

/-- What the manager sends through: the network itself, or a queue in front of it. -/
structure Uplink where
  network : Network
  queue : Option OutboundQueue
  deriving DecidableEq

instance : Channel Uplink where
  send f u :=
    match u.queue with
    | some q =>
      let s := Channel.send f q
      ⟨{ u with queue := some s.channel }, s.refusal, s.notes⟩
    | none =>
      let s := Channel.send f u.network
      ⟨{ u with network := s.channel }, s.refusal, s.notes⟩

inductive Task where
  | eventLoop
  | transmitter
  deriving DecidableEq, Repr

structure Hub where
  manager : Manager
  uplink : Uplink
  bus : Bus
  /-- The event loop's subscription, while it runs. -/
  subscription : Option Subscription
  /-- The tasks with something to do, in the order in which it came. -/
  waiting : List Task
  files : FileSystem
  /-- The frames that were put on the bus and nobody asked for yet. -/
  published : List InboundFrame
  journal : List Entry

namespace Hub

def storePath : Path := Path.ofText "scenes.json"

def new (manager : Manager) (network : Network) (capacity : Nat) (queued : Bool) : Hub :=
  let bus := Bus.new capacity
  { manager
    uplink := ⟨network, if queued then some OutboundQueue.opened else none⟩
    bus
    subscription := some bus.subscribe
    waiting := []
    files := FileSystem.empty
    published := []
    journal := [] }

def network (h : Hub) : Network := h.uplink.network

def note (h : Hub) (e : Entry) : Hub := { h with journal := h.journal ++ [e] }

/-- Forgets what was sent, published and noted so far. -/
def forget (h : Hub) : Hub :=
  { h with
    uplink := { h.uplink with network := { h.network with sent := [] } }
    published := []
    journal := [] }

/-! ## The tasks -/

def hasWork (h : Hub) : Task → Bool
  | .eventLoop =>
    match h.subscription with
    | some s => h.bus.closed || s.position < h.bus.published
    | none => false
  | .transmitter =>
    match h.uplink.queue with
    | some q => !q.waiting.isEmpty
    | none => false

/-- Lets tasks that have got something to do wait for their turn. -/
def enlist (h : Hub) : Hub :=
  let fresh := [Task.eventLoop, .transmitter].filter fun t => h.hasWork t && !h.waiting.contains t
  { h with waiting := h.waiting ++ fresh }

/-- Puts what nodes published on the bus; a closed bus loses it. -/
def flush (h : Hub) : Hub :=
  let frames := h.network.published
  let bus := if h.bus.closed then h.bus else frames.foldl Bus.publish h.bus
  enlist { h with
    uplink := { h.uplink with network := { h.network with published := [] } }
    bus
    published := h.published ++ frames }

/-- Lets the network change. -/
def onNetwork (h : Hub) (network : Network) (notes : List Entry) : Hub :=
  flush { h with uplink := { h.uplink with network }, journal := h.journal ++ notes }

/-- Runs an operation on the manager. -/
def call {α : Type} (h : Hub) (act : Act Manager Uplink α) : Except Error α × Hub :=
  let ended (result : Except Error α) (m : Manager) (outlet : Outlet Uplink) :
      Except Error α × Hub :=
    (result, flush
      { h with manager := m, uplink := outlet.channel, journal := h.journal ++ outlet.journal })
  match act (h.manager, Outlet.opened h.uplink) with
  | .ok a (m, outlet) => ended (.ok a) m outlet
  | .error e (m, outlet) => ended (.error e) m outlet

/-- A frame that comes from outside goes on the bus like any other. -/
def publish (h : Hub) (f : InboundFrame) : Hub :=
  h.onNetwork { h.network with published := h.network.published ++ [f] } []

/-- The event loop takes its next frame. A loop that fell behind asks for all lights, since it
cannot know what it missed. -/
def receive (h : Hub) (s : Subscription) : Hub :=
  let (delivery, s) := h.bus.receive s
  let h := { h with subscription := some s }
  match delivery with
  | .frame f => (h.call (Manager.handleFrame f)).2
  | .lagged missed =>
    let h := h.note (.warn "event loop lagged, refreshing indicators" [("skipped", .number missed)])
    match h.call Manager.refreshIndicators with
    | (.ok (), h) => h
    | (.error e, h) => h.note (.warn "unable to refresh indicators" [("err", .text e.summary)])
  | .empty => h
  | .closed =>
    { h with subscription := none }.note (.info "event source closed, stopping event loop" [])

/-- The transmitter puts its next frame into the network. -/
def transmit (h : Hub) (q : OutboundQueue) : Hub :=
  let (arrival, q) := q.receive
  let h := { h with uplink := { h.uplink with queue := some q } }
  match arrival with
  | .frame f =>
    let (network, notes) := h.network.deliver f
    h.onNetwork network notes
  | .empty | .closed => h

/-- The task whose turn it is does one thing, or makes way when it has nothing to do. -/
def step (h : Hub) : Option Hub :=
  match h.waiting with
  | [] => none
  | task :: others =>
    if h.hasWork task then
      match task, h.subscription, h.uplink.queue with
      | .eventLoop, some s, _ => some (h.receive s).enlist
      | .transmitter, _, some q => some (h.transmit q).enlist
      | _, _, _ => some { h with waiting := others }
    else some { h with waiting := others }

def stepsWithin : Nat → Hub → Bool × Hub
  | 0, h => (h.waiting.isEmpty, h)
  | n + 1, h =>
    match h.step with
    | none => (true, h)
    | some h => stepsWithin n h

/-- More steps than any traffic takes that comes to rest. -/
def stepLimit : Nat := 1000000

/-- Lets the tasks work until nothing moves any more; the answer is whether they came to rest. -/
def settle (h : Hub) : Bool × Hub := stepsWithin stepLimit h.enlist

/-! ## Wiring -/

/-- A new manager without scenes takes over the network, and the queue with what became of it; a
closed bus has nothing for it. -/
def restart? (h : Hub) : Option Hub :=
  if h.bus.closed then none
  else some { h with
    manager := { Manager.new with
      coordinator := h.manager.coordinator
      buttonCount := h.manager.buttonCount }
    subscription := some h.bus.subscribe
    waiting := [] }

/-- Ends the transmitter, and with it the receiver of the queue. -/
def cut (h : Hub) : Hub :=
  { h with uplink := { h.uplink with queue := h.uplink.queue.map OutboundQueue.dropReceiver } }

/-- No frame comes from the bus any more, once those that it holds are handled. -/
def closeBus (h : Hub) : Hub := enlist { h with bus := h.bus.close }

end Hub

end MeshScenes
