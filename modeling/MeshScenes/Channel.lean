import MeshScenes.Frame
import MeshScenes.Journal

/-!
# Channels

A channel takes frames for transmission, or refuses them. An outlet is the hub's end of a channel:
it keeps the record of what was tried, so that laws about the traffic are laws about that record.
-/

namespace MeshScenes

/-- What became of one frame. -/
structure Sending (χ : Type) where
  channel : χ
  refusal : Option TransportFailure
  notes : List Journal.Entry

/-- A state that takes frames. -/
class Channel (χ : Type) where
  send : OutboundFrame → χ → Sending χ

/-- A frame that was handed to a channel. -/
structure Attempt where
  frame : OutboundFrame
  accepted : Bool
  deriving DecidableEq, Repr

structure Outlet (χ : Type) where
  channel : χ
  attempts : List Attempt
  journal : List Journal.Entry

namespace Outlet

variable {χ : Type}

def opened (channel : χ) : Outlet χ := ⟨channel, [], []⟩

/-- The frames that the channel accepted, in order. -/
def sent (o : Outlet χ) : List OutboundFrame := (o.attempts.filter (·.accepted)).map (·.frame)

def note (o : Outlet χ) (e : Journal.Entry) : Outlet χ := { o with journal := o.journal ++ [e] }

/-- Hands a frame to the channel. -/
def send [Channel χ] (o : Outlet χ) (f : OutboundFrame) : Option TransportFailure × Outlet χ :=
  let s := Channel.send f o.channel
  (s.refusal, ⟨s.channel, o.attempts ++ [⟨f, s.refusal.isNone⟩], o.journal ++ s.notes⟩)

/-- Forgets what was recorded so far. -/
def cleared (o : Outlet χ) : Outlet χ := opened o.channel

@[simp] theorem sent_opened (c : χ) : (opened c).sent = [] := rfl

@[simp] theorem sent_note (o : Outlet χ) (e : Journal.Entry) : (o.note e).sent = o.sent := rfl

end Outlet

end MeshScenes
