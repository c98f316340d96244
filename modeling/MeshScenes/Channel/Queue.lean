import MeshScenes.Channel

/-!
# The outbound queue

An unbounded queue between whoever sends frames and whoever puts them on the air. It refuses frames
once its receiver is gone, and it ends once its senders are.
-/

namespace MeshScenes

structure OutboundQueue where
  waiting : List OutboundFrame
  hasSender : Bool
  hasReceiver : Bool
  deriving DecidableEq

/-- What the receiver gets. -/
inductive Arrival where
  | frame (f : OutboundFrame)
  | empty
  | closed
  deriving DecidableEq

namespace OutboundQueue

def opened : OutboundQueue := ⟨[], true, true⟩

instance : Channel OutboundQueue where
  send f q :=
    if q.hasReceiver then ⟨{ q with waiting := q.waiting ++ [f] }, none, []⟩
    else ⟨q, some .channelClosed, []⟩

def receive (q : OutboundQueue) : Arrival × OutboundQueue :=
  match q.waiting with
  | f :: rest => (.frame f, { q with waiting := rest })
  | [] => (if q.hasSender then .empty else .closed, q)

def dropSender (q : OutboundQueue) : OutboundQueue := { q with hasSender := false }

/-- What is waiting is lost with its receiver. -/
def dropReceiver (q : OutboundQueue) : OutboundQueue :=
  { q with hasReceiver := false, waiting := [] }

theorem send_of_hasReceiver {q : OutboundQueue} (h : q.hasReceiver = true) (f : OutboundFrame) :
    Channel.send f q = ⟨{ q with waiting := q.waiting ++ [f] }, none, []⟩ := if_pos h

end OutboundQueue

end MeshScenes
