import MeshScenes.Frame

/-!
# The bus

The bus fans received frames out to its subscribers. It keeps the newest frames, as many as its
capacity rounded up to a power of two; a subscriber that falls further behind is told once how many
frames it missed, and goes on with the oldest one that is kept.
-/

namespace MeshScenes

structure Bus where
  capacity : Nat
  /-- The newest frames, oldest first. -/
  kept : List InboundFrame
  /-- How many frames were published before the first one that is kept. -/
  dropped : Nat
  closed : Bool
  deriving DecidableEq

/-- How many frames a subscriber has taken or missed, counted from the first one ever published. -/
structure Subscription where
  position : Nat
  deriving DecidableEq

/-- What a subscriber gets. -/
inductive Delivery where
  | frame (f : InboundFrame)
  | lagged (missed : Nat)
  | empty
  | closed
  deriving DecidableEq

namespace Bus

/-- A bus that keeps as many frames as the least power of two that is not below the capacity. -/
def new (capacity : Nat) : Bus := ⟨capacity.nextPowerOfTwo, [], 0, false⟩

/-- How many frames were published so far. -/
def published (b : Bus) : Nat := b.dropped + b.kept.length

/-- A subscriber sees the frames that are published from now on. -/
def subscribe (b : Bus) : Subscription := ⟨b.published⟩

def publish (b : Bus) (f : InboundFrame) : Bus :=
  let kept := b.kept ++ [f]
  let excess := kept.length - b.capacity
  { b with kept := kept.drop excess, dropped := b.dropped + excess }

/-- No more frames come; what is kept can still be taken. -/
def close (b : Bus) : Bus := { b with closed := true }

def receive (b : Bus) (s : Subscription) : Delivery × Subscription :=
  if s.position < b.dropped then (.lagged (b.dropped - s.position), ⟨b.dropped⟩)
  else match b.kept[s.position - b.dropped]? with
    | some f => (.frame f, ⟨s.position + 1⟩)
    | none => (if b.closed then .closed else .empty, s)

/-! ## What a bus keeps of all that was published -/

/-- The bus has dropped no more frames than it had to. -/
structure Keeps (b : Bus) (all : List InboundFrame) : Prop where
  dropped : b.dropped = all.length - b.capacity
  kept : b.kept = all.drop b.dropped

theorem keeps_new (capacity : Nat) : (new capacity).Keeps [] := ⟨(Nat.zero_sub _).symm, rfl⟩

variable {b : Bus} {all : List InboundFrame}

theorem Keeps.published (h : b.Keeps all) : b.published = all.length := by
  unfold Bus.published
  rw [h.kept, List.length_drop, h.dropped]
  omega

theorem Keeps.publish (h : b.Keeps all) (f : InboundFrame) : (b.publish f).Keeps (all ++ [f]) := by
  have hle : b.dropped ≤ all.length := h.dropped ▸ Nat.sub_le _ _
  have hkept : b.kept.length = all.length - b.dropped := by rw [h.kept, List.length_drop]
  have hdropped : (b.publish f).dropped = (all ++ [f]).length - b.capacity := by
    simp only [Bus.publish, List.length_append, List.length_singleton]
    rw [hkept, h.dropped]
    omega
  refine ⟨hdropped, ?_⟩
  simp only [Bus.publish]
  rw [← List.drop_drop, List.drop_append_of_le_length hle, ← h.kept]

theorem capacity_foldl_publish (b : Bus) (fs : List InboundFrame) :
    (fs.foldl publish b).capacity = b.capacity := by
  induction fs generalizing b with
  | nil => rfl
  | cons f fs ih => exact ih (b.publish f)

theorem closed_foldl_publish (b : Bus) (fs : List InboundFrame) :
    (fs.foldl publish b).closed = b.closed := by
  induction fs generalizing b with
  | nil => rfl
  | cons f fs ih => exact ih (b.publish f)

theorem Keeps.foldl_publish (h : b.Keeps all) (fs : List InboundFrame) :
    (fs.foldl Bus.publish b).Keeps (all ++ fs) := by
  induction fs generalizing b all with
  | nil => rwa [List.append_nil]
  | cons f fs ih =>
    rw [← List.singleton_append, ← List.append_assoc]
    exact ih (h.publish f)

/-! ## What a subscriber gets -/

/-- A subscriber with more frames before it than the bus keeps has missed the oldest of them. -/
theorem Keeps.receive_of_lt (h : b.Keeps all) {position : Nat}
    (hlt : b.capacity < (all.drop position).length) :
    b.receive ⟨position⟩ = (.lagged ((all.drop position).length - b.capacity),
      ⟨position + ((all.drop position).length - b.capacity)⟩) := by
  rw [List.length_drop] at hlt ⊢
  have hdropped := h.dropped
  unfold receive
  rw [if_pos (by show position < b.dropped; omega)]
  rw [show b.dropped - position = all.length - position - b.capacity by omega]
  rw [show b.dropped = position + (all.length - position - b.capacity) by omega]

theorem Keeps.receive_cons (h : b.Keeps all) {position : Nat} {f : InboundFrame}
    {rest : List InboundFrame} (hf : all.drop position = f :: rest)
    (hle : (all.drop position).length ≤ b.capacity) :
    b.receive ⟨position⟩ = (.frame f, ⟨position + 1⟩) := by
  rw [List.length_drop] at hle
  have hdropped := h.dropped
  have hposition : b.dropped ≤ position := by omega
  have hget : b.kept[position - b.dropped]? = some f := by
    rw [h.kept, List.getElem?_drop, Nat.add_sub_cancel' hposition, ← List.head?_drop, hf]
    rfl
  unfold receive
  rw [if_neg (Nat.not_lt.mpr hposition)]
  dsimp only
  rw [hget]

end Bus

end MeshScenes
