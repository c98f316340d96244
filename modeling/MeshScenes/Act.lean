import MeshScenes.Channel
import MeshScenes.Wire.Request

/-!
# Operations

An operation works on a subject and may send frames through an outlet. It keeps its effects on both
also when it fails: frames that are on their way cannot be called back.
-/

namespace MeshScenes

/-- An operation on a subject `σ` that sends through a channel `χ` and answers `α`. -/
abbrev Act (σ χ α : Type) := EStateM Error (σ × Outlet χ) α

namespace Act

variable {σ τ χ α : Type}

def subject : Act σ χ σ := fun s => .ok s.1 s

def replace (subject : σ) : Act σ χ Unit := fun s => .ok () (subject, s.2)

def change (f : σ → σ) : Act σ χ Unit := fun s => .ok () (f s.1, s.2)

def note (e : Journal.Entry) : Act σ χ Unit := fun s => .ok () (s.1, s.2.note e)

def notes (es : List Journal.Entry) : Act σ χ Unit := es.forM note

/-- Hands a frame to the channel, and fails if it is refused. -/
def send [Channel χ] (f : OutboundFrame) : Act σ χ Unit := fun s =>
  match s.2.send f with
  | (none, outlet) => .ok () (s.1, outlet)
  | (some refusal, outlet) => .error (.transport refusal) (s.1, outlet)

/-- Continues with the answer of a computation that has no effects. -/
def of (x : Except Error α) : Act σ χ α := fun s =>
  match x with
  | .ok a => .ok a s
  | .error e => .error e s

/-- Sends a request to a node. -/
def request [Channel χ] (destination : DeviceId) (r : Request) : Act σ χ Unit := do
  let frame ← of ((r.frame destination).mapError Error.encoding)
  send frame

/-- Sends requests in order, up to the first one that is refused. -/
def requests [Channel χ] (rs : List (DeviceId × Request)) : Act σ χ Unit :=
  rs.forM fun r => request r.1 r.2

/-- Runs an operation on a part of the subject and puts the part back, also after a failure. -/
def within (part : τ) (put : τ → σ → σ) (x : Act τ χ α) : Act σ χ α := fun s =>
  match x (part, s.2) with
  | .ok a (part, outlet) => .ok a (put part s.1, outlet)
  | .error e (part, outlet) => .error e (put part s.1, outlet)

/-- Runs an operation on something that is not part of the subject yet; a failure loses it. -/
def aside (fresh : τ) (x : Act τ χ α) : Act σ χ (α × τ) := fun s =>
  match x (fresh, s.2) with
  | .ok a (fresh, outlet) => .ok (a, fresh) (s.1, outlet)
  | .error e (_, outlet) => .error e (s.1, outlet)

/-- Runs an operation and answers how it ended, so the caller goes on after a failure. -/
def outcome (x : Act σ χ α) : Act σ χ (Except Error α) := fun s =>
  match x s with
  | .ok a s => .ok (.ok a) s
  | .error e s => .ok (.error e) s

/-- The answer of an operation, or its error. -/
def answer (x : Act σ χ α) (s : σ × Outlet χ) : Except Error α :=
  match x s with
  | .ok a _ => .ok a
  | .error e _ => .error e

/-- The subject and the outlet as an operation leaves them, also when it fails. -/
def after (x : Act σ χ α) (s : σ × Outlet χ) : σ × Outlet χ :=
  match x s with
  | .ok _ t => t
  | .error _ t => t

/-! ## One operation after another -/

variable {β : Type}

theorem run_bind (x : Act σ χ α) (f : α → Act σ χ β) (s : σ × Outlet χ) :
    (x >>= f) s = match x s with
      | .ok a s => f a s
      | .error e s => .error e s := by
  show EStateM.bind x f s = _
  unfold EStateM.bind
  cases x s <;> rfl

@[simp] theorem run_pure (a : α) (s : σ × Outlet χ) : (pure a : Act σ χ α) s = .ok a s := rfl

@[simp] theorem run_throw (e : Error) (s : σ × Outlet χ) :
    (throw e : Act σ χ α) s = .error e s := rfl

@[simp] theorem run_subject (s : σ × Outlet χ) : (subject : Act σ χ σ) s = .ok s.1 s := rfl

@[simp] theorem run_replace (x : σ) (s : σ × Outlet χ) :
    (replace x : Act σ χ Unit) s = .ok () (x, s.2) := rfl

@[simp] theorem run_change (f : σ → σ) (s : σ × Outlet χ) :
    (change f : Act σ χ Unit) s = .ok () (f s.1, s.2) := rfl

@[simp] theorem run_note (e : Journal.Entry) (s : σ × Outlet χ) :
    (note e : Act σ χ Unit) s = .ok () (s.1, s.2.note e) := rfl

@[simp] theorem run_of_ok (a : α) (s : σ × Outlet χ) : (of (.ok a) : Act σ χ α) s = .ok a s := rfl

@[simp] theorem run_of_error (e : Error) (s : σ × Outlet χ) :
    (of (.error e) : Act σ χ α) s = .error e s := rfl

end Act

end MeshScenes
