import MeshScenes.Controller.Reaction

/-!
# Operations on one controller

What can be asked of a controller, and the lives of a controller: any operations one after the
other, each with the channel and the directory as they are at its time. Those that fail count like
the others.
-/

namespace MeshScenes.Controller

inductive Operation where
  | bind (directory : Directory)
  | setButtonCount (count : UInt8)
  | setButton (button : ButtonId) (on : Bool)
  | setIndicator (bitmask : UInt8)
  | requestIndicator
  | handleReport (bitmask : UInt8)
  | handleBasic

namespace Operation

def reaction (c : Controller) : Operation → Except Error (Reaction Unit)
  | bind directory => c.bind directory
  | setButtonCount count => do
    let c ← (c.setButtonCount count).mapError .validation
    return ⟨c, [], [], ()⟩
  | setButton button on => do
    let r ← c.setButton button on
    return { r with answer := () }
  | setIndicator bitmask => .ok { c.setIndicator bitmask with answer := () }
  | requestIndicator => .ok c.requestIndicator
  | handleReport bitmask => .ok ⟨(c.handleReport bitmask).1, [], [], ()⟩
  | handleBasic => .ok c.handleBasic

def run {χ : Type} [Channel χ] (op : Operation) : Act Controller χ Unit := do
  let c ← Act.subject
  let r ← Act.of (op.reaction c)
  r.run

end Operation

/-- An operation with what it found, what it handed to the channel, and what it left. -/
structure Turn where
  operation : Operation
  found : Controller
  attempts : List Attempt
  left : Controller

def Turn.of {χ : Type} [Channel χ] (op : Operation) (c : Controller) (channel : χ) : Turn :=
  let t := op.run.after (c, .opened channel)
  ⟨op, c, t.2.attempts, t.1⟩

/-- The turns of a controller since it was made, the latest one first. -/
inductive Lived (d : DeviceId) : List Turn → Controller → Prop where
  | new : Lived d [] (.new d)
  | turn {χ : Type} [Channel χ] {ts : List Turn} {c : Controller} (op : Operation) (channel : χ) :
      Lived d ts c → Lived d (.of op c channel :: ts) (Turn.of op c channel).left

end MeshScenes.Controller
