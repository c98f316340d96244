import MeshScenes.Duration

/-!
# Reports

What nodes send to the hub. A message is a command byte and then its parameters, one byte each;
bytes behind the last parameter are ignored.
-/

namespace MeshScenes

/-- Reads a message: `fields` takes the parameters from their positions, and has none when they are
too few. The command is checked before the length. -/
def Layout.read {α : Type} (layout : Layout) (command : UInt8) (size : Nat)
    (fields : List UInt8 → Option α) : List UInt8 → Except EncodingError α
  | [] => .error (.truncated layout size 0)
  | c :: parameters =>
    if c ≠ command then .error (.unexpectedCommand layout c)
    else match fields parameters with
      | some a => .ok a
      | none => .error (.truncated layout size (parameters.length + 1))

/-- A device tells the level it stored for a scene. -/
structure ActuatorReport where
  scene : UInt8
  level : UInt8
  duration : Duration
  deriving DecidableEq, Repr

def ActuatorReport.decode : List UInt8 → Except EncodingError ActuatorReport :=
  Layout.actuatorReport.read 0x03 4 fun
    | scene :: level :: duration :: _ => some ⟨scene, level, ⟨duration⟩⟩
    | _ => none

/-- A controller tells the scene bound to one of its groups. -/
structure ControllerReport where
  group : UInt8
  scene : UInt8
  duration : Duration
  deriving DecidableEq, Repr

def ControllerReport.decode : List UInt8 → Except EncodingError ControllerReport :=
  Layout.controllerReport.read 0x03 4 fun
    | group :: scene :: duration :: _ => some ⟨group, scene, ⟨duration⟩⟩
    | _ => none

def decodeIndicator : List UInt8 → Except EncodingError UInt8 :=
  Layout.indicatorReport.read 0x03 2 List.head?

/-- A device asks for a scene. Older devices leave the duration out. -/
structure Activation where
  scene : UInt8
  duration : Option Duration
  deriving DecidableEq, Repr

def Activation.decode : List UInt8 → Except EncodingError Activation :=
  Layout.activationSet.read 0x01 2 fun
    | scene :: rest => some ⟨scene, rest.head?.map Duration.mk⟩
    | [] => none

/-- The value of a Basic SET or REPORT: it says on or off, not which button. -/
def decodeBasic (payload : List UInt8) : Except EncodingError UInt8 :=
  Layout.basic.read (if payload.head? = some 0x01 then 0x01 else 0x03) 2 List.head? payload

end MeshScenes
