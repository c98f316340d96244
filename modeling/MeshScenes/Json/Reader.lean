import MeshScenes.Json.Token

/-!
# Reading JSON

The reader is a machine on tokens with a stack of the arrays and objects that are open. It accepts
exactly one value, with blanks around it.
-/

namespace MeshScenes.Json

/-- What a value is read inside of; items and fields are kept last one first. -/
inductive Frame where
  | array (items : List JsonValue)
  | object (fields : List (Option String × JsonValue)) (name : Option String)

inductive State where
  /-- A value comes next. -/
  | value (stack : List Frame)
  /-- A value or the end of the array comes next. -/
  | item (stack : List Frame)
  /-- A name comes next. -/
  | name (stack : List Frame) (fields : List (Option String × JsonValue))
  /-- A name or the end of the object comes next. -/
  | firstName (stack : List Frame)
  | colon (stack : List Frame) (fields : List (Option String × JsonValue)) (name : Option String)
  /-- A value is complete. -/
  | complete (stack : List Frame) (v : JsonValue)

def State.begin (stack : List Frame) : Token → Option State
  | .scalar v => some (.complete stack v)
  | .openArray => some (.item stack)
  | .openObject => some (.firstName stack)
  | _ => none

def State.named (stack : List Frame) (fields : List (Option String × JsonValue)) :
    Token → Option State
  | .scalar (.text s) => some (.colon stack fields (some s))
  | .scalar .damagedText => some (.colon stack fields none)
  | _ => none

def State.step : State → Token → Option State
  | .value stack, t => begin stack t
  | .item stack, .closeArray => some (.complete stack (.array []))
  | .item stack, t => begin (.array [] :: stack) t
  | .name stack fields, t => named stack fields t
  | .firstName stack, .closeObject => some (.complete stack (.object []))
  | .firstName stack, t => named stack [] t
  | .colon stack fields key, .colon => some (.value (.object fields key :: stack))
  | .complete (.array items :: stack) v, .comma => some (.value (.array (v :: items) :: stack))
  | .complete (.array items :: stack) v, .closeArray =>
    some (.complete stack (.array (v :: items).reverse))
  | .complete (.object fields key :: stack) v, .comma => some (.name stack ((key, v) :: fields))
  | .complete (.object fields key :: stack) v, .closeObject =>
    some (.complete stack (.object ((key, v) :: fields).reverse))
  | _, _ => none

def State.run (s : State) (tokens : List Token) : Option State := tokens.foldlM State.step s

def State.value? : State → Option JsonValue
  | .complete [] v => some v
  | _ => none

end MeshScenes.Json

namespace MeshScenes

/-- The value that a text denotes. -/
def JsonValue.ofSpots? (text : List Utf8.Spot) : Option JsonValue := do
  let tokens ← Json.tokens text
  let final ← (Json.State.value []).run tokens
  final.value?

def JsonValue.parse? (text : String) : Option JsonValue := ofSpots? (text.toList.map some)

/-- The value that the bytes of a file denote. -/
def JsonValue.ofBytes? (bytes : List UInt8) : Option JsonValue := ofSpots? (Utf8.spots bytes)

end MeshScenes
