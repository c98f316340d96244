/-!
# JSON values

A value holds what the readers of the program's files can tell apart. Numbers other than plain
naturals, and texts that are no Unicode text, are legal but have no use, so one value stands for all
of them. The fields of an object keep their order, and a name may occur twice.
-/

namespace MeshScenes

inductive JsonValue where
  | null
  | bool (b : Bool)
  | natural (n : Nat)
  | otherNumber
  | text (s : String)
  | damagedText
  | array (items : List JsonValue)
  | object (fields : List (Option String × JsonValue))
  deriving Repr

namespace JsonValue

/-- An object whose field names are all well-formed. -/
def ofFields (fields : List (String × JsonValue)) : JsonValue :=
  object (fields.map fun f => (some f.1, f.2))

def ofByte (n : UInt8) : JsonValue := natural n.toNat

end JsonValue

end MeshScenes
