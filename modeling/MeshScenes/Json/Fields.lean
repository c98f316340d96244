import MeshScenes.Json.Value

/-!
# Records in JSON

A record is an object with the record's field names, in any order and among others, or the array of
its fields. An object may not name a field of the record twice.
-/

namespace MeshScenes.Json

/-- The fields of a record that is being read. -/
structure Fields where
  /-- Whether they were given by name, and not by place. -/
  named : Bool
  values : List (String × JsonValue)

def isRepeated (names : List String) : Bool :=
  match names with
  | [] => false
  | n :: rest => rest.contains n || isRepeated rest

/-- The fields of a record with these field names. -/
def Fields.read? (names : List String) : JsonValue → Option Fields
  | .object fields => do
    let fields ← fields.mapM fun f => f.1.map fun name => (name, f.2)
    let known := fields.filter fun f => names.contains f.1
    if isRepeated (known.map (·.1)) then none else some ⟨true, known⟩
  | .array items =>
    if names.length < items.length then none else some ⟨false, names.zip items⟩
  | _ => none

namespace Fields

def get? (f : Fields) (name : String) : Option JsonValue := f.values.lookup name

/-- A field that must be there. -/
def required? {α : Type} (f : Fields) (name : String) (read : JsonValue → Option α) : Option α := do
  let v ← f.get? name
  read v

/-- A field with a value of its own when it is left out. -/
def withDefault? {α : Type} (f : Fields) (name : String) (value : α) (read : JsonValue → Option α) :
    Option α :=
  match f.get? name with
  | some v => read v
  | none => some value

/-- A field that may be null, and left out where fields are named. -/
def optional? {α : Type} (f : Fields) (name : String) (read : JsonValue → Option α) :
    Option (Option α) :=
  match f.get? name with
  | some .null => some none
  | some v => (read v).map some
  | none => if f.named then some none else none

end Fields

/-! ## Readers of single values -/

def readNatural? (bound : Nat) : JsonValue → Option Nat
  | .natural n => if n < bound then some n else none
  | _ => none

def readByte? (v : JsonValue) : Option UInt8 := (readNatural? 256 v).map UInt8.ofNat

def readBool? : JsonValue → Option Bool
  | .bool b => some b
  | _ => none

def readText? : JsonValue → Option String
  | .text s => some s
  | _ => none

def readList? {α : Type} (read : JsonValue → Option α) : JsonValue → Option (List α)
  | .array items => items.mapM read
  | _ => none

/-- A name out of a fixed set: the name alone, or an object that gives it nothing. -/
def readName? : JsonValue → Option String
  | .text s => some s
  | .object [(some s, .null)] => some s
  | _ => none

end MeshScenes.Json
