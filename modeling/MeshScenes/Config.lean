import MeshScenes.Controller.Basic
import MeshScenes.Text.Utf8
import MeshScenes.Toml.Document

/-!
# Configuration

The settings come from a TOML file, where every field may be left out, and then from the
environment, which wins. They are checked last, so the environment can mend a bad file.
-/

namespace MeshScenes

structure Config where
  coordinator : UInt8
  buttonCount : UInt8
  storagePath : String
  autosave : Bool
  logFilter : String
  demo : Bool
  deriving DecidableEq, Repr

inductive ConfigError where
  | parse
  | io
  | invalid (reason : String)
  deriving DecidableEq, Repr

def ConfigError.message : ConfigError → String
  | .parse => "failed to parse config file"
  | .io => "failed to read config file"
  | .invalid reason => s!"invalid configuration: {reason}"

/-- What stands at the place of the file. -/
inductive ConfigFile where
  | missing
  | directory
  | bytes (content : List UInt8)
  deriving DecidableEq, Repr

/-- The variables of the environment that are set. -/
structure Environment where
  coordinator : Option String
  storagePath : Option String
  log : Option String
  commonLog : Option String
  deriving DecidableEq, Repr

namespace Config

def fileName : String := "scenehub.toml"

def defaults : Config where
  coordinator := 1
  buttonCount := defaultButtonCount
  storagePath := "scenes.json"
  autosave := true
  logFilter := "scenehubd=info,scenehub=info"
  demo := true

/-! ## The file -/

open Toml (Item)

/-- The fields of a section that are given. An array gives them by place, and one that is too long
is not minded; a moment in time gives none. -/
def sectionFields? (names : List String) : Item → Option (List (String × Item))
  | .table _ entries => some entries
  | .array items => some (names.zip items)
  | .tables last before =>
    some (names.zip ((last :: before).reverse.map (Item.table .header)))
  | .moment => some []
  | _ => none

def field? {α : Type} (fields : List (String × Item)) (name : String) (value : α)
    (read : Item → Option α) : Option α :=
  match fields.lookup name with
  | some item => read item
  | none => some value

def readByte? : Item → Option UInt8
  | .integer n => if 0 ≤ n ∧ n < 256 then some (UInt8.ofNat n.toNat) else none
  | _ => none

def readText? : Item → Option String
  | .text s => some s
  | _ => none

def readFlag? : Item → Option Bool
  | .boolean b => some b
  | _ => none

/-- Reads a section, if it is given. -/
def given? (file : Toml.Entries) (name : String) (names : List String) :
    Option (List (String × Item)) :=
  match file.lookup name with
  | some item => sectionFields? names item
  | none => some []

def ofToml? (file : Toml.Entries) : Option Config := do
  let network ← given? file "network" ["coordinator_id", "number_of_buttons"]
  let storage ← given? file "storage" ["path", "autosave"]
  let logging ← given? file "logging" ["filter"]
  let demo ← given? file "demo" ["enabled"]
  let coordinator ← field? network "coordinator_id" defaults.coordinator readByte?
  let buttonCount ← field? network "number_of_buttons" defaults.buttonCount readByte?
  let storagePath ← field? storage "path" defaults.storagePath readText?
  let autosave ← field? storage "autosave" defaults.autosave readFlag?
  let logFilter ← field? logging "filter" defaults.logFilter readText?
  let demo ← field? demo "enabled" defaults.demo readFlag?
  return ⟨coordinator, buttonCount, storagePath, autosave, logFilter, demo⟩

def ofFile : ConfigFile → Except ConfigError Config
  | .missing => .ok defaults
  | .directory => .error .io
  | .bytes content =>
    match Utf8.strict? content with
    | none => .error .io
    | some text =>
      match (Toml.parse? text).bind ofToml? with
      | some config => .ok config
      | none => .error .parse

/-! ## The environment -/

/-- The settings with those of the environment in their place; of the two log filters the common one
wins. -/
def override (c : Config) (env : Environment) : Except ConfigError Config := do
  let coordinator ← match env.coordinator with
    | none => pure c.coordinator
    | some text =>
      match Decimal.parseByte text with
      | .ok n => pure n
      | .error _ => throw (.invalid s!"SCENEHUB_COORDINATOR_ID is not a node id: {text}")
  return { c with
    coordinator
    storagePath := env.storagePath.getD c.storagePath
    logFilter := env.commonLog.getD (env.log.getD c.logFilter) }

def check (c : Config) : Except ConfigError Config :=
  if c.coordinator = 0 then .error (.invalid "coordinator_id must be non-zero")
  else if 2 ≤ c.buttonCount ∧ c.buttonCount ≤ 8 then .ok c
  else .error (.invalid s!"number_of_buttons must be within 2..=8, got {c.buttonCount}")

def load (file : ConfigFile) (env : Environment) : Except ConfigError Config := do
  let c ← ofFile file
  let c ← c.override env
  c.check

end Config

end MeshScenes
