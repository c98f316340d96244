import MeshScenes.Text.Quoted

/-!
# The journal

What an operation reports beside its result: entries with a level, a message and named fields.
-/

namespace MeshScenes.Journal

inductive Level where
  | warn
  | info
  | debug
  deriving DecidableEq, Repr

namespace Level

def name : Level → String
  | warn => "WARN"
  | info => "INFO"
  | debug => "DEBUG"

def rank : Level → Nat
  | warn => 0
  | info => 1
  | debug => 2

/-- Whether a journal kept at level `l` holds entries of the given level. -/
def admits (l entry : Level) : Bool := entry.rank ≤ l.rank

end Level

inductive Field where
  | text (s : String)
  | number (n : Nat)
  | flag (b : Bool)
  deriving DecidableEq, Repr

/-- The field that shows a value as text. -/
def Field.show {α : Type} [ToString α] (a : α) : Field := .text (toString a)

structure Entry where
  level : Level
  message : String
  fields : List (String × Field)
  deriving DecidableEq, Repr

def Entry.warn (message : String) (fields : List (String × Field)) : Entry :=
  ⟨.warn, message, fields⟩

def Entry.info (message : String) (fields : List (String × Field)) : Entry :=
  ⟨.info, message, fields⟩

def Entry.debug (message : String) (fields : List (String × Field)) : Entry :=
  ⟨.debug, message, fields⟩

end MeshScenes.Journal
