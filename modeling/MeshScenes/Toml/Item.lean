/-!
# TOML items

What a configuration file holds, as far as its readers tell things apart: a float and a moment in
time are legal but never asked for, so their values are not kept. A table remembers how it came to
be, since that decides what may still be added to it.
-/

namespace MeshScenes.Toml

/-- How a table came to be. -/
inductive Origin where
  /-- Written between braces. -/
  | inline
  /-- Named by a header of its own, or the file itself. -/
  | header
  /-- Passed through by the header of a table inside it. -/
  | implied
  /-- Passed through by a dotted key. -/
  | dotted
  deriving DecidableEq, Repr

inductive Item where
  | text (s : String)
  | integer (n : Int)
  | float
  | boolean (b : Bool)
  | moment
  | array (items : List Item)
  | table (origin : Origin) (entries : List (String × Item))
  /-- An array of tables, last one first; each is named by a header of its own. -/
  | tables (last : List (String × Item)) (before : List (List (String × Item)))
  deriving Repr

abbrev Entries := List (String × Item)

/-- A line of a file that says something. -/
inductive Statement where
  | header (path : List String)
  | elementHeader (path : List String)
  | assign (path : List String) (key : String) (value : Item)
  deriving Repr

end MeshScenes.Toml
