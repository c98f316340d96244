import MeshScenes.Toml.Syntax

/-!
# TOML documents

Puts the statements of a file together. A table has one header at most; a table that a header passed
through may still get its own, and one that a dotted key passed through may not. Headers lead
through everything but values.
-/

namespace MeshScenes.Toml

def setEntry (entries : Entries) (key : String) (item : Item) : Entries :=
  if (entries.lookup key).isSome then
    entries.map fun e => if e.1 = key then (key, item) else e
  else entries ++ [(key, item)]

/-- Changes the table that a path of header keys leads to; tables on the way are made as needed, and
of an array of tables the last one is meant. -/
def atPath (change : Entries → Option Entries) : List String → Entries → Option Entries
  | [], entries => change entries
  | key :: path, entries =>
    match entries.lookup key with
    | none => do
      let inner ← atPath change path []
      return setEntry entries key (.table .implied inner)
    | some (.table .inline _) => none
    | some (.table origin inner) => do
      let inner ← atPath change path inner
      return setEntry entries key (.table origin inner)
    | some (.tables last before) => do
      let last ← atPath change path last
      return setEntry entries key (.tables last before)
    | some _ => none

def openTable (key : String) (entries : Entries) : Option Entries :=
  match entries.lookup key with
  | none => some (setEntry entries key (.table .header []))
  | some (.table .implied inner) => some (setEntry entries key (.table .header inner))
  | some _ => none

def openElement (key : String) (entries : Entries) : Option Entries :=
  match entries.lookup key with
  | none => some (setEntry entries key (.tables [] []))
  | some (.tables last before) => some (setEntry entries key (.tables [] (last :: before)))
  | some _ => none

/-- A document, and the path of the header that is open. -/
structure Document where
  entries : Entries
  current : List String

def Document.add (d : Document) : Statement → Option Document
  | .header path => do
    let (parents, key) ← splitLast path
    let entries ← atPath (openTable key) parents d.entries
    return ⟨entries, path⟩
  | .elementHeader path => do
    let (parents, key) ← splitLast path
    let entries ← atPath (openElement key) parents d.entries
    return ⟨entries, path⟩
  | .assign path key value => do
    let entries ← atPath (addEntry value path key) d.current d.entries
    return { d with entries }

/-- The entries of a file, if it is well-formed. -/
def parse? (text : String) : Option Entries := do
  let statements ← file.all? text.toList
  let document ← statements.foldlM Document.add ⟨[], []⟩
  return document.entries

end MeshScenes.Toml
