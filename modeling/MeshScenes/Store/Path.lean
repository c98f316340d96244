/-!
# Paths

A path names an entry of a file system from the root on, and may lead back up on the way. Beside
each path stands another one for the file that is written before it goes live.
-/

namespace MeshScenes

/-- A place in a file system: the names below the root that lead there. -/
abbrev Location := List String

structure Path where
  /-- The parts from the root on; the part `..` leads one directory up. -/
  parts : List String
  /-- Whether the path ends in a slash: only a directory can be there. -/
  forDirectory : Bool
  deriving DecidableEq, Repr

namespace Path

/-- Where the hub runs, and where paths that do not begin at the root begin. -/
def home : Location := ["hub"]

def up : String := ".."

/-- The path that a text names. Empty parts and those of one dot lead nowhere; a text that ends in
one names a directory. -/
def ofText (text : String) : Path :=
  let parts := text.splitOn "/"
  let named := parts.filter fun part => part ≠ "" ∧ part ≠ "."
  { parts := if text.startsWith "/" then named else home ++ named
    forDirectory := parts.getLast? = some "" ∨ parts.getLast? = some "." }

def parent (p : Path) : Path := ⟨p.parts.dropLast, false⟩

/-- The path up to its first parts. -/
def first (p : Path) (n : Nat) : Path := ⟨p.parts.take n, false⟩

/-- The directories that a path goes through, outermost first, and the path itself. -/
def stages (p : Path) : List Path := (List.range p.parts.length).map fun n => p.first (n + 1)

/-- The bytes that a path takes when it is written down. -/
def size (p : Path) : Nat :=
  p.parts.foldl (fun n part => n + 1 + part.utf8ByteSize) (if p.forDirectory then 1 else 0)

/-- Whether a file system takes the path at all: it is not too long and no part holds the zero
character. -/
def isAdmissible (p : Path) : Bool :=
  p.size < 4096 && p.parts.all fun part => !part.toList.contains '\x00'

/-! ## The staging file -/

/-- A name without its extension, which is what stands behind the last dot. A dot in front does not
begin one. -/
def stem (name : String) : String :=
  let behind := name.toList.reverse.takeWhile (· ≠ '.')
  let before := name.toList.take (name.length - behind.length - 1)
  if before.isEmpty then name else String.ofList before

/-- Where a file is written before it goes live: beside it, with another extension. A path that ends
in no name has no such place. Neither has a name of two dots and an extension, unless a slash
follows: without its extension it leads up. Nothing can be written where these end. -/
def staging (p : Path) : Path :=
  match p.parts.getLast? with
  | none => p
  | some name =>
    if name = up then p
    else if stem name = "." ∧ !p.forDirectory then ⟨p.parts.dropLast ++ [up], false⟩
    else ⟨p.parts.dropLast ++ [stem name ++ ".json.tmp"], false⟩

end Path

end MeshScenes
