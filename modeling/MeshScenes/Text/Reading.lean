/-!
# Readers of text

A reader takes a value from the front of a text and leaves the rest, or fails. The readers that
repeat another one stop where it fails or takes nothing, so the length of the text bounds them.
-/

namespace MeshScenes

abbrev Reading (α : Type) := StateT (List Char) Option α

namespace Reading

variable {α β : Type}

def of (x : Option α) : Reading α := fun cs => x.map fun a => (a, cs)

def literal (c : Char) : Reading Unit := fun
  | d :: cs => if c = d then some ((), cs) else none
  | [] => none

def literals (word : List Char) : Reading Unit := word.forM literal

def satisfying (p : Char → Bool) : Reading Char := fun
  | c :: cs => if p c then some (c, cs) else none
  | [] => none

/-- The longest run of such characters, which may be empty. -/
def run (p : Char → Bool) : Reading (List Char) := fun cs => some (cs.takeWhile p, cs.dropWhile p)

def next? : Reading (Option Char) := fun cs => some (cs.head?, cs)

/-- Takes nothing where the reader fails. -/
def maybe (r : Reading α) : Reading (Option α) := fun cs =>
  match r cs with
  | some (a, rest) => some (some a, rest)
  | none => some (none, cs)

def manyWithin : Nat → Reading α → Reading (List α)
  | 0, _ => fun cs => some ([], cs)
  | n + 1, r => fun cs =>
    match r cs with
    | none => some ([], cs)
    | some (a, rest) =>
      if rest.length < cs.length then (manyWithin n r rest).map fun (as, rest) => (a :: as, rest)
      else some ([], cs)

/-- As often as the reader takes something. -/
def many (r : Reading α) : Reading (List α) := fun cs => manyWithin cs.length r cs

/-- Items with a separator between each two, possibly none at all. -/
def separated (item : Reading α) (separator : Reading β) : Reading (List α) := do
  match ← maybe item with
  | none => return []
  | some a => return a :: (← many (do let _ ← separator; item))

def separated₁ (item : Reading α) (separator : Reading β) : Reading (List α) := do
  let a ← item
  return a :: (← many (do let _ ← separator; item))

/-- The value of a text that the reader takes to its end. -/
def all? (r : Reading α) (cs : List Char) : Option α :=
  match r cs with
  | some (a, []) => some a
  | _ => none

end Reading

end MeshScenes
