import MeshScenes.Toml.Quoted

/-!
# The lines of a TOML file

Reads a file into its statements. Arrays may span lines and end with a comma; tables between braces
may do neither. Arrays, tables between braces and dotted keys may be 79 levels deep.
-/

namespace MeshScenes.Toml

open Reading

def levelLimit : Nat := 79

/-! ## Blanks and comments -/

/-- A comment goes to the end of its line. -/
def comment : Reading Unit := do
  literal '#'
  let _ ← run isPlain

/-- Blanks, line breaks and comments. -/
def gap : Reading Unit := do
  let _ ← many (comment <|> lineBreak <|> do let _ ← satisfying isSpace)

def lineEnd : Reading Unit := fun
  | [] => some ((), [])
  | cs => lineBreak cs

/-- What may stand behind a statement on its line. -/
def lineRest : Reading Unit := do
  spaces
  let _ ← maybe comment
  lineEnd

/-! ## Keys -/

def isBare (c : Char) : Bool := c.isAlphanum || c = '_' || c = '-'

def bareKey : Reading String := do
  let cs ← run isBare
  if cs.isEmpty then failure else return String.ofList cs

def simpleKey : Reading String := basicText <|> literalText <|> bareKey

/-- A key, with dots between its parts. -/
def keyPath : Reading (List String) := do
  let part : Reading String := do
    spaces
    let key ← simpleKey
    spaces
    return key
  let keys ← separated₁ part (literal '.')
  if keys.length ≤ levelLimit then return keys else failure

/-! ## Entries under dotted keys -/

/-- The entries with one more under a dotted key. Tables on the way are made as needed. The last of
them must be made by dotted keys; those before it need only have no header of their own. -/
def addEntry (value : Item) : List String → String → Entries → Option Entries
  | [], key, entries =>
    if (entries.lookup key).isSome then none else some (entries ++ [(key, value)])
  | first :: path, key, entries =>
    let replace (item : Item) : Entries :=
      entries.map fun e => if e.1 = first then (first, item) else e
    match entries.lookup first with
    | none => do
      let inner ← addEntry value path key []
      return entries ++ [(first, .table .dotted inner)]
    | some (.table origin inner) =>
      if origin = .dotted ∨ (origin = .implied ∧ path ≠ []) then do
        let inner ← addEntry value path key inner
        return replace (.table origin inner)
      else none
    | some (.tables last before) =>
      if path ≠ [] then do
        let last ← addEntry value path key last
        return replace (.tables last before)
      else none
    | some _ => none

/-! ## Tables between braces -/

/-- The path to a key, and the key. -/
def splitLast (keys : List String) : Option (List String × String) :=
  keys.getLast?.map fun key => (keys.dropLast, key)

def inlineTable? (assignments : List (List String × Item)) : Option Item := do
  let entries ← assignments.foldlM (fun entries (keys, value) => do
    let (path, key) ← splitLast keys
    addEntry value path key entries) []
  return .table .inline entries

/-! ## Values -/

def isWordChar (c : Char) : Bool :=
  c.isAlphanum || c = '_' || c = '+' || c = '-' || c = '.' || c = ':'

/-- A word without quotes. A date may have its time behind a blank. -/
def wordValue : Reading Item := do
  let word ← run isWordChar
  if isDate word then
    let clock : Reading Unit := do
      literal ' '
      let clock ← run isWordChar
      if isClock clock then return else failure
    let _ ← maybe clock
    return .moment
  else of (scalar? word)

/-- A value; the number says how many levels of arrays and tables it may still open. -/
def value : Nat → Reading Item
  | 0 => (do return .text (← quotedText)) <|> wordValue
  | level + 1 =>
    let item : Reading Item := do
      gap
      let v ← value level
      gap
      return v
    let array : Reading Item := do
      literal '['
      let items ← separated item (literal ',')
      if !items.isEmpty then let _ ← maybe (do gap; literal ',')
      gap
      literal ']'
      return .array items
    let assignment : Reading (List String × Item) := do
      let keys ← keyPath
      literal '='
      spaces
      let v ← value level
      spaces
      return (keys, v)
    let table : Reading Item := do
      literal '\x7b'
      let assignments ← separated assignment (literal ',')
      spaces
      literal '\x7d'
      of (inlineTable? assignments)
    array <|> table <|> (do return .text (← quotedText)) <|> wordValue

/-! ## Statements -/

def header : Reading Statement := do
  literal '['
  let path ← keyPath
  literal ']'
  return .header path

def elementHeader : Reading Statement := do
  literal '['
  literal '['
  let path ← keyPath
  literal ']'
  literal ']'
  return .elementHeader path

def assignment : Reading Statement := do
  let keys ← keyPath
  literal '='
  spaces
  let v ← value levelLimit
  let (path, key) ← of (splitLast keys)
  return .assign path key v

/-- A statement with the rest of its line, or a line that says nothing. -/
def line : Reading (Option Statement) :=
  (do lineBreak; return none)
    <|> (do comment; lineEnd; return none)
    <|> (do let s ← elementHeader <|> header <|> assignment; lineRest; return some s)

/-- All statements of a file, which may begin with a byte order mark. -/
def file : Reading (List Statement) := do
  let _ ← maybe (literal (Char.ofNat 0xFEFF))
  spaces
  let statements ← many do
    let s ← line
    spaces
    return s
  return statements.filterMap id

end MeshScenes.Toml
