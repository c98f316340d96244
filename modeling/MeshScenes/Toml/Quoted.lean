import MeshScenes.Text.Reading
import MeshScenes.Toml.Scalar

/-!
# Quoted texts in TOML

Four forms: with escapes or literal, on one line or on several. A text of several lines may begin
with a line break that does not count, and may have one or two of its quotes inside.
-/

namespace MeshScenes.Toml

open Reading

/-- Characters that a text may hold on one line, quotes and backslash apart. -/
def isPlain (c : Char) : Bool := c = '\t' || (0x20 ≤ c.toNat && c.toNat ≠ 0x7F)

/-- A line break, with or without a carriage return. -/
def lineBreak : Reading Unit := fun
  | '\n' :: cs | '\r' :: '\n' :: cs => some ((), cs)
  | _ => none

def isSpace (c : Char) : Bool := c = ' ' || c = '\t'

def spaces : Reading Unit := do let _ ← run isSpace

/-- The character whose number has so many hexadecimal digits. -/
def numberedChar (width : Nat) : Reading Char := do
  let digits ← (List.replicate width ()).mapM fun _ => satisfying isHexDigit
  let n := valueInBase 16 digits
  if n < 0xD800 ∨ (0xDFFF < n ∧ n < 0x110000) then return Char.ofNat n else failure

/-- What stands behind a backslash. -/
def escaped : Reading Char := fun
  | 'b' :: cs => some (Char.ofNat 8, cs)
  | 't' :: cs => some ('\t', cs)
  | 'n' :: cs => some ('\n', cs)
  | 'f' :: cs => some (Char.ofNat 12, cs)
  | 'r' :: cs => some ('\r', cs)
  | '"' :: cs => some ('"', cs)
  | '\\' :: cs => some ('\\', cs)
  | 'u' :: cs => numberedChar 4 cs
  | 'U' :: cs => numberedChar 8 cs
  | _ => none

/-- One character of a text with escapes. -/
def escapedChar : Reading Char := fun
  | '\\' :: cs => escaped cs
  | c :: cs => if isPlain c ∧ c ≠ '"' then some (c, cs) else none
  | [] => none

def basicText : Reading String := do
  literal '"'
  let cs ← many escapedChar
  literal '"'
  return String.ofList cs

def apostrophe : Char := Char.ofNat 39

def literalText : Reading String := do
  literal apostrophe
  let cs ← run fun c => isPlain c && c ≠ apostrophe
  literal apostrophe
  return String.ofList cs

/-- One or two quotes that do not end the text. -/
def innerQuotes (quote : Char) : Reading (List Char) := fun cs =>
  let quotes := cs.takeWhile (· = quote)
  if 1 ≤ quotes.length ∧ quotes.length ≤ 2 then some (quotes, cs.dropWhile (· = quote)) else none

/-- The end of a text of several lines, with up to two quotes that still belong to it. -/
def closingQuotes (quote : Char) : Reading (List Char) := fun cs =>
  let quotes := cs.takeWhile (· = quote)
  if 3 ≤ quotes.length ∧ quotes.length ≤ 5 then
    some (quotes.drop 3, cs.dropWhile (· = quote))
  else none

def brokenLine : Reading (List Char) := do
  lineBreak
  return ['\n']

/-- A backslash at the end of a line: the break and all blanks behind it do not count. -/
def foldedLines : Reading (List Char) := do
  literal '\\'
  spaces
  lineBreak
  let _ ← many (lineBreak <|> do let _ ← satisfying isSpace)
  return []

def multilineText (quote : Char) (part : Reading (List Char)) : Reading String := do
  literals [quote, quote, quote]
  let _ ← maybe lineBreak
  let parts ← many (innerQuotes quote <|> brokenLine <|> part)
  let rest ← closingQuotes quote
  return String.ofList (parts.flatten ++ rest)

def multilineBasicText : Reading String :=
  multilineText '"' (foldedLines <|> do return [← escapedChar])

def multilineLiteralText : Reading String :=
  multilineText apostrophe do return [← satisfying fun c => isPlain c && c ≠ apostrophe]

/-- A text in any of the four forms; three quotes begin a text of several lines. -/
def quotedText : Reading String := fun cs =>
  if cs.take 3 = ['"', '"', '"'] then multilineBasicText cs
  else if cs.take 3 = [apostrophe, apostrophe, apostrophe] then multilineLiteralText cs
  else (basicText <|> literalText) cs

end MeshScenes.Toml
