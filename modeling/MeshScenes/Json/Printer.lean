import MeshScenes.Json.Value
import MeshScenes.Text.Decimal

/-!
# Printing JSON

Two layouts: compact, without any blanks, and pretty, with each item on its own line and two blanks
of indentation for each level. Only the quote, the backslash and the control characters below the
space are escaped.
-/

namespace MeshScenes.JsonValue

def hexDigit (d : Nat) : Char := if d < 10 then Char.ofNat (48 + d) else Char.ofNat (87 + d)

def escape (c : Char) : List Char :=
  if c = '"' then ['\\', '"']
  else if c = '\\' then ['\\', '\\']
  else if c.toNat = 8 then ['\\', 'b']
  else if c.toNat = 9 then ['\\', 't']
  else if c.toNat = 10 then ['\\', 'n']
  else if c.toNat = 12 then ['\\', 'f']
  else if c.toNat = 13 then ['\\', 'r']
  else if c.toNat < 32 then ['\\', 'u', '0', '0', hexDigit (c.toNat / 16), hexDigit (c.toNat % 16)]
  else [c]

def quote (s : String) : List Char := '"' :: s.toList.flatMap escape ++ ['"']

/-- A text that no Unicode text is read from: half of a surrogate pair. -/
def damagedQuote : List Char := "\"\\ud800\"".toList

def quoteName : Option String → List Char
  | some s => quote s
  | none => damagedQuote

/-- How items are laid out: what stands before an item at a depth, before the end of a value that
has items, and behind a field's name. -/
structure Style where
  beforeItem : Nat → List Char
  beforeEnd : Nat → List Char
  colon : List Char

def Style.compact : Style := ⟨fun _ => [], fun _ => [], [':']⟩

def Style.pretty : Style where
  beforeItem depth := '\n' :: List.replicate (2 * depth + 2) ' '
  beforeEnd depth := '\n' :: List.replicate (2 * depth) ' '
  colon := [':', ' ']

mutual

def print (style : Style) (depth : Nat) : JsonValue → List Char
  | null => "null".toList
  | bool true => "true".toList
  | bool false => "false".toList
  | natural n => Nat.toDigits 10 n
  | otherNumber => "-0".toList
  | text s => quote s
  | damagedText => damagedQuote
  | array [] => ['[', ']']
  | array (v :: vs) =>
    '[' :: style.beforeItem depth ++ print style (depth + 1) v ++ printItems style depth vs
      ++ style.beforeEnd depth ++ [']']
  | object [] => ['\x7b', '\x7d']
  | object (f :: fs) =>
    '\x7b' :: style.beforeItem depth ++ quoteName f.1 ++ style.colon ++ print style (depth + 1) f.2
      ++ printFields style depth fs ++ style.beforeEnd depth ++ ['\x7d']

/-- The items behind the first one. -/
def printItems (style : Style) (depth : Nat) : List JsonValue → List Char
  | [] => []
  | v :: vs =>
    ',' :: style.beforeItem depth ++ print style (depth + 1) v ++ printItems style depth vs

def printFields (style : Style) (depth : Nat) : List (Option String × JsonValue) → List Char
  | [] => []
  | f :: fs =>
    ',' :: style.beforeItem depth ++ quoteName f.1 ++ style.colon ++ print style (depth + 1) f.2
      ++ printFields style depth fs

end

def compact (v : JsonValue) : String := String.ofList (print .compact 0 v)

def pretty (v : JsonValue) : String := String.ofList (print .pretty 0 v)

end MeshScenes.JsonValue
