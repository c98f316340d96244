import MeshScenes.Text.Printable

/-!
# Quoted text

The form in which journals show a text of unknown content: between double quotes, with a backslash
before what would mislead, and characters that are not shown by their number in hexadecimal.
-/

namespace MeshScenes.Quoted

def hex (n : Nat) : String := String.ofList (Nat.toDigits 16 n)

def escape (c : Char) : String :=
  if c.toNat = 0 then "\\0"
  else if c = '\t' then "\\t"
  else if c = '\n' then "\\n"
  else if c = '\r' then "\\r"
  else if c = '"' then "\\\""
  else if c = '\\' then "\\\\"
  else if isShown c then c.toString
  else "\\u\x7b" ++ hex c.toNat ++ "\x7d"

def quote (s : String) : String := "\"" ++ String.join (s.toList.map escape) ++ "\""

def quoteOption : Option String → String
  | some s => "Some(" ++ quote s ++ ")"
  | none => "None"

end MeshScenes.Quoted
