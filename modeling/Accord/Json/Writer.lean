import Accord.Json.Basic

/-!
# Writing JSON

`Json.compact` writes a value without any space; `Json.pretty` gives every member a line of its
own, indented by two spaces a level.  Both escape the quote, the backslash and the controls below
U+0020, and nothing else.
-/

namespace Accord.Json

/-- The digit for a number below 16. -/
def hexDigit (n : Nat) : Char :=
  if n < 10 then Char.ofNat (48 + n) else Char.ofNat (87 + n)

/-- One character inside a written text. -/
def escapeChar (c : Char) : List Char :=
  if c = '"' then ['\\', '"']
  else if c = '\\' then ['\\', '\\']
  else if c = '\n' then ['\\', 'n']
  else if c = '\r' then ['\\', 'r']
  else if c = '\t' then ['\\', 't']
  else if c = '\x08' then ['\\', 'b']
  else if c = '\x0c' then ['\\', 'f']
  else if c.toNat < 0x20 then
    ['\\', 'u', '0', '0', hexDigit (c.toNat / 16), hexDigit (c.toNat % 16)]
  else [c]

/-- A text between quotes. -/
def writeText (s : String) : String :=
  .ofList ('"' :: (s.toList.flatMap escapeChar ++ ['"']))

mutual

/-- The value without any space. -/
def compact : Json → String
  | .null => "null"
  | .bool b => if b then "true" else "false"
  | .number n => n.render
  | .text s => writeText s
  | .array items => "[" ++ String.intercalate "," (compactItems items) ++ "]"
  | .object members => "\x7b" ++ String.intercalate "," (compactMembers members) ++ "\x7d"

/-- The elements of an array, one by one. -/
def compactItems : List Json → List String
  | [] => []
  | v :: r => v.compact :: compactItems r

/-- The members of an object, one by one. -/
def compactMembers : List (String × Json) → List String
  | [] => []
  | (k, v) :: r => (writeText k ++ ":" ++ v.compact) :: compactMembers r

end

/-- Starts a line at the given level. -/
def newLine (level : Nat) : String :=
  .ofList ('\n' :: List.replicate (2 * level) ' ')

/-- Lines between brackets; no line at all when there is nothing to write. -/
def bracketed (opening closing : String) (level : Nat) (lines : List String) : String :=
  match lines with
  | [] => opening ++ closing
  | lines =>
    opening ++ newLine (level + 1) ++ String.intercalate ("," ++ newLine (level + 1)) lines
      ++ newLine level ++ closing

mutual

/-- The value at a level of indentation. -/
def prettyAt (level : Nat) : Json → String
  | .array items => bracketed "[" "]" level (prettyItems (level + 1) items)
  | .object members => bracketed "\x7b" "\x7d" level (prettyMembers (level + 1) members)
  | .null => "null"
  | .bool b => if b then "true" else "false"
  | .number n => n.render
  | .text s => writeText s

/-- The elements of an array at a level of indentation. -/
def prettyItems (level : Nat) : List Json → List String
  | [] => []
  | v :: r => v.prettyAt level :: prettyItems level r

/-- The members of an object at a level of indentation. -/
def prettyMembers (level : Nat) : List (String × Json) → List String
  | [] => []
  | (k, v) :: r => (writeText k ++ ": " ++ v.prettyAt level) :: prettyMembers level r

end

/-- The value over several lines. -/
def pretty (v : Json) : String :=
  v.prettyAt 0

end Accord.Json
