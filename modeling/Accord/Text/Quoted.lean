import Accord.Text.Unprintable

/-!
# Quoted texts in messages

A message shows a text between double quotes.  Quotes and backslashes take a backslash, the common
controls have letters of their own, and any other character that cannot be seen is given by its
code point in braces, as in `"a\u{1}b"`.
-/

namespace Accord.Text

/-- The hexadecimal digits of a number, lower case. -/
def hexDigits (n : Nat) : String :=
  .ofList (Nat.toDigits 16 n)

/-- One character as a quoted text shows it. -/
def showChar (c : Char) : String :=
  match c with
  | '"' => "\\\""
  | '\\' => "\\\\"
  | '\n' => "\\n"
  | '\r' => "\\r"
  | '\t' => "\\t"
  | '\x00' => "\\0"
  | c => if isUnprintable c then "\\u\x7b" ++ hexDigits c.toNat ++ "\x7d" else c.toString

/-- A text between double quotes. -/
def quoted (s : String) : String :=
  "\"" ++ String.join (s.toList.map showChar) ++ "\""

/-- A list of texts between square brackets. -/
def quotedList (l : List String) : String :=
  "[" ++ String.intercalate ", " (l.map quoted) ++ "]"

end Accord.Text
