/-!
# Blank characters

Names, keywords and timestamps are read with the blanks at their ends removed.  Blank means the
Unicode property `White_Space`, which holds more than the characters that `Char.isWhitespace`
knows.
-/

namespace Accord.Text

/-- The characters with the Unicode property `White_Space`. -/
def isBlank (c : Char) : Bool :=
  let n := c.toNat
  (9 ≤ n && n ≤ 13) || n == 0x20 || n == 0x85 || n == 0xa0 || n == 0x1680
    || (0x2000 ≤ n && n ≤ 0x200a) || n == 0x2028 || n == 0x2029 || n == 0x202f || n == 0x205f
    || n == 0x3000

/-- The characters without the blanks at either end. -/
def trimChars (cs : List Char) : List Char :=
  ((cs.dropWhile isBlank).reverse.dropWhile isBlank).reverse

/-- The text without the blanks at either end. -/
def trim (s : String) : String :=
  .ofList (trimChars s.toList)

/-- The first run of characters that are not blank; empty when there is none. -/
def firstWord (s : String) : String :=
  .ofList ((s.toList.dropWhile isBlank).takeWhile fun c => !isBlank c)

/-- Equality up to the case of the letters A to Z. -/
def sameIgnoringCase (s t : String) : Bool :=
  s.toLower == t.toLower

@[simp] theorem trim_empty : trim "" = "" :=
  rfl

end Accord.Text
