import Accord.Json.Problem

/-!
# Strings and numbers of a JSON text

A literal is looked at in two ways.  When its value is needed it is read, and a string that holds
half of an escaped pair or a number that is too large is refused.  When nobody asks for the value
it is only passed over, and then its form is all that counts.
-/

namespace Accord.Json

/-- White space between the tokens of a text. -/
def isSpace (c : Char) : Bool :=
  c = ' ' || c = '\t' || c = '\n' || c = '\r'

/-- The text from the next token on. -/
def skipSpace (cs : List Char) : List Char :=
  cs.dropWhile isSpace

/-- The value of a hexadecimal digit. -/
def hexValue? (c : Char) : Option Nat :=
  if '0' ≤ c && c ≤ '9' then some (c.toNat - 48)
  else if 'a' ≤ c && c ≤ 'f' then some (c.toNat - 87)
  else if 'A' ≤ c && c ≤ 'F' then some (c.toNat - 55)
  else none

/-- The value of four hexadecimal digits. -/
def hexQuad? (a b c d : Char) : Option Nat := do
  let a ← hexValue? a
  let b ← hexValue? b
  let c ← hexValue? c
  let d ← hexValue? d
  return ((a * 16 + b) * 16 + c) * 16 + d

/-- What is wrong where four hexadecimal digits are due: with fewer than four bytes left the text
has ended. -/
def hexProblem (cs : List Char) : Problem :=
  if (String.ofList (cs.take 4)).utf8ByteSize < 4 then .endInString else .badEscape

/-- The character for the letter after a backslash. -/
def escapedChar? (c : Char) : Option Char :=
  if c = '"' then some '"'
  else if c = '\\' then some '\\'
  else if c = '/' then some '/'
  else if c = 'b' then some '\x08'
  else if c = 'f' then some '\x0c'
  else if c = 'n' then some '\n'
  else if c = 'r' then some '\r'
  else if c = 't' then some '\t'
  else none

/-- Passes over a string whose opening quote is behind; gives what follows the closing one. -/
def skipString : List Char → Except Problem (List Char)
  | [] => .error .endInString
  | '"' :: r => .ok r
  | ['\\'] => .error .endInString
  | '\\' :: 'u' :: a :: b :: c :: d :: r =>
    match hexQuad? a b c d with
    | some _ => skipString r
    | none => .error .badEscape
  | '\\' :: c :: r =>
    if c = 'u' then .error (hexProblem r)
    else
      match escapedChar? c with
      | some _ => skipString r
      | none => .error .badEscape
  | c :: r => if c.toNat < 0x20 then .error .controlCharacter else skipString r

/-- Puts a character in front of the text that was read. -/
def consRead (c : Char) (rest : Except Problem (List Char)) : Except Problem (List Char) :=
  rest.map (c :: ·)

/-- What is wrong after the first half of an escaped pair when no second half follows. -/
def pairProblem : List Char → Problem
  | [] => .endInString
  | ['\\'] => .endInString
  | '\\' :: 'u' :: r => hexProblem r
  | _ => .halfEscape

/-- The characters of a string whose opening quote is behind. -/
def readString : List Char → Except Problem (List Char)
  | [] => .error .endInString
  | '"' :: _ => .ok []
  | ['\\'] => .error .endInString
  | '\\' :: 'u' :: a :: b :: c :: d :: '\\' :: 'u' :: e :: f :: g :: h :: r =>
    match hexQuad? a b c d with
    | none => .error .badEscape
    | some n =>
      if 0xdc00 ≤ n && n ≤ 0xdfff then .error .loneSurrogate
      else if 0xd800 ≤ n && n ≤ 0xdbff then
        match hexQuad? e f g h with
        | none => .error .badEscape
        | some m =>
          if 0xdc00 ≤ m && m ≤ 0xdfff then
            consRead (Char.ofNat (0x10000 + (n - 0xd800) * 0x400 + (m - 0xdc00))) (readString r)
          else .error .loneSurrogate
      else consRead (Char.ofNat n) (readString ('\\' :: 'u' :: e :: f :: g :: h :: r))
  | '\\' :: 'u' :: a :: b :: c :: d :: r =>
    match hexQuad? a b c d with
    | none => .error .badEscape
    | some n =>
      if 0xdc00 ≤ n && n ≤ 0xdfff then .error .loneSurrogate
      else if 0xd800 ≤ n && n ≤ 0xdbff then .error (pairProblem r)
      else consRead (Char.ofNat n) (readString r)
  | '\\' :: c :: r =>
    if c = 'u' then .error (hexProblem r)
    else
      match escapedChar? c with
      | some c => consRead c (readString r)
      | none => .error .badEscape
  | c :: r => if c.toNat < 0x20 then .error .controlCharacter else consRead c (readString r)

/-- The text of a string whose opening quote is behind. -/
def readText (cs : List Char) : Except Problem String :=
  (readString cs).map String.ofList

/-! ## Numbers -/

/-- The parts of a number as it is written. -/
structure NumberForm where
  /-- Whether a minus sign comes first. -/
  negative : Bool
  /-- The digits before the point. -/
  whole : List Char
  /-- The digits after the point, if there is one. -/
  fraction : Option (List Char)
  /-- Whether the exponent is negative, and its digits, if there is one. -/
  exponent : Option (Bool × List Char)

/-- Why a number breaks off: at the end of the text, or at a character that does not belong
there. -/
inductive NumberBreak where
  | atEnd
  | atChar

/-- A break where `rest` begins. -/
def NumberBreak.ofRest (rest : List Char) : NumberBreak :=
  if rest.isEmpty then .atEnd else .atChar

/-- The digits at the start, of which there must be one, and what follows them. -/
def takeDigits (cs : List Char) : Except NumberBreak (List Char × List Char) :=
  let digits := cs.takeWhile Char.isDigit
  if digits.isEmpty then .error (.ofRest cs) else .ok (digits, cs.dropWhile Char.isDigit)

/-- The digits before the point: a zero is the only digit, or it is not the first one. -/
def takeWhole : List Char → Except NumberBreak (List Char × List Char)
  | '0' :: c :: r => if c.isDigit then .error .atChar else .ok (['0'], c :: r)
  | cs => takeDigits cs

/-- The digits after the point, if a point follows. -/
def takeFraction : List Char → Except NumberBreak (Option (List Char) × List Char)
  | '.' :: r => (takeDigits r).map fun (digits, rest) => (some digits, rest)
  | cs => .ok (none, cs)

/-- The sign and the digits of the exponent, if one follows. -/
def takeExponent : List Char → Except NumberBreak (Option (Bool × List Char) × List Char)
  | [] => .ok (none, [])
  | c :: r =>
    if c = 'e' || c = 'E' then
      let (negative, r) :=
        match r with
        | '-' :: r => (true, r)
        | '+' :: r => (false, r)
        | r => (false, r)
      (takeDigits r).map fun (digits, rest) => (some (negative, digits), rest)
    else .ok (none, c :: r)

/-- The parts of the number that starts here, and what follows it. -/
def takeNumber (cs : List Char) : Except NumberBreak (NumberForm × List Char) := do
  let (negative, cs) :=
    match cs with
    | '-' :: r => (true, r)
    | r => (false, r)
  let (whole, cs) ← takeWhole cs
  let (fraction, cs) ← takeFraction cs
  let (exponent, cs) ← takeExponent cs
  return (⟨negative, whole, fraction, exponent⟩, cs)

/-- The value of a decimal digit. -/
def digitValue (c : Char) : Nat :=
  c.toNat - 48

/-- Takes digits into a number of 64 bits until the next one does not fit; gives the number and the
digits left over. -/
def gatherDigits (n : Nat) : List Char → Nat × List Char
  | [] => (n, [])
  | c :: r =>
    if n * 10 + digitValue c < UInt64.size then gatherDigits (n * 10 + digitValue c) r
    else (n, c :: r)

/-- The number with the given parts.  Without point and exponent it is an integer, if it fits 64
bits; minus zero does not. -/
def NumberForm.number (form : NumberForm) : Except Problem Number :=
  let (n, left) := gatherDigits 0 form.whole
  let float (significand : Nat) (place : Int) : Except Problem Number :=
    match Binary64.ofDecimal form.negative significand place with
    | some x => .ok (.float x)
    | none => .error .hugeNumber
  if form.fraction.isNone && form.exponent.isNone && left.isEmpty then
    if !form.negative then .ok (.integer n)
    else if 0 < n && n ≤ 9223372036854775808 then .ok (.integer (-n))
    else float n 0
  else
    let digits := form.fraction.getD []
    let (m, dropped) := gatherDigits n digits
    let place : Int := (left.length : Int) - ((digits.length : Int) - (dropped.length : Int))
    match form.exponent with
    | none => float m place
    | some (negative, digits) =>
      let e := digits.foldl (fun e c => e * 10 + digitValue c) 0
      if 2147483647 < e then
        if m ≠ 0 && !negative then .error .hugeNumber else float 0 0
      else float m (if negative then place - e else place + e)

end Accord.Json
