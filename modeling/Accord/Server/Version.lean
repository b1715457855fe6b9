import Accord.Error

/-!
# Server versions

A server reports its version as a text such as `15.3 (Debian 15.3-1)`, `16beta1` or `9.6.24`.  Up
to three numbers are read off the first word; numbers that are not given count as zero, and
whatever follows them is dropped.
-/

namespace Accord

/-- The version of a server. -/
structure Version where
  major : Nat
  minor : Nat
  patch : Nat
deriving DecidableEq, Repr

namespace Version

/-- The version with all three numbers. -/
def render (v : Version) : String :=
  toString v.major ++ "." ++ toString v.minor ++ "." ++ toString v.patch

/-- Whether the version is `major.minor` or a later one. -/
def atLeast (v : Version) (major minor : Nat) : Bool :=
  major < v.major || (major = v.major && minor ≤ v.minor)

/-- The pieces between points; there is always one, which may be empty. -/
def splitPoints : List Char → List (List Char)
  | [] => [[]]
  | c :: r =>
    match splitPoints r with
    | [] => [[c]]
    | p :: ps => if c = '.' then [] :: p :: ps else (c :: p) :: ps

/-- The number that decimal digits write. -/
def ofDigits (digits : List Char) : Nat :=
  digits.foldl (fun n c => n * 10 + (c.toNat - 48)) 0

/-- The numbers at the start of the first `count` pieces, up to the first piece that is not all
digits.  Nothing if one of them needs more than 64 bits. -/
def components : Nat → List (List Char) → Option (List Nat)
  | 0, _ | _, [] => some []
  | count + 1, p :: ps =>
    let digits := p.takeWhile Char.isDigit
    if digits.isEmpty then some []
    else if UInt64.size ≤ ofDigits digits then none
    else if digits.length = p.length then
      (components count ps).map (ofDigits digits :: ·)
    else some [ofDigits digits]

/-- Reads a reported version. -/
def parse (raw : String) : Except Error Version :=
  match components 3 (splitPoints (Text.firstWord raw).toList) with
  | none => .error (.validation (.serverVersionRange raw))
  | some [] => .error (.validation (.serverVersion raw))
  | some numbers => .ok ⟨numbers.getD 0 0, numbers.getD 1 0, numbers.getD 2 0⟩

end Version

end Accord
