import Accord.Text.Blank
import Accord.Time.Calendar

/-!
# Expiry of passwords

A password expires at a time that the catalog and the declaration may write differently.
`Expiry.parse` reads all accepted notations, and `expiryMatches` says when a declaration is met:
times with a zone are compared as instants, a time without a zone with what the other shows on the
wall, anything else as text, and an empty declaration is always met.
-/

namespace Accord

/-- What a password expiry says. -/
inductive Expiry where
  | infinity
  | zoned (t : ZonedTime)
  /-- At a time of the wall clock, wherever that hangs. -/
  | wall (t : WallTime)
  /-- A text that is none of the notations. -/
  | unread (s : String)
deriving DecidableEq

/-- The word for a password that never expires. -/
def Expiry.never : String := "infinity"

/-! ## Notations -/

/-- Reads something off the start of a text; nothing when it is not there. -/
abbrev Scan (α : Type) := StateT (List Char) Option α

namespace Scan

/-- Fails, whatever the text is. -/
def fail {α : Type} : Scan α := fun _ => none

/-- Passes over blanks. -/
def blanks : Scan Unit := fun cs =>
  some ((), cs.dropWhile Text.isBlank)

/-- Passes over one given character. -/
def char (c : Char) : Scan Unit := fun cs =>
  match cs with
  | [] => none
  | d :: r => if d = c then some ((), r) else none

/-- Succeeds at the end of the text. -/
def atEnd : Scan Unit := fun cs =>
  if cs.isEmpty then some ((), []) else none

/-- The number that decimal digits write. -/
def ofDigits (digits : List Char) : Nat :=
  digits.foldl (fun n c => n * 10 + (c.toNat - 48)) 0

/-- All digits that come next, of which there must be one. -/
def digits : Scan (List Char) := fun cs =>
  let found := cs.takeWhile Char.isDigit
  if found.isEmpty then none else some (found, cs.dropWhile Char.isDigit)

/-- From one to `max` digits. -/
def digitsUpTo (max : Nat) : Scan Nat := fun cs =>
  let found := (cs.take max).takeWhile Char.isDigit
  if found.isEmpty then none else some (ofDigits found, cs.drop found.length)

/-- Exactly `count` digits. -/
def digitsExactly (count : Nat) : Scan Nat := fun cs =>
  let found := (cs.take count).takeWhile Char.isDigit
  if found.length = count then some (ofDigits found, cs.drop count) else none

/-- A number of up to `max` digits after any blanks. -/
def number (max : Nat) : Scan Nat := do
  blanks
  digitsUpTo max

/-- A year after any blanks: up to four digits, or a sign and any number of digits. -/
def year : Scan Int := do
  blanks
  match ← get with
  | '-' :: r => do
    set r
    return -(ofDigits (← digits))
  | '+' :: r => do
    set r
    return ofDigits (← digits)
  | _ => do
    return ← digitsUpTo 4

/-- The nanoseconds that digits after a point write; what follows the ninth digit is dropped. -/
def nanoseconds (digits : List Char) : Nat :=
  ofDigits (digits.take 9) * Nat.pow 10 (9 - digits.length)

/-- A fraction of a second, if a point follows. -/
def fraction : Scan Nat := do
  match ← get with
  | '.' :: r => do
    set r
    return nanoseconds (← digits)
  | _ => return 0

/-- The sign of an offset; the minus sign of typesetting counts. -/
def sign : Scan Int := fun cs =>
  match cs with
  | [] => none
  | c :: r =>
    if c = '+' then some (1, r)
    else if c = '-' || c = '\u2212' then some (-1, r)
    else none

/-- Whether the text goes on with a `Z`, which is passed over. -/
def zulu : Scan Bool := fun cs =>
  match cs with
  | 'Z' :: r | 'z' :: r => some (true, r)
  | cs => some (false, cs)

/-- An offset with hours, a colon and minutes. -/
def strictOffset : Scan Int := do
  if ← zulu then return 0
  let s ← sign
  let h ← digitsExactly 2
  char ':'
  let m ← digitsExactly 2
  if m ≤ 59 then return s * (h * 3600 + m * 60) else fail

/-- An offset after any blanks: hours, then any run of colons and blanks, then minutes or the end of
the text. -/
def looseOffset : Scan Int := do
  blanks
  if ← zulu then return 0
  let s ← sign
  let h ← digitsExactly 2
  modify fun cs => cs.dropWhile fun c => c = ':' || Text.isBlank c
  if (← get).isEmpty then return s * (h * 3600)
  let m ← digitsExactly 2
  if m ≤ 59 then return s * (h * 3600 + m * 60) else fail

/-- A value, if there is one; otherwise the scan fails. -/
def lift {α : Type} : Option α → Scan α
  | none => fail
  | some a => pure a

/-- A time with a zone, all fields in full: `2030-01-31T23:59:59.5+02:00`. -/
def strictZoned : Scan ZonedTime := do
  let y ← digitsExactly 4
  char '-'
  let m ← digitsExactly 2
  char '-'
  let d ← digitsExactly 2
  match ← get with
  | 'T' :: r | 't' :: r | ' ' :: r => set r
  | _ => fail
  let h ← digitsExactly 2
  char ':'
  let min ← digitsExactly 2
  char ':'
  let sec ← digitsExactly 2
  let nanos ← fraction
  let offset ← strictOffset
  atEnd
  let date ← lift (Date.ofNumbers? y m d)
  let wall ← lift (WallTime.ofNumbers? date h min sec nanos)
  lift (ZonedTime.ofOffset? wall offset)

/-- A date with hyphens: `2030-1-31`. -/
def looseDate : Scan Date := do
  let y ← year
  char '-'
  let m ← number 2
  char '-'
  let d ← number 2
  lift (Date.ofNumbers? y m d)

/-- A clock time with colons and perhaps a fraction of a second. -/
def looseClock (date : Date) : Scan WallTime := do
  let h ← number 2
  char ':'
  let min ← number 2
  char ':'
  let sec ← number 2
  let nanos ← fraction
  lift (WallTime.ofNumbers? date h min sec nanos)

/-- A date, any blanks, a clock time and an offset: `2030-01-31 23:59:59.5+02`. -/
def looseZoned : Scan ZonedTime := do
  let date ← looseDate
  blanks
  let wall ← looseClock date
  let offset ← looseOffset
  atEnd
  lift (ZonedTime.ofOffset? wall offset)

/-- A date, any blanks and a clock time. -/
def looseWall : Scan WallTime := do
  let date ← looseDate
  blanks
  let wall ← looseClock date
  atEnd
  return wall

/-- A date, the letter `T` and a clock time. -/
def looseWallWithT : Scan WallTime := do
  let date ← looseDate
  char 'T'
  let wall ← looseClock date
  atEnd
  return wall

/-- A date alone, which means its midnight. -/
def dateOnly : Scan WallTime := do
  let date ← looseDate
  atEnd
  return .midnight date

/-- What a scan makes of a text. -/
def run? {α : Type} (scan : Scan α) (s : String) : Option α :=
  (scan s.toList).map Prod.fst

end Scan

/-- The times with a zone that a text can write. -/
def zonedNotations : List (Scan ZonedTime) := [Scan.strictZoned, Scan.looseZoned]

/-- The times without a zone that a text can write. -/
def wallNotations : List (Scan WallTime) := [Scan.looseWall, Scan.looseWallWithT, Scan.dateOnly]

/-- Reads an expiry; the first notation that fits counts. -/
def Expiry.parse (raw : String) : Expiry :=
  let s := Text.trim raw
  if Text.sameIgnoringCase s Expiry.never then .infinity
  else
    match zonedNotations.findSome? fun n => n.run? s with
    | some t => .zoned t
    | none =>
      match wallNotations.findSome? fun n => n.run? s with
      | some t => .wall t
      | none => .unread s

/-- Whether two expiries are the same time. -/
def Expiry.agrees : Expiry → Expiry → Bool
  | .infinity, .infinity => true
  | .zoned a, .zoned b => a.instant = b.instant
  | .zoned a, .wall b => a.wall = b
  | .wall a, .zoned b => a = b.wall
  | .wall a, .wall b => a = b
  | .unread a, .unread b => a = b
  | _, _ => false

/-- Whether an observed expiry is the declared one.  A blank declaration is met by any expiry. -/
def expiryMatches (observed declared : String) : Bool :=
  Text.trim declared = "" || (Expiry.parse observed).agrees (Expiry.parse declared)

theorem Expiry.agrees_self (e : Expiry) : e.agrees e = true := by
  cases e <;> simp [agrees]

theorem expiryMatches_self (e : String) : expiryMatches e e = true := by
  unfold expiryMatches
  rw [Expiry.agrees_self, Bool.or_true]

end Accord
