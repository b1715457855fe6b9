/-!
# Binary floating point numbers

Numbers with a point or an exponent are kept as 64-bit binary floating point numbers.  All
arithmetic here is exact arithmetic on natural numbers followed by one rounding to the nearest
representable number, ties going to the even mantissa.
-/

namespace Accord

/-- The finite number `± mantissa · 2 ^ exponent`. -/
structure Binary64 where
  /-- The sign; zero has one too. -/
  negative : Bool
  /-- Below `2 ^ 53`; at least `2 ^ 52` unless the exponent is the least one. -/
  mantissa : Nat
  /-- Between `-1074` and `971`. -/
  exponent : Int
deriving DecidableEq

namespace Binary64

/-- All mantissas are below `2 ^ 53`. -/
def mantissaLimit : Nat := 9007199254740992

/-- Zero, with the least exponent. -/
def zero : Binary64 := ⟨false, 0, -1074⟩

/-- `num / den` rounded to the nearest natural number, a tie going to the even one. -/
def roundHalfEven (num den : Nat) : Nat :=
  let q := num / den
  let twice := 2 * (num % den)
  if den < twice || (den == twice && q % 2 == 1) then q + 1 else q

/-- The quotient `num / den` times `2 ^ shift`, as a numerator and a denominator. -/
def scale (num den : Nat) (shift : Int) : Nat × Nat :=
  if 0 ≤ shift then (num <<< shift.toNat, den) else (num, den <<< (-shift).toNat)

/-- The number nearest to `num / den`; `none` when that is beyond the largest one. -/
def ofRatio (num den : Nat) : Option Binary64 :=
  if num = 0 then some zero
  else
    let guess : Int := (num.log2 : Int) - (den.log2 : Int) - 52
    let (n, d) := scale num den (-guess)
    let e := max (if n / d < mantissaLimit / 2 then guess - 1 else guess) (-1074)
    let (n, d) := scale num den (-e)
    let m := roundHalfEven n d
    let (m, e) := if m = mantissaLimit then (mantissaLimit / 2, e + 1) else (m, e)
    if 971 < e then none else some ⟨false, m, e⟩

/-- The magnitude as a numerator and a denominator. -/
def ratio (x : Binary64) : Nat × Nat :=
  scale x.mantissa 1 x.exponent

/-- The power of ten nearest to `10 ^ k`, for `k` up to 308. -/
def tenPower (k : Nat) : Binary64 :=
  (ofRatio (Nat.pow 10 k) 1).getD zero

/-- The rounded product of two magnitudes. -/
def mul (x y : Binary64) : Option Binary64 :=
  ofRatio (x.ratio.1 * y.ratio.1) (x.ratio.2 * y.ratio.2)

/-- The rounded quotient of two magnitudes. -/
def div (x y : Binary64) : Option Binary64 :=
  ofRatio (x.ratio.1 * y.ratio.2) (x.ratio.2 * y.ratio.1)

/-- Divides by `1e308` until the remaining exponent has a power of ten of its own.  At most three
steps leave the range of exponents that keep a number above zero. -/
def shrink : Nat → Binary64 → Nat → Binary64
  | 0, x, _ => x
  | fuel + 1, x, down =>
    if down ≤ 308 then (x.div (tenPower down)).getD zero
    else if x.mantissa = 0 then x
    else shrink fuel ((x.div (tenPower 308)).getD zero) (down - 308)

/-- The number written with the digits of `significand` and a decimal exponent: the significand is
rounded first, then multiplied or divided by a rounded power of ten.  `none` when it is too
large. -/
def ofDecimal (negative : Bool) (significand : Nat) (exponent : Int) : Option Binary64 :=
  match ofRatio significand 1 with
  | none => none
  | some x =>
    let magnitude :=
      if exponent < 0 then some (shrink 4 x (-exponent).toNat)
      else if exponent ≤ 308 then x.mul (tenPower exponent.toNat)
      else if x.mantissa = 0 then some x
      else none
    magnitude.map fun x => { x with negative }

/-! ## Shortest decimal text -/

/-- The largest `p` with `10 ^ p ≤ num / den`, where the quotient is not zero. -/
def decimalMagnitude (num den : Nat) : Int :=
  if den ≤ num then ((toString (num / den)).length : Int) - 1
  else
    -- `10 * den / num` rounded up has as many digits as places are needed
    let quotient := (den + num - 1) / num
    let places := (toString quotient).length
    if den ≤ num * Nat.pow 10 (places - 1) then -((places : Int) - 1) else -(places : Int)

/-- Whether the decimal `digits · 10 ^ place` is read back as the number itself: it lies between the
midpoints to the two neighbours, which count for an even mantissa. -/
def readsBack (x : Binary64) (digits : Nat) (place : Int) : Bool :=
  let (num, den) :=
    if 0 ≤ place then (digits * Nat.pow 10 place.toNat, 1) else (digits, Nat.pow 10 (-place).toNat)
  -- all in quarters of the last binary place
  let (n, d) := scale num den (2 - x.exponent)
  let above := 4 * x.mantissa + 2
  let below :=
    if x.mantissa = mantissaLimit / 2 ∧ -1074 < x.exponent then 4 * x.mantissa - 1
    else 4 * x.mantissa - 2
  if x.mantissa % 2 = 0 then below * d ≤ n && n ≤ above * d else below * d < n && n < above * d

/-- The decimal with `count` digits nearest to the number that reads back, if there is one. -/
def nearestDecimal (x : Binary64) (magnitude : Int) (count : Nat) : Option (Nat × Int) :=
  let place := magnitude - (count : Int) + 1
  let (n, d) := x.ratio
  let (n, d) :=
    if 0 ≤ place then (n, d * Nat.pow 10 place.toNat) else (n * Nat.pow 10 (-place).toNat, d)
  let low := n / d
  let nearest := roundHalfEven n d
  let other := if nearest = low then low + 1 else low
  if readsBack x nearest place then some (nearest, place)
  else if readsBack x other place then some (other, place)
  else none

/-- Removes zeros at the end of a decimal. -/
def dropZeros : Nat → Nat → Int → Nat × Int
  | 0, digits, place => (digits, place)
  | fuel + 1, digits, place =>
    if digits ≠ 0 ∧ digits % 10 = 0 then dropZeros fuel (digits / 10) (place + 1)
    else (digits, place)

/-- The decimal with the fewest digits that reads back. -/
def shortestDecimal (x : Binary64) : Nat × Int :=
  let (n, d) := x.ratio
  let magnitude := decimalMagnitude n d
  let found := ((List.range 17).map (· + 1)).findSome? (nearestDecimal x magnitude)
  let (digits, place) := found.getD (0, 0)
  dropZeros 18 digits place

/-- Positional notation is used from `1e-5` up to `1e16`; it always has a point.  Outside this range
there is an exponent with its sign. -/
def render (x : Binary64) : String :=
  let sign := if x.negative then "-" else ""
  if x.mantissa = 0 then sign ++ "0.0"
  else
    let (n, place) := shortestDecimal x
    let digits := toString n
    let count := digits.length
    let point : Int := count + place
    let zeros (k : Int) : String := .ofList (List.replicate k.toNat '0')
    let cut (k : Nat) : String :=
      .ofList (digits.toList.take k) ++ "." ++ .ofList (digits.toList.drop k)
    let body :=
      if 0 ≤ place && point ≤ 16 then digits ++ zeros place ++ ".0"
      else if 0 < point && point ≤ 16 then cut point.toNat
      else if -5 < point && point ≤ 0 then "0." ++ zeros (-point) ++ digits
      else
        (if count = 1 then digits else cut 1)
          ++ (if point ≤ 0 then "e" else "e+") ++ toString (point - 1)
    sign ++ body

end Binary64

end Accord
