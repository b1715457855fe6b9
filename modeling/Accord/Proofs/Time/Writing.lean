import Accord.Proofs.Text.Blank
import Accord.Proofs.Time.Calendar
import Accord.Time.Expiry
import Mathlib.Algebra.GroupWithZero.Nat
import Mathlib.Data.List.TakeWhile

/-!
# Times as they are written

A time is written with a year of four digits and two digits for everything else, with a space or the
letter `T` between the day and the clock, perhaps with digits after a point, and perhaps with the
offset of its zone.  The scans of a time take what was written off the start of a text, and leave
what comes after it.
-/

namespace Accord

/-! ## Digits -/

/-- The last digits of a number, as many as are asked for. -/
def decimal : Nat → Nat → List Char
  | 0, _ => []
  | count + 1, n => decimal count (n / 10) ++ [Nat.digitChar (n % 10)]

theorem digitChar_spec : ∀ {d : Nat}, d < 10 →
    (Nat.digitChar d).isDigit = true ∧ (Nat.digitChar d).toNat - 48 = d := by
  decide

theorem length_decimal (count n : Nat) : (decimal count n).length = count := by
  induction count generalizing n with
  | zero => rfl
  | succ count ih => rw [decimal, List.length_append, ih, List.length_singleton]

theorem isDigit_of_mem_decimal {count n : Nat} {c : Char} (h : c ∈ decimal count n) :
    c.isDigit = true := by
  induction count generalizing n with
  | zero => exact absurd h List.not_mem_nil
  | succ count ih =>
    rcases List.mem_append.1 h with h | h
    · exact ih h
    · rw [List.mem_singleton.1 h]
      exact (digitChar_spec (Nat.mod_lt n (by decide))).1

theorem takeWhile_decimal (count n : Nat) :
    (decimal count n).takeWhile Char.isDigit = decimal count n :=
  List.takeWhile_eq_self_iff.2 fun _ => isDigit_of_mem_decimal

/-- A number that is written starts with a digit. -/
theorem decimal_succ (count n : Nat) :
    ∃ d ds, decimal (count + 1) n = d :: ds ∧ d.isDigit = true := by
  have hlength := length_decimal (count + 1) n
  cases h : decimal (count + 1) n with
  | nil =>
    rw [h] at hlength
    exact nomatch hlength
  | cons d ds => exact ⟨d, ds, rfl, isDigit_of_mem_decimal (h ▸ List.mem_cons_self)⟩

namespace Scan

theorem ofDigits_concat (digits : List Char) (c : Char) :
    ofDigits (digits ++ [c]) = ofDigits digits * 10 + (c.toNat - 48) := by
  rw [ofDigits, List.foldl_append]
  rfl

theorem ofDigits_decimal {count n : Nat} (h : n < 10 ^ count) : ofDigits (decimal count n) = n := by
  induction count generalizing n with
  | zero =>
    obtain rfl : n = 0 := by omega
    rfl
  | succ count ih =>
    have hdigit := (digitChar_spec (Nat.mod_lt n (show 10 > 0 by decide))).2
    have hquot : n / 10 < 10 ^ count := by
      rw [Nat.pow_succ] at h
      omega
    rw [decimal, ofDigits_concat, ih hquot, hdigit]
    omega

theorem ofDigits_zeros (digits : List Char) (count : Nat) :
    ofDigits (digits ++ List.replicate count '0') = ofDigits digits * 10 ^ count := by
  induction count with
  | zero => simp
  | succ count ih =>
    rw [List.replicate_succ', ← List.append_assoc, ofDigits_concat, ih, Nat.pow_succ,
      Nat.mul_assoc]
    rfl

/-! ## Scans one after the other -/

section Bind

variable {α β : Type} {scan : Scan α} {f : α → Scan β} {cs rest : List Char}

theorem bind_some {a : α} (h : scan cs = some (a, rest)) : (scan >>= f) cs = f a rest := by
  show (scan cs).bind (fun p => f p.1 p.2) = _
  rw [h]
  rfl

theorem bind_none (h : scan cs = none) : (scan >>= f) cs = none := by
  show (scan cs).bind (fun p => f p.1 p.2) = _
  rw [h]
  rfl

theorem bind_get {f : List Char → Scan β} : (get >>= f) cs = f cs cs :=
  rfl

theorem bind_set {f : PUnit → Scan β} : (set rest >>= f) cs = f ⟨⟩ rest :=
  rfl

end Bind

variable {rest : List Char}

@[simp] theorem char_cons (c : Char) (rest : List Char) : char c (c :: rest) = some ((), rest) := by
  simp [char]

theorem digitsExactly_decimal {count n : Nat} (h : n < 10 ^ count) (rest : List Char) :
    digitsExactly count (decimal count n ++ rest) = some (n, rest) := by
  have htake : (decimal count n ++ rest).take count = decimal count n :=
    List.take_left' (length_decimal count n)
  have hdrop : (decimal count n ++ rest).drop count = rest :=
    List.drop_left' (length_decimal count n)
  unfold digitsExactly
  simp only [htake, hdrop, takeWhile_decimal, length_decimal, if_true, ofDigits_decimal h]

theorem digitsUpTo_decimal {count n : Nat} (h : n < 10 ^ (count + 1)) (rest : List Char) :
    digitsUpTo (count + 1) (decimal (count + 1) n ++ rest) = some (n, rest) := by
  have htake : (decimal (count + 1) n ++ rest).take (count + 1) = decimal (count + 1) n :=
    List.take_left' (length_decimal _ n)
  have hdrop : (decimal (count + 1) n ++ rest).drop (count + 1) = rest :=
    List.drop_left' (length_decimal _ n)
  have hne : (decimal (count + 1) n).isEmpty = false := by
    obtain ⟨d, ds, hcons, -⟩ := decimal_succ count n
    rw [hcons]
    rfl
  unfold digitsUpTo
  simp only [htake, takeWhile_decimal, length_decimal, hdrop, hne, ofDigits_decimal h,
    Bool.false_eq_true, if_false]

theorem blanks_of_not_isBlank {c : Char} (h : Text.isBlank c = false) (rest : List Char) :
    blanks (c :: rest) = some ((), c :: rest) := by
  simp [blanks, h]

theorem blanks_decimal (count n : Nat) (rest : List Char) :
    blanks (decimal (count + 1) n ++ rest) = some ((), decimal (count + 1) n ++ rest) := by
  obtain ⟨d, ds, hcons, hd⟩ := decimal_succ count n
  rw [hcons]
  exact blanks_of_not_isBlank (Text.isBlank_of_isDigit hd) _

theorem number_decimal {count n : Nat} (h : n < 10 ^ (count + 1)) (rest : List Char) :
    number (count + 1) (decimal (count + 1) n ++ rest) = some (n, rest) := by
  unfold number
  rw [bind_some (blanks_decimal count n rest), digitsUpTo_decimal h]

theorem year_decimal {n : Nat} (h : n < 10000) (rest : List Char) :
    year (decimal 4 n ++ rest) = some ((n : Int), rest) := by
  have hread := digitsUpTo_decimal (show n < 10 ^ (3 + 1) from h) rest
  unfold year
  rw [bind_some (blanks_decimal 3 n rest)]
  obtain ⟨d, ds, hcons, hd⟩ := decimal_succ 3 n
  rw [hcons] at hread ⊢
  have hminus : d ≠ '-' := by rintro rfl; exact absurd hd (by decide)
  have hplus : d ≠ '+' := by rintro rfl; exact absurd hd (by decide)
  rw [List.cons_append] at hread ⊢
  rw [bind_get]
  generalize hcs : d :: (ds ++ rest) = cs at hread ⊢
  split
  · exact absurd (List.cons.inj hcs).1 hminus
  · exact absurd (List.cons.inj hcs).1 hplus
  · rw [bind_some hread]
    rfl

end Scan

/-! ## Times -/

/-- A time in the years 1 to 9999, to the nanosecond. -/
structure CivilTime where
  wall : WallTime
  exist : wall.Exists
  year_range : 1 ≤ wall.date.year ∧ wall.date.year ≤ 9999
  nanosecond_lt : wall.nanosecond < 1000000000

/-- An offset of whole minutes, less than a day. -/
structure Offset where
  west : Bool
  hours : Nat
  minutes : Nat
  hours_le : hours ≤ 23
  minutes_le : minutes ≤ 59

namespace Offset

/-- The offset in seconds, positive to the east. -/
def seconds (o : Offset) : Int :=
  (if o.west then -1 else 1) * (o.hours * 3600 + o.minutes * 60)

/-- The hours with their sign. -/
def hour (o : Offset) : List Char :=
  (if o.west then '-' else '+') :: decimal 2 o.hours

/-- The hours with their sign, a colon and the minutes. -/
def full (o : Offset) : List Char :=
  o.hour ++ ':' :: decimal 2 o.minutes

theorem seconds_range (o : Offset) : -86400 < o.seconds ∧ o.seconds < 86400 := by
  have hhours := o.hours_le
  have hminutes := o.minutes_le
  unfold seconds
  split <;> omega

end Offset

/-- Digits that write a number of nanoseconds after the point: all nine of them, or fewer if what is
left out are zeros. -/
structure Fraction (nanosecond : Nat) where
  digits : List Char
  complete : digits ++ List.replicate (9 - digits.length) '0' = decimal 9 nanosecond

namespace Fraction

variable {n : Nat}

/-- The digits after a point; nothing if there are none. -/
def writing (f : Fraction n) : List Char :=
  match f.digits with
  | [] => []
  | digits => '.' :: digits

theorem length_le (f : Fraction n) : f.digits.length ≤ 9 := by
  have hlength := congrArg List.length f.complete
  rw [List.length_append, List.length_replicate, length_decimal] at hlength
  omega

theorem isDigit_of_mem (f : Fraction n) {c : Char} (h : c ∈ f.digits) : c.isDigit = true :=
  isDigit_of_mem_decimal (f.complete ▸ List.mem_append_left _ h)

theorem nanoseconds_digits (f : Fraction n) (h : n < 1000000000) :
    Scan.nanoseconds f.digits = n := by
  unfold Scan.nanoseconds
  rw [List.take_of_length_le f.length_le, Nat.pow_eq, ← Scan.ofDigits_zeros, f.complete,
    Scan.ofDigits_decimal (show n < 10 ^ 9 from h)]

theorem eq_zero_of_nil (f : Fraction n) (h : n < 1000000000) (hnil : f.digits = []) : n = 0 := by
  rw [← f.nanoseconds_digits h, hnil]
  rfl

end Fraction

/-- Year, month and day: `2030-01-31`. -/
def Date.writing (d : Date) : List Char :=
  decimal 4 d.year.toNat ++ '-' :: decimal 2 d.month ++ '-' :: decimal 2 d.day

/-- Hour, minute and second: `23:59:59`. -/
def WallTime.clock (t : WallTime) : List Char :=
  decimal 2 t.hour ++ ':' :: decimal 2 t.minute ++ ':' :: decimal 2 t.second

namespace CivilTime

theorem date_bounds (t : CivilTime) :
    t.wall.date.year.toNat < 10 ^ 4 ∧ t.wall.date.month < 10 ^ 2 ∧ t.wall.date.day < 10 ^ 2 := by
  have hyear := t.year_range
  have hmonth := t.exist.date.month
  have hday := t.exist.date.day
  have hlast := Date.daysInMonth_le t.wall.date.year t.wall.date.month
  refine ⟨by omega, by omega, by omega⟩

theorem clock_bounds (t : CivilTime) :
    t.wall.hour < 10 ^ 2 ∧ t.wall.minute < 10 ^ 2 ∧ t.wall.second < 10 ^ 2 := by
  have hhour := t.exist.hour
  have hminute := t.exist.minute
  have hsecond := t.exist.second
  refine ⟨by omega, by omega, by omega⟩

theorem date_ofNumbers (t : CivilTime) :
    Date.ofNumbers? t.wall.date.year.toNat t.wall.date.month t.wall.date.day =
      some t.wall.date := by
  have hyear := t.year_range
  have hcast : (t.wall.date.year.toNat : Int) = t.wall.date.year := by omega
  have hmonth := t.exist.date.month
  have hday := t.exist.date.day
  have hmin : Date.minYear ≤ t.wall.date.year := by unfold Date.minYear; omega
  have hmax : t.wall.date.year ≤ Date.maxYear := by unfold Date.maxYear; omega
  rw [hcast]
  exact if_pos ⟨hmin, hmax, hmonth.1, hmonth.2, hday.1, hday.2⟩

theorem wall_ofNumbers (t : CivilTime) :
    WallTime.ofNumbers? t.wall.date t.wall.hour t.wall.minute t.wall.second t.wall.nanosecond =
      some t.wall := by
  have hsecond := t.exist.second
  unfold WallTime.ofNumbers?
  rw [if_pos ⟨t.exist.hour, t.exist.minute, by omega⟩, if_neg (by omega)]

/-- The time at an offset. -/
def zoned (t : CivilTime) (o : Offset) : ZonedTime :=
  ⟨t.wall, o.seconds⟩

theorem exists_zoned (t : CivilTime) (o : Offset) : (t.zoned o).Exists :=
  ⟨t.exist, o.seconds_range⟩

theorem ofOffset (t : CivilTime) (o : Offset) :
    ZonedTime.ofOffset? t.wall o.seconds = some (t.zoned o) := by
  obtain ⟨hwest, heast⟩ := o.seconds_range
  obtain ⟨hfirst, hlast⟩ := t.exist.date.dayNumber_in_year
  have hyear := t.year_range
  have hclock := t.exist.secondOfDay_lt
  have hafter := Date.daysBeforeYear_mono (show t.wall.date.year + 1 ≤ 10000 by omega)
  have hbefore := Date.daysBeforeYear_mono hyear.1
  have hlow : Date.daysBeforeYear Date.minYear * 86400 ≤ (t.zoned o).instant.1 := by
    have hconst : Date.daysBeforeYear Date.minYear < 0 := by decide
    show _ ≤ t.wall.date.dayNumber * 86400 + t.wall.secondOfDay - o.seconds
    have hone : Date.daysBeforeYear 1 = 366 := by decide
    omega
  have hhigh : (t.zoned o).instant.1 < Date.daysBeforeYear (Date.maxYear + 1) * 86400 := by
    have hconst : Date.daysBeforeYear 10000 + 2 < Date.daysBeforeYear (Date.maxYear + 1) := by
      decide
    show t.wall.date.dayNumber * 86400 + t.wall.secondOfDay - o.seconds < _
    omega
  exact if_pos ⟨hwest, heast, hlow, hhigh⟩

end CivilTime

/-- The day and the clock, with a character between them. -/
def CivilTime.writing (t : CivilTime) (between : Char) (f : Fraction t.wall.nanosecond) :
    List Char :=
  t.wall.date.writing ++ between :: t.wall.clock ++ f.writing

namespace Scan

/-- What comes next is neither a digit nor a point. -/
def Stops (rest : List Char) : Prop :=
  ∀ c ∈ rest.head?, c.isDigit = false ∧ c ≠ '.'

variable {rest : List Char}

theorem fraction_of_stops (hrest : Stops rest) : fraction rest = some (0, rest) := by
  unfold fraction
  rw [bind_get]
  split
  · exact absurd rfl (hrest '.' rfl).2
  · rfl

theorem fraction_writing {n : Nat} (f : Fraction n) (hn : n < 1000000000) (hrest : Stops rest) :
    fraction (f.writing ++ rest) = some (n, rest) := by
  have hnanos := f.nanoseconds_digits hn
  have hhead : ∀ c ∈ rest.head?, c.isDigit = false := fun c hc => (hrest c hc).1
  have htake := Text.takeWhile_append_of_head (fun _ => f.isDigit_of_mem) hhead
  have hdrop := Text.dropWhile_append_of_head (fun _ => f.isDigit_of_mem) hhead
  cases hf : f.digits with
  | nil =>
    obtain rfl := f.eq_zero_of_nil hn hf
    have hwriting : f.writing = [] := by rw [Fraction.writing, hf]
    rw [hwriting, List.nil_append, fraction_of_stops hrest]
  | cons d ds =>
    have hwriting : f.writing = '.' :: (d :: ds) := by rw [Fraction.writing, hf]
    rw [hf] at hnanos htake hdrop
    have hread : digits (d :: ds ++ rest) = some (d :: ds, rest) := by
      unfold digits
      rw [htake, hdrop]
      rfl
    unfold fraction
    rw [hwriting, bind_get]
    show (set (d :: ds ++ rest) >>= fun _ => digits >>= fun ds => pure (nanoseconds ds)) _ = _
    rw [bind_set, bind_some hread, hnanos]
    rfl

end Scan

end Accord
