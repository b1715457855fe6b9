import Accord.Proofs.Text.Blank
import Accord.Proofs.Time.Reading

/-!
# Comparing expiries

The catalog and a declaration write an expiry in different notations.  Whatever they look like, two
times with a zone agree if and only if they are the same instant, and a time without a zone agrees
with one that has a zone if and only if calendar and clock show the same
(`expiryMatches_iff_same_time`).  The order of the two texts and blanks around them do not matter.
-/

namespace Accord

/-! ## The notations of expiries -/

/-- Some characters with blanks around them, or without. -/
def Text.Holds (s : String) (core : List Char) : Prop :=
  ∃ front back, (∀ c ∈ front, isBlank c = true) ∧ (∀ c ∈ back, isBlank c = true) ∧
    s.toList = front ++ core ++ back

namespace CivilTime

variable (t : CivilTime)

/-- A time as the catalog shows it: `2030-01-31 23:59:59.5+02`.  The minutes of the offset can be
left out if there are none. -/
def ShownByCatalog (o : Offset) (s : String) : Prop :=
  ∃ f : Fraction t.wall.nanosecond, Text.Holds s (t.writing ' ' f ++ o.full) ∨
    o.minutes = 0 ∧ Text.Holds s (t.writing ' ' f ++ o.hour)

/-- A time that is declared with its offset: `2030-01-31T23:59:59.5+02:00`. -/
def DeclaredWithZone (o : Offset) (s : String) : Prop :=
  ∃ f : Fraction t.wall.nanosecond, Text.Holds s (t.writing 'T' f ++ o.full)

/-- A time that is declared without an offset: `2030-01-31T23:59:59.5`, the same with a space, or a
midnight as `2030-01-31`. -/
def DeclaredWithoutZone (s : String) : Prop :=
  (∃ f : Fraction t.wall.nanosecond, Text.Holds s (t.writing ' ' f) ∨
    Text.Holds s (t.writing 'T' f)) ∨
    t.wall = .midnight t.wall.date ∧ Text.Holds s t.wall.date.writing

end CivilTime

/-! ## Characters that trimming leaves -/

/-- The characters start and end with a digit. -/
structure BetweenDigits (cs : List Char) : Prop where
  head : ∃ d rest, cs = d :: rest ∧ d.isDigit = true
  last : ∃ rest d, cs = rest ++ [d] ∧ d.isDigit = true

namespace BetweenDigits

theorem decimal (count n : Nat) : BetweenDigits (decimal (count + 1) n) :=
  ⟨decimal_succ count n, _, _, rfl, (digitChar_spec (Nat.mod_lt n (by decide))).1⟩

theorem append {cs cs' : List Char} (h : BetweenDigits cs) (h' : BetweenDigits cs')
    (between : List Char) : BetweenDigits (cs ++ between ++ cs') := by
  obtain ⟨d, rest, rfl, hd⟩ := h.head
  obtain ⟨rest', d', rfl, hd'⟩ := h'.last
  exact ⟨⟨d, rest ++ between ++ (rest' ++ [d']), by simp, hd⟩,
    d :: rest ++ between ++ rest', d', by simp, hd'⟩

theorem date (d : Date) : BetweenDigits d.writing := by
  have hmonth := (decimal 3 d.year.toNat).append (decimal 1 d.month) ['-']
  simpa [Date.writing] using hmonth.append (decimal 1 d.day) ['-']

theorem clock (t : WallTime) : BetweenDigits t.clock := by
  have hminute := (decimal 1 t.hour).append (decimal 1 t.minute) [':']
  simpa [WallTime.clock] using hminute.append (decimal 1 t.second) [':']

theorem writing (t : CivilTime) (between : Char) (f : Fraction t.wall.nanosecond) :
    BetweenDigits (t.writing between f) := by
  have htime := (date t.wall.date).append (clock t.wall) [between]
  have hwriting : t.writing between f =
      t.wall.date.writing ++ [between] ++ t.wall.clock ++ f.writing := by
    simp [CivilTime.writing]
  rw [hwriting]
  cases hf : f.digits with
  | nil =>
    have hnone : f.writing = [] := by rw [Fraction.writing, hf]
    rw [hnone, List.append_nil]
    exact htime
  | cons d ds =>
    have hdigits : BetweenDigits f.digits := by
      refine ⟨⟨d, ds, hf, f.isDigit_of_mem (hf ▸ List.mem_cons_self)⟩, ?_⟩
      have hne : f.digits ≠ [] := hf ▸ List.cons_ne_nil d ds
      exact ⟨_, _, (List.dropLast_concat_getLast hne).symm,
        f.isDigit_of_mem (List.getLast_mem hne)⟩
    have hpoint : f.writing = ['.'] ++ f.digits := by
      rw [Fraction.writing, hf]
      rfl
    rw [hpoint, ← List.append_assoc]
    exact htime.append hdigits ['.']

theorem hour {cs : List Char} (h : BetweenDigits cs) (o : Offset) :
    BetweenDigits (cs ++ o.hour) := by
  simpa [Offset.hour] using h.append (decimal 1 o.hours) [if o.west then '-' else '+']

theorem full {cs : List Char} (h : BetweenDigits cs) (o : Offset) :
    BetweenDigits (cs ++ o.full) := by
  simpa [Offset.full] using (h.hour o).append (decimal 1 o.minutes) [':']

end BetweenDigits

namespace Text.Holds

variable {s : String} {core : List Char}

theorem trim_eq (h : Text.Holds s core) (hcore : BetweenDigits core) :
    Text.trim s = String.ofList core := by
  obtain ⟨front, back, hfront, hback, hs⟩ := h
  unfold Text.trim
  rw [hs, Text.trimChars_around hfront hback]
  · obtain ⟨d, rest, rfl, hd⟩ := hcore.head
    rintro c ⟨⟩
    exact Text.isBlank_of_isDigit hd
  · obtain ⟨rest, d, rfl, hd⟩ := hcore.last
    rw [List.getLast?_concat]
    rintro c ⟨⟩
    exact Text.isBlank_of_isDigit hd

end Text.Holds

/-! ## What is read -/

namespace Expiry

variable {s : String} {core : List Char}

/-- What starts with a digit is not the word for never. -/
theorem sameIgnoringCase_never (hcore : BetweenDigits core) :
    Text.sameIgnoringCase (String.ofList core) never = false := by
  obtain ⟨d, rest, rfl, hd⟩ := hcore.head
  have hlower : d.toLower = d := by
    refine dif_neg fun hcapital => ?_
    have hlow : 'A'.val.toNat ≤ d.val.toNat := hcapital.1
    have hhigh : d.val.toNat ≤ '9'.val.toNat := by
      simp only [Char.isDigit, Bool.and_eq_true, decide_eq_true_eq] at hd
      exact hd.2
    exact absurd (hlow.trans hhigh) (by decide)
  have hne : (String.ofList (d :: rest)).toLower ≠ never.toLower := by
    intro h
    have hchars : ((String.ofList (d :: rest)).map Char.toLower).toList = never.toLower.toList :=
      congrArg String.toList h
    rw [String.toList_map, String.toList_ofList, List.map_cons, hlower] at hchars
    have hnever : never.toLower.toList.head? = some 'i' := by decide +kernel
    rw [← hchars, List.head?_cons, Option.some.injEq] at hnever
    rw [hnever] at hd
    exact absurd hd (by decide)
  simpa [Text.sameIgnoringCase] using hne

theorem parse_of_blank (h : Text.trim s = "") : parse s = .unread "" := by
  unfold parse
  rw [h]
  decide +kernel

/-- What the first of the notations that fits makes of some characters. -/
def firstReading {α : Type} (notations : List (Scan α)) (core : List Char) : Option α :=
  notations.findSome? fun n => (n core).map Prod.fst

theorem parse_of_zoned (h : Text.Holds s core) (hcore : BetweenDigits core) {t : ZonedTime}
    (ht : firstReading zonedNotations core = some t) : parse s = .zoned t := by
  unfold firstReading at ht
  unfold parse
  simp only [h.trim_eq hcore, sameIgnoringCase_never hcore, Bool.false_eq_true, if_false,
    Scan.run?, String.toList_ofList, ht]

theorem parse_of_wall (h : Text.Holds s core) (hcore : BetweenDigits core) {t : WallTime}
    (hzoned : firstReading zonedNotations core = none)
    (ht : firstReading wallNotations core = some t) : parse s = .wall t := by
  unfold firstReading at hzoned ht
  unfold parse
  simp only [h.trim_eq hcore, sameIgnoringCase_never hcore, Bool.false_eq_true, if_false,
    Scan.run?, String.toList_ofList, hzoned, ht]

end Expiry

namespace CivilTime

open Expiry Scan

variable {t : CivilTime} {o : Offset} {s : String}

theorem zoned_full {between : Char} (hbetween : between = 'T' ∨ between = ' ')
    (f : Fraction t.wall.nanosecond) :
    firstReading zonedNotations (t.writing between f ++ o.full) = some (t.zoned o) := by
  have hstrict : strictZoned (t.writing between f ++ o.full) = some (t.zoned o, []) := by
    rw [strictZoned_writing t hbetween f (stops_full o), bind_some (strictOffset_full o),
      t.ofOffset]
    rfl
  simp only [firstReading, zonedNotations, List.findSome?_cons, hstrict, Option.map_some]

theorem zoned_hour (f : Fraction t.wall.nanosecond) (ho : o.minutes = 0) :
    firstReading zonedNotations (t.writing ' ' f ++ o.hour) = some (t.zoned o) := by
  have hstrict : strictZoned (t.writing ' ' f ++ o.hour) = none := by
    rw [strictZoned_writing t (.inr rfl) f (stops_hour o), bind_none (strictOffset_hour o)]
  have hloose : looseZoned (t.writing ' ' f ++ o.hour) = some (t.zoned o, []) := by
    rw [looseZoned_writing t f (stops_hour o), bind_some (looseOffset_hour o ho), t.ofOffset]
    rfl
  simp only [firstReading, zonedNotations, List.findSome?_cons, hstrict, hloose, Option.map_none,
    Option.map_some]

/-- Without an offset, no notation with a zone fits. -/
theorem zoned_writing {between : Char} (hbetween : between = 'T' ∨ between = ' ')
    (f : Fraction t.wall.nanosecond) :
    firstReading zonedNotations (t.writing between f) = none := by
  have hstrict : strictZoned (t.writing between f) = none := by
    rw [← List.append_nil (t.writing between f), strictZoned_writing t hbetween f stops_nil]
    rfl
  have hloose : looseZoned (t.writing between f) = none := by
    rcases hbetween with rfl | rfl
    · exact looseZoned_letter t f
    · rw [← List.append_nil (t.writing ' ' f), looseZoned_writing t f stops_nil]
      rfl
  simp only [firstReading, zonedNotations, List.findSome?_cons, hstrict, hloose, Option.map_none,
    List.findSome?_nil]

theorem zoned_date : firstReading zonedNotations t.wall.date.writing = none := by
  simp only [firstReading, zonedNotations, List.findSome?_cons, strictZoned_date,
    looseZoned_date, Option.map_none, List.findSome?_nil]

theorem wall_writing {between : Char} (hbetween : between = 'T' ∨ between = ' ')
    (f : Fraction t.wall.nanosecond) :
    firstReading wallNotations (t.writing between f) = some t.wall := by
  rcases hbetween with rfl | rfl
  · simp only [firstReading, wallNotations, List.findSome?_cons, looseWall_letter,
      looseWallWithT_writing, Option.map_none, Option.map_some]
  · simp only [firstReading, wallNotations, List.findSome?_cons, looseWall_writing,
      Option.map_some]

theorem wall_date :
    firstReading wallNotations t.wall.date.writing = some (.midnight t.wall.date) := by
  simp only [firstReading, wallNotations, List.findSome?_cons, looseWall_date,
    looseWallWithT_date, dateOnly_writing, Option.map_none, Option.map_some]

theorem ShownByCatalog.parse_eq (h : t.ShownByCatalog o s) : parse s = .zoned (t.zoned o) := by
  obtain ⟨f, hfull | ⟨ho, hhour⟩⟩ := h
  · exact parse_of_zoned hfull ((BetweenDigits.writing t ' ' f).full o)
      (zoned_full (.inr rfl) f)
  · exact parse_of_zoned hhour ((BetweenDigits.writing t ' ' f).hour o) (zoned_hour f ho)

theorem DeclaredWithZone.parse_eq (h : t.DeclaredWithZone o s) :
    parse s = .zoned (t.zoned o) := by
  obtain ⟨f, hfull⟩ := h
  exact parse_of_zoned hfull ((BetweenDigits.writing t 'T' f).full o) (zoned_full (.inl rfl) f)

theorem DeclaredWithoutZone.parse_eq (h : t.DeclaredWithoutZone s) : parse s = .wall t.wall := by
  rcases h with ⟨f, hspace | hletter⟩ | ⟨hmidnight, hdate⟩
  · exact parse_of_wall hspace (.writing t ' ' f) (zoned_writing (.inr rfl) f)
      (wall_writing (.inr rfl) f)
  · exact parse_of_wall hletter (.writing t 'T' f) (zoned_writing (.inl rfl) f)
      (wall_writing (.inl rfl) f)
  · rw [hmidnight]
    exact parse_of_wall hdate (.date t.wall.date) zoned_date wall_date

end CivilTime

theorem expiryMatches_of_read {observed declared : String}
    (h : ∀ e, Expiry.parse declared ≠ .unread e) :
    expiryMatches observed declared =
      (Expiry.parse observed).agrees (Expiry.parse declared) := by
  unfold expiryMatches
  rw [decide_eq_false fun hblank => h "" (Expiry.parse_of_blank hblank), Bool.false_or]

/-- A declared time agrees with the one in the catalog if and only if both are the same instant: in
the zone without offset, calendar and clock show the same.  A time that is declared without a zone
agrees if and only if the catalog shows the same day and clock. -/
theorem expiryMatches_iff_same_time {observed declared : String} {a b : CivilTime} {o : Offset}
    (hobserved : a.ShownByCatalog o observed) :
    (∀ p, b.DeclaredWithZone p declared →
      (expiryMatches observed declared = true ↔ (a.zoned o).universal = (b.zoned p).universal) ∧
      (expiryMatches declared observed = true ↔ (a.zoned o).universal = (b.zoned p).universal)) ∧
    (b.DeclaredWithoutZone declared →
      (expiryMatches observed declared = true ↔ a.wall = b.wall) ∧
      (expiryMatches declared observed = true ↔ a.wall = b.wall)) := by
  have hcatalog := hobserved.parse_eq
  constructor
  · intro p hdeclared
    have hread := hdeclared.parse_eq
    have hinstant := ZonedTime.instant_eq_iff (a.exists_zoned o) (b.exists_zoned p)
    rw [expiryMatches_of_read (by simp [hread]), expiryMatches_of_read (by simp [hcatalog]),
      hcatalog, hread, ← hinstant]
    exact ⟨decide_eq_true_iff, decide_eq_true_iff.trans eq_comm⟩
  · intro hdeclared
    have hread := hdeclared.parse_eq
    rw [expiryMatches_of_read (by simp [hread]), expiryMatches_of_read (by simp [hcatalog]),
      hcatalog, hread]
    exact ⟨decide_eq_true_iff, decide_eq_true_iff.trans eq_comm⟩

/-- Half an hour into the first of March of a leap year. -/
def marchNight : CivilTime where
  wall := ⟨⟨2024, 3, 1⟩, 0, 30, 0, 500000000⟩
  exist := ⟨⟨by decide, by decide⟩, by decide, by decide, by decide⟩
  year_range := by decide
  nanosecond_lt := by decide

/-- The evening of the leap day. -/
def leapEvening : CivilTime where
  wall := ⟨⟨2024, 2, 29⟩, 21, 0, 0, 500000000⟩
  exist := ⟨⟨by decide, by decide⟩, by decide, by decide, by decide⟩
  year_range := by decide
  nanosecond_lt := by decide

/-- On both sides of the leap day it can be the same time. -/
theorem expiryMatches_iff_same_time_leapDay :
    marchNight.ShownByCatalog ⟨false, 1, 0, by decide, by decide⟩ "2024-03-01 00:30:00.5+01" ∧
    leapEvening.DeclaredWithZone ⟨true, 2, 30, by decide, by decide⟩
      " 2024-02-29T21:00:00.50-02:30" ∧
    leapEvening.DeclaredWithoutZone "2024-02-29 21:00:00.500" ∧
    expiryMatches "2024-03-01 00:30:00.5+01" " 2024-02-29T21:00:00.50-02:30" = true ∧
    expiryMatches "2024-02-29 21:00:00.500" "2024-03-01 00:30:00.5+01" = false := by
  have hshown : marchNight.ShownByCatalog ⟨false, 1, 0, by decide, by decide⟩
      "2024-03-01 00:30:00.5+01" :=
    ⟨⟨['5'], by decide⟩, .inr ⟨rfl, [], [], by simp, by simp, rfl⟩⟩
  have hzone : leapEvening.DeclaredWithZone ⟨true, 2, 30, by decide, by decide⟩
      " 2024-02-29T21:00:00.50-02:30" :=
    ⟨⟨['5', '0'], by decide⟩, [' '], [], by simp [Text.isBlank], by simp, rfl⟩
  have hwall : leapEvening.DeclaredWithoutZone "2024-02-29 21:00:00.500" :=
    .inl ⟨⟨['5', '0', '0'], by decide⟩, .inl ⟨[], [], by simp, by simp, rfl⟩⟩
  have hsame := (expiryMatches_iff_same_time hshown).1 _ hzone
  have hother := (expiryMatches_iff_same_time hshown).2 hwall
  refine ⟨hshown, hzone, hwall, hsame.1.2 (by decide +kernel), ?_⟩
  rw [← Bool.not_eq_true, hother.2]
  decide +kernel

end Accord
