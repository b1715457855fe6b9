import Accord.Time.Calendar
import Mathlib.Order.Monotone.Basic
import Mathlib.Order.Basic

/-!
# The calendar counts days one by one

`Date.next` and `Date.previous` turn the leaves of the calendar, over the ends of months and years
and the leap days.  Each step changes `Date.dayNumber` by one, and no two days have the same number.

So an instant is as good as what the calendar and the clock show there in the zone without offset:
`ZonedTime.universal` finds that by turning one leaf at most, and two times are the same instant if
and only if it is the same for both (`ZonedTime.instant_eq_iff`).
-/

namespace Accord

namespace Date

/-- There is such a day in the calendar. -/
structure Exists (d : Date) : Prop where
  month : 1 ≤ d.month ∧ d.month ≤ 12
  day : 1 ≤ d.day ∧ d.day ≤ daysInMonth d.year d.month

/-- The day after. -/
def next (d : Date) : Date :=
  if d.day < daysInMonth d.year d.month then ⟨d.year, d.month, d.day + 1⟩
  else if d.month < 12 then ⟨d.year, d.month + 1, 1⟩
  else ⟨d.year + 1, 1, 1⟩

/-- The day before. -/
def previous (d : Date) : Date :=
  if 1 < d.day then ⟨d.year, d.month, d.day - 1⟩
  else if 1 < d.month then ⟨d.year, d.month - 1, daysInMonth d.year (d.month - 1)⟩
  else ⟨d.year - 1, 12, 31⟩

/-! ## Months and years -/

theorem one_le_daysInMonth (year : Int) (month : Nat) : 1 ≤ daysInMonth year month := by
  unfold daysInMonth
  split
  · split <;> omega
  · omega
  · omega
  · omega
  · omega
  · omega

theorem daysInMonth_le (year : Int) (month : Nat) : daysInMonth year month ≤ 31 := by
  unfold daysInMonth
  split
  · split <;> omega
  · omega
  · omega
  · omega
  · omega
  · omega

theorem daysBeforeMonth_succ (year : Int) {month : Nat} (h : 1 ≤ month) :
    daysBeforeMonth year (month + 1) = daysBeforeMonth year month + daysInMonth year month := by
  obtain ⟨m, rfl⟩ : ∃ m, month = m + 1 := ⟨month - 1, by omega⟩
  simp only [daysBeforeMonth, Nat.add_sub_cancel, List.range_succ, List.foldl_append,
    List.foldl_cons, List.foldl_nil]

theorem daysBeforeMonth_thirteen (year : Int) :
    daysBeforeMonth year 13 = daysBeforeMonth year 12 + 31 :=
  daysBeforeMonth_succ year (show 1 ≤ 12 by decide)

theorem daysBeforeMonth_mono (year : Int) : Monotone (daysBeforeMonth year) := by
  refine monotone_nat_of_le_succ fun month => ?_
  cases month with
  | zero => exact Nat.le_refl _
  | succ m =>
    rw [daysBeforeMonth_succ year (Nat.le_add_left 1 m)]
    exact Nat.le_add_right ..

/-- The months of a year make up the year. -/
theorem daysBeforeYear_succ (year : Int) :
    daysBeforeYear (year + 1) = daysBeforeYear year + daysBeforeMonth year 13 := by
  have hmonths : daysBeforeMonth year 13 = if isLeap year then 366 else 365 := by
    cases hleap : isLeap year <;>
      simp [daysBeforeMonth, List.range_succ, daysInMonth, hleap]
  rw [hmonths]
  unfold daysBeforeYear
  by_cases hleap : isLeap year = true
  · rw [if_pos hleap]
    simp only [isLeap, Bool.and_eq_true, Bool.or_eq_true, decide_eq_true_eq] at hleap
    omega
  · rw [if_neg hleap]
    simp only [isLeap, Bool.and_eq_true, Bool.or_eq_true, decide_eq_true_eq] at hleap
    omega

theorem daysBeforeYear_mono {a b : Int} (h : a ≤ b) : daysBeforeYear a ≤ daysBeforeYear b := by
  unfold daysBeforeYear
  omega

/-! ## The number of a day -/

theorem exists_mk {year : Int} {month day : Nat} (hm : 1 ≤ month ∧ month ≤ 12)
    (hd : 1 ≤ day ∧ day ≤ daysInMonth year month) : Exists ⟨year, month, day⟩ :=
  ⟨hm, hd⟩

namespace Exists

variable {d : Date}

theorem next (h : d.Exists) : d.next.Exists := by
  obtain ⟨hm, hd⟩ := h
  unfold Date.next
  split
  · exact exists_mk hm (by omega)
  · split
    · exact exists_mk (by omega) ⟨Nat.le_refl 1, one_le_daysInMonth _ _⟩
    · exact exists_mk (by decide) ⟨Nat.le_refl 1, one_le_daysInMonth _ _⟩

theorem previous (h : d.Exists) : d.previous.Exists := by
  obtain ⟨hm, hd⟩ := h
  unfold Date.previous
  split
  · exact exists_mk hm (by omega)
  · split
    · exact exists_mk (by omega) ⟨one_le_daysInMonth _ _, Nat.le_refl _⟩
    · exact exists_mk (by decide) ⟨by decide, Nat.le_refl 31⟩

theorem dayNumber_next (h : d.Exists) : d.next.dayNumber = d.dayNumber + 1 := by
  obtain ⟨⟨hm, hm'⟩, hd, hd'⟩ := h
  unfold Date.next
  split
  · simp only [dayNumber]
    omega
  · next hday =>
    have hmonth := daysBeforeMonth_succ d.year hm
    split
    · simp only [dayNumber]
      omega
    · next hmonth' =>
      have hdecember : d.month = 12 := by omega
      have hyear := daysBeforeYear_succ d.year
      have hmonths := daysBeforeMonth_thirteen d.year
      have hdays : daysInMonth d.year 12 = 31 := rfl
      have hjanuary : daysBeforeMonth (d.year + 1) 1 = 0 := rfl
      rw [hdecember] at hday hd'
      simp only [dayNumber, hdecember, hjanuary]
      omega

theorem dayNumber_previous (h : d.Exists) : d.previous.dayNumber = d.dayNumber - 1 := by
  obtain ⟨⟨hm, hm'⟩, hd, hd'⟩ := h
  unfold Date.previous
  split
  · simp only [dayNumber]
    omega
  · split
    · have hmonth := daysBeforeMonth_succ d.year (show 1 ≤ d.month - 1 by omega)
      rw [Nat.sub_add_cancel hm] at hmonth
      have hlast := one_le_daysInMonth d.year (d.month - 1)
      simp only [dayNumber]
      omega
    · have hjanuary : d.month = 1 := by omega
      have hyear := daysBeforeYear_succ (d.year - 1)
      have hdecember := daysBeforeMonth_thirteen (d.year - 1)
      have hfirst : daysBeforeMonth d.year 1 = 0 := rfl
      rw [Int.sub_add_cancel] at hyear
      simp only [dayNumber, hjanuary, hfirst]
      omega

theorem dayNumber_bounds (h : d.Exists) :
    daysBeforeYear d.year + daysBeforeMonth d.year d.month ≤ d.dayNumber ∧
      d.dayNumber < daysBeforeYear d.year + daysBeforeMonth d.year (d.month + 1) := by
  obtain ⟨⟨hm, hm'⟩, hd, hd'⟩ := h
  rw [daysBeforeMonth_succ d.year hm]
  unfold dayNumber
  omega

theorem dayNumber_in_year (h : d.Exists) :
    daysBeforeYear d.year ≤ d.dayNumber ∧ d.dayNumber < daysBeforeYear (d.year + 1) := by
  have hbounds := h.dayNumber_bounds
  have hmonths := daysBeforeMonth_mono d.year (show d.month + 1 ≤ 13 by have := h.month; omega)
  rw [daysBeforeYear_succ]
  omega

end Exists

variable {a b : Date}

theorem dayNumber_lt_of_year_lt (ha : a.Exists) (hb : b.Exists) (h : a.year < b.year) :
    a.dayNumber < b.dayNumber := by
  have hyears := daysBeforeYear_mono (show a.year + 1 ≤ b.year by omega)
  have hlow := hb.dayNumber_in_year.1
  have hhigh := ha.dayNumber_in_year.2
  omega

theorem dayNumber_lt_of_month_lt (ha : a.Exists) (hb : b.Exists) (hyear : a.year = b.year)
    (h : a.month < b.month) : a.dayNumber < b.dayNumber := by
  have hmonths := daysBeforeMonth_mono b.year (show a.month + 1 ≤ b.month from h)
  have hlow := hb.dayNumber_bounds.1
  have hhigh := ha.dayNumber_bounds.2
  rw [hyear] at hhigh
  omega

/-- No two days have the same number. -/
theorem eq_of_dayNumber_eq (ha : a.Exists) (hb : b.Exists) (h : a.dayNumber = b.dayNumber) :
    a = b := by
  have hyear : a.year = b.year := by
    rcases lt_trichotomy a.year b.year with hlt | heq | hgt
    · exact absurd h (dayNumber_lt_of_year_lt ha hb hlt).ne
    · exact heq
    · exact absurd h (dayNumber_lt_of_year_lt hb ha hgt).ne'
  have hmonth : a.month = b.month := by
    rcases lt_trichotomy a.month b.month with hlt | heq | hgt
    · exact absurd h (dayNumber_lt_of_month_lt ha hb hyear hlt).ne
    · exact heq
    · exact absurd h (dayNumber_lt_of_month_lt hb ha hyear.symm hgt).ne'
  obtain ⟨year, month, day⟩ := a
  obtain ⟨year', month', day'⟩ := b
  obtain rfl : year = year' := hyear
  obtain rfl : month = month' := hmonth
  have hday : day = day' := by
    simp only [dayNumber] at h
    omega
  rw [hday]

end Date

/-! ## Times of the day -/

namespace WallTime

/-- The calendar and the clock can show that.  The second 60 is left out. -/
structure Exists (t : WallTime) : Prop where
  date : t.date.Exists
  hour : t.hour ≤ 23
  minute : t.minute ≤ 59
  second : t.second ≤ 59

/-- A number of seconds after midnight. -/
def afterMidnight (d : Date) (seconds nanosecond : Nat) : WallTime :=
  ⟨d, seconds / 3600, seconds % 3600 / 60, seconds % 60, nanosecond⟩

theorem secondOfDay_afterMidnight (d : Date) (seconds nanosecond : Nat) :
    (afterMidnight d seconds nanosecond).secondOfDay = seconds := by
  simp only [afterMidnight, secondOfDay]
  omega

theorem seconds_afterMidnight (d : Date) (seconds nanosecond : Nat) :
    (afterMidnight d seconds nanosecond).seconds = d.dayNumber * 86400 + seconds := by
  rw [WallTime.seconds, secondOfDay_afterMidnight]
  rfl

theorem exists_afterMidnight {d : Date} (hd : d.Exists) {seconds : Nat} (h : seconds < 86400)
    (nanosecond : Nat) : (afterMidnight d seconds nanosecond).Exists :=
  ⟨hd, by simp only [afterMidnight]; omega, by simp only [afterMidnight]; omega,
    by simp only [afterMidnight]; omega⟩

theorem Exists.secondOfDay_lt {t : WallTime} (h : t.Exists) : t.secondOfDay < 86400 := by
  obtain ⟨-, hhour, hminute, hsecond⟩ := h
  unfold secondOfDay
  omega

/-- What calendar and clock show is known from the seconds that have passed. -/
theorem eq_of_seconds_eq {a b : WallTime} (ha : a.Exists) (hb : b.Exists)
    (h : a.seconds = b.seconds) (hnano : a.nanosecond = b.nanosecond) : a = b := by
  have hday : a.secondOfDay < 86400 := ha.secondOfDay_lt
  have hday' : b.secondOfDay < 86400 := hb.secondOfDay_lt
  unfold seconds at h
  have hdate : a.date = b.date := Date.eq_of_dayNumber_eq ha.date hb.date (by omega)
  have hclock : a.secondOfDay = b.secondOfDay := by
    rw [hdate] at h
    omega
  obtain ⟨-, hhour, hminute, hsecond⟩ := ha
  obtain ⟨-, hhour', hminute', hsecond'⟩ := hb
  obtain ⟨date, hour, minute, second, nanosecond⟩ := a
  obtain ⟨date', hour', minute', second', nanosecond'⟩ := b
  simp only [secondOfDay] at hclock hhour hminute hsecond hhour' hminute' hsecond'
  obtain rfl : date = date' := hdate
  obtain rfl : nanosecond = nanosecond' := hnano
  obtain rfl : hour = hour' := by omega
  obtain rfl : minute = minute' := by omega
  obtain rfl : second = second' := by omega
  rfl

end WallTime

/-! ## Instants -/

namespace ZonedTime

/-- What calendar and clock show at that time in the zone without offset: that may be on the day
before or on the day after. -/
def universal (t : ZonedTime) : WallTime :=
  let seconds : Int := t.wall.secondOfDay - t.offset
  if seconds < 0 then
    .afterMidnight t.wall.date.previous (seconds + 86400).toNat t.wall.nanosecond
  else if seconds < 86400 then .afterMidnight t.wall.date seconds.toNat t.wall.nanosecond
  else .afterMidnight t.wall.date.next (seconds - 86400).toNat t.wall.nanosecond

/-- There is such a time, and the offset is less than a day. -/
structure Exists (t : ZonedTime) : Prop where
  wall : t.wall.Exists
  offset : -86400 < t.offset ∧ t.offset < 86400

variable {a b t : ZonedTime}

theorem Exists.universal (h : t.Exists) : t.universal.Exists := by
  have hday := h.wall.secondOfDay_lt
  have hoffset := h.offset
  unfold ZonedTime.universal
  dsimp only
  split
  · exact WallTime.exists_afterMidnight h.wall.date.previous (by omega) _
  · split
    · exact WallTime.exists_afterMidnight h.wall.date (by omega) _
    · exact WallTime.exists_afterMidnight h.wall.date.next (by omega) _

theorem Exists.instant_eq (h : t.Exists) :
    t.instant = (t.universal.seconds, t.universal.nanosecond) := by
  have hday := h.wall.secondOfDay_lt
  have hoffset := h.offset
  have hnext := h.wall.date.dayNumber_next
  have hprevious := h.wall.date.dayNumber_previous
  have hinstant : t.instant.1 =
      t.wall.date.dayNumber * 86400 + t.wall.secondOfDay - t.offset := rfl
  unfold ZonedTime.universal
  dsimp only
  split
  · refine Prod.ext ?_ rfl
    rw [hinstant, WallTime.seconds_afterMidnight]
    omega
  · split
    · refine Prod.ext ?_ rfl
      rw [hinstant, WallTime.seconds_afterMidnight]
      omega
    · refine Prod.ext ?_ rfl
      rw [hinstant, WallTime.seconds_afterMidnight]
      omega

/-- Two times are the same instant if and only if calendar and clock show the same in the zone
without offset. -/
theorem instant_eq_iff (ha : a.Exists) (hb : b.Exists) :
    a.instant = b.instant ↔ a.universal = b.universal := by
  rw [ha.instant_eq, hb.instant_eq, Prod.mk.injEq]
  constructor
  · rintro ⟨hseconds, hnano⟩
    exact WallTime.eq_of_seconds_eq ha.universal hb.universal hseconds hnano
  · intro h
    rw [h]
    exact ⟨rfl, rfl⟩

end ZonedTime

end Accord
