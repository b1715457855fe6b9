import Accord.Proofs.Time.Writing

/-!
# Written times are read back

Each notation reads the times that are written in it, and the notations that are tried before it
read nothing off them.  The scans of a time read day and clock (`strictZoned_writing`,
`looseZoned_writing`, `looseWall_writing`), and it is what comes after the clock that decides
between them.
-/

namespace Accord.Scan

variable {rest : List Char}

/-! ## Offsets -/

theorem stops_nil : Stops [] :=
  fun _ h => nomatch h

theorem stops_sign (o : Offset) (rest : List Char) :
    Stops ((if o.west then '-' else '+') :: rest) := by
  intro c hc
  obtain rfl := Option.some.inj hc
  cases o.west <;> decide

theorem stops_hour (o : Offset) : Stops o.hour :=
  stops_sign o _

theorem stops_full (o : Offset) : Stops o.full :=
  stops_sign o _

theorem zulu_hour (o : Offset) (rest : List Char) :
    zulu (o.hour ++ rest) = some (false, o.hour ++ rest) := by
  unfold Offset.hour
  cases o.west <;> rfl

theorem sign_hour (o : Offset) (rest : List Char) :
    sign (o.hour ++ rest) = some (if o.west then -1 else 1, decimal 2 o.hours ++ rest) := by
  unfold Offset.hour
  cases o.west <;> rfl

theorem blanks_hour (o : Offset) (rest : List Char) :
    blanks (o.hour ++ rest) = some ((), o.hour ++ rest) := by
  refine blanks_of_not_isBlank ?_ _
  cases o.west <;> decide

theorem hours_bound (o : Offset) : o.hours < 10 ^ 2 := by
  have := o.hours_le
  omega

theorem minutes_bound (o : Offset) : o.minutes < 10 ^ 2 := by
  have := o.minutes_le
  omega

theorem strictOffset_full (o : Offset) : strictOffset o.full = some (o.seconds, []) := by
  unfold strictOffset Offset.full
  rw [bind_some (zulu_hour o _)]
  simp only [Bool.false_eq_true, if_false]
  rw [bind_some (sign_hour o _), bind_some (digitsExactly_decimal (hours_bound o) _),
    bind_some (char_cons ..), ← List.append_nil (decimal 2 o.minutes),
    bind_some (digitsExactly_decimal (minutes_bound o) _), if_pos o.minutes_le]
  rfl

theorem strictOffset_hour (o : Offset) : strictOffset o.hour = none := by
  unfold strictOffset
  rw [← List.append_nil o.hour, bind_some (zulu_hour o _)]
  simp only [Bool.false_eq_true, if_false]
  rw [bind_some (sign_hour o _), bind_some (digitsExactly_decimal (hours_bound o) _)]
  rfl

theorem looseOffset_hour (o : Offset) (h : o.minutes = 0) :
    looseOffset o.hour = some (o.seconds, []) := by
  unfold looseOffset
  rw [← List.append_nil o.hour, bind_some (blanks_hour o _), bind_some (zulu_hour o _)]
  simp only [Bool.false_eq_true, if_false]
  rw [bind_some (sign_hour o _), bind_some (digitsExactly_decimal (hours_bound o) _)]
  show some (_, _) = _
  rw [Offset.seconds, h]
  simp

/-! ## Days and clocks -/

@[simp] theorem lift_some {α : Type} (a : α) : lift (some a) = pure a :=
  rfl

/-- What a time with a zone says after the day and the character that parts it from the clock. -/
def strictClock (year month day : Nat) : Scan ZonedTime := do
  let h ← digitsExactly 2
  char ':'
  let min ← digitsExactly 2
  char ':'
  let sec ← digitsExactly 2
  let nanos ← fraction
  let offset ← strictOffset
  atEnd
  let date ← lift (Date.ofNumbers? year month day)
  let wall ← lift (WallTime.ofNumbers? date h min sec nanos)
  lift (ZonedTime.ofOffset? wall offset)

variable (t : CivilTime)

theorem strictZoned_day {between : Char} (hbetween : between = 'T' ∨ between = ' ') :
    strictZoned (t.wall.date.writing ++ between :: rest) =
      strictClock t.wall.date.year.toNat t.wall.date.month t.wall.date.day rest := by
  obtain ⟨hyear, hmonth, hday⟩ := t.date_bounds
  unfold strictZoned Date.writing
  simp only [List.append_assoc, List.cons_append]
  rw [bind_some (digitsExactly_decimal hyear _), bind_some (char_cons ..),
    bind_some (digitsExactly_decimal hmonth _), bind_some (char_cons ..),
    bind_some (digitsExactly_decimal hday _), bind_get]
  rcases hbetween with rfl | rfl
  · rfl
  · rfl

/-- After the clock, an offset and the end of the text are expected. -/
theorem strictZoned_writing {between : Char} (hbetween : between = 'T' ∨ between = ' ')
    (f : Fraction t.wall.nanosecond) (hrest : Stops rest) :
    strictZoned (t.writing between f ++ rest) =
      (strictOffset >>= fun o => atEnd >>= fun _ => lift (ZonedTime.ofOffset? t.wall o)) rest := by
  obtain ⟨hhour, hminute, hsecond⟩ := t.clock_bounds
  unfold CivilTime.writing
  rw [List.append_assoc, List.append_assoc, List.cons_append, strictZoned_day t hbetween]
  unfold strictClock WallTime.clock
  simp only [List.append_assoc, List.cons_append]
  rw [bind_some (digitsExactly_decimal hhour _), bind_some (char_cons ..),
    bind_some (digitsExactly_decimal hminute _), bind_some (char_cons ..),
    bind_some (digitsExactly_decimal hsecond _),
    bind_some (fraction_writing f t.nanosecond_lt hrest), t.date_ofNumbers]
  simp only [lift_some, pure_bind, t.wall_ofNumbers]

theorem strictZoned_date : strictZoned t.wall.date.writing = none := by
  obtain ⟨hyear, hmonth, hday⟩ := t.date_bounds
  unfold strictZoned Date.writing
  rw [← List.append_nil (decimal 2 t.wall.date.day)]
  simp only [List.append_assoc, List.cons_append]
  rw [bind_some (digitsExactly_decimal hyear _), bind_some (char_cons ..),
    bind_some (digitsExactly_decimal hmonth _), bind_some (char_cons ..),
    bind_some (digitsExactly_decimal hday _), bind_get]
  rfl

theorem looseDate_writing (rest : List Char) :
    looseDate (t.wall.date.writing ++ rest) = some (t.wall.date, rest) := by
  obtain ⟨hyear, hmonth, hday⟩ := t.date_bounds
  unfold looseDate Date.writing
  simp only [List.append_assoc, List.cons_append]
  rw [bind_some (year_decimal hyear _), bind_some (char_cons ..),
    bind_some (number_decimal hmonth _), bind_some (char_cons ..),
    bind_some (number_decimal hday _), t.date_ofNumbers]
  rfl

theorem looseClock_writing (f : Fraction t.wall.nanosecond) (hrest : Stops rest) :
    looseClock t.wall.date (t.wall.clock ++ f.writing ++ rest) = some (t.wall, rest) := by
  obtain ⟨hhour, hminute, hsecond⟩ := t.clock_bounds
  unfold looseClock WallTime.clock
  simp only [List.append_assoc, List.cons_append]
  rw [bind_some (number_decimal hhour _), bind_some (char_cons ..),
    bind_some (number_decimal hminute _), bind_some (char_cons ..),
    bind_some (number_decimal hsecond _),
    bind_some (fraction_writing f t.nanosecond_lt hrest), t.wall_ofNumbers]
  rfl

/-- A clock does not start with a letter. -/
theorem looseClock_of_letter (date : Date) (rest : List Char) :
    looseClock date ('T' :: rest) = none := by
  refine bind_none ?_
  unfold number
  rw [bind_some (blanks_of_not_isBlank (by decide) rest)]
  unfold digitsUpTo
  rw [List.take_succ_cons, List.takeWhile_cons_of_neg (by decide)]
  rfl

theorem blanks_clock (rest : List Char) :
    blanks (' ' :: (t.wall.clock ++ rest)) = some ((), t.wall.clock ++ rest) := by
  have hclock : blanks (t.wall.clock ++ rest) = some ((), t.wall.clock ++ rest) := by
    unfold WallTime.clock
    simp only [List.append_assoc]
    exact blanks_decimal 1 t.wall.hour _
  have hspace : blanks (' ' :: (t.wall.clock ++ rest)) = blanks (t.wall.clock ++ rest) := by
    unfold blanks
    rw [List.dropWhile_cons_of_pos (by decide)]
  rw [hspace, hclock]

/-! ## The other notations -/

theorem looseZoned_writing (f : Fraction t.wall.nanosecond) (hrest : Stops rest) :
    looseZoned (t.writing ' ' f ++ rest) =
      (looseOffset >>= fun o => atEnd >>= fun _ => lift (ZonedTime.ofOffset? t.wall o)) rest := by
  unfold looseZoned CivilTime.writing
  simp only [List.append_assoc, List.cons_append]
  rw [bind_some (looseDate_writing t _), bind_some (blanks_clock t _), ← List.append_assoc,
    bind_some (looseClock_writing t f hrest)]

theorem looseZoned_letter (f : Fraction t.wall.nanosecond) :
    looseZoned (t.writing 'T' f) = none := by
  unfold looseZoned CivilTime.writing
  simp only [List.append_assoc, List.cons_append]
  rw [bind_some (looseDate_writing t _), bind_some (blanks_of_not_isBlank (by decide) _),
    bind_none (looseClock_of_letter _ _)]

theorem looseZoned_date : looseZoned t.wall.date.writing = none := by
  rw [← List.append_nil t.wall.date.writing, looseZoned, bind_some (looseDate_writing t _)]
  rfl

theorem looseWall_writing (f : Fraction t.wall.nanosecond) :
    looseWall (t.writing ' ' f) = some (t.wall, []) := by
  rw [← List.append_nil (t.writing ' ' f)]
  unfold looseWall CivilTime.writing
  simp only [List.append_assoc, List.cons_append]
  rw [bind_some (looseDate_writing t _), bind_some (blanks_clock t _), ← List.append_assoc,
    bind_some (looseClock_writing t f stops_nil)]
  rfl

theorem looseWall_letter (f : Fraction t.wall.nanosecond) : looseWall (t.writing 'T' f) = none := by
  unfold looseWall CivilTime.writing
  simp only [List.append_assoc, List.cons_append]
  rw [bind_some (looseDate_writing t _), bind_some (blanks_of_not_isBlank (by decide) _),
    bind_none (looseClock_of_letter _ _)]

theorem looseWall_date : looseWall t.wall.date.writing = none := by
  rw [← List.append_nil t.wall.date.writing, looseWall, bind_some (looseDate_writing t _)]
  rfl

theorem looseWallWithT_writing (f : Fraction t.wall.nanosecond) :
    looseWallWithT (t.writing 'T' f) = some (t.wall, []) := by
  rw [← List.append_nil (t.writing 'T' f)]
  unfold looseWallWithT CivilTime.writing
  simp only [List.append_assoc, List.cons_append]
  rw [bind_some (looseDate_writing t _), bind_some (char_cons ..), ← List.append_assoc,
    bind_some (looseClock_writing t f stops_nil)]
  rfl

theorem looseWallWithT_date : looseWallWithT t.wall.date.writing = none := by
  rw [← List.append_nil t.wall.date.writing, looseWallWithT, bind_some (looseDate_writing t _)]
  rfl

theorem dateOnly_writing : dateOnly t.wall.date.writing = some (.midnight t.wall.date, []) := by
  rw [← List.append_nil t.wall.date.writing, dateOnly, bind_some (looseDate_writing t _)]
  rfl

end Accord.Scan
