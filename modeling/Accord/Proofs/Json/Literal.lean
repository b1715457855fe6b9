import Accord.Json.Literal
import Accord.Json.Writer
import Accord.Proofs.Text.Pieces

/-!
# Strings and numbers that are written

A string that is written with escapes is read back as it was (`Json.readString_escaped`), and so is
an integer of 64 bits (`Json.takeNumber_integer`, `Json.number_integer`).
-/

namespace Accord.Json

/-! ## Strings -/

theorem hexValue?_hexDigit : ∀ {n : Nat}, n < 16 → hexValue? (hexDigit n) = some n := by
  decide

theorem hexQuad?_control {n : Nat} (h : n < 0x20) :
    hexQuad? '0' '0' (hexDigit (n / 16)) (hexDigit (n % 16)) = some n := by
  have hzero : hexValue? '0' = some 0 := by decide
  have hhigh := hexValue?_hexDigit (show n / 16 < 16 by omega)
  have hlow := hexValue?_hexDigit (show n % 16 < 16 by omega)
  simp only [hexQuad?, hzero, hhigh, hlow, Option.bind_eq_bind, Option.bind_some, Option.pure_def,
    Option.some.injEq]
  omega

/-- A character is written as itself, with a letter after a backslash, or with its code. -/
inductive Escaped (c : Char) : List Char → Prop where
  | plain : c ≠ '"' → c ≠ '\\' → 0x20 ≤ c.toNat → Escaped c [c]
  | letter {l : Char} : l ≠ 'u' → escapedChar? l = some c → Escaped c ['\\', l]
  | code : c.toNat < 0x20 →
      Escaped c ['\\', 'u', '0', '0', hexDigit (c.toNat / 16), hexDigit (c.toNat % 16)]

theorem escaped_escapeChar (c : Char) : Escaped c (escapeChar c) := by
  unfold escapeChar
  split
  · subst c; exact .letter (by decide) rfl
  split
  · subst c; exact .letter (by decide) rfl
  split
  · subst c; exact .letter (by decide) rfl
  split
  · subst c; exact .letter (by decide) rfl
  split
  · subst c; exact .letter (by decide) rfl
  split
  · subst c; exact .letter (by decide) rfl
  split
  · subst c; exact .letter (by decide) rfl
  split
  · exact .code ‹_›
  · exact .plain ‹_› ‹_› (Nat.le_of_not_lt ‹_›)

theorem readString_code {a b c d : Char} {n : Nat} (h : hexQuad? a b c d = some n) (hn : n < 0xd800)
    (rest : List Char) :
    readString ('\\' :: 'u' :: a :: b :: c :: d :: rest) =
      consRead (Char.ofNat n) (readString rest) := by
  have hlow : ¬(0xdc00 ≤ n ∧ n ≤ 0xdfff) := by omega
  have hhigh : ¬(0xd800 ≤ n ∧ n ≤ 0xdbff) := by omega
  by_cases hpair : ∃ e f g h r, rest = '\\' :: 'u' :: e :: f :: g :: h :: r
  · obtain ⟨e, f, g, h', r, rfl⟩ := hpair
    rw [readString]
    simp only [h, Bool.and_eq_true, decide_eq_true_eq, if_neg hlow, if_neg hhigh]
  · rw [readString]
    · simp only [h, Bool.and_eq_true, decide_eq_true_eq, if_neg hlow, if_neg hhigh]
    · rintro e f g h' r rfl
      exact hpair ⟨e, f, g, h', r, rfl⟩

theorem Escaped.readString {c : Char} {l : List Char} (h : Escaped c l) (rest : List Char) :
    readString (l ++ rest) = consRead c (readString rest) := by
  cases h with
  | plain hquote hslash hcontrol => simp [Json.readString, hslash, Nat.not_lt.2 hcontrol]
  | letter hu hletter => simp [Json.readString, hu, hletter]
  | code hcontrol =>
    have hread := readString_code (hexQuad?_control hcontrol) (by omega) rest
    rwa [Char.ofNat_toNat] at hread

theorem Escaped.skipString {c : Char} {l : List Char} (h : Escaped c l) (rest : List Char) :
    skipString (l ++ rest) = skipString rest := by
  cases h with
  | plain hquote hslash hcontrol => simp [Json.skipString, hslash, Nat.not_lt.2 hcontrol]
  | letter hu hletter => simp [Json.skipString, hu, hletter]
  | code hcontrol => simp [Json.skipString, hexQuad?_control hcontrol]

/-- What is written between quotes is read back. -/
theorem readString_escaped (l rest : List Char) :
    readString (l.flatMap escapeChar ++ '"' :: rest) = .ok l := by
  induction l with
  | nil => simp [readString]
  | cons c l ih =>
    rw [List.flatMap_cons, List.append_assoc, (escaped_escapeChar c).readString, ih]
    rfl

theorem skipString_escaped (l rest : List Char) :
    skipString (l.flatMap escapeChar ++ '"' :: rest) = .ok rest := by
  induction l with
  | nil => simp [skipString]
  | cons c l ih => rw [List.flatMap_cons, List.append_assoc, (escaped_escapeChar c).skipString, ih]

/-! ## Numbers -/

/-- Nothing that follows goes on with a number. -/
def Stops (rest : List Char) : Prop :=
  ∀ c ∈ rest.head?, c.isDigit = false ∧ c ≠ '.' ∧ c ≠ 'e' ∧ c ≠ 'E'

/-- The parts of an integer as it is written. -/
def NumberForm.ofInt (i : Int) : NumberForm :=
  ⟨decide (i < 0), Nat.toDigits 10 i.natAbs, none, none⟩

theorem toList_toString_int (i : Int) :
    (toString i).toList = (if i < 0 then ['-'] else []) ++ Nat.toDigits 10 i.natAbs := by
  cases i with
  | ofNat n => exact Nat.toList_repr
  | negSucc n =>
    show ("-" ++ (n + 1).repr).toList = _
    rw [String.toList_append, Nat.toList_repr, if_pos (Int.negSucc_lt_zero n)]
    rfl

theorem isDigit_of_mem_digits {n : Nat} {c : Char} (h : c ∈ Nat.toDigits 10 n) :
    c.isDigit = true :=
  Nat.isDigit_of_mem_toDigits (by decide) (Nat.le_refl 10) h

theorem exists_cons_digits (n : Nat) :
    ∃ d digits, Nat.toDigits 10 n = d :: digits ∧ d.isDigit = true := by
  obtain ⟨d, digits, hd⟩ := List.exists_cons_of_ne_nil (Nat.toDigits_ne_nil (b := 10) (n := n))
  exact ⟨d, digits, hd, isDigit_of_mem_digits (hd ▸ List.mem_cons_self)⟩

/-- A written integer starts with a digit or a minus sign. -/
theorem exists_cons_toString_int (i : Int) :
    ∃ c r, (toString i).toList = c :: r ∧ (c = '-' ∨ c.isDigit = true) := by
  rw [toList_toString_int]
  by_cases hi : i < 0
  · rw [if_pos hi]
    exact ⟨'-', _, rfl, .inl rfl⟩
  · rw [if_neg hi]
    obtain ⟨d, digits, hd, hdigit⟩ := exists_cons_digits i.natAbs
    exact ⟨d, digits, hd, .inr hdigit⟩

/-- Only zero starts with the digit zero. -/
theorem head_digits_ne_zero {n : Nat} (h : n ≠ 0) : (Nat.toDigits 10 n).head? ≠ some '0' := by
  induction n using Nat.strongRecOn with
  | ind n ih =>
    rw [Nat.toDigits_eq_if (by decide)]
    by_cases hn : n < 10
    · rw [if_pos hn]
      revert h
      clear ih
      decide +revert
    · rw [if_neg hn, List.head?_append]
      have hfront := ih (n / 10) (by omega) (by omega)
      obtain ⟨d, digits, hd, -⟩ := exists_cons_digits (n / 10)
      rwa [hd] at hfront ⊢

theorem takeDigits_append {digits rest : List Char} (hdigits : ∀ c ∈ digits, c.isDigit = true)
    (hne : digits ≠ []) (hrest : Stops rest) :
    takeDigits (digits ++ rest) = .ok (digits, rest) := by
  have hhead : ∀ c ∈ rest.head?, c.isDigit = false := fun c hc => (hrest c hc).1
  unfold takeDigits
  rw [Text.takeWhile_append_of_head hdigits hhead, Text.dropWhile_append_of_head hdigits hhead]
  exact if_neg (by simpa using hne)

theorem takeWhole_digits (n : Nat) {rest : List Char} (hrest : Stops rest) :
    takeWhole (Nat.toDigits 10 n ++ rest) = .ok (Nat.toDigits 10 n, rest) := by
  have hdigits := takeDigits_append (fun c => isDigit_of_mem_digits (n := n))
    Nat.toDigits_ne_nil hrest
  by_cases hn : n = 0
  · subst hn
    cases rest with
    | nil => rfl
    | cons c rest => exact if_neg (by simp [(hrest c rfl).1])
  · have hhead := head_digits_ne_zero hn
    obtain ⟨d, digits, hd, -⟩ := exists_cons_digits n
    rw [hd] at hhead hdigits ⊢
    rw [List.cons_append, takeWhole]
    · exact hdigits
    · rintro c r heq
      exact hhead (congrArg List.head? heq)

theorem takeFraction_of_stops {rest : List Char} (hrest : Stops rest) :
    takeFraction rest = .ok (none, rest) := by
  cases rest with
  | nil => rfl
  | cons c rest =>
    rw [takeFraction]
    rintro r heq
    exact (hrest c rfl).2.1 (List.cons.inj heq).1

theorem takeExponent_of_stops {rest : List Char} (hrest : Stops rest) :
    takeExponent rest = .ok (none, rest) := by
  cases rest with
  | nil => rfl
  | cons c rest => exact if_neg (by simp [(hrest c rfl).2.2.1, (hrest c rfl).2.2.2])

/-- A written integer is taken whole. -/
theorem takeNumber_integer (i : Int) {rest : List Char} (hrest : Stops rest) :
    takeNumber ((toString i).toList ++ rest) = .ok (NumberForm.ofInt i, rest) := by
  have hwhole := takeWhole_digits i.natAbs hrest
  have hfraction := takeFraction_of_stops hrest
  have hexponent := takeExponent_of_stops hrest
  rw [toList_toString_int]
  by_cases hi : i < 0
  · rw [if_pos hi]
    unfold takeNumber
    simp [hwhole, hfraction, hexponent, NumberForm.ofInt, hi, bind, Except.bind, pure, Except.pure]
  · rw [if_neg hi, List.nil_append]
    have hsign : ∀ r, Nat.toDigits 10 i.natAbs ++ rest ≠ '-' :: r := by
      intro r heq
      obtain ⟨d, digits, hd, hdigit⟩ := exists_cons_digits i.natAbs
      rw [hd] at heq
      rw [(List.cons.inj heq).1] at hdigit
      exact absurd hdigit (by decide)
    unfold takeNumber
    split
    rename_i negative cs heq
    split at heq
    · exact absurd ‹_› (hsign _)
    · obtain ⟨rfl, rfl⟩ := Prod.mk.inj heq
      simp [hwhole, hfraction, hexponent, NumberForm.ofInt, hi, bind, Except.bind, pure,
        Except.pure]

theorem le_ofDigitChars (n : Nat) (l : List Char) : n ≤ Nat.ofDigitChars 10 l n := by
  rw [Nat.ofDigitChars_eq_ofDigitChars_zero]
  have hpos : 0 < 10 ^ l.length := Nat.pow_pos (by decide)
  exact Nat.le_trans (Nat.le_mul_of_pos_left n hpos) (Nat.le_add_right _ _)

theorem gatherDigits_of_lt {n : Nat} {l : List Char} (h : Nat.ofDigitChars 10 l n < UInt64.size) :
    gatherDigits n l = (Nat.ofDigitChars 10 l n, []) := by
  induction l generalizing n with
  | nil => rfl
  | cons c l ih =>
    have hnext :
        Nat.ofDigitChars 10 (c :: l) n = Nat.ofDigitChars 10 l (n * 10 + digitValue c) := by
      rw [Nat.ofDigitChars_cons, Nat.mul_comm]
      rfl
    rw [hnext] at h ⊢
    rw [gatherDigits, if_pos (Nat.lt_of_le_of_lt (le_ofDigitChars _ l) h), ih h]

/-- An integer of 64 bits is read back. -/
theorem number_ofInt {i : Int} (hlow : -9223372036854775808 ≤ i)
    (hhigh : i < 18446744073709551616) : (NumberForm.ofInt i).number = .ok (.integer i) := by
  have hgather : gatherDigits 0 (Nat.toDigits 10 i.natAbs) = (i.natAbs, []) := by
    have hvalue : Nat.ofDigitChars 10 (Nat.toDigits 10 i.natAbs) 0 = i.natAbs :=
      Nat.ofDigitChars_ten_toDigits
    have hsize : UInt64.size = 18446744073709551616 := rfl
    rw [gatherDigits_of_lt (by rw [hvalue]; omega), hvalue]
  unfold NumberForm.number NumberForm.ofInt
  simp only [hgather]
  by_cases hi : i < 0
  · have hpos : 0 < i.natAbs ∧ i.natAbs ≤ 9223372036854775808 := by omega
    have hvalue : -(i.natAbs : Int) = i := by omega
    generalize i.natAbs = n at hpos hvalue ⊢
    simp [hi, hpos, hvalue]
  · have hvalue : (i.natAbs : Int) = i := by omega
    generalize i.natAbs = n at hvalue ⊢
    simp [hi, hvalue]

end Accord.Json
