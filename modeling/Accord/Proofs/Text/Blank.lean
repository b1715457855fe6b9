import Accord.Proofs.Text.Pieces
import Accord.Text.Blank

/-!
# Trimming

Trimming takes off what blanks stand around a text, and nothing of a text that starts and ends with
other characters.  The first word of a text starts after the blanks at its start, and goes on to the
next blank.
-/

namespace Accord.Text

theorem isBlank_of_isDigit {c : Char} (h : c.isDigit = true) : isBlank c = false := by
  have hrange : 48 ≤ c.toNat ∧ c.toNat ≤ 57 := by
    simpa [Char.isDigit, UInt32.le_iff_toNat_le] using h
  simp only [isBlank, Bool.or_eq_false_iff, Bool.and_eq_false_iff, decide_eq_false_iff_not,
    beq_eq_false_iff_ne]
  omega

/-- The blanks around a text are taken off, and no more. -/
theorem trimChars_around {front core back : List Char} (hfront : ∀ c ∈ front, isBlank c = true)
    (hback : ∀ c ∈ back, isBlank c = true) (hhead : ∀ c ∈ core.head?, isBlank c = false)
    (hlast : ∀ c ∈ core.getLast?, isBlank c = false) :
    trimChars (front ++ core ++ back) = core := by
  have hstart : (front ++ core ++ back).dropWhile isBlank = (core ++ back).dropWhile isBlank := by
    rw [List.append_assoc, List.dropWhile_append_of_pos hfront]
  unfold trimChars
  rw [hstart]
  cases core with
  | nil =>
    rw [List.nil_append, ← List.append_nil back, List.dropWhile_append_of_pos hback]
    rfl
  | cons c cs =>
    have hend : ∀ d ∈ back.reverse, isBlank d = true := fun d hd => hback d (List.mem_reverse.1 hd)
    have hcore : ∀ d ∈ (c :: cs).reverse.head?, isBlank d = false := by
      rw [List.head?_reverse]
      exact hlast
    have hkept : (c :: cs ++ back).dropWhile isBlank = c :: cs ++ back :=
      dropWhile_of_head fun d hd => hhead d hd
    rw [hkept, List.reverse_append, dropWhile_append_of_head hend hcore, List.reverse_reverse]

/-- Blanks before a word are skipped, and the word goes on as long as there are no other ones. -/
theorem firstWord_append {raw : String} {front core back : List Char}
    (hraw : raw.toList = front ++ (core ++ back)) (hfront : ∀ c ∈ front, isBlank c = true)
    (hcore : ∀ c ∈ core, isBlank c = false) (hne : core ≠ []) :
    (firstWord raw).toList = core ++ back.takeWhile fun c => !isBlank c := by
  obtain ⟨c, cs, rfl⟩ := List.exists_cons_of_ne_nil hne
  have hstart : ∀ d ∈ (c :: cs ++ back).head?, isBlank d = false := by
    rintro d ⟨⟩
    exact hcore c List.mem_cons_self
  have hword : ∀ d ∈ c :: cs, (!isBlank d) = true := fun d hd => by rw [hcore d hd]; rfl
  unfold firstWord
  rw [String.toList_ofList, hraw, dropWhile_append_of_head hfront hstart,
    List.takeWhile_append_of_pos hword]

end Accord.Text
