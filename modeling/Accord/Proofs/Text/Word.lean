import Accord.Text.Blank

/-!
# Words in any spelling

A word is read with the blanks around it removed and its letters from A to Z in one case.  Small
letters and capitals tell the same words apart (`toLower_toUpper`, `toUpper_toLower`).
-/

namespace Accord.Text

/-! ## Small letters and capitals -/

theorem toUpper_eq_self {c : Char} (h : 128 ≤ c.toNat) : c.toUpper = c := by
  refine dif_neg fun hletter => ?_
  have hz : c.toNat ≤ 122 := UInt32.le_iff_toNat_le.1 hletter.2
  omega

theorem toLower_eq_self {c : Char} (h : 128 ≤ c.toNat) : c.toLower = c := by
  refine dif_neg fun hletter => ?_
  have hz : c.toNat ≤ 90 := UInt32.le_iff_toNat_le.1 hletter.2
  omega

theorem char_last_case (c : Char) :
    c.toUpper.toLower = c.toLower ∧ c.toLower.toUpper = c.toUpper := by
  have hascii : ∀ n < 128, (Char.ofNat n).toUpper.toLower = (Char.ofNat n).toLower ∧
      (Char.ofNat n).toLower.toUpper = (Char.ofNat n).toUpper := by
    decide +kernel
  by_cases h : c.toNat < 128
  · have hc := hascii c.toNat h
    rwa [Char.ofNat_toNat] at hc
  · rw [toUpper_eq_self (by omega), toLower_eq_self (by omega)]
    exact ⟨rfl, toUpper_eq_self (by omega)⟩

theorem toLower_toUpper (s : String) : s.toUpper.toLower = s.toLower := by
  show (s.map Char.toUpper).map Char.toLower = s.map Char.toLower
  rw [← String.toList_inj, String.toList_map, String.toList_map, String.toList_map, List.map_map]
  exact List.map_congr_left fun c _ => (char_last_case c).1

theorem toUpper_toLower (s : String) : s.toLower.toUpper = s.toUpper := by
  show (s.map Char.toLower).map Char.toUpper = s.map Char.toUpper
  rw [← String.toList_inj, String.toList_map, String.toList_map, String.toList_map, List.map_map]
  exact List.map_congr_left fun c _ => (char_last_case c).2

/-! ## Words -/

/-- A word in small letters, without the blanks around it. -/
def folded (raw : String) : String :=
  (trim raw).toLower

/-- The word is the keyword, in any case and perhaps with blanks around it. -/
def Means (raw keyword : String) : Prop :=
  folded raw = keyword.toLower

instance (raw keyword : String) : Decidable (Means raw keyword) :=
  inferInstanceAs (Decidable (_ = _))

/-- The same words, in any order, in any spelling and any number of times. -/
def SameWords (words words' : List String) : Prop :=
  words.map folded ⊆ words'.map folded ∧ words'.map folded ⊆ words.map folded

variable {raw keyword : String}

theorem means_iff_sameIgnoringCase :
    Means raw keyword ↔ sameIgnoringCase (trim raw) keyword = true := by
  simp [Means, folded, sameIgnoringCase]

/-- A keyword in capitals is meant if it is the word in capitals. -/
theorem means_iff_toUpper (h : keyword.toUpper = keyword) :
    Means raw keyword ↔ keyword = (trim raw).toUpper := by
  constructor
  · intro hmeans
    have hfolded : (trim raw).toLower = keyword.toLower := hmeans
    rw [← toUpper_toLower, hfolded, toUpper_toLower, h]
  · intro hupper
    rw [hupper, Means, toLower_toUpper]
    rfl

/-- A keyword in small letters is meant if it is the word in small letters. -/
theorem means_iff_toLower (h : keyword.toLower = keyword) :
    Means raw keyword ↔ keyword = (trim raw).toLower := by
  rw [Means, h]
  exact eq_comm

/-- The same words mean the same keywords. -/
theorem SameWords.exists_means {words words' : List String} (h : SameWords words words')
    (keyword : String) :
    (∃ word ∈ words, Means word keyword) ↔ ∃ word ∈ words', Means word keyword := by
  have hmap : ∀ l : List String,
      (∃ word ∈ l, Means word keyword) ↔ keyword.toLower ∈ l.map folded := fun l =>
    List.mem_map.symm
  rw [hmap, hmap]
  exact ⟨fun hmem => h.1 hmem, fun hmem => h.2 hmem⟩

end Accord.Text
