/-!
# Texts in pieces

A text is cut after its first characters of some kind (`takeWhile_append_of_head`,
`dropWhile_append_of_head`), or at every separator, as `List.splitOn` cuts lists (`eq_splitOn`).
-/

namespace Accord.Text

/-! ## The first characters of a kind -/

section Runs

variable {p : Char → Bool} {run rest : List Char}

theorem takeWhile_of_head (h : ∀ c ∈ rest.head?, p c = false) : rest.takeWhile p = [] := by
  cases rest with
  | nil => rfl
  | cons c rest => exact List.takeWhile_cons_of_neg (by simp [h c rfl])

theorem dropWhile_of_head (h : ∀ c ∈ rest.head?, p c = false) : rest.dropWhile p = rest := by
  cases rest with
  | nil => rfl
  | cons c rest => exact List.dropWhile_cons_of_neg (by simp [h c rfl])

theorem takeWhile_append_of_head (hrun : ∀ c ∈ run, p c = true)
    (hrest : ∀ c ∈ rest.head?, p c = false) : (run ++ rest).takeWhile p = run := by
  rw [List.takeWhile_append_of_pos hrun, takeWhile_of_head hrest, List.append_nil]

theorem dropWhile_append_of_head (hrun : ∀ c ∈ run, p c = true)
    (hrest : ∀ c ∈ rest.head?, p c = false) : (run ++ rest).dropWhile p = rest := by
  rw [List.dropWhile_append_of_pos hrun, dropWhile_of_head hrest]

end Runs

/-! ## Separators -/

/-- What cuts a text at every separator, from the end on, cuts it as lists are cut. -/
theorem eq_splitOn {sep : Char} {split : List Char → List (List Char)} (hnil : split [] = [[]])
    (hcons : ∀ c r, split (c :: r) =
      match split r with
      | [] => [[c]]
      | p :: ps => if c = sep then [] :: p :: ps else (c :: p) :: ps) (cs : List Char) :
    split cs = cs.splitOn sep := by
  induction cs with
  | nil => rw [hnil, List.splitOn_nil]
  | cons c cs ih =>
    obtain ⟨p, ps, hcs⟩ := List.exists_cons_of_ne_nil (List.splitOn_ne_nil sep cs)
    rw [hcons, ih, List.splitOn_cons_eq_if_modifyHead, hcs]
    by_cases hc : c = sep
    · simp [hc]
    · simp [hc]

/-- What has no separator goes to the first piece. -/
theorem splitOn_append {sep : Char} {start : List Char} (h : sep ∉ start) (rest : List Char) :
    (start ++ rest).splitOn sep = (rest.splitOn sep).modifyHead (start ++ ·) := by
  obtain ⟨p, ps, hrest⟩ := List.exists_cons_of_ne_nil (List.splitOn_ne_nil sep rest)
  induction start with
  | nil => rw [List.nil_append, hrest, List.modifyHead_cons, List.nil_append]
  | cons c start ih =>
    obtain ⟨hc, hstart⟩ := not_or.1 (mt List.mem_cons.2 h)
    rw [List.cons_append, List.splitOn_cons_eq_if_modifyHead, if_neg (by simpa using Ne.symm hc),
      ih hstart, hrest]
    rfl

end Accord.Text
