import Accord.Proofs.Statement.Dialect
import Accord.Proofs.Text.Blank
import Accord.Proofs.Text.Pieces

/-!
# Reported versions

A reported version is read number by number off its first word, as long as there is a point and
another number (`numbers_point`, `numbers_last`, `numbers_none`).  `NumberAt` tells where the
numbers of a word stand without reading them.  A version is refused if and only if there is no
number or one of the first three is too large, and otherwise it is made of these three
(`parse_cases`); so versions are read back as they are written (`parse_render`).

A later version has all features that an earlier one has, but for unencrypted passwords, which it
does not bring back (`Feature.Available.mono`).
-/

namespace Accord

namespace Version

/-! ## The numbers of a word -/

/-- A number as it is written. -/
structure Numeral (digits : List Char) : Prop where
  nonempty : digits ≠ []
  isDigit : ∀ c ∈ digits, c.isDigit = true

/-- No digit comes next. -/
def NoDigit (rest : List Char) : Prop :=
  ∀ c ∈ rest.head?, c.isDigit = false

instance : (rest : List Char) → Decidable (NoDigit rest)
  | [] => .isTrue (by simp [NoDigit])
  | c :: _ => decidable_of_iff (c.isDigit = false) (by simp [NoDigit])

/-- Neither a digit nor a point comes next. -/
def Ends (rest : List Char) : Prop :=
  ∀ c ∈ rest.head?, c.isDigit = false ∧ c ≠ '.'

instance : (rest : List Char) → Decidable (Ends rest)
  | [] => .isTrue (by simp [Ends])
  | c :: _ => decidable_of_iff (c.isDigit = false ∧ c ≠ '.') (by simp [Ends])

/-- The number in place `n` of a word: before it stand `n` numbers with a point after each of them,
and no further digit comes after it. -/
inductive NumberAt : Nat → List Char → List Char → Prop where
  | first {digits rest : List Char} : Numeral digits → NoDigit rest →
      NumberAt 0 (digits ++ rest) digits
  | later {n : Nat} {before word digits : List Char} : Numeral before → NumberAt n word digits →
      NumberAt (n + 1) (before ++ '.' :: word) digits

/-- How a word goes on after the number at its start, if there is one. -/
inductive Start : List Char → Prop where
  | none {word : List Char} : NoDigit word → Start word
  | point {digits : List Char} (word : List Char) : Numeral digits → Start (digits ++ '.' :: word)
  | last {digits rest : List Char} : Numeral digits → Ends rest → Start (digits ++ rest)

theorem noDigit_point (word : List Char) : NoDigit ('.' :: word) := by
  rintro c ⟨⟩
  decide

theorem Ends.noDigit {rest : List Char} (h : Ends rest) : NoDigit rest :=
  fun c hc => (h c hc).1

/-- Where no digit comes next, there may be a point. -/
theorem NoDigit.point_or_ends {rest : List Char} (h : NoDigit rest) :
    (∃ word, rest = '.' :: word) ∨ Ends rest := by
  by_cases hpoint : rest.head? = some '.'
  · exact .inl (List.head?_eq_some_iff.1 hpoint)
  · refine .inr fun c hc => ⟨h c hc, ?_⟩
    rintro rfl
    exact hpoint hc

theorem start (word : List Char) : Start word := by
  have hdigits : ∀ c ∈ word.takeWhile Char.isDigit, c.isDigit = true :=
    List.all_eq_true.1 List.all_takeWhile
  have hword : word.takeWhile Char.isDigit ++ word.dropWhile Char.isDigit = word :=
    List.takeWhile_append_dropWhile
  have hrest : NoDigit (word.dropWhile Char.isDigit) := by
    intro c hc
    have hhead := List.head?_dropWhile_not Char.isDigit word
    rwa [show (word.dropWhile Char.isDigit).head? = some c from hc] at hhead
  by_cases hne : word.takeWhile Char.isDigit = []
  · rw [hne, List.nil_append] at hword
    rw [hword] at hrest
    exact .none hrest
  · rw [← hword]
    generalize word.dropWhile Char.isDigit = rest at hrest
    rcases hrest.point_or_ends with ⟨r, rfl⟩ | hends
    · exact .point r ⟨hne, hdigits⟩
    · exact .last ⟨hne, hdigits⟩ hends

section Numbers

variable {digits rest word : List Char} {n count : Nat}

theorem Numeral.takeWhile (h : Numeral digits) (hrest : NoDigit rest) :
    (digits ++ rest).takeWhile Char.isDigit = digits :=
  Text.takeWhile_append_of_head h.isDigit hrest

theorem Numeral.exists_cons (h : Numeral digits) :
    ∃ d ds, digits = d :: ds ∧ d.isDigit = true := by
  obtain ⟨d, ds, rfl⟩ := List.exists_cons_of_ne_nil h.nonempty
  exact ⟨d, ds, rfl, h.isDigit d List.mem_cons_self⟩

/-! ## Where numbers stand -/

theorem not_numberAt_of_noDigit (h : NoDigit word) : ¬NumberAt n word digits := by
  intro hnumber
  cases hnumber with
  | first hdigits _ =>
    obtain ⟨d, ds, rfl, hd⟩ := hdigits.exists_cons
    rw [h d rfl] at hd
    exact nomatch hd
  | later hbefore _ =>
    obtain ⟨d, ds, rfl, hd⟩ := hbefore.exists_cons
    rw [h d rfl] at hd
    exact nomatch hd

/-- There is one way only to cut a word after its first number. -/
theorem Numeral.append_inj {digits' rest' : List Char} (h : Numeral digits) (h' : Numeral digits')
    (hrest : NoDigit rest) (hrest' : NoDigit rest') (heq : digits ++ rest = digits' ++ rest') :
    digits = digits' ∧ rest = rest' := by
  have hdigits : digits = digits' := by
    rw [← h.takeWhile hrest, heq, h'.takeWhile hrest']
  subst hdigits
  exact ⟨rfl, List.append_cancel_left heq⟩

theorem numberAt_zero (h : Numeral digits) (hrest : NoDigit rest) {found : List Char} :
    NumberAt 0 (digits ++ rest) found ↔ found = digits := by
  constructor
  · intro hnumber
    generalize hword : digits ++ rest = word at hnumber
    cases hnumber with
    | first hfound hrest' => exact (h.append_inj hfound hrest hrest' hword).1.symm
  · rintro rfl
    exact .first h hrest

theorem numberAt_succ_point (h : Numeral digits) {found : List Char} :
    NumberAt (n + 1) (digits ++ '.' :: word) found ↔ NumberAt n word found := by
  constructor
  · intro hnumber
    generalize hword : digits ++ '.' :: word = whole at hnumber
    cases hnumber with
    | later hbefore hnumber =>
      obtain ⟨-, hrest⟩ := h.append_inj hbefore (noDigit_point _) (noDigit_point _) hword
      obtain rfl := (List.cons.inj hrest).2
      exact hnumber
  · exact .later h

theorem not_numberAt_succ_last (h : Numeral digits) (hrest : Ends rest) {found : List Char} :
    ¬NumberAt (n + 1) (digits ++ rest) found := by
  intro hnumber
  generalize hword : digits ++ rest = whole at hnumber
  cases hnumber with
  | later hbefore _ =>
    obtain ⟨-, rfl⟩ := h.append_inj hbefore hrest.noDigit (noDigit_point _) hword
    exact (hrest '.' rfl).2 rfl

/-! ## Reading numbers -/

/-- The numbers that are read off the start of a word, `count` of them at most. -/
def numbers (count : Nat) (word : List Char) : Option (List Nat) :=
  components count (splitPoints word)

theorem splitPoints_eq_splitOn (cs : List Char) : splitPoints cs = cs.splitOn '.' :=
  Text.eq_splitOn rfl (fun _ _ => rfl) cs

theorem splitPoints_append (h : Numeral digits) :
    splitPoints (digits ++ rest) = (splitPoints rest).modifyHead (digits ++ ·) := by
  have hpoint : '.' ∉ digits := fun hmem => absurd (h.isDigit '.' hmem) (by decide)
  rw [splitPoints_eq_splitOn, splitPoints_eq_splitOn, Text.splitOn_append hpoint]

/-- The pieces of what comes after a number. -/
theorem splitPoints_cases (rest : List Char) :
    (rest = [] ∧ splitPoints rest = [[]]) ∨
    (∃ word, rest = '.' :: word ∧ splitPoints rest = [] :: splitPoints word) ∨
    ∃ c r p ps, rest = c :: r ∧ c ≠ '.' ∧ splitPoints rest = (c :: p) :: ps := by
  simp only [splitPoints_eq_splitOn]
  cases rest with
  | nil => exact .inl ⟨rfl, rfl⟩
  | cons c r =>
    obtain ⟨p, ps, hr⟩ := List.exists_cons_of_ne_nil (List.splitOn_ne_nil '.' r)
    rw [List.splitOn_cons_eq_if_modifyHead]
    by_cases hc : c = '.'
    · subst hc
      exact .inr (.inl ⟨r, rfl, rfl⟩)
    · rw [if_neg (mt beq_iff_eq.1 hc), hr]
      exact .inr (.inr ⟨c, r, p, ps, rfl, hc, rfl⟩)

/-- Where no digit comes next, none is at the start of the first piece. -/
theorem exists_splitPoints (h : NoDigit rest) :
    ∃ tail ps, splitPoints rest = tail :: ps ∧ NoDigit tail := by
  rcases splitPoints_cases rest with ⟨-, hpieces⟩ | ⟨r, -, hpieces⟩ | ⟨c, r, p, ps, rfl, -, hpieces⟩
  · exact ⟨_, _, hpieces, by decide⟩
  · exact ⟨_, _, hpieces, by decide⟩
  · exact ⟨_, _, hpieces, h⟩

theorem components_of_noDigit {p : List Char} {ps : List (List Char)} (h : NoDigit p) :
    components (count + 1) (p :: ps) = some [] := by
  have htake : p.takeWhile Char.isDigit = [] := Text.takeWhile_of_head h
  rw [components, htake]
  rfl

/-- What is read of a piece that starts with a number. -/
theorem components_of_numeral (h : Numeral digits) {tail : List Char} {ps : List (List Char)}
    (htail : NoDigit tail) :
    components (count + 1) ((digits ++ tail) :: ps) =
      if UInt64.size ≤ ofDigits digits then none
      else if tail = [] then (components count ps).map (ofDigits digits :: ·)
      else some [ofDigits digits] := by
  have hne : digits.isEmpty = false := by simpa using h.nonempty
  have hlength : digits.length = (digits ++ tail).length ↔ tail = [] := by
    rw [List.length_append, ← List.length_eq_zero_iff]
    omega
  rw [components]
  simp only [h.takeWhile htail, hne, hlength, Bool.false_eq_true, if_false]

theorem numbers_none (h : NoDigit word) : numbers (count + 1) word = some [] := by
  obtain ⟨tail, ps, hpieces, htail⟩ := exists_splitPoints h
  unfold numbers
  rw [hpieces]
  exact components_of_noDigit htail

theorem numbers_point (h : Numeral digits) (hsize : ofDigits digits < UInt64.size) :
    numbers (count + 1) (digits ++ '.' :: word) =
      (numbers count word).map (ofDigits digits :: ·) := by
  have hpieces : splitPoints (digits ++ '.' :: word) = (digits ++ []) :: splitPoints word := by
    rw [splitPoints_append h, splitPoints_eq_splitOn, splitPoints_eq_splitOn,
      List.splitOn_cons_eq_if_modifyHead]
    rfl
  unfold numbers
  rw [hpieces, components_of_numeral h (by decide), if_neg (Nat.not_le.2 hsize), if_pos rfl]

theorem numbers_last (h : Numeral digits) (hrest : Ends rest)
    (hsize : ofDigits digits < UInt64.size) :
    numbers (count + 1) (digits ++ rest) = some [ofDigits digits] := by
  unfold numbers
  rw [splitPoints_append h]
  rcases splitPoints_cases rest with ⟨-, hpieces⟩ | ⟨r, rfl, -⟩ | ⟨c, r, p, ps, rfl, -, hpieces⟩
  · rw [hpieces, List.modifyHead_cons, components_of_numeral h (by decide),
      if_neg (Nat.not_le.2 hsize), if_pos rfl]
    cases count <;> rfl
  · exact absurd rfl (hrest '.' rfl).2
  · have htail : NoDigit (c :: p) := hrest.noDigit
    rw [hpieces, List.modifyHead_cons, components_of_numeral h htail,
      if_neg (Nat.not_le.2 hsize), if_neg (List.cons_ne_nil _ _)]

theorem numbers_large (h : Numeral digits) (hrest : NoDigit rest)
    (hsize : UInt64.size ≤ ofDigits digits) : numbers (count + 1) (digits ++ rest) = none := by
  obtain ⟨tail, ps, hpieces, htail⟩ := exists_splitPoints hrest
  unfold numbers
  rw [splitPoints_append h, hpieces, List.modifyHead_cons, components_of_numeral h htail,
    if_pos hsize]

/-- One of the first `count` numbers of a word needs more than 64 bits. -/
def TooLarge (count : Nat) (word : List Char) : Prop :=
  ∃ n < count, ∃ digits, NumberAt n word digits ∧ UInt64.size ≤ ofDigits digits

/-- The number in place `n` of a word is `k`; a number that is not there counts as zero. -/
def Shows (word : List Char) (n k : Nat) : Prop :=
  (∃ digits, NumberAt n word digits ∧ ofDigits digits = k) ∨
    k = 0 ∧ ∀ digits, ¬NumberAt n word digits

/-- Reading fails if and only if one of the numbers to read is too large. -/
theorem numbers_eq_none : numbers count word = none ↔ TooLarge count word := by
  unfold TooLarge
  induction count generalizing word with
  | zero => exact iff_of_false (fun h => nomatch h) fun ⟨n, hn, _⟩ => absurd hn (Nat.not_lt_zero n)
  | succ count ih =>
    rw [Nat.exists_lt_succ_left]
    cases start word with
    | none h =>
      rw [numbers_none h]
      refine iff_of_false (fun h => nomatch h) ?_
      rintro (⟨digits, hnumber, -⟩ | ⟨n, -, digits, hnumber, -⟩)
      · exact not_numberAt_of_noDigit h hnumber
      · exact not_numberAt_of_noDigit h hnumber
    | point word h =>
      simp only [numberAt_zero h (noDigit_point word), numberAt_succ_point h, exists_eq_left]
      rcases Nat.lt_or_ge (ofDigits _) UInt64.size with hsize | hsize
      · rw [numbers_point h hsize, Option.map_eq_none_iff, ih, or_iff_right (Nat.not_le.2 hsize)]
      · exact iff_of_true (numbers_large h (noDigit_point word) hsize) (.inl hsize)
    | last h hrest =>
      simp only [numberAt_zero h hrest.noDigit, not_numberAt_succ_last h hrest, exists_eq_left,
        false_and, exists_false, and_false, or_false]
      rcases Nat.lt_or_ge (ofDigits _) UInt64.size with hsize | hsize
      · rw [numbers_last h hrest hsize]
        exact iff_of_false (fun h => nomatch h) (Nat.not_le.2 hsize)
      · exact iff_of_true (numbers_large h hrest.noDigit hsize) hsize

/-- What is read are the numbers that stand there. -/
theorem numbers_eq_some {l : List Nat} (h : numbers count word = some l) (hn : n < count) :
    Shows word n (l.getD n 0) := by
  induction count generalizing word n l with
  | zero => exact absurd hn (Nat.not_lt_zero n)
  | succ count ih =>
    cases start word with
    | none hword =>
      obtain rfl := Option.some.inj ((numbers_none hword).symm.trans h)
      exact .inr ⟨rfl, fun _ => not_numberAt_of_noDigit hword⟩
    | @point digits word hdigits =>
      have hsize : ofDigits digits < UInt64.size := Nat.lt_of_not_ge fun hsize =>
        nomatch (numbers_large hdigits (noDigit_point word) hsize).symm.trans h
      rw [numbers_point hdigits hsize] at h
      obtain ⟨l', hl', rfl⟩ := Option.map_eq_some_iff.1 h
      cases n with
      | zero => exact .inl ⟨digits, .first hdigits (noDigit_point word), rfl⟩
      | succ n =>
        have hrest := ih hl' (Nat.lt_of_succ_lt_succ hn)
        unfold Shows at hrest ⊢
        simpa only [numberAt_succ_point hdigits, List.getD_cons_succ] using hrest
    | @last digits rest hdigits hrest =>
      have hsize : ofDigits digits < UInt64.size := Nat.lt_of_not_ge fun hsize =>
        nomatch (numbers_large hdigits hrest.noDigit hsize).symm.trans h
      obtain rfl := Option.some.inj ((numbers_last hdigits hrest hsize).symm.trans h)
      cases n with
      | zero => exact .inl ⟨digits, .first hdigits hrest.noDigit, rfl⟩
      | succ n => exact .inr ⟨rfl, fun _ => not_numberAt_succ_last hdigits hrest⟩

/-- No number is read if and only if the word does not start with one. -/
theorem numbers_eq_nil : numbers (count + 1) word = some [] ↔ NoDigit word := by
  refine ⟨fun h => ?_, numbers_none⟩
  cases start word with
  | none hword => exact hword
  | @point digits word hdigits =>
    rcases Nat.lt_or_ge (ofDigits digits) UInt64.size with hsize | hsize
    · rw [numbers_point hdigits hsize] at h
      obtain ⟨l, -, hl⟩ := Option.map_eq_some_iff.1 h
      exact nomatch hl
    · exact nomatch (numbers_large hdigits (noDigit_point word) hsize).symm.trans h
  | @last digits rest hdigits hrest =>
    rcases Nat.lt_or_ge (ofDigits digits) UInt64.size with hsize | hsize
    · exact nomatch (numbers_last hdigits hrest hsize).symm.trans h
    · exact nomatch (numbers_large hdigits hrest.noDigit hsize).symm.trans h

end Numbers

/-! ## Reading versions -/

/-- The word of a reported version that tells the version. -/
def word (raw : String) : List Char :=
  (Text.firstWord raw).toList

/-- There is no number at the start of a reported version, or one of its first three is too
large. -/
def Refused (raw : String) : Prop :=
  NoDigit (word raw) ∨ TooLarge 3 (word raw)

/-- Every number of the version fits into 64 bits. -/
structure Storable (v : Version) : Prop where
  major : v.major < UInt64.size
  minor : v.minor < UInt64.size
  patch : v.patch < UInt64.size

/-- The version is made of the first three numbers of a word. -/
structure ShownBy (v : Version) (word : List Char) : Prop where
  major : Shows word 0 v.major
  minor : Shows word 1 v.minor
  patch : Shows word 2 v.patch

theorem Shows.lt {word : List Char} {count n k : Nat} (h : Shows word n k) (hn : n < count)
    (hsize : ¬TooLarge count word) : k < UInt64.size := by
  rcases h with ⟨digits, hnumber, rfl⟩ | ⟨rfl, -⟩
  · exact Nat.lt_of_not_ge fun hlarge => hsize ⟨n, hn, digits, hnumber, hlarge⟩
  · decide

theorem ShownBy.storable {v : Version} {word : List Char} (h : v.ShownBy word)
    (hsize : ¬TooLarge 3 word) : v.Storable where
  major := h.major.lt (by decide) hsize
  minor := h.minor.lt (by decide) hsize
  patch := h.patch.lt (by decide) hsize

section Parse

variable {raw : String}

theorem parse_eq (raw : String) : parse raw = match numbers 3 (word raw) with
    | none => .error (.validation (.serverVersionRange raw))
    | some [] => .error (.validation (.serverVersion raw))
    | some l => .ok ⟨l.getD 0 0, l.getD 1 0, l.getD 2 0⟩ := by
  unfold parse numbers word
  generalize components 3 _ = read
  rfl

theorem parse_of_numbers {k : Nat} {l : List Nat} (h : numbers 3 (word raw) = some (k :: l)) :
    parse raw = .ok ⟨k, l.getD 0 0, l.getD 1 0⟩ := by
  rw [parse_eq, h]
  rfl

/-- A reported version is refused, or read. -/
theorem parse_cases (raw : String) :
    (Refused raw ∧ ∃ why, parse raw = .error (.validation why)) ∨
      ¬Refused raw ∧ ∃ v, parse raw = .ok v ∧ v.ShownBy (word raw) ∧ v.Storable := by
  have hparse := parse_eq raw
  cases hnumbers : numbers 3 (word raw) with
  | none =>
    rw [hnumbers] at hparse
    exact .inl ⟨.inr (numbers_eq_none.1 hnumbers), _, hparse⟩
  | some l =>
    cases l with
    | nil =>
      rw [hnumbers] at hparse
      exact .inl ⟨.inl (numbers_eq_nil.1 hnumbers), _, hparse⟩
    | cons k l =>
      have hnotNone : ¬TooLarge 3 (word raw) := fun h =>
        nomatch (numbers_eq_none.2 h).symm.trans hnumbers
      have hnotNil : ¬NoDigit (word raw) := fun h =>
        nomatch (numbers_none h).symm.trans hnumbers
      have hshown : (⟨k, l.getD 0 0, l.getD 1 0⟩ : Version).ShownBy (word raw) :=
        ⟨numbers_eq_some hnumbers (by decide), numbers_eq_some hnumbers (by decide),
          numbers_eq_some hnumbers (by decide)⟩
      exact .inr ⟨not_or.2 ⟨hnotNil, hnotNone⟩, _, parse_of_numbers hnumbers, hshown,
        hshown.storable hnotNone⟩

end Parse

/-! ## Versions as they are written -/

theorem numeral_toString (n : Nat) : Numeral (toString n).toList :=
  ⟨Sql.toList_toString_ne_nil n, fun _ => Sql.isDigit_of_mem_toString⟩

theorem ofDigits_toString (n : Nat) : ofDigits (toString n).toList = n := by
  have htoList : (toString n).toList = Nat.toDigits 10 n := Nat.toList_repr
  have hfold : ∀ digits, ofDigits digits = Nat.ofDigitChars 10 digits 0 := fun digits => by
    simp only [ofDigits, Nat.ofDigitChars, Nat.mul_comm]
    rfl
  rw [htoList, hfold, Nat.ofDigitChars_ten_toDigits]

section Written

variable {count a b c : Nat} {rest : List Char}

theorem numbers_toString_point (ha : a < UInt64.size) (rest : List Char) :
    numbers (count + 1) ((toString a).toList ++ '.' :: rest) =
      (numbers count rest).map (a :: ·) := by
  have h := @numbers_point _ rest count (numeral_toString a) (by rwa [ofDigits_toString])
  rwa [ofDigits_toString] at h

theorem numbers_toString_last (ha : a < UInt64.size) (hrest : Ends rest) :
    numbers (count + 1) ((toString a).toList ++ rest) = some [a] := by
  have h := @numbers_last _ rest count (numeral_toString a) hrest (by rwa [ofDigits_toString])
  rwa [ofDigits_toString] at h

/-- After the last number that is asked for, a point makes no difference. -/
theorem numbers_toString_third (ha : a < UInt64.size) (hrest : NoDigit rest) :
    numbers 1 ((toString a).toList ++ rest) = some [a] := by
  rcases hrest.point_or_ends with ⟨r, rfl⟩ | hends
  · rw [numbers_toString_point ha]
    rfl
  · exact numbers_toString_last ha hends

theorem NoDigit.takeWhile (h : NoDigit rest) (p : Char → Bool) : NoDigit (rest.takeWhile p) := by
  intro c hc
  rw [List.head?_takeWhile, Option.mem_filter_iff] at hc
  exact h c hc.1

theorem Ends.takeWhile (h : Ends rest) (p : Char → Bool) : Ends (rest.takeWhile p) := by
  intro c hc
  rw [List.head?_takeWhile, Option.mem_filter_iff] at hc
  exact h c hc.1

end Written

theorem toList_render (v : Version) : v.render.toList =
    (toString v.major).toList ++ '.' :: ((toString v.minor).toList ++ '.' ::
      (toString v.patch).toList) := by
  simp [render]

section Suffixes

variable {blanks core suffix : String}

/-- The word of a version starts where the blanks end, and goes on to the next blank. -/
theorem word_append (hblanks : ∀ c ∈ blanks.toList, Text.isBlank c = true)
    (hcore : ∀ c ∈ core.toList, c.isDigit = true ∨ c = '.') (hne : core.toList ≠ []) :
    word (blanks ++ core ++ suffix) =
      core.toList ++ suffix.toList.takeWhile fun c => !Text.isBlank c := by
  refine Text.firstWord_append (by simp) hblanks (fun c hc => ?_) hne
  rcases hcore c hc with hdigit | rfl
  · exact Text.isBlank_of_isDigit hdigit
  · decide

theorem isDigit_or_point {n : Nat} {c : Char} (h : c ∈ (toString n).toList) :
    c.isDigit = true ∨ c = '.' :=
  .inl (Sql.isDigit_of_mem_toString h)

variable (hblanks : ∀ c ∈ blanks.toList, Text.isBlank c = true)
include hblanks

theorem parse_render {v : Version} (h : v.Storable) (hsuffix : NoDigit suffix.toList) :
    parse (blanks ++ v.render ++ suffix) = .ok v := by
  have hcore : ∀ c ∈ v.render.toList, c.isDigit = true ∨ c = '.' := by
    intro c hc
    rw [toList_render] at hc
    simp only [List.mem_append, List.mem_cons] at hc
    rcases hc with hc | rfl | hc | rfl | hc
    · exact isDigit_or_point hc
    · exact .inr rfl
    · exact isDigit_or_point hc
    · exact .inr rfl
    · exact isDigit_or_point hc
  have hnumbers : numbers 3 (word (blanks ++ v.render ++ suffix)) =
      some [v.major, v.minor, v.patch] := by
    rw [word_append hblanks hcore (by simp [toList_render]), toList_render]
    simp only [List.append_assoc, List.cons_append]
    rw [numbers_toString_point h.major, numbers_toString_point h.minor,
      numbers_toString_third h.patch (hsuffix.takeWhile _)]
    rfl
  exact parse_of_numbers hnumbers

theorem parse_two {major minor : Nat} (hmajor : major < UInt64.size) (hminor : minor < UInt64.size)
    (hsuffix : Ends suffix.toList) :
    parse (blanks ++ (toString major ++ "." ++ toString minor) ++ suffix) =
      .ok ⟨major, minor, 0⟩ := by
  have hlist : (toString major ++ "." ++ toString minor).toList =
      (toString major).toList ++ '.' :: (toString minor).toList := by simp
  have hcore : ∀ c ∈ (toString major ++ "." ++ toString minor).toList,
      c.isDigit = true ∨ c = '.' := by
    intro c hc
    rw [hlist, List.mem_append, List.mem_cons] at hc
    rcases hc with hc | rfl | hc
    · exact isDigit_or_point hc
    · exact .inr rfl
    · exact isDigit_or_point hc
  have hnumbers : numbers 3 (word (blanks ++ (toString major ++ "." ++ toString minor) ++ suffix)) =
      some [major, minor] := by
    rw [word_append hblanks hcore (by simp), hlist, List.append_assoc, List.cons_append,
      numbers_toString_point hmajor, numbers_toString_last hminor (hsuffix.takeWhile _)]
    rfl
  exact parse_of_numbers hnumbers

theorem parse_one {major : Nat} (hmajor : major < UInt64.size) (hsuffix : Ends suffix.toList) :
    parse (blanks ++ toString major ++ suffix) = .ok ⟨major, 0, 0⟩ := by
  have hnumbers : numbers 3 (word (blanks ++ toString major ++ suffix)) = some [major] := by
    rw [word_append hblanks (fun _ => isDigit_or_point) (Sql.toList_toString_ne_nil _),
      numbers_toString_last hmajor (hsuffix.takeWhile _)]
  exact parse_of_numbers hnumbers

end Suffixes

theorem parse_render_self {v : Version} (h : v.Storable) : parse v.render = .ok v := by
  have hread : parse ("" ++ v.render ++ "") = .ok v := parse_render (by simp) h (by decide)
  rwa [String.empty_append, String.append_empty] at hread

/-! ## Later versions -/

theorem Since.trans {v w : Version} {major minor : Nat} (h : w.Since v.major v.minor)
    (hv : v.Since major minor) : w.Since major minor := by
  unfold Since at *
  omega

end Version

/-- A later version has every feature but unencrypted passwords that an earlier one has. -/
theorem Feature.Available.mono {v w : Version} {f : Feature} (h : w.Since v.major v.minor)
    (hf : f ≠ .unencryptedPassword) (hv : f.Available v) : f.Available w := by
  cases f with
  | unencryptedPassword => exact absurd rfl hf
  | _ => exact h.trans hv

/-- A version is read off the start of what a server reports, whatever follows it; what is refused
does not start with a number, or has one that is too large; a version that was read is read again
from its own writing; and a later version loses no feature but unencrypted passwords, and does not
bring these back. -/
theorem Version.parse_reported :
    (∀ (v : Version) (blanks suffix : String), v.Storable →
      (∀ c ∈ blanks.toList, Text.isBlank c = true) → NoDigit suffix.toList →
      parse (blanks ++ v.render ++ suffix) = .ok v) ∧
    (∀ (major minor : Nat) (blanks suffix : String), major < UInt64.size → minor < UInt64.size →
      (∀ c ∈ blanks.toList, Text.isBlank c = true) → Ends suffix.toList →
      parse (blanks ++ (toString major ++ "." ++ toString minor) ++ suffix) =
        .ok ⟨major, minor, 0⟩) ∧
    (∀ (major : Nat) (blanks suffix : String), major < UInt64.size →
      (∀ c ∈ blanks.toList, Text.isBlank c = true) → Ends suffix.toList →
      parse (blanks ++ toString major ++ suffix) = .ok ⟨major, 0, 0⟩) ∧
    (∀ raw, (Refused raw ∧ ∃ why, parse raw = .error (.validation why)) ∨
      ¬Refused raw ∧ ∃ v, parse raw = .ok v ∧ v.ShownBy (word raw) ∧ parse v.render = .ok v) ∧
    ∀ earlier later : Dialect,
      later.version.Since earlier.version.major earlier.version.minor →
      (∀ f, f ≠ .unencryptedPassword → earlier.supports f = true → later.supports f = true) ∧
      (later.supports .unencryptedPassword = true →
        earlier.supports .unencryptedPassword = true) := by
  refine ⟨?_, ?_, ?_, fun raw => ?_, fun earlier later h => ⟨?_, ?_⟩⟩
  · intro v blanks suffix hv hblanks hsuffix
    exact parse_render hblanks hv hsuffix
  · intro major minor blanks suffix hmajor hminor hblanks hsuffix
    exact parse_two hblanks hmajor hminor hsuffix
  · intro major blanks suffix hmajor hblanks hsuffix
    exact parse_one hblanks hmajor hsuffix
  · refine (parse_cases raw).imp_right ?_
    rintro ⟨hread, v, hv, hshown, hstorable⟩
    exact ⟨hread, v, hv, hshown, parse_render_self hstorable⟩
  · intro f hf hearlier
    rw [Dialect.supports_iff] at hearlier ⊢
    exact hearlier.mono h hf
  · intro hlater
    rw [Dialect.supports_iff] at hlater ⊢
    exact fun hten => hlater (h.trans hten)

theorem Version.parse_reported_decorated :
    parse "\u00a0 9.6.24.1 (Debian)" = .ok ⟨9, 6, 24⟩ ∧
    parse "15.3 (Debian 15.3-1)" = .ok ⟨15, 3, 0⟩ ∧
    parse "16beta1" = .ok ⟨16, 0, 0⟩ ∧
    (∃ why, parse "v16" = .error (.validation why)) ∧
    (⟨⟨9, 6, 24⟩⟩ : Dialect).supports .rowLevelSecurity = true ∧
    (⟨⟨9, 5, 0⟩⟩ : Dialect).supports .unencryptedPassword = true := by
  obtain ⟨hthree, htwo, hone, hcases, hlater⟩ := Version.parse_reported
  have hgate := hlater ⟨⟨9, 5, 0⟩⟩ ⟨⟨9, 6, 24⟩⟩ (by decide)
  refine ⟨?_, ?_, ?_, ?_, ?_, ?_⟩
  · exact hthree ⟨9, 6, 24⟩ "\u00a0 " ".1 (Debian)" ⟨by decide, by decide, by decide⟩
      (List.all_eq_true.1 (by decide)) (by decide)
  · exact htwo 15 3 "" " (Debian 15.3-1)" (by decide) (by decide) (by simp) (by decide)
  · exact hone 16 "" "beta1" (by decide) (by simp) (by decide)
  · rcases hcases "v16" with ⟨-, herror⟩ | ⟨hread, -⟩
    · exact herror
    · exact absurd (.inl (by decide)) hread
  · exact hgate.1 .rowLevelSecurity (by decide) (by decide)
  · exact hgate.2 (by decide)

end Accord
