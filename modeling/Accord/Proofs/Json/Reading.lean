import Accord.Json.Draft
import Accord.Proofs.Json.Literal

/-!
# Texts that spell values

`Spells` is the grammar of the texts that values are written as: with integers only, and with any
white space between the tokens.  Every such text is read as the value that it spells
(`Spells.read`).
-/

namespace Accord.Json

/-! ## White space -/

/-- The characters are all white space between tokens. -/
def Blank (ws : List Char) : Prop :=
  ∀ c ∈ ws, isSpace c = true

theorem skipSpace_append {ws : List Char} (h : Blank ws) (cs : List Char) :
    skipSpace (ws ++ cs) = skipSpace cs :=
  List.dropWhile_append_of_pos h

theorem skipSpace_cons {c : Char} (h : isSpace c = false) (cs : List Char) :
    skipSpace (c :: cs) = c :: cs :=
  List.dropWhile_cons_of_neg (by simp [h])

/-! ## The grammar -/

/-- What stands before an element or a member: a comma, unless it is the first one. -/
inductive Gap : Bool → List Char → Prop where
  | first {ws : List Char} : Blank ws → Gap true ws
  | next {ws ws' : List Char} : Blank ws → Blank ws' → Gap false (ws ++ ',' :: ws')

/-- A value, or what is left of a list or an object, up to its closing bracket.  `first` says that
nothing came before. -/
inductive Part where
  | value (v : Json)
  | items (first : Bool) (l : List Json)
  | members (first : Bool) (l : List (String × Json))

/-- The text spells a value, or the rest of a list or an object together with its closing
bracket. -/
inductive Spells : Part → List Char → Prop where
  | null : Spells (.value .null) "null".toList
  | bool (b : Bool) : Spells (.value (.bool b)) (if b then "true" else "false").toList
  | integer {i : Int} : -9223372036854775808 ≤ i → i < 18446744073709551616 →
      Spells (.value (.int i)) (toString i).toList
  | text (s : String) : Spells (.value (.text s)) (writeText s).toList
  | array {l : List Json} {cs : List Char} : Spells (.items true l) cs →
      Spells (.value (.array l)) ('[' :: cs)
  | object {l : List (String × Json)} {cs : List Char} : Spells (.members true l) cs →
      Spells (.value (.object l)) ('\x7b' :: cs)
  | noItem (first : Bool) {ws : List Char} : Blank ws → Spells (.items first []) (ws ++ [']'])
  | item {first : Bool} {v : Json} {l : List Json} {gap cs r : List Char} : Gap first gap →
      Spells (.value v) cs → Spells (.items false l) r →
      Spells (.items first (v :: l)) (gap ++ (cs ++ r))
  | noMember (first : Bool) {ws : List Char} : Blank ws →
      Spells (.members first []) (ws ++ ['\x7d'])
  | member {first : Bool} {k : String} {v : Json} {l : List (String × Json)}
      {gap ws cs r : List Char} : Gap first gap → Blank ws →
      Spells (.value v) cs → Spells (.members false l) r →
      Spells (.members first ((k, v) :: l))
        (gap ++ ((writeText k).toList ++ ':' :: (ws ++ (cs ++ r))))

theorem toList_writeText (s : String) :
    (writeText s).toList = '"' :: (s.toList.flatMap escapeChar ++ ['"']) :=
  String.toList_ofList

theorem of_isSpace {c : Char} (h : isSpace c = true) :
    c = ' ' ∨ c = '\t' ∨ c = '\n' ∨ c = '\r' := by
  simpa [isSpace, or_assoc] using h

theorem isSpace_of_isDigit {c : Char} (h : c.isDigit = true) : isSpace c = false := by
  refine Bool.eq_false_iff.2 fun hspace => ?_
  rcases of_isSpace hspace with rfl | rfl | rfl | rfl <;> exact absurd h (by decide)

theorem stops_append_cons {ws : List Char} {c : Char} (hws : Blank ws)
    (hc : c.isDigit = false ∧ c ≠ '.' ∧ c ≠ 'e' ∧ c ≠ 'E') (cs : List Char) :
    Stops (ws ++ c :: cs) := by
  intro d hd
  cases ws with
  | nil =>
    obtain rfl := Option.some.inj hd
    exact hc
  | cons s ws =>
    obtain rfl := Option.some.inj hd
    rcases of_isSpace (hws s List.mem_cons_self) with rfl | rfl | rfl | rfl <;> decide

/-- A value starts with a character that ends no list and is no white space. -/
theorem Spells.starts {v : Json} {cs : List Char} (h : Spells (.value v) cs) :
    ∃ c r, cs = c :: r ∧ isSpace c = false ∧ c ≠ ']' := by
  cases h with
  | null => exact ⟨'n', _, rfl, by decide, by decide⟩
  | bool b => cases b <;> exact ⟨_, _, rfl, by decide, by decide⟩
  | @integer i =>
    obtain ⟨c, r, hcs, rfl | hdigit⟩ := exists_cons_toString_int i
    · exact ⟨_, r, hcs, by decide, by decide⟩
    · refine ⟨c, r, hcs, isSpace_of_isDigit hdigit, ?_⟩
      rintro rfl
      exact absurd hdigit (by decide)
  | text s => exact ⟨'"', _, toList_writeText s, by decide, by decide⟩
  | array h => exact ⟨'[', _, rfl, by decide, by decide⟩
  | object h => exact ⟨'\x7b', _, rfl, by decide, by decide⟩

theorem Spells.length_pos {p : Part} {cs : List Char} (h : Spells p cs) : 0 < cs.length := by
  cases p with
  | value v =>
    obtain ⟨c, r, rfl, -⟩ := h.starts
    exact Nat.succ_pos _
  | items first l =>
    cases h with
    | noItem _ _ => simp
    | item _ hv _ =>
      obtain ⟨c, r, rfl, -⟩ := hv.starts
      simp +arith
  | members first l => cases h <;> simp +arith

theorem Gap.stops {gap : List Char} (h : Gap false gap) (rest : List Char) :
    Stops (gap ++ rest) := by
  cases h with
  | next hws _ =>
    rw [List.append_assoc]
    exact stops_append_cons hws (by decide) _

/-- What follows a value in a list or an object does not go on with a number. -/
theorem Spells.stops_items {l : List Json} {cs : List Char} (h : Spells (.items false l) cs)
    (rest : List Char) : Stops (cs ++ rest) := by
  cases h with
  | noItem _ hws =>
    rw [List.append_assoc]
    exact stops_append_cons hws (by decide) rest
  | item hgap _ _ =>
    rw [List.append_assoc]
    exact hgap.stops _

theorem Spells.stops_members {l : List (String × Json)} {cs : List Char}
    (h : Spells (.members false l) cs) (rest : List Char) : Stops (cs ++ rest) := by
  cases h with
  | noMember _ hws =>
    rw [List.append_assoc]
    exact stops_append_cons hws (by decide) rest
  | member hgap _ _ _ =>
    rw [List.append_assoc]
    exact hgap.stops _

/-! ## Reading -/

/-- What reading a part comes to, with enough fuel and whatever follows. -/
def Part.ReadFrom : Part → List Char → Prop
  | .value v, cs => ∀ fuel ws rest, Blank ws → 3 * cs.length ≤ fuel → Stops rest →
      Draft.value fuel (ws ++ (cs ++ rest)) = (Draft.ofJson v, some rest)
  | .items first l, cs => ∀ fuel rest, 3 * cs.length ≤ fuel →
      Draft.items fuel first (cs ++ rest) = (Draft.ofItems l, .closed, some rest)
  | .members first l, cs => ∀ fuel rest, 3 * cs.length ≤ fuel →
      Draft.members fuel first (cs ++ rest) = (Draft.ofMembers l, .closed, some rest)

/-- A value that starts with neither bracket is read as a scalar. -/
theorem value_eq_scalar {fuel : Nat} {ws : List Char} {c : Char} (hws : Blank ws)
    (hspace : isSpace c = false) (hlist : c ≠ '[') (hobject : c ≠ '\x7b') (r : List Char) :
    Draft.value (fuel + 1) (ws ++ c :: r) = Draft.scalar (c :: r) := by
  rw [Draft.value, skipSpace_append hws, skipSpace_cons hspace]
  split
  · exact absurd (List.cons.inj ‹_›).1 hlist
  · exact absurd (List.cons.inj ‹_›).1 hobject
  · rfl

theorem value_integer {fuel : Nat} {ws : List Char} (hws : Blank ws) (i : Int) (rest : List Char) :
    Draft.value (fuel + 1) (ws ++ ((toString i).toList ++ rest)) =
      Draft.scalar ((toString i).toList ++ rest) := by
  obtain ⟨c, r, hcs, hc⟩ := exists_cons_toString_int i
  rw [hcs, List.cons_append]
  rcases hc with rfl | hdigit
  · exact value_eq_scalar hws (by decide) (by decide) (by decide) _
  · have hne : ∀ d : Char, d.isDigit = false → c ≠ d := by
      rintro d hd rfl
      exact Bool.false_ne_true (hd.symm.trans hdigit)
    exact value_eq_scalar hws (isSpace_of_isDigit hdigit) (hne '[' rfl) (hne '\x7b' rfl) _

theorem string_written (s : String) (rest : List Char) :
    Draft.string (s.toList.flatMap escapeChar ++ '"' :: rest) = (.text (.ok s), some rest) := by
  unfold Draft.string readText
  rw [skipString_escaped, readString_escaped]
  show (Draft.text (.ok (String.ofList s.toList)), some rest) = _
  rw [String.ofList_toList]

theorem scalar_text (s : String) (rest : List Char) :
    Draft.scalar ((writeText s).toList ++ rest) = (.text (.ok s), some rest) := by
  rw [toList_writeText, List.cons_append, List.append_assoc]
  exact string_written s rest

theorem scalar_integer {i : Int} (hlow : -9223372036854775808 ≤ i)
    (hhigh : i < 18446744073709551616) {rest : List Char} (hrest : Stops rest) :
    Draft.scalar ((toString i).toList ++ rest) = (.number (.ok (.integer i)), some rest) := by
  have hnumeral : Draft.numeral ((toString i).toList ++ rest) =
      (.number (.ok (.integer i)), some rest) := by
    unfold Draft.numeral
    rw [takeNumber_integer i hrest]
    dsimp only
    rw [number_ofInt hlow hhigh]
  obtain ⟨c, r, hcs, hc⟩ := exists_cons_toString_int i
  rw [← hnumeral, hcs, List.cons_append]
  rcases hc with rfl | hdigit
  · rfl
  · have hne : ∀ d : Char, d.isDigit = false → c ≠ d := by
      rintro d hd rfl
      exact Bool.false_ne_true (hd.symm.trans hdigit)
    unfold Draft.scalar
    dsimp only
    rw [if_neg (hne '"' rfl), if_neg (hne 'n' rfl), if_neg (hne 't' rfl), if_neg (hne 'f' rfl),
      if_pos (by simp [hdigit])]

/-! ## Reading lists -/

theorem items_end {fuel : Nat} {ws : List Char} (hws : Blank ws) (first : Bool) (rest : List Char) :
    Draft.items (fuel + 1) first (ws ++ ']' :: rest) = ([], .closed, some rest) := by
  rw [Draft.items, skipSpace_append hws, skipSpace_cons (by decide)]
  rfl

theorem items_gap {fuel : Nat} {first : Bool} {gap cs rest : List Char} (hgap : Gap first gap)
    (hstarts : ∃ c r, cs = c :: r ∧ isSpace c = false ∧ c ≠ ']') :
    Draft.items (fuel + 1) first (gap ++ (cs ++ rest)) = Draft.element fuel (cs ++ rest) := by
  obtain ⟨c, r, rfl, hspace, hne⟩ := hstarts
  cases hgap with
  | first hws =>
    rw [Draft.items, skipSpace_append hws, List.cons_append, skipSpace_cons hspace]
    split
    · cases ‹_ = []›
    · exact absurd (List.cons.inj ‹_›).1 hne
    · obtain ⟨rfl, rfl⟩ := List.cons.inj ‹_›
      rfl
  | next hws hws' =>
    rw [List.append_assoc, List.cons_append, Draft.items, skipSpace_append hws,
      skipSpace_cons (by decide)]
    split
    · cases ‹_ = []›
    · exact absurd (List.cons.inj ‹_›).1 (by decide)
    · obtain ⟨rfl, rfl⟩ := List.cons.inj ‹_›
      rw [if_neg Bool.false_ne_true, if_pos rfl, skipSpace_append hws', List.cons_append,
        skipSpace_cons hspace]
      split
      · cases ‹_ = []›
      · exact absurd (List.cons.inj ‹_›).1 hne
      · rfl

theorem element_read {fuel : Nat} {v : Json} {l : List Json} {cs r rest : List Char}
    (hv : Draft.value fuel cs = (Draft.ofJson v, some r))
    (hl : Draft.items fuel false r = (Draft.ofItems l, .closed, some rest)) :
    Draft.element (fuel + 1) cs = (Draft.ofItems (v :: l), .closed, some rest) := by
  rw [Draft.element, hv]
  dsimp only
  rw [hl]
  rfl

/-! ## Reading objects -/

theorem members_end {fuel : Nat} {ws : List Char} (hws : Blank ws) (first : Bool)
    (rest : List Char) :
    Draft.members (fuel + 1) first (ws ++ '\x7d' :: rest) = ([], .closed, some rest) := by
  rw [Draft.members, skipSpace_append hws, skipSpace_cons (by decide)]
  rfl

theorem members_gap {fuel : Nat} {first : Bool} {gap : List Char} (hgap : Gap first gap)
    (k : String) (rest : List Char) :
    Draft.members (fuel + 1) first (gap ++ ((writeText k).toList ++ rest)) =
      Draft.member fuel ((writeText k).toList ++ rest) := by
  rw [toList_writeText, List.cons_append]
  cases hgap with
  | first hws =>
    rw [Draft.members, skipSpace_append hws, skipSpace_cons (by decide)]
    rfl
  | next hws hws' =>
    rw [List.append_assoc, List.cons_append, Draft.members, skipSpace_append hws,
      skipSpace_cons (by decide)]
    split
    · cases ‹_ = []›
    · exact absurd (List.cons.inj ‹_›).1 (by decide)
    · obtain ⟨rfl, rfl⟩ := List.cons.inj ‹_›
      rw [if_neg Bool.false_ne_true, if_pos rfl, skipSpace_append hws', skipSpace_cons (by decide)]
      rfl

theorem member_read {fuel : Nat} {k : String} {v : Json} {l : List (String × Json)}
    {cs r rest : List Char} (hv : Draft.value fuel cs = (Draft.ofJson v, some r))
    (hl : Draft.members fuel false r = (Draft.ofMembers l, .closed, some rest)) :
    Draft.member (fuel + 1) ((writeText k).toList ++ ':' :: cs) =
      (Draft.ofMembers ((k, v) :: l), .closed, some rest) := by
  rw [toList_writeText, List.cons_append, List.append_assoc]
  simp only [List.cons_append, List.nil_append]
  rw [Draft.member, string_written]
  dsimp only
  rw [skipSpace_cons (by decide)]
  split
  · obtain ⟨-, rfl⟩ := List.cons.inj ‹_›
    rw [hv]
    dsimp only
    rw [hl]
    rfl
  · cases ‹_ = []›
  · next hother _ => exact (hother _ rfl).elim

/-! ## Reading all -/

/-- Three steps go for each character: the last one of a part leaves enough for what is inside. -/
theorem exists_fuel {n fuel : Nat} (hn : 0 < n) (h : 3 * n ≤ fuel) :
    ∃ f, fuel = f + 1 + 1 + 1 ∧ 3 * (n - 1) ≤ f :=
  ⟨fuel - 3, by omega, by omega⟩

/-- Every text that spells something is read as that. -/
theorem Spells.read {p : Part} {cs : List Char} (h : Spells p cs) : p.ReadFrom cs := by
  have hpos := h.length_pos
  -- Each part is read by one function, which leaves enough fuel for the parts inside.
  induction h with
  | null =>
    intro fuel ws rest hws hfuel _
    obtain ⟨f, rfl, -⟩ := exists_fuel hpos hfuel
    exact value_eq_scalar hws (by decide) (by decide) (by decide) _
  | bool b =>
    intro fuel ws rest hws hfuel _
    obtain ⟨f, rfl, -⟩ := exists_fuel hpos hfuel
    cases b <;> exact value_eq_scalar hws (by decide) (by decide) (by decide) _
  | integer hlow hhigh =>
    intro fuel ws rest hws hfuel hrest
    obtain ⟨f, rfl, -⟩ := exists_fuel hpos hfuel
    exact (value_integer hws _ _).trans (scalar_integer hlow hhigh hrest)
  | text s =>
    intro fuel ws rest hws hfuel _
    obtain ⟨f, rfl, -⟩ := exists_fuel hpos hfuel
    have hscalar := scalar_text s rest
    rw [toList_writeText] at hscalar ⊢
    exact (value_eq_scalar hws (by decide) (by decide) (by decide) _).trans hscalar
  | array h ih =>
    intro fuel ws rest hws hfuel _
    obtain ⟨f, rfl, hf⟩ := exists_fuel hpos hfuel
    have hl := ih h.length_pos (f + 1 + 1) rest (by simp at hf; omega)
    rw [List.cons_append, Draft.value, skipSpace_append hws, skipSpace_cons (by decide)]
    split
    · obtain ⟨-, rfl⟩ := List.cons.inj ‹_›
      rw [hl]
      rfl
    · exact absurd (List.cons.inj ‹_›).1 (by decide)
    · next hother _ => exact (hother _ rfl).elim
  | object h ih =>
    intro fuel ws rest hws hfuel _
    obtain ⟨f, rfl, hf⟩ := exists_fuel hpos hfuel
    have hl := ih h.length_pos (f + 1 + 1) rest (by simp at hf; omega)
    rw [List.cons_append, Draft.value, skipSpace_append hws, skipSpace_cons (by decide)]
    split
    · exact absurd (List.cons.inj ‹_›).1 (by decide)
    · obtain ⟨-, rfl⟩ := List.cons.inj ‹_›
      rw [hl]
      rfl
    · next hother => exact (hother _ rfl).elim
  | noItem first hws =>
    intro fuel rest hfuel
    obtain ⟨f, rfl, -⟩ := exists_fuel hpos hfuel
    rw [List.append_assoc]
    exact items_end hws first rest
  | item hgap hv hl ihv ihl =>
    intro fuel rest hfuel
    obtain ⟨f, rfl, hf⟩ := exists_fuel hpos hfuel
    simp only [List.length_append] at hf
    have hcs := hv.length_pos
    have hr := hl.length_pos
    have hvalue := ihv hcs (f + 1) [] _ (by simp [Blank]) (by omega) (hl.stops_items rest)
    have hitems := ihl hr (f + 1) rest (by omega)
    rw [List.append_assoc, List.append_assoc, items_gap hgap hv.starts]
    exact element_read hvalue hitems
  | noMember first hws =>
    intro fuel rest hfuel
    obtain ⟨f, rfl, -⟩ := exists_fuel hpos hfuel
    rw [List.append_assoc]
    exact members_end hws first rest
  | member hgap hws hv hl ihv ihl =>
    intro fuel rest hfuel
    obtain ⟨f, rfl, hf⟩ := exists_fuel hpos hfuel
    simp only [List.length_append, List.length_cons] at hf
    have hcs := hv.length_pos
    have hr := hl.length_pos
    have hvalue := ihv hcs (f + 1) _ _ hws (by omega) (hl.stops_members rest)
    have hmembers := ihl hr (f + 1) rest (by omega)
    simp only [List.append_assoc, List.cons_append]
    rw [members_gap hgap]
    exact member_read hvalue hmembers

/-- A text that spells a value is read as that value, to its end. -/
theorem Spells.ofText {v : Json} {s : String} (h : Spells (.value v) s.toList) :
    Draft.ofText s = (Draft.ofJson v, some []) := by
  have hread := h.read (3 * s.toList.length + 3) [] [] (by simp [Blank]) (by omega)
    (by simp [Stops])
  rwa [List.nil_append, List.append_nil] at hread

end Accord.Json
