/-!
# Ordered sets

A finite set is kept as the strictly ascending list of its members, so two sets with the same
members are the same value and listing a set always lists it in order.  The main facts are

* `OrderedSet.ext`: a set is determined by its members;
* `mem_insert`, `mem_erase`, `mem_union`, `mem_difference`, `mem_ofList`: what each operation
  does to membership.
-/

namespace Accord

variable {α : Type} [Ord α]

/-! ## Ascending lists -/

/-- Every element is below all later ones. -/
def Ascending (l : List α) : Prop :=
  l.Pairwise fun a b => compare a b = .lt

/-- Puts `a` at its place in an ascending list, unless it is there already. -/
def insertAscending (a : α) : List α → List α
  | [] => [a]
  | b :: l =>
    match compare a b with
    | .lt => a :: b :: l
    | .eq => b :: l
    | .gt => b :: insertAscending a l

section Lemmas

theorem ascending_nil : Ascending ([] : List α) :=
  List.Pairwise.nil

theorem compare_self_ne_lt [Std.ReflOrd α] (a : α) : compare a a ≠ .lt := by
  simp [Std.ReflCmp.compare_self]

theorem compare_lt_trans [Std.TransOrd α] {a b c : α} (h : compare a b = .lt)
    (h' : compare b c = .lt) : compare a c = .lt :=
  Std.TransCmp.lt_trans h h'

theorem mem_insertAscending [Std.LawfulEqOrd α] {a x : α} {l : List α} :
    x ∈ insertAscending a l ↔ x = a ∨ x ∈ l := by
  induction l with
  | nil => simp [insertAscending]
  | cons b l ih =>
    cases h : compare a b with
    | lt => simp [insertAscending, h]
    | eq => simp [insertAscending, Std.LawfulEqCmp.eq_of_compare h]
    | gt =>
      simp only [insertAscending, h, List.mem_cons, ih]
      constructor
      · rintro (h | h | h) <;> simp [h]
      · rintro (h | h | h) <;> simp [h]

variable [Std.TransOrd α] [Std.LawfulEqOrd α]

theorem ascending_insertAscending {a : α} {l : List α} (h : Ascending l) :
    Ascending (insertAscending a l) := by
  induction l with
  | nil => exact List.pairwise_singleton _ _
  | cons b l ih =>
    obtain ⟨hb, hl⟩ := List.pairwise_cons.1 h
    cases hc : compare a b with
    | lt =>
      simp only [insertAscending, hc]
      refine List.pairwise_cons.2 ⟨fun x hx => ?_, h⟩
      rcases List.mem_cons.1 hx with rfl | hx
      · exact hc
      · exact compare_lt_trans hc (hb x hx)
    | eq => simpa only [insertAscending, hc] using h
    | gt =>
      simp only [insertAscending, hc]
      refine List.pairwise_cons.2 ⟨fun x hx => ?_, ih hl⟩
      rcases mem_insertAscending.1 hx with rfl | hx
      · exact Std.OrientedCmp.lt_of_gt hc
      · exact hb x hx

/-- Two ascending lists with the same members are equal. -/
theorem Ascending.ext {l m : List α} (hl : Ascending l) (hm : Ascending m)
    (h : ∀ x, x ∈ l ↔ x ∈ m) : l = m := by
  induction l generalizing m with
  | nil =>
    cases m with
    | nil => rfl
    | cons b m => exact absurd ((h b).2 (List.mem_cons_self ..)) (List.not_mem_nil)
  | cons a l ih =>
    cases m with
    | nil => exact absurd ((h a).1 (List.mem_cons_self ..)) (List.not_mem_nil)
    | cons b m =>
      obtain ⟨ha, hl'⟩ := List.pairwise_cons.1 hl
      obtain ⟨hb, hm'⟩ := List.pairwise_cons.1 hm
      have hab : a = b := by
        rcases List.mem_cons.1 ((h a).1 (List.mem_cons_self ..)) with e | e
        · exact e
        · rcases List.mem_cons.1 ((h b).2 (List.mem_cons_self ..)) with e' | e'
          · exact e'.symm
          · exact absurd (compare_lt_trans (hb a e) (ha b e')) (compare_self_ne_lt b)
      subst hab
      congr 1
      refine ih hl' hm' fun x => ⟨fun hx => ?_, fun hx => ?_⟩
      · rcases List.mem_cons.1 ((h x).1 (List.mem_cons_of_mem _ hx)) with e | e
        · exact absurd (e ▸ ha x hx) (compare_self_ne_lt a)
        · exact e
      · rcases List.mem_cons.1 ((h x).2 (List.mem_cons_of_mem _ hx)) with e | e
        · exact absurd (e ▸ hb x hx) (compare_self_ne_lt a)
        · exact e

end Lemmas

/-! ## Sets -/

/-- A finite set, kept as the ascending list of its members. -/
structure OrderedSet (α : Type) [Ord α] where
  /-- The members, in ascending order. -/
  toList : List α
  /-- No member is listed twice or out of order. -/
  ascending : Ascending toList

namespace OrderedSet

instance [DecidableEq α] : DecidableEq (OrderedSet α) := fun s t =>
  if h : s.toList = t.toList then
    .isTrue (by cases s; cases t; cases h; rfl)
  else
    .isFalse fun e => h (congrArg toList e)

instance : Membership α (OrderedSet α) where
  mem s a := a ∈ s.toList

instance [DecidableEq α] (a : α) (s : OrderedSet α) : Decidable (a ∈ s) :=
  inferInstanceAs (Decidable (a ∈ s.toList))

instance : EmptyCollection (OrderedSet α) where
  emptyCollection := ⟨[], ascending_nil⟩

instance : Inhabited (OrderedSet α) where
  default := ∅

/-- Whether there are no members. -/
def isEmpty (s : OrderedSet α) : Bool :=
  s.toList.isEmpty

/-- Whether `a` is a member, as a Boolean. -/
def contains [DecidableEq α] (s : OrderedSet α) (a : α) : Bool :=
  decide (a ∈ s)

/-- The members that satisfy `p`. -/
def filter (s : OrderedSet α) (p : α → Bool) : OrderedSet α :=
  ⟨s.toList.filter p, List.Pairwise.filter p s.ascending⟩

/-- The members other than `a`. -/
def erase [DecidableEq α] (s : OrderedSet α) (a : α) : OrderedSet α :=
  s.filter fun b => decide (b ≠ a)

/-- The members of `s` that are not in `t`. -/
def difference [DecidableEq α] (s t : OrderedSet α) : OrderedSet α :=
  s.filter fun a => decide (a ∉ t)

variable [Std.TransOrd α] [Std.LawfulEqOrd α]

/-- Adds one member. -/
def insert (s : OrderedSet α) (a : α) : OrderedSet α :=
  ⟨insertAscending a s.toList, ascending_insertAscending s.ascending⟩

/-- Adds every element of a list. -/
def insertAll (s : OrderedSet α) (l : List α) : OrderedSet α :=
  l.foldl insert s

/-- The set of the elements of a list, in any order and with repeats. -/
def ofList (l : List α) : OrderedSet α :=
  insertAll ∅ l

/-- The members of either set. -/
def union (s t : OrderedSet α) : OrderedSet α :=
  s.insertAll t.toList

omit [Std.TransOrd α] [Std.LawfulEqOrd α] in
@[simp] theorem mem_toList {s : OrderedSet α} {a : α} : a ∈ s.toList ↔ a ∈ s :=
  Iff.rfl

omit [Std.TransOrd α] [Std.LawfulEqOrd α] in
@[simp] theorem not_mem_empty (a : α) : a ∉ (∅ : OrderedSet α) :=
  List.not_mem_nil

omit [Std.TransOrd α] [Std.LawfulEqOrd α] in
theorem isEmpty_iff {s : OrderedSet α} : s.isEmpty = true ↔ ∀ a, a ∉ s := by
  unfold isEmpty
  rw [List.isEmpty_iff, List.eq_nil_iff_forall_not_mem]
  rfl

omit [Std.TransOrd α] [Std.LawfulEqOrd α] in
theorem isEmpty_eq_false_iff {s : OrderedSet α} : s.isEmpty = false ↔ ∃ a, a ∈ s :=
  List.isEmpty_eq_false_iff_exists_mem

@[ext] theorem ext {s t : OrderedSet α} (h : ∀ a, a ∈ s ↔ a ∈ t) : s = t := by
  cases s with
  | mk l hl =>
    cases t with
    | mk m hm =>
      have : l = m := hl.ext hm h
      subst this
      rfl

@[simp] theorem mem_insert {s : OrderedSet α} {a b : α} : b ∈ s.insert a ↔ b = a ∨ b ∈ s :=
  mem_insertAscending

@[simp] theorem mem_insertAll {s : OrderedSet α} {l : List α} {b : α} :
    b ∈ s.insertAll l ↔ b ∈ s ∨ b ∈ l := by
  induction l generalizing s with
  | nil => simp [insertAll]
  | cons a l ih =>
    have : s.insertAll (a :: l) = (s.insert a).insertAll l := rfl
    rw [this, ih, mem_insert, List.mem_cons]
    constructor
    · rintro ((h | h) | h) <;> simp [h]
    · rintro (h | h | h) <;> simp [h]

@[simp] theorem mem_ofList {l : List α} {a : α} : a ∈ ofList l ↔ a ∈ l := by
  simp [ofList]

@[simp] theorem mem_union {s t : OrderedSet α} {a : α} : a ∈ s.union t ↔ a ∈ s ∨ a ∈ t := by
  simp [union]

omit [Std.TransOrd α] [Std.LawfulEqOrd α] in
@[simp] theorem mem_filter {s : OrderedSet α} {p : α → Bool} {a : α} :
    a ∈ s.filter p ↔ a ∈ s ∧ p a = true :=
  List.mem_filter

omit [Std.TransOrd α] [Std.LawfulEqOrd α] in
@[simp] theorem mem_erase [DecidableEq α] {s : OrderedSet α} {a b : α} :
    b ∈ s.erase a ↔ b ∈ s ∧ b ≠ a := by
  simp [erase]

omit [Std.TransOrd α] [Std.LawfulEqOrd α] in
@[simp] theorem mem_difference [DecidableEq α] {s t : OrderedSet α} {a : α} :
    a ∈ s.difference t ↔ a ∈ s ∧ a ∉ t := by
  simp [difference]

omit [Std.TransOrd α] [Std.LawfulEqOrd α] in
@[simp] theorem contains_eq_true_iff [DecidableEq α] {s : OrderedSet α} {a : α} :
    s.contains a = true ↔ a ∈ s := by
  simp [contains]

end OrderedSet

end Accord
