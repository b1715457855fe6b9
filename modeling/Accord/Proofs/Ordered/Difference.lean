import Accord.Ordered.Difference

/-!
# Carrying out a difference

A difference can be carried out one member at a time (`Edit`).  What a run of edits leaves is told
by which edits there are, as long as no member is both taken away and added (`Edit.mem_run`).  The
edits of a difference are such edits, so they can come in any order: each order turns the current
set into the desired one (`Difference.between_turns`).
-/

namespace Accord

variable {α : Type} [Ord α]

/-! ## Ascending lists -/

theorem Ascending.nodup [Std.ReflOrd α] {l : List α} (h : Ascending l) : l.Nodup := by
  refine List.Pairwise.imp (fun {a b} hlt heq => ?_) h
  subst heq
  exact compare_self_ne_lt a hlt

/-! ## One member at a time -/

/-- Taking one member away from a set, or adding one. -/
inductive Edit (α : Type) where
  | erase (a : α)
  | insert (a : α)
deriving DecidableEq

namespace Edit

/-- No member is both taken away and added. -/
def Settled (edits : List (Edit α)) : Prop :=
  ∀ a, .erase a ∈ edits → .insert a ∉ edits

variable [DecidableEq α] [Std.TransOrd α] [Std.LawfulEqOrd α]

/-- Carries out one edit. -/
def apply (s : OrderedSet α) : Edit α → OrderedSet α
  | .erase a => s.erase a
  | .insert a => s.insert a

/-- Carries out some edits, one after the other. -/
def run (s : OrderedSet α) (edits : List (Edit α)) : OrderedSet α :=
  edits.foldl apply s

variable {s : OrderedSet α} {x : α}

theorem mem_apply {e : Edit α} : x ∈ apply s e ↔ e = .insert x ∨ x ∈ s ∧ e ≠ .erase x := by
  cases e with
  | erase a => simp [apply, eq_comm]
  | insert a => simp [apply, eq_comm]

/-- After a run there is what was added, and what was there and was not taken away. -/
theorem mem_run {edits : List (Edit α)} (h : Settled edits) :
    x ∈ run s edits ↔ .insert x ∈ edits ∨ x ∈ s ∧ .erase x ∉ edits := by
  induction edits generalizing s with
  | nil => simp [run]
  | cons e edits ih =>
    have hrest : Settled edits := fun a herase hinsert =>
      h a (List.mem_cons_of_mem _ herase) (List.mem_cons_of_mem _ hinsert)
    -- what is added first is not taken away by what follows
    have hkept : e = .insert x → .erase x ∉ edits := by
      rintro rfl herase
      exact h x (List.mem_cons_of_mem _ herase) List.mem_cons_self
    have hstep : run s (e :: edits) = run (apply s e) edits := rfl
    rw [hstep, ih hrest, mem_apply, List.mem_cons, List.mem_cons, not_or]
    constructor
    · rintro (hinsert | ⟨hinsert | ⟨hs, hne⟩, hnot⟩)
      · exact .inl (.inr hinsert)
      · exact .inl (.inl hinsert.symm)
      · exact .inr ⟨hs, hne.symm, hnot⟩
    · rintro ((hinsert | hinsert) | ⟨hs, hne, hnot⟩)
      · exact .inr ⟨.inl hinsert.symm, hkept hinsert.symm⟩
      · exact .inl hinsert
      · exact .inr ⟨.inr ⟨hs, Ne.symm hne⟩, hnot⟩

end Edit

/-! ## The edits of a difference -/

namespace Difference

/-- All that has to be taken away and added. -/
def edits (d : Difference α) : List (Edit α) :=
  d.surplus.map .erase ++ d.missing.map .insert

omit [Ord α] in
@[simp] theorem erase_mem_edits {d : Difference α} {a : α} :
    .erase a ∈ d.edits ↔ a ∈ d.surplus := by
  simp [edits]

omit [Ord α] in
@[simp] theorem insert_mem_edits {d : Difference α} {a : α} :
    .insert a ∈ d.edits ↔ a ∈ d.missing := by
  simp [edits]

section Between

variable [DecidableEq α] {current desired : OrderedSet α}

theorem surplus_between_eq_nil :
    (between current desired).surplus = [] ↔ ∀ a ∈ current, a ∈ desired := by
  simp [List.eq_nil_iff_forall_not_mem]

theorem missing_between_eq_nil :
    (between current desired).missing = [] ↔ ∀ a ∈ desired, a ∈ current := by
  simp [List.eq_nil_iff_forall_not_mem]

theorem not_mem_missing_between {a : α} (h : a ∈ (between current desired).surplus) :
    a ∉ (between current desired).missing :=
  fun hmissing => (mem_surplus_between.1 h).2 (mem_missing_between.1 hmissing).1

variable [Std.TransOrd α] [Std.LawfulEqOrd α]

theorem isEmpty_between : (between current desired).isEmpty = true ↔ current = desired := by
  rw [isEmpty, Bool.and_eq_true, List.isEmpty_iff, List.isEmpty_iff, surplus_between_eq_nil,
    missing_between_eq_nil]
  constructor
  · rintro ⟨hkept, hfound⟩
    exact OrderedSet.ext fun a => ⟨hkept a, hfound a⟩
  · rintro rfl
    exact ⟨fun _ h => h, fun _ h => h⟩

/-- Taking the surplus away first is one way to carry a difference out. -/
theorem apply_eq_run (d : Difference α) (s : OrderedSet α) : d.apply s = Edit.run s d.edits := by
  unfold apply Edit.run edits
  rw [List.foldl_append, List.foldl_map, List.foldl_map]
  rfl

/-- The edits of a difference turn the one set into the other, in any order and however often each
of them comes. -/
theorem run_of_mem_iff {steps : List (Edit α)}
    (h : ∀ e, e ∈ steps ↔ e ∈ (between current desired).edits) :
    Edit.run current steps = desired := by
  have hsettled : Edit.Settled steps := by
    intro a herase hinsert
    rw [h, erase_mem_edits] at herase
    rw [h, insert_mem_edits] at hinsert
    exact not_mem_missing_between herase hinsert
  ext a
  rw [Edit.mem_run hsettled, h, h, erase_mem_edits, insert_mem_edits, mem_surplus_between,
    mem_missing_between]
  by_cases hcurrent : a ∈ current
  · simp [hcurrent]
  · simp [hcurrent]

end Between

/-- The difference is exactly what turns one set into another, whatever is done first. -/
structure Turns [DecidableEq α] [Std.TransOrd α] [Std.LawfulEqOrd α] (d : Difference α)
    (current desired : OrderedSet α) : Prop where
  mem_surplus (a : α) : a ∈ d.surplus ↔ a ∈ current ∧ a ∉ desired
  mem_missing (a : α) : a ∈ d.missing ↔ a ∈ desired ∧ a ∉ current
  surplus_ascending : Ascending d.surplus
  missing_ascending : Ascending d.missing
  surplus_nodup : d.surplus.Nodup
  missing_nodup : d.missing.Nodup
  disjoint (a : α) : a ∈ d.surplus → a ∉ d.missing
  isEmpty_iff : d.isEmpty = true ↔ current = desired
  apply_eq : d.apply current = desired
  run_eq (steps : List (Edit α)) : steps.Perm d.edits → Edit.run current steps = desired

variable [DecidableEq α] [Std.TransOrd α] [Std.LawfulEqOrd α]

theorem between_turns (current desired : OrderedSet α) :
    (between current desired).Turns current desired where
  mem_surplus _ := mem_surplus_between
  mem_missing _ := mem_missing_between
  surplus_ascending := OrderedSet.ascending _
  missing_ascending := OrderedSet.ascending _
  surplus_nodup := (OrderedSet.ascending _).nodup
  missing_nodup := (OrderedSet.ascending _).nodup
  disjoint _ := not_mem_missing_between
  isEmpty_iff := isEmpty_between
  apply_eq := by
    rw [apply_eq_run]
    exact run_of_mem_iff fun e => Iff.rfl
  run_eq _ hperm := run_of_mem_iff fun e => hperm.mem_iff

/-- A group may be joined before others are left. -/
theorem between_turns_groups :
    (between (.ofList ["audit", "staff", "web"]) (.ofList ["backup", "staff"])).Turns
      (.ofList ["audit", "staff", "web"]) (.ofList ["backup", "staff"]) ∧
    Edit.run (.ofList ["audit", "staff", "web"]) [.erase "web", .insert "backup", .erase "audit"] =
      .ofList ["backup", "staff"] := by
  have h := between_turns (.ofList ["audit", "staff", "web"]) (.ofList ["backup", "staff"])
  refine ⟨h, h.run_eq _ ?_⟩
  decide +kernel

end Difference

end Accord
