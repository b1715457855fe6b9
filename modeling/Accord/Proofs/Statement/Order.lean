import Accord.Statement.Plan

/-!
# The order of a plan

Putting a plan in order loses no statement and adds none, and the phases of an ordered plan ascend.
A plan whose phases ascend already stays as it is.
-/

namespace Accord

namespace Phase

theorem ascending_all : all.Pairwise fun p q => p.rank < q.rank := by
  decide

theorem mem_all (p : Phase) : p ∈ all := by
  cases p <;> decide

end Phase

namespace Plan

theorem count_filter_phase (plan : Plan) (s : Statement) (p : Phase) :
    (plan.filter fun t => t.phase = p).count s = if s.phase = p then plan.count s else 0 := by
  by_cases h : s.phase = p
  · rw [if_pos h]
    exact List.count_filter (decide_eq_true h)
  · rw [if_neg h, List.count_eq_zero]
    intro hs
    exact h (of_decide_eq_true (List.mem_filter.1 hs).2)

theorem ordered_perm (plan : Plan) : (ordered plan).Perm plan := by
  rw [List.perm_iff_count]
  intro s
  simp only [ordered, List.count_flatMap, Function.comp_def, count_filter_phase, Phase.all,
    List.map_cons, List.map_nil]
  cases s.phase <;> simp

theorem mem_ordered {plan : Plan} {s : Statement} : s ∈ ordered plan ↔ s ∈ plan :=
  (ordered_perm plan).mem_iff

theorem length_ordered (plan : Plan) : (ordered plan).length = plan.length :=
  (ordered_perm plan).length_eq

theorem ordered_eq_nil {plan : Plan} : ordered plan = [] ↔ plan = [] := by
  rw [← List.length_eq_zero_iff, length_ordered, List.length_eq_zero_iff]

theorem shown_eq_nil {plan : Plan} : plan.shown = [] ↔ plan = [] := by
  unfold shown
  rw [List.map_eq_nil_iff, ordered_eq_nil]

/-- The phases of the statements ascend. -/
def Ascends (plan : List Statement) : Prop :=
  plan.Pairwise fun s t => s.phase.rank ≤ t.phase.rank

theorem ascends_ordered (plan : Plan) : Ascends (ordered plan) := by
  unfold Ascends ordered
  rw [List.pairwise_flatMap]
  constructor
  · intro p _
    refine List.pairwise_of_forall_mem_list fun s hs t ht => ?_
    have hs := of_decide_eq_true (List.mem_filter.1 hs).2
    have ht := of_decide_eq_true (List.mem_filter.1 ht).2
    exact Nat.le_of_eq (by rw [hs, ht])
  · refine Phase.ascending_all.imp fun {p q} hpq s hs t ht => ?_
    rw [of_decide_eq_true (List.mem_filter.1 hs).2, of_decide_eq_true (List.mem_filter.1 ht).2]
    omega

theorem filter_phase_cons {s : Statement} {plan : Plan} {p : Phase} (h : p.rank ≠ s.phase.rank) :
    ((s :: plan).filter fun t => t.phase = p) = plan.filter fun t => t.phase = p := by
  refine List.filter_cons_of_neg fun hs => h ?_
  rw [of_decide_eq_true hs]

theorem ordered_cons {s : Statement} {plan : Plan}
    (h : ∀ t ∈ plan, s.phase.rank ≤ t.phase.rank) : ordered (s :: plan) = s :: ordered plan := by
  obtain ⟨before, after, hall⟩ := List.append_of_mem (Phase.mem_all s.phase)
  have hsplit := hall ▸ Phase.ascending_all
  obtain ⟨-, hafter, hbefore⟩ := List.pairwise_append.1 hsplit
  -- Earlier phases hold nothing at all, and later ones do not hold `s`.
  have hempty : ∀ p ∈ before, (plan.filter fun t => t.phase = p) = [] := by
    intro p hp
    rw [List.filter_eq_nil_iff]
    intro t ht hpt
    have hlt := hbefore p hp s.phase (List.mem_cons_self ..)
    have hle := h t ht
    rw [of_decide_eq_true hpt] at hle
    omega
  have hearlier : ∀ p ∈ before, ((s :: plan).filter fun t => t.phase = p) = [] := by
    intro p hp
    have hlt := hbefore p hp s.phase (List.mem_cons_self ..)
    rw [filter_phase_cons (by omega), hempty p hp]
  have hlater : ∀ p ∈ after, ((s :: plan).filter fun t => t.phase = p) =
      plan.filter fun t => t.phase = p := by
    intro p hp
    have hlt := (List.pairwise_cons.1 hafter).1 p hp
    exact filter_phase_cons (by omega)
  have hown : ((s :: plan).filter fun t => t.phase = s.phase) =
      s :: plan.filter fun t => t.phase = s.phase :=
    List.filter_cons_of_pos (decide_eq_true rfl)
  unfold ordered
  rw [hall, List.flatMap_append, List.flatMap_append, List.flatMap_cons, List.flatMap_cons,
    List.flatMap_eq_nil_iff.2 hearlier, List.flatMap_eq_nil_iff.2 hempty,
    hown, List.flatMap_def, List.flatMap_def, List.map_congr_left hlater]
  rfl

theorem ordered_eq_self {plan : Plan} (h : Ascends plan) : ordered plan = plan := by
  induction plan with
  | nil => rfl
  | cons s plan ih =>
    obtain ⟨hs, hplan⟩ := List.pairwise_cons.1 h
    rw [ordered_cons hs, ih hplan]

end Plan

end Accord
