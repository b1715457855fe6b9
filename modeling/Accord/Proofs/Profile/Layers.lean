import Accord.Profile.Store
import Accord.Proofs.Profile.Format
import Mathlib.Data.List.Induction

/-!
# Two layers of profiles

The profiles of a file are the last ones that were saved under their names, and the default is the
first name that was saved (`Profiles.saved`).  A registry keeps them apart by project
(`Registry.saved`).  Laid over each other, two such layers show what the upper one says, and what
the lower one says otherwise (`Profiles.shows_merge`).
-/

namespace Accord

/-- A call that stores a profile of a project. -/
structure Saving where
  project : String
  name : String
  profile : Profile
  scope : ProfileScope
deriving DecidableEq

/-- The profile last saved under a name. -/
def lastSaved (name : String) (l : List Saving) : Option Profile :=
  (l.reverse.find? fun s => s.name = name).map Saving.profile

/-- The name saved first. -/
def firstName (l : List Saving) : Option String :=
  l.head?.map Saving.name

theorem lastSaved_concat (name : String) (l : List Saving) (s : Saving) :
    lastSaved name (l ++ [s]) = if name = s.name then some s.profile else lastSaved name l := by
  unfold lastSaved
  rw [List.reverse_append, List.reverse_singleton, List.singleton_append, List.find?_cons]
  by_cases h : name = s.name
  · simp [h]
  · simp [h, Ne.symm h]

theorem lastSaved_firstName {name : String} {l : List Saving} (h : firstName l = some name) :
    lastSaved name l ≠ none := by
  unfold firstName at h
  cases l with
  | nil => cases h
  | cons s l =>
    obtain rfl := Option.some.inj h
    simp [lastSaved]

/-! ## Values of maps -/

theorem forall_insertEntry {β : Type} {P : β → Prop} {l : List (String × β)}
    (h : ∀ e ∈ l, P e.2) (k : String) {v : β} (hv : P v) : ∀ e ∈ insertEntry k v l, P e.2 := by
  induction l with
  | nil => simp [insertEntry, hv]
  | cons e l ih =>
    obtain ⟨he, hl⟩ := List.forall_mem_cons.1 h
    unfold insertEntry
    split
    · exact List.forall_mem_cons.2 ⟨hv, h⟩
    · exact List.forall_mem_cons.2 ⟨hv, hl⟩
    · exact List.forall_mem_cons.2 ⟨he, ih hl⟩

namespace OrderedMap

variable {β : Type} {m : OrderedMap String β} {P : β → Prop}

theorem forall_insert (h : ∀ e ∈ m.entries, P e.2) (k : String) {v : β} (hv : P v) :
    ∀ e ∈ (m.insert k v).entries, P e.2 :=
  forall_insertEntry h k hv

theorem getD_insert (k k' : String) (v d : β) :
    (m.insert k v).getD k' d = if k' = k then v else m.getD k' d := by
  unfold getD
  rw [get?_insert]
  split <;> rfl

end OrderedMap

/-! ## One layer -/

namespace Profiles

/-- The default is there. -/
def DefaultFound (p : Profiles) : Prop :=
  ∀ n, p.default = some n → p.connections.get? n ≠ none

/-- The profiles that were saved. -/
def saved (l : List Saving) : Profiles :=
  l.foldl (fun p s => p.insert s.name s.profile) empty

theorem saved_concat (l : List Saving) (s : Saving) :
    saved (l ++ [s]) = (saved l).insert s.name s.profile := by
  unfold saved
  rw [List.foldl_append]
  rfl

theorem get?_saved (name : String) (l : List Saving) :
    (saved l).connections.get? name = lastSaved name l := by
  induction l using List.reverseRecOn with
  | nil => rfl
  | append_singleton l s ih =>
    rw [saved_concat, lastSaved_concat, ← ih]
    exact OrderedMap.get?_insert _ _ _ _

theorem isEmpty_insert (p : Profiles) (name : String) (c : Profile) :
    (p.insert name c).connections.isEmpty = false := by
  show (insertEntry name c p.connections.entries).isEmpty = false
  cases p.connections.entries with
  | nil => rfl
  | cons e l =>
    unfold insertEntry
    split <;> rfl

theorem isEmpty_saved (l : List Saving) : (saved l).connections.isEmpty = l.isEmpty := by
  induction l using List.reverseRecOn with
  | nil => rfl
  | append_singleton l s _ =>
    rw [saved_concat, isEmpty_insert]
    simp

theorem default_saved (l : List Saving) : (saved l).default = firstName l := by
  induction l using List.reverseRecOn with
  | nil => rfl
  | append_singleton l s ih =>
    rw [saved_concat]
    show (if (saved l).connections.isEmpty then some s.name else (saved l).default) = _
    rw [isEmpty_saved, ih]
    cases l <;> rfl

theorem defaultFound_saved (l : List Saving) : (saved l).DefaultFound := by
  intro n hn
  rw [default_saved] at hn
  rw [get?_saved]
  exact lastSaved_firstName hn

theorem portsFit_saved {l : List Saving} (h : ∀ s ∈ l, s.profile.config.PortFits) :
    (saved l).PortsFit := by
  induction l using List.reverseRecOn with
  | nil => exact fun e he => nomatch he
  | append_singleton l s ih =>
    rw [List.forall_mem_append] at h
    have hl : ∀ e ∈ (saved l).connections.entries, e.2.config.PortFits := ih h.1
    rw [saved_concat]
    exact OrderedMap.forall_insert (P := fun c : Profile => c.config.PortFits) hl s.name
      (h.2 s (List.mem_singleton_self s))

end Profiles

/-! ## One layer for each project -/

/-- The profiles that were saved, by project. -/
def Registry.saved (l : List Saving) : Registry :=
  l.foldl (fun r s => ⟨r.projects.insert s.project
    ((r.projects.getD s.project .empty).insert s.name s.profile)⟩) .empty

namespace Registry

theorem saved_concat (l : List Saving) (s : Saving) :
    saved (l ++ [s]) = ⟨(saved l).projects.insert s.project
      (((saved l).projects.getD s.project .empty).insert s.name s.profile)⟩ := by
  unfold saved
  rw [List.foldl_append]
  rfl

theorem getD_saved (project : String) (l : List Saving) :
    (saved l).projects.getD project .empty =
      Profiles.saved (l.filter fun s => s.project = project) := by
  induction l using List.reverseRecOn with
  | nil => rfl
  | append_singleton l s ih =>
    rw [saved_concat, OrderedMap.getD_insert, List.filter_append]
    by_cases h : project = s.project
    · subst h
      have hown : [s].filter (fun t => t.project = s.project) = [s] := by simp
      rw [if_pos rfl, ih, hown, Profiles.saved_concat]
    · have hother : [s].filter (fun t => t.project = project) = [] := by simp [Ne.symm h]
      rw [if_neg h, ih, hother, List.append_nil]

theorem defaultFound_saved (l : List Saving) :
    ∀ e ∈ (saved l).projects.entries, e.2.DefaultFound := by
  induction l using List.reverseRecOn with
  | nil => exact fun e he => nomatch he
  | append_singleton l s ih =>
    rw [saved_concat]
    refine OrderedMap.forall_insert ih s.project ?_
    rw [getD_saved, ← Profiles.saved_concat]
    exact Profiles.defaultFound_saved _

theorem portsFit_saved {l : List Saving} (h : ∀ s ∈ l, s.profile.config.PortFits) :
    (saved l).PortsFit := by
  induction l using List.reverseRecOn with
  | nil => exact fun e he => nomatch he
  | append_singleton l s ih =>
    rw [saved_concat]
    refine OrderedMap.forall_insert (ih (List.forall_mem_append.1 h).1) s.project ?_
    rw [getD_saved, ← Profiles.saved_concat]
    refine Profiles.portsFit_saved fun t ht => h t ?_
    rw [List.mem_append] at ht ⊢
    exact ht.imp_left fun ht => (List.mem_filter.1 ht).1

end Registry

/-! ## One layer over another -/

/-- The profiles show what was saved in the upper layer, and what was saved in the lower one
otherwise.  The default is the first name of the upper layer, or that of the lower one if nothing
was saved in the upper layer. -/
structure Profiles.Shows (p : Profiles) (upper lower : List Saving) : Prop where
  found : ∀ n c, (lastSaved n upper).or (lastSaved n lower) = some c → p.get (some n) = .ok (n, c)
  missing : ∀ n, (lastSaved n upper).or (lastSaved n lower) = none →
    p.get (some n) = .error (.config (.unknownProfile n p.names))
  byDefault : ∀ n, (firstName upper).or (firstName lower) = some n →
    ∃ c, (lastSaved n upper).or (lastSaved n lower) = some c ∧ p.get none = .ok (n, c)
  noDefault : upper = [] → lower = [] → p.get none = .error (.config (.noDefaultProfile p.names))
  succeeds_iff : (∃ e, p.get none = .ok e) ↔ upper ≠ [] ∨ lower ≠ []
  defaultFound : p.DefaultFound

namespace Profiles

theorem get_some_of_found {p : Profiles} {n : String} {c : Profile}
    (h : p.connections.get? n = some c) : p.get (some n) = .ok (n, c) := by
  unfold get
  rw [Option.some_or]
  dsimp only
  rw [h]

theorem get_some_of_missing {p : Profiles} {n : String} (h : p.connections.get? n = none) :
    p.get (some n) = .error (.config (.unknownProfile n p.names)) := by
  unfold get
  rw [Option.some_or]
  dsimp only
  rw [h]

theorem get_none_of_default {p : Profiles} {n : String} (h : p.default = some n) :
    p.get none = p.get (some n) := by
  unfold get
  rw [Option.none_or, h, Option.some_or]

theorem get_none_of_noDefault {p : Profiles} (h : p.default = none) :
    p.get none = .error (.config (.noDefaultProfile p.names)) := by
  unfold get
  rw [Option.none_or, h]

theorem get?_merge (p q : Profiles) (n : String) :
    (p.merge q).connections.get? n = (q.connections.get? n).or (p.connections.get? n) := by
  refine OrderedMap.get?_insertAll (List.Pairwise.imp ?_ q.connections.ascending) n
  rintro a b hab rfl
  exact compare_self_ne_lt a hab

theorem firstName_eq_none {l : List Saving} : firstName l = none ↔ l = [] := by
  unfold firstName
  rw [Option.map_eq_none_iff, List.head?_eq_none_iff]

/-- What two layers show, one laid over the other. -/
theorem shows_merge (upper lower : List Saving) :
    ((saved lower).merge (saved upper)).Shows upper lower := by
  have hget : ∀ n, ((saved lower).merge (saved upper)).connections.get? n =
      (lastSaved n upper).or (lastSaved n lower) := by
    intro n
    rw [get?_merge, get?_saved, get?_saved]
  have hdefault : ((saved lower).merge (saved upper)).default =
      (firstName upper).or (firstName lower) := by
    rw [← default_saved, ← default_saved]
    rfl
  have hfirst : ∀ n, (firstName upper).or (firstName lower) = some n →
      (lastSaved n upper).or (lastSaved n lower) ≠ none := by
    intro n hn
    rw [Ne, Option.or_eq_none_iff]
    rcases Option.or_eq_some_iff.1 hn with hn | ⟨-, hn⟩
    · exact fun h => lastSaved_firstName hn h.1
    · exact fun h => lastSaved_firstName hn h.2
  have hnone : (firstName upper).or (firstName lower) = none ↔ upper = [] ∧ lower = [] := by
    rw [Option.or_eq_none_iff, firstName_eq_none, firstName_eq_none]
  have hbyDefault : ∀ n, (firstName upper).or (firstName lower) = some n →
      ∃ c, (lastSaved n upper).or (lastSaved n lower) = some c ∧
        ((saved lower).merge (saved upper)).get none = .ok (n, c) := by
    intro n hn
    obtain ⟨c, hc⟩ := Option.ne_none_iff_exists'.1 (hfirst n hn)
    exact ⟨c, hc, (get_none_of_default (hdefault.trans hn)).trans
      (get_some_of_found ((hget n).trans hc))⟩
  refine ⟨fun n c hc => get_some_of_found ((hget n).trans hc),
    fun n hn => get_some_of_missing ((hget n).trans hn), hbyDefault,
    fun hupper hlower => get_none_of_noDefault (hdefault.trans (hnone.2 ⟨hupper, hlower⟩)), ?_,
    fun n hn => (hget n).symm ▸ hfirst n (hdefault.symm.trans hn)⟩
  rw [← not_and_or, ← hnone]
  constructor
  · rintro ⟨e, he⟩ hempty
    rw [get_none_of_noDefault (hdefault.trans hempty)] at he
    cases he
  · intro hsome
    obtain ⟨n, hn⟩ := Option.ne_none_iff_exists'.1 hsome
    obtain ⟨c, -, hc⟩ := hbyDefault n hn
    exact ⟨(n, c), hc⟩

end Profiles

end Accord
