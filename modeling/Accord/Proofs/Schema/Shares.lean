import Accord.Schema.Basic

/-!
# Policies as sums of shares

Policies are gathered share by share: some rights of one grantee after the other.  What comes out is
the union of the shares of each grantee (`mem_gather`), lists nobody without rights
(`tight_gather`), and is the same in whatever order and however often the shares come
(`gather_congr`).
-/

namespace Accord

/-- Some rights of one grantee. -/
abbrev Share := String × SchemaRights

namespace Policies

variable {policies policies' : Policies} {shares shares' : List Share} {g : String}
  {r : SchemaRight}

/-- Adds shares one after the other. -/
def addAll (policies : Policies) (shares : List Share) : Policies :=
  shares.foldl (fun gathered share => gathered.add share.1 share.2) policies

/-- The policies that some shares make. -/
def gather (shares : List Share) : Policies :=
  addAll ∅ shares

/-- Nobody is listed without rights. -/
def Tight (policies : Policies) : Prop :=
  ∀ e ∈ policies.entries, e.2.isEmpty = false

theorem mem_getD :
    r ∈ policies.getD g ∅ ↔ ∃ rights, policies.get? g = some rights ∧ r ∈ rights := by
  unfold OrderedMap.getD
  cases policies.get? g <;> simp

theorem mem_addAll :
    r ∈ (policies.addAll shares).getD g ∅ ↔
      r ∈ policies.getD g ∅ ∨ ∃ share ∈ shares, share.1 = g ∧ r ∈ share.2 := by
  induction shares generalizing policies with
  | nil => simp [addAll]
  | cons share shares ih =>
    have hstep : policies.addAll (share :: shares) =
        (policies.add share.1 share.2).addAll shares := rfl
    rw [hstep, ih, getD_add]
    simp only [List.mem_cons, or_and_right, exists_or, exists_eq_left]
    by_cases hg : g = share.1
    · rw [if_pos hg, OrderedSet.mem_union, hg]
      simp [or_assoc]
    · rw [if_neg hg]
      simp [Ne.symm hg]

/-- Each grantee gets the union of its shares. -/
theorem mem_gather :
    r ∈ (gather shares).getD g ∅ ↔ ∃ share ∈ shares, share.1 = g ∧ r ∈ share.2 := by
  have hempty : r ∉ (∅ : Policies).getD g ∅ := OrderedSet.not_mem_empty r
  unfold gather
  rw [mem_addAll, or_iff_right hempty]

theorem tight_add (h : policies.Tight) {role : String} {rights : SchemaRights}
    (hrights : rights.isEmpty = false) : (policies.add role rights).Tight := by
  intro ⟨key, value⟩ he
  rw [OrderedMap.mem_entries, add, OrderedMap.get?_insert] at he
  by_cases hkey : key = role
  · rw [if_pos hkey, Option.some.injEq] at he
    obtain ⟨r, hr⟩ := OrderedSet.isEmpty_eq_false_iff.1 hrights
    rw [← he]
    exact OrderedSet.isEmpty_eq_false_iff.2 ⟨r, OrderedSet.mem_union.2 (.inr hr)⟩
  · rw [if_neg hkey, ← OrderedMap.mem_entries] at he
    exact h _ he

theorem tight_addAll (h : policies.Tight)
    (hshares : ∀ share ∈ shares, share.2.isEmpty = false) : (policies.addAll shares).Tight := by
  induction shares generalizing policies with
  | nil => exact h
  | cons share shares ih =>
    obtain ⟨hshare, hrest⟩ := List.forall_mem_cons.1 hshares
    exact ih (tight_add h hshare) hrest

theorem tight_gather (hshares : ∀ share ∈ shares, share.2.isEmpty = false) :
    (gather shares).Tight :=
  tight_addAll (fun _ h => absurd h List.not_mem_nil) hshares

theorem Tight.getD_eq (h : policies.Tight) {e : Share} (he : e ∈ policies.entries) :
    policies.getD e.1 ∅ = e.2 ∧ ∃ r, r ∈ e.2 := by
  have hget : policies.get? e.1 = some e.2 := OrderedMap.mem_entries.1 he
  exact ⟨by rw [OrderedMap.getD, hget, Option.getD_some],
    OrderedSet.isEmpty_eq_false_iff.1 (h e he)⟩

/-- Without empty entries, policies are known from who holds what. -/
theorem Tight.ext (h : policies.Tight) (h' : policies'.Tight)
    (hrights : ∀ g r, r ∈ policies.getD g ∅ ↔ r ∈ policies'.getD g ∅) : policies = policies' := by
  have hheld : ∀ {p p' : Policies}, p.Tight → (∀ g, p.getD g ∅ = p'.getD g ∅) →
      ∀ {k v}, p.get? k = some v → p'.get? k = some v := by
    intro p p' hp heq k v hget
    obtain ⟨hrights, r, hr⟩ := hp.getD_eq (OrderedMap.mem_entries.2 hget)
    rw [heq k] at hrights
    obtain ⟨v', hget', -⟩ := mem_getD.1 (hrights.symm ▸ hr)
    rw [OrderedMap.getD, hget', Option.getD_some] at hrights
    rw [hget', hrights]
  have heq : ∀ g, policies.getD g ∅ = policies'.getD g ∅ := fun g => OrderedSet.ext (hrights g)
  exact OrderedMap.ext fun k => Option.ext fun v =>
    ⟨hheld h heq, hheld h' fun g => (heq g).symm⟩

/-- Neither the order of the shares nor their repeats matter. -/
theorem gather_congr (hshares : ∀ share ∈ shares, share.2.isEmpty = false)
    (h : ∀ share, share ∈ shares' ↔ share ∈ shares) : gather shares' = gather shares := by
  refine Tight.ext (tight_gather fun share hshare => hshares share ((h share).1 hshare))
    (tight_gather hshares) fun g r => ?_
  rw [mem_gather, mem_gather]
  exact exists_congr fun share => and_congr_left' (h share)

/-- The entries of policies are shares that make them. -/
theorem gather_entries (h : policies.Tight) : gather policies.entries = policies := by
  refine Tight.ext (tight_gather h) h fun g r => ?_
  rw [mem_gather]
  constructor
  · rintro ⟨e, he, rfl, hr⟩
    exact mem_getD.2 ⟨e.2, OrderedMap.mem_entries.1 he, hr⟩
  · intro hr
    obtain ⟨rights, hget, hr⟩ := mem_getD.1 hr
    exact ⟨(g, rights), OrderedMap.mem_entries.2 hget, rfl, hr⟩

end Policies

end Accord
