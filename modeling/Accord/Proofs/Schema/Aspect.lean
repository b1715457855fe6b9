import Accord.Catalog.Reading
import Accord.Proofs.Schema.Plan

/-!
# Rights that changes touch

A change of a grantee takes some rights away or gives some.  All changes of a grantee together touch
every right that is held and not wanted, or wanted and not held (`granteeChanges_untouched`), and
they give exactly those of the touched rights that are wanted (`granteeChanges_touched`), provided
that nobody holds or wants the option to grant a privilege without the privilege itself.
-/

namespace Accord

/-- The option to grant a privilege never comes without the privilege. -/
def SchemaRights.Closed (rights : SchemaRights) : Prop :=
  ∀ p, .withGrant p ∈ rights → .base p ∈ rights

theorem SchemaRights.closed_empty : SchemaRights.Closed ∅ :=
  fun _ h => absurd h (OrderedSet.not_mem_empty _)

namespace GranteeChange

/-- The change takes a right off a role. -/
def Takes (g : String) (r : SchemaRight) : GranteeChange → Prop
  | .revokeAll role => role = g
  | .revoke role p => role = g ∧ r.privilege = p
  | .grant .. => False

/-- The change gives a right to a role. -/
def Gives (g : String) (r : SchemaRight) : GranteeChange → Prop
  | .grant role p withGrantOption =>
    role = g ∧ (r = .base p ∨ withGrantOption = true ∧ r = .withGrant p)
  | _ => False

/-- The change sets whether a role has a right. -/
def Touches (g : String) (r : SchemaRight) (c : GranteeChange) : Prop :=
  c.Takes g r ∨ c.Gives g r

end GranteeChange

/-! ## One privilege of a grantee -/

section Privilege

variable {g : String} {held wanted : SchemaRights} {p : SchemaPrivilege} {r : SchemaRight}

/-- The five ways in which a privilege can change. -/
theorem privilegeChanges_cases (hheld : held.Closed) (hwanted : wanted.Closed) :
    .base p ∈ held ∧ .base p ∉ wanted ∧
        privilegeChanges g held wanted p = [.revoke g p] ∨
      .withGrant p ∈ held ∧ .withGrant p ∉ wanted ∧ .base p ∈ wanted ∧
        privilegeChanges g held wanted p = [.revoke g p, .grant g p false] ∨
      .withGrant p ∉ held ∧ .withGrant p ∈ wanted ∧
        privilegeChanges g held wanted p = [.grant g p true] ∨
      .base p ∉ held ∧ .base p ∈ wanted ∧ .withGrant p ∉ wanted ∧
        privilegeChanges g held wanted p = [.grant g p false] ∨
      (.base p ∈ held ↔ .base p ∈ wanted) ∧ (.withGrant p ∈ held ↔ .withGrant p ∈ wanted) ∧
        privilegeChanges g held wanted p = [] := by
  have hhad := hheld p
  have hwants := hwanted p
  unfold privilegeChanges
  by_cases had : SchemaRight.base p ∈ held <;> by_cases wants : SchemaRight.base p ∈ wanted <;>
    by_cases hadGrant : SchemaRight.withGrant p ∈ held <;>
    by_cases wantsGrant : SchemaRight.withGrant p ∈ wanted <;>
    simp_all [OrderedSet.contains]

/-- A privilege changes only for the grantee, and only rights of that privilege. -/
theorem of_touches_of_mem_privilegeChanges {g' : String} {c : GranteeChange}
    (hc : c ∈ privilegeChanges g held wanted p) (h : c.Touches g' r) :
    g' = g ∧ r.privilege = p := by
  have hform : c = .revoke g p ∨ ∃ b, c = .grant g p b := by
    unfold privilegeChanges at hc
    dsimp only at hc
    split at hc
    · exact .inl (List.mem_singleton.1 hc)
    split at hc
    · rw [List.mem_cons, List.mem_singleton] at hc
      exact hc.imp_right fun hc => ⟨false, hc⟩
    split at hc
    · exact .inr ⟨true, List.mem_singleton.1 hc⟩
    split at hc
    · exact .inr ⟨false, List.mem_singleton.1 hc⟩
    · exact absurd hc List.not_mem_nil
  rcases hform with rfl | ⟨b, rfl⟩
  · rcases h with ⟨rfl, hr⟩ | h
    · exact ⟨rfl, hr⟩
    · exact h.elim
  · rcases h with h | ⟨rfl, rfl | ⟨-, rfl⟩⟩
    · exact h.elim
    · exact ⟨rfl, rfl⟩
    · exact ⟨rfl, rfl⟩

/-- A right that no change touches is held if and only if it is wanted. -/
theorem privilegeChanges_untouched (hheld : held.Closed) (hwanted : wanted.Closed)
    (hp : r.privilege = p) (h : ¬∃ c ∈ privilegeChanges g held wanted p, c.Touches g r) :
    r ∈ held ↔ r ∈ wanted := by
  obtain ⟨q, b⟩ := r
  obtain rfl : q = p := hp
  rcases privilegeChanges_cases (g := g) (p := q) hheld hwanted with
    ⟨-, -, heq⟩ | ⟨-, -, -, heq⟩ | ⟨-, -, heq⟩ | ⟨hhad, hwants, hwantsGrant, heq⟩ |
    ⟨hbase, hgrant, -⟩
  · exact absurd ⟨.revoke g q, by rw [heq]; simp, .inl ⟨rfl, rfl⟩⟩ h
  · exact absurd ⟨.revoke g q, by rw [heq]; simp, .inl ⟨rfl, rfl⟩⟩ h
  · refine absurd ⟨.grant g q true, by rw [heq]; simp, .inr ⟨rfl, ?_⟩⟩ h
    cases b
    · exact .inl rfl
    · exact .inr ⟨rfl, rfl⟩
  · cases b with
    | false => exact absurd ⟨.grant g q false, by rw [heq]; simp, .inr ⟨rfl, .inl rfl⟩⟩ h
    | true => exact iff_of_false (fun hr => hhad (hheld q hr)) hwantsGrant
  · cases b with
    | false => exact hbase
    | true => exact hgrant

/-- A right that some change touches is given if and only if it is wanted. -/
theorem privilegeChanges_touched (hheld : held.Closed) (hwanted : wanted.Closed)
    (hp : r.privilege = p) (h : ∃ c ∈ privilegeChanges g held wanted p, c.Touches g r) :
    (∃ c ∈ privilegeChanges g held wanted p, c.Gives g r) ↔ r ∈ wanted := by
  obtain ⟨q, b⟩ := r
  obtain rfl : q = p := hp
  rcases privilegeChanges_cases (g := g) (p := q) hheld hwanted with
    ⟨-, hwants, heq⟩ | ⟨-, hwantsGrant, hwants, heq⟩ | ⟨-, hwantsGrant, heq⟩ |
    ⟨hhad, hwants, hwantsGrant, heq⟩ | ⟨-, -, heq⟩
  · rw [heq]
    refine iff_of_false (by simp [GranteeChange.Gives]) fun hr => hwants ?_
    cases b
    · exact hr
    · exact hwanted q hr
  · rw [heq]
    cases b with
    | false => exact iff_of_true ⟨.grant g q false, by simp, rfl, .inl rfl⟩ hwants
    | true =>
      refine iff_of_false ?_ hwantsGrant
      simp [GranteeChange.Gives, SchemaRight.base]
  · rw [heq]
    cases b with
    | false =>
      exact iff_of_true ⟨_, List.mem_singleton_self _, rfl, .inl rfl⟩ (hwanted q hwantsGrant)
    | true => exact iff_of_true ⟨_, List.mem_singleton_self _, rfl, .inr ⟨rfl, rfl⟩⟩ hwantsGrant
  · rw [heq] at h ⊢
    cases b with
    | false => exact iff_of_true ⟨_, List.mem_singleton_self _, rfl, .inl rfl⟩ hwants
    | true => simp [GranteeChange.Touches, GranteeChange.Takes, GranteeChange.Gives,
        SchemaRight.base] at h
  · rw [heq] at h
    simp at h

end Privilege

/-! ## One grantee -/

section Grantee

variable {g : String} {held wanted : SchemaRights} {r : SchemaRight}

theorem SchemaPrivilege.mem_all (p : SchemaPrivilege) : p ∈ all := by
  cases p <;> decide

/-- The changes of a grantee are no others than its own. -/
theorem role_eq_of_mem_granteeChanges {g' : String} {c : GranteeChange}
    (hc : c ∈ granteeChanges g held wanted) (h : c.Touches g' r) : g' = g := by
  unfold granteeChanges at hc
  by_cases heq : held = wanted
  · rw [if_pos heq] at hc
    exact absurd hc List.not_mem_nil
  rw [if_neg heq] at hc
  by_cases hempty : wanted.isEmpty = true
  · rw [if_pos hempty] at hc
    obtain rfl := List.mem_singleton.1 hc
    exact h.elim Eq.symm False.elim
  · rw [if_neg hempty] at hc
    obtain ⟨p, -, hc⟩ := List.mem_flatMap.1 hc
    exact (of_touches_of_mem_privilegeChanges hc h).1

/-- The changes of a grantee that touch a right are those of its privilege, unless everything is
taken away. -/
theorem mem_granteeChanges {P : GranteeChange → Prop} (hP : ∀ c, P c → c.Touches g r)
    (hne : held ≠ wanted) (hwanted : wanted.isEmpty = false) :
    (∃ c ∈ granteeChanges g held wanted, P c) ↔
      ∃ c ∈ privilegeChanges g held wanted r.privilege, P c := by
  unfold granteeChanges
  rw [if_neg hne, hwanted, if_neg (by decide)]
  constructor
  · rintro ⟨c, hc, h⟩
    obtain ⟨p, -, hc⟩ := List.mem_flatMap.1 hc
    obtain ⟨-, rfl⟩ := of_touches_of_mem_privilegeChanges hc (hP c h)
    exact ⟨c, hc, h⟩
  · rintro ⟨c, hc, h⟩
    exact ⟨c, List.mem_flatMap.2 ⟨_, SchemaPrivilege.mem_all _, hc⟩, h⟩

theorem granteeChanges_untouched (hheld : held.Closed) (hwanted : wanted.Closed)
    (h : ¬∃ c ∈ granteeChanges g held wanted, c.Touches g r) : r ∈ held ↔ r ∈ wanted := by
  by_cases heq : held = wanted
  · rw [heq]
  cases hempty : wanted.isEmpty with
  | true =>
    refine absurd ⟨.revokeAll g, ?_, .inl rfl⟩ h
    unfold granteeChanges
    rw [if_neg heq, if_pos hempty]
    exact List.mem_singleton_self _
  | false =>
    rw [mem_granteeChanges (fun _ => id) heq hempty] at h
    exact privilegeChanges_untouched hheld hwanted rfl h

theorem granteeChanges_touched (hheld : held.Closed) (hwanted : wanted.Closed)
    (h : ∃ c ∈ granteeChanges g held wanted, c.Touches g r) :
    (∃ c ∈ granteeChanges g held wanted, c.Gives g r) ↔ r ∈ wanted := by
  by_cases heq : held = wanted
  · obtain ⟨c, hc, -⟩ := h
    unfold granteeChanges at hc
    rw [if_pos heq] at hc
    exact absurd hc List.not_mem_nil
  cases hempty : wanted.isEmpty with
  | true =>
    refine iff_of_false ?_ (OrderedSet.isEmpty_iff.1 hempty r)
    unfold granteeChanges
    rw [if_neg heq, if_pos hempty]
    rintro ⟨c, hc, hgives⟩
    obtain rfl := List.mem_singleton.1 hc
    exact hgives
  | false =>
    rw [mem_granteeChanges (fun _ => id) heq hempty] at h
    rw [mem_granteeChanges (fun _ => .inr) heq hempty]
    exact privilegeChanges_touched hheld hwanted rfl h

/-- Nothing changes if and only if what is held is what is wanted. -/
theorem granteeChanges_eq_nil (hheld : held.Closed) (hwanted : wanted.Closed) :
    granteeChanges g held wanted = [] ↔ held = wanted := by
  constructor
  · intro hnil
    refine OrderedSet.ext fun r => granteeChanges_untouched (g := g) hheld hwanted ?_
    rw [hnil]
    rintro ⟨c, hc, -⟩
    exact absurd hc List.not_mem_nil
  · exact fun heq => if_pos heq

end Grantee

/-! ## All grantees -/

section Policies

variable {current desired : Policies} {owner : String}

theorem mem_policyChanges {c : GranteeChange} :
    c ∈ policyChanges current desired owner ↔
      ∃ g, g ≠ owner ∧ c ∈ granteeChanges g (current.getD g ∅) (desired.getD g ∅) := by
  unfold policyChanges
  simp only [List.mem_flatMap, List.mem_filter, decide_eq_true_eq]
  constructor
  · rintro ⟨g, ⟨-, hg⟩, hc⟩
    exact ⟨g, hg, hc⟩
  · rintro ⟨g, hg, hc⟩
    refine ⟨g, ⟨?_, hg⟩, hc⟩
    rw [OrderedSet.mem_toList, OrderedSet.mem_union]
    by_cases hcurrent : g ∈ current.keys
    · exact .inl hcurrent
    by_cases hdesired : g ∈ desired.keys
    · exact .inr hdesired
    -- Whoever is not listed has nothing and is to have nothing.
    rw [OrderedMap.getD_of_not_mem_keys hcurrent, OrderedMap.getD_of_not_mem_keys hdesired] at hc
    unfold granteeChanges at hc
    rw [if_pos rfl] at hc
    exact absurd hc List.not_mem_nil

/-- Among all changes, those of a grantee are its own; there are none for the owner. -/
theorem exists_mem_policyChanges {g : String} {r : SchemaRight} {P : GranteeChange → Prop}
    (hP : ∀ c, P c → c.Touches g r) :
    (∃ c ∈ policyChanges current desired owner, P c) ↔
      g ≠ owner ∧ ∃ c ∈ granteeChanges g (current.getD g ∅) (desired.getD g ∅), P c := by
  simp only [mem_policyChanges]
  constructor
  · rintro ⟨c, ⟨g', hg', hc⟩, h⟩
    obtain rfl := role_eq_of_mem_granteeChanges hc (hP c h)
    exact ⟨hg', c, hc, h⟩
  · rintro ⟨hg, c, hc, h⟩
    exact ⟨c, ⟨g, hg, hc⟩, h⟩

theorem policyChanges_eq_nil (hcurrent : ∀ g, (current.getD g ∅).Closed)
    (hdesired : ∀ g, (desired.getD g ∅).Closed) :
    policyChanges current desired owner = [] ↔
      ∀ g, g ≠ owner → ∀ r, r ∈ current.getD g ∅ ↔ r ∈ desired.getD g ∅ := by
  rw [List.eq_nil_iff_forall_not_mem]
  constructor
  · intro h g hg r
    have hnil : granteeChanges g (current.getD g ∅) (desired.getD g ∅) = [] := by
      rw [List.eq_nil_iff_forall_not_mem]
      exact fun c hc => h c (mem_policyChanges.2 ⟨g, hg, hc⟩)
    rw [(granteeChanges_eq_nil (hcurrent g) (hdesired g)).1 hnil]
  · intro h c hc
    obtain ⟨g, hg, hc⟩ := mem_policyChanges.1 hc
    rw [(granteeChanges_eq_nil (hcurrent g) (hdesired g)).2 (OrderedSet.ext (h g hg))] at hc
    exact absurd hc List.not_mem_nil

/-- Only what is wanted is given. -/
theorem mem_of_gives {g : String} {r : SchemaRight} {c : GranteeChange}
    (hcurrent : (current.getD g ∅).Closed) (hdesired : (desired.getD g ∅).Closed)
    (hc : c ∈ policyChanges current desired owner) (h : c.Gives g r) : r ∈ desired.getD g ∅ := by
  obtain ⟨g', -, hc⟩ := mem_policyChanges.1 hc
  obtain rfl := role_eq_of_mem_granteeChanges hc (.inr h)
  exact (granteeChanges_touched hcurrent hdesired ⟨c, hc, .inr h⟩).1 ⟨c, hc, h⟩

/-- What is held and not wanted is taken away. -/
theorem exists_takes {g : String} {r : SchemaRight} (hcurrent : (current.getD g ∅).Closed)
    (hdesired : (desired.getD g ∅).Closed) (hg : g ≠ owner) (hheld : r ∈ current.getD g ∅)
    (hwanted : r ∉ desired.getD g ∅) : ∃ c ∈ policyChanges current desired owner, c.Takes g r := by
  have htouched : ∃ c ∈ granteeChanges g (current.getD g ∅) (desired.getD g ∅), c.Touches g r :=
    Classical.byContradiction fun hnot =>
      hwanted ((granteeChanges_untouched hcurrent hdesired hnot).1 hheld)
  obtain ⟨c, hc, htakes | hgives⟩ := htouched
  · exact ⟨c, mem_policyChanges.2 ⟨g, hg, hc⟩, htakes⟩
  · exact absurd (mem_of_gives hcurrent hdesired (mem_policyChanges.2 ⟨g, hg, hc⟩) hgives) hwanted

end Policies

/-! ## Declared policies -/

namespace DeclaredPolicy

theorem mem_rightsOf {p : SchemaPrivilege} {base grant : Bool} {r : SchemaRight} :
    r ∈ rightsOf p base grant ↔
      (base = true ∨ grant = true) ∧ r = .base p ∨ grant = true ∧ r = .withGrant p := by
  unfold rightsOf
  cases base <;> cases grant <;> simp

theorem closed_rights (p : DeclaredPolicy) : p.rights.Closed := by
  intro q h
  unfold rights at h ⊢
  simp only [OrderedSet.mem_ofList, List.mem_append, mem_rightsOf, SchemaRight.base,
    SchemaRight.withGrant, SchemaRight.mk.injEq, Bool.true_eq_false, Bool.false_eq_true, and_false,
    and_true, false_or, or_false] at h ⊢
  rcases h with ⟨hgrant, rfl⟩ | ⟨hgrant, rfl⟩
  · exact .inl ⟨.inr hgrant, rfl⟩
  · exact .inr ⟨.inr hgrant, rfl⟩

end DeclaredPolicy

theorem SchemaRights.Closed.union {rights rights' : SchemaRights} (h : rights.Closed)
    (h' : rights'.Closed) : SchemaRights.Closed (rights.union rights') := by
  intro p hp
  rw [OrderedSet.mem_union] at hp ⊢
  exact hp.imp (h p) (h' p)

/-- Adding rights to those of a grantee. -/
theorem Policies.closed_add {policies : Policies} (hclosed : ∀ g, (policies.getD g ∅).Closed)
    (role : String) {rights : SchemaRights} (hrights : rights.Closed) :
    ∀ g, ((policies.add role rights).getD g ∅).Closed := by
  intro g
  rw [getD_add]
  by_cases hg : g = role
  · rw [if_pos hg]
    exact (hclosed role).union hrights
  · rw [if_neg hg]
    exact hclosed g

theorem DeclaredSchema.closed_normalizePolicies {declared : List DeclaredPolicy}
    {policies policies' : Policies} (h : normalizePolicies declared policies = .ok policies')
    (hclosed : ∀ g, (policies.getD g ∅).Closed) : ∀ g, (policies'.getD g ∅).Closed := by
  induction declared generalizing policies with
  | nil =>
    obtain rfl := Except.ok.inj h
    exact hclosed
  | cons p rest ih =>
    obtain ⟨role, -, h⟩ := Except.bind_ok.1 h
    refine ih h ?_
    by_cases hempty : p.rights.isEmpty = true
    · rw [if_pos hempty]
      exact hclosed
    · rw [if_neg hempty]
      exact Policies.closed_add hclosed role p.closed_rights

/-- A declared schema wants no option to grant a privilege without the privilege. -/
theorem DeclaredSchema.closed_policies {desired : DeclaredSchema} {defaultDatabase : String}
    {spec : NormalSchema} (h : desired.normalize defaultDatabase = .ok spec) (g : String) :
    (spec.policies.getD g ∅).Closed :=
  closed_normalizePolicies (normalize_ok h).1 (fun _ => SchemaRights.closed_empty) g

/-! ## Policies that are read -/

namespace Policies

variable {policies policies' : Policies}

theorem closed_addRow {row : Row} (h : policies.addRow row = .ok policies')
    (hclosed : ∀ g, (policies.getD g ∅).Closed) : ∀ g, (policies'.getD g ∅).Closed := by
  unfold addRow at h
  obtain ⟨raw, -, h⟩ := Except.bind_ok.1 h
  cases hp : SchemaPrivilege.parse? raw with
  | none =>
    rw [hp] at h
    obtain rfl := Except.ok.inj h
    exact hclosed
  | some p =>
    rw [hp] at h
    obtain ⟨grantee, -, h⟩ := Except.bind_ok.1 h
    obtain ⟨grantable, -, h⟩ := Except.bind_ok.1 h
    obtain rfl := Except.ok.inj h
    refine closed_add hclosed grantee fun q hq => ?_
    rw [OrderedSet.mem_ofList] at hq ⊢
    cases grantable <;> simp_all [SchemaRight.base, SchemaRight.withGrant]

/-- Whatever grants are listed, the privilege is read with the option to grant it. -/
theorem closed_ofResult {table : ResultTable} (h : ofResult table = .ok policies) (g : String) :
    (policies.getD g ∅).Closed := by
  have hfold : ∀ (rows : List Row) (read : Policies), rows.foldlM addRow read = .ok policies →
      (∀ g, (read.getD g ∅).Closed) → ∀ g, (policies.getD g ∅).Closed := by
    intro rows
    induction rows with
    | nil =>
      intro read h hclosed
      obtain rfl := Except.ok.inj h
      exact hclosed
    | cons row rows ih =>
      intro read h hclosed
      obtain ⟨next, hnext, h⟩ := Except.bind_ok.1 h
      exact ih next h (closed_addRow hnext hclosed)
  exact hfold _ _ h (fun _ => SchemaRights.closed_empty) g

end Policies

end Accord
