import Accord.Proofs.Catalog.Faithful
import Accord.Proofs.Schema.Aspect

/-!
# Schemas in the catalog and plans for them

Revoking comes before granting, so after the statements for some changes a role has a right if it
was given to it, or if it had it before and it was not taken away (`effects_rights`).  What a plan
does not touch stays as it was, which matters if the schema is no longer the one that the plan was
made for: `SchemaEntry.Kept` says when the plan still leads to what is declared.
-/

namespace Accord

/-- What a role may do on a schema without owning it is closed. -/
theorem SchemaEntry.closed_policy (e : SchemaEntry) (g : String) : (e.policy g).Closed := by
  intro p h
  unfold policy at h ⊢
  by_cases hg : g = e.owner
  · rw [if_pos hg] at h
    exact absurd h (OrderedSet.not_mem_empty _)
  · rw [if_neg hg] at h ⊢
    exact e.acl.held g p h

/-- When the owner changes, only the rights of the new owner are no longer a policy. -/
theorem SchemaEntry.policy_setOwner (e : SchemaEntry) {owner g : String} (hg : g ≠ owner) :
    (e.setOwner owner).policy g = e.policy g := by
  unfold setOwner policy
  rw [if_neg hg]
  unfold Acl.move
  by_cases howner : e.owner = owner
  · rw [if_pos howner, if_neg fun h => hg (h.trans howner)]
  · rw [if_neg howner]
    show (if g = owner then _ else if g = e.owner then _ else e.acl.rights g) = _
    rw [if_neg hg]

section Changes

variable {host : Host} {database name : String} {k k' : Catalog} {c : GranteeChange}
  {l : List Statement}

theorem GranteeChange.statement_inj {c c' : GranteeChange}
    (h : c.statement name = c'.statement name) : c = c' := by
  cases c <;> cases c' <;> simp_all [statement]

/-- What the statement for a change does to a schema. -/
theorem GranteeChange.effect_statement
    (h : (c.statement name).effect host database k = some k') :
    ∃ e e', k.schemas database name = some e ∧ k'.schemas database name = some e' ∧
      k.DifferAt k' (.schema database name) ∧ e'.owner = e.owner ∧
      ∀ g r, r ∈ e'.acl.rights g ↔ c.Gives g r ∨ r ∈ e.acl.rights g ∧ ¬c.Takes g r := by
  have hchange : ∀ f, k.changeSchema database name f = some k' →
      ∃ e, k.schemas database name = some e ∧ k'.schemas database name = some (f e) ∧
        k.DifferAt k' (.schema database name) := by
    intro f hf
    obtain ⟨e, he, rfl⟩ := Option.map_eq_some_iff.1 hf
    exact ⟨e, he, if_pos ⟨rfl, rfl⟩, k.differAt_setSchema database name (some (f e))⟩
  cases c with
  | revokeAll role =>
    obtain ⟨e, he, he', hdiffer⟩ := hchange _ h
    refine ⟨e, _, he, he', hdiffer, rfl, fun g r => ?_⟩
    show r ∈ (if g = role then ∅ else e.acl.rights g) ↔ _
    by_cases hg : g = role
    · rw [if_pos hg]
      simp [Gives, Takes, hg]
    · rw [if_neg hg]
      simp [Gives, Takes, Ne.symm hg]
  | revoke role p =>
    obtain ⟨e, he, he', hdiffer⟩ := hchange _ h
    refine ⟨e, _, he, he', hdiffer, rfl, fun g r => ?_⟩
    show r ∈ (if g = role then (e.acl.rights role).filter fun r => decide (r.privilege ≠ p)
      else e.acl.rights g) ↔ _
    by_cases hg : g = role
    · rw [if_pos hg]
      simp [Gives, Takes, hg]
    · rw [if_neg hg]
      simp [Gives, Takes, Ne.symm hg]
  | grant role p withGrantOption =>
    obtain ⟨e, he, he', hdiffer⟩ := hchange _ h
    refine ⟨e, _, he, he', hdiffer, rfl, fun g r => ?_⟩
    show r ∈ (if g = role then (e.acl.rights role).union (.ofList (.base p ::
      if withGrantOption then [.withGrant p] else [])) else e.acl.rights g) ↔ _
    by_cases hg : g = role
    · rw [if_pos hg]
      cases withGrantOption <;> simp [Gives, Takes, hg, or_comm]
    · rw [if_neg hg]
      simp [Gives, Takes, Ne.symm hg]

theorem GranteeChange.rank_statement (c : GranteeChange) :
    (c.statement name).phase.rank = if c.isRevoke then 4 else 5 := by
  cases c <;> rfl

/-- After the statements for some changes, revokes first, a role has the rights that were given to
it and those that it had and that were not taken away. -/
theorem effects_rights {e' : SchemaEntry}
    (hl : ∀ s ∈ l, ∃ c : GranteeChange, s = c.statement name) (hascends : Plan.Ascends l)
    (h : effects (Statement.effect host database) l k = some k')
    (he' : k'.schemas database name = some e') :
    ∃ e, k.schemas database name = some e ∧ k.DifferAt k' (.schema database name) ∧
      e'.owner = e.owner ∧ ∀ g r, r ∈ e'.acl.rights g ↔
        (∃ c : GranteeChange, c.statement name ∈ l ∧ c.Gives g r) ∨
          r ∈ e.acl.rights g ∧ ¬∃ c : GranteeChange, c.statement name ∈ l ∧ c.Takes g r := by
  induction l generalizing k with
  | nil =>
    obtain rfl := Option.some.inj h
    exact ⟨e', he', .refl k _, rfl, fun g r => by simp⟩
  | cons s l ih =>
    obtain ⟨hfirst, hlater⟩ := List.pairwise_cons.1 hascends
    obtain ⟨c, rfl⟩ := hl s (List.mem_cons_self ..)
    obtain ⟨k₁, hc, hrest⟩ := effects_cons.1 h
    obtain ⟨e₁, he₁, hdiffer', howner', hrights'⟩ :=
      ih (fun s hs => hl s (List.mem_cons_of_mem _ hs)) hlater hrest
    obtain ⟨e, e₁', he, he₁', hdiffer, howner, hrights⟩ := GranteeChange.effect_statement hc
    obtain rfl := Option.some.inj (he₁'.symm.trans he₁)
    refine ⟨e, he, hdiffer.trans hdiffer', howner'.trans howner, fun g r => ?_⟩
    -- What gives something is a grant, and after a grant nothing is revoked.
    have hlast : c.Gives g r → ¬∃ d : GranteeChange, d.statement name ∈ l ∧ d.Takes g r := by
      rintro hgives ⟨d, hd, htakes⟩
      have hle := hfirst _ hd
      rw [GranteeChange.rank_statement, GranteeChange.rank_statement] at hle
      cases c with
      | grant role p withGrantOption =>
        cases d with
        | grant => exact htakes
        | revokeAll => simp [GranteeChange.isRevoke] at hle
        | revoke => simp [GranteeChange.isRevoke] at hle
      | revokeAll => exact hgives
      | revoke => exact hgives
    have hmem : ∀ d : GranteeChange,
        d.statement name ∈ c.statement name :: l ↔ d = c ∨ d.statement name ∈ l := by
      intro d
      rw [List.mem_cons]
      exact or_congr ⟨GranteeChange.statement_inj, fun h => h ▸ rfl⟩ Iff.rfl
    simp only [hmem, or_and_right, exists_or, exists_eq_left, not_or]
    rw [hrights', hrights]
    constructor
    · rintro (hgives | ⟨hgives | ⟨hr, htakes⟩, hrest⟩)
      · exact .inl (.inr hgives)
      · exact .inl (.inl hgives)
      · exact .inr ⟨hr, htakes, hrest⟩
    · rintro ((hgives | hgives) | ⟨hr, htakes, hrest⟩)
      · exact .inr ⟨.inl hgives, hlast hgives⟩
      · exact .inl hgives
      · exact .inr ⟨.inr ⟨hr, htakes⟩, hrest⟩

end Changes

/-! ## Plans -/

/-- The schema that is created for a declared one, before anything is granted on it. -/
def SchemaEntry.fresh (spec : NormalSchema) (currentUser : String) : SchemaEntry :=
  ⟨spec.owner.getD currentUser, .empty⟩

namespace SchemaEntry

/-- The schema is as declared: it has the declared owner, if one is declared, and everyone else
holds what is declared. -/
def Meets (e : SchemaEntry) (spec : NormalSchema) : Prop :=
  (∀ owner, spec.owner = some owner → e.owner = owner) ∧
    ∀ g, g ≠ e.owner → ∀ r, r ∈ e.policy g ↔ r ∈ spec.policies.getD g ∅

/-- A plan that was made for the schema sets whether a role has a right. -/
def Touched (e : SchemaEntry) (spec : NormalSchema) (g : String) (r : SchemaRight) : Prop :=
  g ≠ spec.owner.getD e.owner ∧
    ∃ c ∈ granteeChanges g (e.policy g) (spec.policies.getD g ∅), c.Touches g r

/-- What a plan for one state of the schema does not set is as declared in another state. -/
def Kept (e now : SchemaEntry) (spec : NormalSchema) : Prop :=
  (∀ owner, spec.owner = some owner → e.owner = owner → now.owner = owner) ∧
    ∀ g, g ≠ spec.owner.getD now.owner → ∀ r, ¬e.Touched spec g r →
      (r ∈ now.policy g ↔ r ∈ spec.policies.getD g ∅)

end SchemaEntry

section Plans

variable {host : Host} {database : String} {k k' : Catalog} {spec : NormalSchema}
  {before now e' : SchemaEntry} {policies : Policies}

/-- The statements of the changes of a schema, in the order in which they are run. -/
def policyStatements (spec : NormalSchema) (policies : Policies) (owner : String) :
    List Statement :=
  Plan.ordered
    ((policyChanges policies spec.policies owner).map (GranteeChange.statement spec.name))

theorem mem_policyStatements {owner : String} {c : GranteeChange} :
    c.statement spec.name ∈ policyStatements spec policies owner ↔
      c ∈ policyChanges policies spec.policies owner := by
  unfold policyStatements
  rw [Plan.mem_ordered, List.mem_map]
  constructor
  · rintro ⟨d, hd, heq⟩
    rwa [← GranteeChange.statement_inj heq]
  · exact fun hc => ⟨c, hc, rfl⟩

theorem exists_of_mem_policyStatements {owner : String} {s : Statement}
    (h : s ∈ policyStatements spec policies owner) :
    ∃ c : GranteeChange, s = c.statement spec.name := by
  obtain ⟨c, -, rfl⟩ := List.mem_map.1 (Plan.mem_ordered.1 h)
  exact ⟨c, rfl⟩

/-- After the changes of a grantee a right is as it is wanted if and only if they touch it or it was
so before, whatever has become of it since they were planned. -/
theorem wanted_iff_of_changes {g : String} {r : SchemaRight} {held wanted now : SchemaRights}
    (hheld : held.Closed) (hwanted : wanted.Closed) (planned : Prop) :
    (((planned ∧ ∃ c ∈ granteeChanges g held wanted, c.Gives g r) ∨
        r ∈ now ∧ ¬(planned ∧ ∃ c ∈ granteeChanges g held wanted, c.Takes g r)) ↔ r ∈ wanted) ↔
      (¬(planned ∧ ∃ c ∈ granteeChanges g held wanted, c.Touches g r) →
        (r ∈ now ↔ r ∈ wanted)) := by
  by_cases htouched : planned ∧ ∃ c ∈ granteeChanges g held wanted, c.Touches g r
  · obtain ⟨hplan, htouches⟩ := htouched
    refine iff_of_true ?_ fun hnot => absurd ⟨hplan, htouches⟩ hnot
    rw [← granteeChanges_touched hheld hwanted htouches]
    constructor
    · rintro (⟨-, hgives⟩ | ⟨-, htakes⟩)
      · exact hgives
      · obtain ⟨c, hc, htakes' | hgives⟩ := htouches
        · exact absurd ⟨hplan, c, hc, htakes'⟩ htakes
        · exact ⟨c, hc, hgives⟩
    · exact fun hgives => .inl ⟨hplan, hgives⟩
  · have hgives : ¬(planned ∧ ∃ c ∈ granteeChanges g held wanted, c.Gives g r) :=
      fun ⟨hplan, c, hc, hgives⟩ => htouched ⟨hplan, c, hc, .inr hgives⟩
    have htakes : ¬(planned ∧ ∃ c ∈ granteeChanges g held wanted, c.Takes g r) :=
      fun ⟨hplan, c, hc, htakes⟩ => htouched ⟨hplan, c, hc, .inl htakes⟩
    rw [or_iff_right hgives, and_iff_left htakes]
    exact ⟨fun h _ => h, fun h => h htouched⟩

/-- After the statements for the policies have been run, the schema is as declared if and only if
it has the declared owner and whatever was not touched was as declared. -/
theorem meets_of_policyStatements (hspec : ∀ g, (spec.policies.getD g ∅).Closed)
    (hpolicies : ∀ g, policies.getD g ∅ = before.policy g)
    (h : effects (Statement.effect host database)
      (policyStatements spec policies (spec.owner.getD before.owner)) k = some k')
    (he' : k'.schemas database spec.name = some e') :
    ∃ now, k.schemas database spec.name = some now ∧
      k.DifferAt k' (.schema database spec.name) ∧
      (e'.Meets spec ↔ (∀ owner, spec.owner = some owner → now.owner = owner) ∧
        ∀ g, g ≠ now.owner → ∀ r, ¬before.Touched spec g r →
          (r ∈ now.policy g ↔ r ∈ spec.policies.getD g ∅)) := by
  obtain ⟨now, hnow, hdiffer, howner, hrights⟩ :=
    effects_rights (fun s => exists_of_mem_policyStatements) (Plan.ascends_ordered _) h he'
  refine ⟨now, hnow, hdiffer, ?_⟩
  unfold SchemaEntry.Meets
  rw [howner]
  refine and_congr_right fun _ => forall_congr' fun g => forall_congr' fun hg =>
    forall_congr' fun r => ?_
  have hpolicy : r ∈ e'.policy g ↔ r ∈ e'.acl.rights g := by
    unfold SchemaEntry.policy
    rw [howner, if_neg hg]
  have hpolicy' : r ∈ now.policy g ↔ r ∈ now.acl.rights g := by
    unfold SchemaEntry.policy
    rw [if_neg hg]
  rw [hpolicy, hrights, ← hpolicy']
  simp only [mem_policyStatements]
  rw [exists_mem_policyChanges fun _ => .inr, exists_mem_policyChanges fun _ => .inl, hpolicies]
  exact wanted_iff_of_changes (before.closed_policy g) (hspec g) _

theorem NormalSchema.updatePlan_eq {current : ObservedSchema} (hname : current.name = spec.name)
    (hdatabase : current.database = spec.database) :
    spec.updatePlan current =
      .ok (((spec.owner.filter fun o => decide (o ≠ current.owner)).map fun o =>
          Statement.alterSchemaOwner spec.name o).toList ++
        (policyChanges current.policies spec.policies (spec.owner.getD current.owner)).map
          (GranteeChange.statement spec.name)) := by
  unfold updatePlan ObservedSchema.changesTo
  rw [if_neg (Classical.not_not.2 hdatabase), if_pos hname]
  rfl

/-- The statements for the policies come after one that creates the schema or changes its owner. -/
theorem ordered_cons_policies {s : Statement} (hs : s.phase.rank ≤ 4) (owner : String) :
    Plan.ordered (s ::
        (policyChanges policies spec.policies owner).map (GranteeChange.statement spec.name)) =
      s :: policyStatements spec policies owner := by
  refine Plan.ordered_cons fun t ht => ?_
  obtain ⟨c, -, rfl⟩ := List.mem_map.1 ht
  rw [GranteeChange.rank_statement]
  split <;> omega

/-- If the plan was made for a schema with the declared owner, it leaves the owner alone. -/
theorem SchemaEntry.kept_iff (hsame : ∀ owner, spec.owner = some owner → before.owner = owner) :
    before.Kept now spec ↔ (∀ owner, spec.owner = some owner → now.owner = owner) ∧
      ∀ g, g ≠ now.owner → ∀ r, ¬before.Touched spec g r →
        (r ∈ now.policy g ↔ r ∈ spec.policies.getD g ∅) := by
  unfold Kept
  have howner : (∀ owner, spec.owner = some owner → before.owner = owner → now.owner = owner) ↔
      ∀ owner, spec.owner = some owner → now.owner = owner :=
    ⟨fun h o ho => h o ho (hsame o ho), fun h o ho _ => h o ho⟩
  rw [howner]
  refine and_congr_right fun hnow => ?_
  rw [getD_eq_self_iff.2 hnow]

/-- A plan for the schema as it is leaves alone only what is as declared. -/
theorem SchemaEntry.kept_self (hspec : ∀ g, (spec.policies.getD g ∅).Closed) (e : SchemaEntry) :
    e.Kept e spec := by
  refine ⟨fun _ _ howner => howner, fun g hg r htouched => ?_⟩
  exact granteeChanges_untouched (e.closed_policy g) (hspec g)
    fun htouches : ∃ c ∈ granteeChanges g _ _, _ => htouched ⟨hg, htouches⟩

/-- After a schema was updated, it is as declared if and only if the plan, which was made for an
earlier state, leaves alone only what is as declared. -/
theorem NormalSchema.meets_of_updatePlan (hspec : ∀ g, (spec.policies.getD g ∅).Closed)
    {current : ObservedSchema} (hshown : before.Shown spec.database spec.name current) {plan : Plan}
    (hplan : spec.updatePlan current = .ok plan)
    (h : effects (Statement.effect host database) plan.ordered k = some k')
    (he' : k'.schemas database spec.name = some e') :
    ∃ now, k.schemas database spec.name = some now ∧
      k.DifferAt k' (.schema database spec.name) ∧ (e'.Meets spec ↔ before.Kept now spec) := by
  rw [NormalSchema.updatePlan_eq hshown.name hshown.database, hshown.owner] at hplan
  obtain rfl := Except.ok.inj hplan
  cases howner : spec.owner.filter fun o => decide (o ≠ before.owner) with
  | none =>
    rw [howner] at h
    obtain ⟨now, hnow, hdiffer, hmeets⟩ :=
      meets_of_policyStatements hspec hshown.policies h he'
    refine ⟨now, hnow, hdiffer, hmeets.trans ?_⟩
    exact (SchemaEntry.kept_iff (filter_ne_eq_none_iff.1 howner)).symm
  | some o =>
    obtain ⟨ho, hne⟩ := Option.filter_eq_some_iff.1 howner
    have hne : o ≠ before.owner := of_decide_eq_true hne
    rw [howner, Option.map_some, Option.toList_some, List.singleton_append,
      ordered_cons_policies (by show 2 ≤ 4; omega)] at h
    obtain ⟨k₁, hset, h⟩ := effects_cons.1 h
    obtain ⟨now, hnow, rfl⟩ := Option.map_eq_some_iff.1 hset
    obtain ⟨now', hnow', hdiffer, hmeets⟩ :=
      meets_of_policyStatements hspec hshown.policies h he'
    obtain rfl : now.setOwner o = now' :=
      Option.some.inj ((if_pos ⟨rfl, rfl⟩ : (k.setSchema database spec.name _).schemas database
        spec.name = _).symm.trans hnow')
    refine ⟨now, hnow, (k.differAt_setSchema _ _ _).trans hdiffer, hmeets.trans ?_⟩
    unfold SchemaEntry.Kept
    rw [ho]
    refine and_congr ?_ ?_
    · refine iff_of_true ?_ ?_
      · intro o' ho'
        exact Option.some.inj ho'
      · intro o' ho' heq
        exact absurd (Option.some.inj ho' |>.trans heq.symm) hne
    · refine forall_congr' fun g => forall_congr' fun hg => forall_congr' fun r => ?_
      have hg' : g ≠ o := hg
      rw [SchemaEntry.policy_setOwner now hg']

/-- The same for a schema that was created, or that was there already and need not be created. -/
theorem NormalSchema.meets_of_creationPlan (hspec : ∀ g, (spec.policies.getD g ∅).Closed)
    {dialect : Dialect} (h : effects (Statement.effect host database)
      (spec.creationPlan host.facts.currentUser dialect).ordered k = some k')
    (he' : k'.schemas database spec.name = some e') :
    k.DifferAt k' (.schema database spec.name) ∧
      (e'.Meets spec ↔ (SchemaEntry.fresh spec host.facts.currentUser).Kept
        ((k.schemas database spec.name).getD (.fresh spec host.facts.currentUser)) spec) := by
  have hpolicies : ∀ g, (∅ : Policies).getD g ∅ =
      (SchemaEntry.fresh spec host.facts.currentUser).policy g := by
    intro g
    unfold SchemaEntry.policy
    split <;> rfl
  have howner : spec.owner.getD (SchemaEntry.fresh spec host.facts.currentUser).owner =
      spec.owner.getD host.facts.currentUser := by
    unfold SchemaEntry.fresh
    cases spec.owner <;> rfl
  unfold NormalSchema.creationPlan at h
  rw [ordered_cons_policies (by show 0 ≤ 4; omega), ← howner] at h
  obtain ⟨k₁, hcreate, h⟩ := effects_cons.1 h
  obtain ⟨now, hnow, hdiffer, hmeets⟩ := meets_of_policyStatements hspec hpolicies h he'
  have hcreated : k.DifferAt k₁ (.schema database spec.name) ∧
      (k.schemas database spec.name).getD (.fresh spec host.facts.currentUser) = now := by
    simp only [Statement.newSchema, Statement.effect] at hcreate
    cases hthere : k.schemas database spec.name with
    | none =>
      rw [hthere] at hcreate
      obtain rfl := Option.some.inj hcreate
      exact ⟨k.differAt_setSchema _ _ _, Option.some.inj ((if_pos ⟨rfl, rfl⟩ :
        (k.setSchema database spec.name _).schemas database spec.name = _).symm.trans hnow)⟩
    | some e =>
      rw [hthere] at hcreate
      simp only [Option.isSome_some, if_true, Option.ite_none_right_eq_some,
        Option.some.injEq] at hcreate
      obtain ⟨-, rfl⟩ := hcreate
      exact ⟨.refl k _, Option.some.inj (hthere.symm.trans hnow)⟩
  obtain ⟨hdiffer', rfl⟩ := hcreated
  refine ⟨hdiffer'.trans hdiffer, hmeets.trans (SchemaEntry.kept_iff fun o ho => ?_).symm⟩
  unfold SchemaEntry.fresh
  rw [ho]
  rfl

end Plans

end Accord
