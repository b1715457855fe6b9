import Accord.Proofs.Role.Execution
import Accord.Proofs.Rule.Convergence
import Accord.Proofs.Rule.Plan
import Accord.Proofs.Schema.Execution

/-!
# What is held while a plan is carried out

A plan takes away before it gives.  As long as nothing has been given, nobody holds more than at
first; once something has been given, everything has been taken away that is not declared
(`TakesFirst.bounded`).  So at no point of a plan does anyone hold more than at first and more than
is declared (`Plan.never_escalates`), even if the plan is broken off there.
-/

namespace Accord

/-! ## Taking before giving -/

section TakesFirst

variable {κ α : Type} {effect : Statement → κ → Option κ} {before after : List Statement}
  {held : κ → α → Prop} {declared : α → Prop} {k k₁ : κ}

/-- Some statements take away before they give: they give only what is declared, and whatever is
held at first and not declared, one of them takes away. -/
structure TakesFirst (effect : Statement → κ → Option κ) (l : List Statement)
    (held : κ → α → Prop) (declared : α → Prop) (k : κ) : Prop where
  ascends : Plan.Ascends l
  early {c : Statement} {k k' : κ} {x : α} : c ∈ l → c.phase.rank < Phase.grant.rank →
    effect c k = some k' → held k' x → held k x
  gives {c : Statement} {k k' : κ} {x : α} : c ∈ l →
    effect c k = some k' → held k' x → held k x ∨ declared x
  takes {x : α} : held k x → ¬declared x → ∃ c ∈ l, c.phase.rank < Phase.grant.rank ∧
    ∀ k k', effect c k = some k' → ¬held k' x

/-- After any number of the statements, what is held was held at first, or all of it is declared. -/
theorem TakesFirst.bounded (h : TakesFirst effect (before ++ after) held declared k)
    (hrun : effects effect before k = some k₁) :
    (∀ x, held k₁ x → held k x) ∨ ∀ x, held k₁ x → declared x := by
  by_cases hgranted : ∃ d ∈ before, Phase.grant.rank ≤ d.phase.rank
  · refine .inr fun x hx => Classical.byContradiction fun hnot => ?_
    have hstay : ∀ c ∈ before, ∀ k k', effect c k = some k' → ¬held k x → ¬held k' x :=
      fun c hc k k' heffect hk hk' =>
        (h.gives (List.mem_append_left _ hc) heffect hk').elim hk hnot
    by_cases hfirst : held k x
    · obtain ⟨c, hc, hrank, htakes⟩ := h.takes hfirst hnot
      -- After a statement that gives comes none that takes.
      have hbefore : c ∈ before := by
        refine (List.mem_append.1 hc).resolve_right fun hafter => ?_
        obtain ⟨d, hd, hgrant⟩ := hgranted
        have hle := (List.pairwise_append.1 h.ascends).2.2 d hd c hafter
        omega
      exact effects_establish hstay hbefore htakes hrun hx
    · exact effects_preserve hstay hrun hfirst hx
  · refine .inl fun x hx => Classical.byContradiction fun hfirst => ?_
    have hstay : ∀ c ∈ before, ∀ k k', effect c k = some k' → ¬held k x → ¬held k' x := by
      intro c hc k k' heffect hk hk'
      have hrank : c.phase.rank < Phase.grant.rank :=
        Nat.lt_of_not_le fun hle => hgranted ⟨c, hc, hle⟩
      exact hk (h.early (List.mem_append_left _ hc) hrank heffect hk')
    exact effects_preserve hstay hrun hfirst hx

end TakesFirst

variable {host : Host} {database : String} {k k' : Catalog} {plan : Plan}

/-- However far a plan has been carried out. -/
def Plan.Throughout (plan : Plan) (host : Host) (database : String) (k : Catalog)
    (P : List Statement → Catalog → Prop) : Prop :=
  ∀ before after k₁, plan.ordered = before ++ after →
    effects (Statement.effect host database) before k = some k₁ → P before k₁

/-! ## Memberships of a role -/

/-- There is a role of this name, and it is a member of the group. -/
def Catalog.IsMember (k : Catalog) (role group : String) : Prop :=
  ∃ e, k.roles role = some e ∧ group ∈ e.groups

section Role

variable {spec : DeclaredRole} {dialect : Dialect} {current : ObservedRole} {e e' : RoleEntry}

theorem Catalog.isMember_iff (he : k.roles spec.name = some e) {g : String} :
    k.IsMember spec.name g ↔ g ∈ e.groups := by
  unfold IsMember
  simp only [he, Option.some.injEq, exists_eq_left']

theorem RoleEntry.groups_of_set {s : RoleSetting} (h : e.set host s = some e') :
    e'.groups = e.groups := by
  cases s with
  | connectionLimit limit =>
    simp only [set] at h
    split at h
    · rw [← Option.some.inj h]
    · cases h
  | other => cases h
  | _ => rw [← Option.some.inj h]

/-- Only joining a group and leaving it makes a difference to the membership in it. -/
theorem Statement.isMember_of_leadsTo {c : Statement} {g : String} (hc : c.LeadsTo spec)
    (h : c.effect host database k = some k') :
    k'.IsMember spec.name g ↔ c = .grantMembership g spec.name ∨
      k.IsMember spec.name g ∧ c ≠ .revokeMembership g spec.name := by
  have hchange : ∀ f, k.changeRole spec.name f = some k' →
      ∃ e e', f e = some e' ∧ (k.IsMember spec.name g ↔ g ∈ e.groups) ∧
        (k'.IsMember spec.name g ↔ g ∈ e'.groups) := by
    intro f hf
    obtain ⟨e, he, hf⟩ := Option.bind_eq_some_iff.1 hf
    obtain ⟨e', he', rfl⟩ := Option.map_eq_some_iff.1 hf
    exact ⟨e, e', he', Catalog.isMember_iff he, Catalog.isMember_iff (if_pos rfl)⟩
  cases c with
  | alterRole role setting =>
    obtain ⟨rfl, -⟩ := hc
    obtain ⟨e, e', he', hk, hk'⟩ := hchange _ h
    rw [hk, hk', RoleEntry.groups_of_set he']
    simp
  | grantMembership group role =>
    obtain ⟨rfl, -⟩ := hc
    obtain ⟨e, e', he', hk, hk'⟩ := hchange _ h
    obtain rfl := Option.some.inj he'
    rw [hk, hk']
    simp [eq_comm]
  | revokeMembership group role =>
    obtain ⟨rfl, -⟩ := hc
    obtain ⟨e, e', he', hk, hk'⟩ := hchange _ h
    obtain rfl := Option.some.inj he'
    rw [hk, hk']
    simp [and_comm, eq_comm]
  | _ => exact hc.elim

variable (host database) in
/-- A plan for a role that has the declared name leaves groups before it joins others. -/
theorem DeclaredRole.takesFirst (hplan : spec.updatePlan dialect current = .ok plan)
    (hname : current.name = spec.name) (he : k.roles spec.name = some e)
    (hgroups : current.roles = e.groups) :
    TakesFirst (Statement.effect host database) plan.ordered
      (fun k g => k.IsMember spec.name g) (· ∈ spec.roles) k where
  ascends := Plan.ascends_ordered plan
  early {c k k' g} hc hrank heffect hg := by
    have hleads := leadsTo_of_mem_updatePlan hplan hname c (Plan.mem_ordered.1 hc)
    refine (((Statement.isMember_of_leadsTo hleads heffect).1 hg).resolve_left ?_).1
    rintro rfl
    exact Nat.lt_irrefl _ hrank
  gives {c k k' g} hc heffect hg := by
    have hleads := leadsTo_of_mem_updatePlan hplan hname c (Plan.mem_ordered.1 hc)
    rcases (Statement.isMember_of_leadsTo hleads heffect).1 hg with rfl | ⟨hg, -⟩
    · exact .inr hleads.2
    · exact .inl hg
  takes {g} hg hnot := by
    have hheld : g ∈ current.roles := hgroups ▸ (Catalog.isMember_iff he).1 hg
    have hrevoke : .revokeMembership g ∈ current.changesTo spec :=
      ObservedRole.mem_changesTo.2 ⟨hheld, hnot⟩
    have hleads : (Statement.revokeMembership g spec.name).LeadsTo spec := ⟨rfl, hnot⟩
    refine ⟨.revokeMembership g spec.name,
      Plan.mem_ordered.2 ((mem_planChanges hplan).2 ⟨_, hrevoke, rfl⟩), Nat.lt_succ_self _, ?_⟩
    intro k k' heffect hmember
    rcases (Statement.isMember_of_leadsTo hleads heffect).1 hmember with heq | ⟨-, hne⟩
    · exact nomatch heq
    · exact hne rfl

/-- The plan for a role that has the declared name, carried out so far. -/
theorem DeclaredRole.groups_of_partial {before after : List Statement} {k₁ : Catalog}
    (hplan : spec.updatePlan dialect current = .ok plan) (hname : current.name = spec.name)
    (he : k.roles spec.name = some e) (hgroups : current.roles = e.groups)
    (hsplit : plan.ordered = before ++ after)
    (hrun : effects (Statement.effect host database) before k = some k₁) :
    ∃ e₁, k₁.roles spec.name = some e₁ ∧
      ((∀ g ∈ e₁.groups, g ∈ e.groups) ∨ ∀ g ∈ e₁.groups, g ∈ spec.roles) := by
  have hl : ∀ c ∈ before, c.LeadsTo spec := by
    intro c hc
    refine leadsTo_of_mem_updatePlan hplan hname c (Plan.mem_ordered.1 ?_)
    exact hsplit ▸ List.mem_append_left _ hc
  have hfeasible : spec.Feasible true := .inl rfl
  have hthere : (k₁.roles spec.name).isSome = true := by
    rw [effects_isSome hfeasible hl hrun, he]
    rfl
  obtain ⟨e₁, he₁⟩ := Option.isSome_iff_exists.1 hthere
  have hfirst := takesFirst host database hplan hname he hgroups
  rw [hsplit] at hfirst
  refine ⟨e₁, he₁, hfirst.bounded hrun |>.imp (fun h g hg => ?_) fun h g hg => ?_⟩
  · exact (Catalog.isMember_iff he).1 (h g ((Catalog.isMember_iff he₁).2 hg))
  · exact h g ((Catalog.isMember_iff he₁).2 hg)

/-- A role is not renamed to a name that is taken. -/
theorem Statement.free_of_renameRole {old new : String}
    (h : (renameRole old new).effect host database k = some k') : k.roles new = none := by
  simp only [effect, Option.ite_none_right_eq_some, Option.isNone_iff_eq_none] at h
  exact h.1.2

variable (host database) in
/-- While a plan for a role is carried out, the role is a member of no more groups than at first or
than is declared. -/
theorem DeclaredRole.memberships_throughout (hk : current.name ≠ spec.name → k.MembershipsSound)
    (he : k.roles current.name = some e) (hgroups : current.roles = e.groups)
    (hplan : spec.updatePlan dialect current = .ok plan) :
    plan.Throughout host database k fun before k₁ =>
      ∃ e₁, k₁.roles (if before = [] then current.name else spec.name) = some e₁ ∧
        ((∀ g ∈ e₁.groups, g ∈ e.groups) ∨ ∀ g ∈ e₁.groups, g ∈ spec.roles) := by
  intro before after k₁ hsplit hrun
  by_cases hname : current.name = spec.name
  · rw [hname, ite_self]
    exact groups_of_partial hplan hname (hname ▸ he) hgroups hsplit hrun
  · obtain ⟨rest, hrest, rfl⟩ := (updatePlan_of_name_ne hname).1 hplan
    rw [ordered_renameRole (leadsTo_of_mem_updatePlan hrest rfl)] at hsplit
    cases before with
    | nil =>
      obtain rfl := Option.some.inj hrun
      exact ⟨e, he, .inl fun _ => id⟩
    | cons c before =>
      obtain ⟨rfl, hlater⟩ := List.cons.inj hsplit
      obtain ⟨k₂, hrename, hrun⟩ := effects_cons.1 hrun
      have hfree := Statement.free_of_renameRole hrename
      have hsound := hk hname
      obtain ⟨heffect, hthere, -⟩ := Statement.effect_renameRole host database he hfree
        (hsound _ e he).1 (hsound.not_mem_of_free he hfree)
      obtain rfl := Option.some.inj (hrename.symm.trans heffect)
      rw [if_neg (List.cons_ne_nil _ _)]
      have hpartial := groups_of_partial hrest rfl hthere hgroups hlater hrun
      exact hpartial

end Role

/-! ## Rights on a schema -/

/-- There is a schema of this name, and a role has a right on it. -/
def Catalog.HasRight (k : Catalog) (database schema role : String) (r : SchemaRight) : Prop :=
  ∃ e, k.schemas database schema = some e ∧ r ∈ e.acl.rights role

section Schema

variable {spec : NormalSchema} {current : ObservedSchema} {e : SchemaEntry}

theorem Catalog.hasRight_iff (he : k.schemas database spec.name = some e) {g : String}
    {r : SchemaRight} : k.HasRight database spec.name g r ↔ r ∈ e.acl.rights g := by
  unfold HasRight
  simp only [he, Option.some.injEq, exists_eq_left']

theorem GranteeChange.isRevoke_of_takes {c : GranteeChange} {g : String} {r : SchemaRight}
    (h : c.Takes g r) : c.isRevoke = true := by
  cases c with
  | grant => exact h.elim
  | _ => rfl

theorem GranteeChange.not_gives_of_isRevoke {c : GranteeChange} (h : c.isRevoke = true)
    (g : String) (r : SchemaRight) : ¬c.Gives g r := by
  cases c with
  | grant => exact nomatch h
  | _ => exact id

/-- A change of a grantee gives rights or takes them away. -/
theorem GranteeChange.hasRight_of_effect {c : GranteeChange} {name g : String} {r : SchemaRight}
    (h : (c.statement name).effect host database k = some k') :
    k'.HasRight database name g r ↔ c.Gives g r ∨ k.HasRight database name g r ∧ ¬c.Takes g r := by
  obtain ⟨e, e', he, he', -, -, hrights⟩ := effect_statement h
  unfold Catalog.HasRight
  simp only [he, he', Option.some.injEq, exists_eq_left']
  exact hrights g r

/-- When the owner changes, nobody but the new owner gets a right. -/
theorem Statement.hasRight_of_alterSchemaOwner {name owner g : String} {r : SchemaRight}
    (hg : g ≠ owner) (h : (alterSchemaOwner name owner).effect host database k = some k')
    (hr : k'.HasRight database name g r) : k.HasRight database name g r := by
  obtain ⟨e, he, rfl⟩ := Option.map_eq_some_iff.1 h
  obtain ⟨e', he', hr⟩ := hr
  have hset : e.setOwner owner = e' := Option.some.inj ((if_pos ⟨rfl, rfl⟩).symm.trans he')
  rw [← hset] at hr
  refine ⟨e, he, ?_⟩
  unfold SchemaEntry.setOwner Acl.move at hr
  by_cases howner : e.owner = owner
  · rwa [if_pos howner] at hr
  · rw [if_neg howner] at hr
    have hr : r ∈ if g = owner then _ else if g = e.owner then ∅ else e.acl.rights g := hr
    rw [if_neg hg] at hr
    by_cases hold : g = e.owner
    · rw [if_pos hold] at hr
      exact absurd hr (OrderedSet.not_mem_empty r)
    · rwa [if_neg hold] at hr

variable (host) in
/-- A plan for a schema that has the declared name takes rights off a grantee before it gives any to
the grantee. -/
theorem NormalSchema.takesFirst {g : String} (hspec : ∀ g, (spec.policies.getD g ∅).Closed)
    (hplan : spec.updatePlan current = .ok plan)
    (hshown : e.Shown spec.database spec.name current)
    (he : k.schemas spec.database spec.name = some e) (hold : g ≠ e.owner)
    (hnew : g ≠ spec.owner.getD e.owner) :
    TakesFirst (Statement.effect host spec.database) plan.ordered
      (fun k r => k.HasRight spec.database spec.name g r) (· ∈ spec.policies.getD g ∅) k := by
  have hclosed : (current.policies.getD g ∅).Closed := hshown.policies g ▸ e.closed_policy g
  have hstatement : ∀ {c}, c ∈ plan.ordered →
      (∃ o, c = .alterSchemaOwner spec.name o ∧ g ≠ o) ∨
        ∃ d : GranteeChange, c = d.statement spec.name ∧
          ∀ r, d.Gives g r → r ∈ spec.policies.getD g ∅ := by
    intro c hc
    rcases mem_updatePlan hplan (Plan.mem_ordered.1 hc) with
      ⟨-, hname⟩ | ⟨o, rfl, howner, -⟩ | ⟨d, hd, rfl⟩
    · exact absurd hshown.name hname
    · rw [howner] at hnew
      exact .inl ⟨o, rfl, hnew⟩
    · exact .inr ⟨d, rfl, fun r => mem_of_gives hclosed (hspec g) hd⟩
  exact {
    ascends := Plan.ascends_ordered plan
    early := fun {c k k' r} hc hrank heffect hr => by
      rcases hstatement hc with ⟨o, rfl, hg⟩ | ⟨d, rfl, -⟩
      · exact Statement.hasRight_of_alterSchemaOwner hg heffect hr
      · rw [GranteeChange.rank_statement] at hrank
        have hrevoke : d.isRevoke = true := by
          by_cases hd : d.isRevoke = true
          · exact hd
          · rw [if_neg hd] at hrank
            exact absurd hrank (Nat.lt_irrefl _)
        have hgives := GranteeChange.not_gives_of_isRevoke hrevoke g r
        exact (((GranteeChange.hasRight_of_effect heffect).1 hr).resolve_left hgives).1
    gives := fun {c k k' r} hc heffect hr => by
      rcases hstatement hc with ⟨o, rfl, hg⟩ | ⟨d, rfl, hgives⟩
      · exact .inl (Statement.hasRight_of_alterSchemaOwner hg heffect hr)
      · rcases (GranteeChange.hasRight_of_effect heffect).1 hr with h | ⟨h, -⟩
        · exact .inr (hgives r h)
        · exact .inl h
    takes := fun {r} hr hnot => by
      have hheld : r ∈ current.policies.getD g ∅ := by
        rw [hshown.policies, SchemaEntry.policy, if_neg hold]
        exact (Catalog.hasRight_iff he).1 hr
      rw [← hshown.owner] at hnew
      obtain ⟨d, hd, htakes⟩ := exists_takes hclosed (hspec g) hnew hheld hnot
      have hrevoke := GranteeChange.isRevoke_of_takes htakes
      refine ⟨d.statement spec.name, Plan.mem_ordered.2 ?_, ?_, fun k k' heffect hr => ?_⟩
      · obtain ⟨-, rfl⟩ := updatePlan_ok.1 hplan
        exact List.mem_append_right _ (List.mem_map.2 ⟨d, hd, rfl⟩)
      · rw [GranteeChange.rank_statement, if_pos hrevoke]
        exact Nat.lt_succ_self _
      · rcases (GranteeChange.hasRight_of_effect heffect).1 hr with h | ⟨-, h⟩
        · exact GranteeChange.not_gives_of_isRevoke hrevoke g r h
        · exact h htakes }

/-- The plan for a schema that has the declared name, carried out so far. -/
theorem NormalSchema.rights_of_partial {before after : List Statement} {k₁ : Catalog}
    (hspec : ∀ g, (spec.policies.getD g ∅).Closed) (hplan : spec.updatePlan current = .ok plan)
    (hshown : e.Shown spec.database spec.name current)
    (he : k.schemas spec.database spec.name = some e) (hsplit : plan.ordered = before ++ after)
    (hrun : effects (Statement.effect host spec.database) before k = some k₁) :
    ∃ e₁, k₁.schemas spec.database spec.name = some e₁ ∧
      ∀ g, g ≠ e.owner → g ≠ spec.owner.getD e.owner →
        (∀ r ∈ e₁.acl.rights g, r ∈ e.acl.rights g) ∨
          ∀ r ∈ e₁.acl.rights g, r ∈ spec.policies.getD g ∅ := by
  have hstays : ∀ c ∈ before, ∀ k k', c.effect host spec.database k = some k' →
      (∃ e, k.schemas spec.database spec.name = some e) →
      ∃ e, k'.schemas spec.database spec.name = some e := by
    intro c hc k k' heffect _
    have hmem : c ∈ plan := Plan.mem_ordered.1 (hsplit ▸ List.mem_append_left _ hc)
    rcases mem_updatePlan hplan hmem with ⟨-, hname⟩ | ⟨o, rfl, -, -⟩ | ⟨d, -, rfl⟩
    · exact absurd hshown.name hname
    · obtain ⟨e', -, rfl⟩ := Option.map_eq_some_iff.1 heffect
      exact ⟨e'.setOwner o, if_pos ⟨rfl, rfl⟩⟩
    · obtain ⟨_, e', -, he', -⟩ := GranteeChange.effect_statement heffect
      exact ⟨e', he'⟩
  obtain ⟨e₁, he₁⟩ := effects_preserve hstays hrun ⟨e, he⟩
  refine ⟨e₁, he₁, fun g hold hnew => ?_⟩
  have hfirst := takesFirst host hspec hplan hshown he hold hnew
  rw [hsplit] at hfirst
  refine hfirst.bounded hrun |>.imp (fun h r hr => ?_) fun h r hr => ?_
  · exact (Catalog.hasRight_iff he).1 (h r ((Catalog.hasRight_iff he₁).2 hr))
  · exact h r ((Catalog.hasRight_iff he₁).2 hr)

/-- A schema is not renamed to a name that is taken. -/
theorem Statement.free_of_renameSchema {old new : String}
    (h : (renameSchema old new).effect host database k = some k') :
    k.schemas database new = none := by
  simp only [effect, Option.ite_none_right_eq_some, Option.isNone_iff_eq_none] at h
  exact h.1.2

variable (host) in
/-- While a plan for a schema is carried out, nobody but its owners has more rights on it than at
first or than are declared. -/
theorem NormalSchema.rights_throughout (hspec : ∀ g, (spec.policies.getD g ∅).Closed)
    (he : k.schemas spec.database current.name = some e)
    (hshown : e.Shown spec.database current.name current)
    (hplan : spec.updatePlan current = .ok plan) :
    plan.Throughout host spec.database k fun before k₁ =>
      ∃ e₁, k₁.schemas spec.database (if before = [] then current.name else spec.name) = some e₁ ∧
        ∀ g, g ≠ e.owner → g ≠ spec.owner.getD e.owner →
          (∀ r ∈ e₁.acl.rights g, r ∈ e.acl.rights g) ∨
            ∀ r ∈ e₁.acl.rights g, r ∈ spec.policies.getD g ∅ := by
  intro before after k₁ hsplit hrun
  by_cases hname : current.name = spec.name
  · rw [hname] at he hshown ⊢
    rw [ite_self]
    exact rights_of_partial hspec hplan hshown he hsplit hrun
  · obtain ⟨rest, hrest, rfl⟩ := (updatePlan_of_name_ne hname).1 hplan
    rw [ordered_renameSchema hrest] at hsplit
    cases before with
    | nil =>
      obtain rfl := Option.some.inj hrun
      exact ⟨e, he, fun _ _ _ => .inl fun _ => id⟩
    | cons c before =>
      obtain ⟨rfl, hlater⟩ := List.cons.inj hsplit
      obtain ⟨k₂, hrename, hrun⟩ := effects_cons.1 hrun
      obtain ⟨heffect, hthere, -⟩ :=
        Statement.effect_renameSchema host he (Statement.free_of_renameSchema hrename)
      obtain rfl := Option.some.inj (hrename.symm.trans heffect)
      rw [if_neg (List.cons_ne_nil _ _)]
      exact rights_of_partial hspec hrest (hshown.renamed spec.name) hthere hlater hrun

end Schema

/-! ## Privileges of a rule -/

section Rule

/-- A plan takes the surplus off the rule and gives it what is missing. -/
theorem Rule.mem_planFrom {rule : Rule} {held : OrderedSet Privilege} {c : Statement}
    (hc : c ∈ rule.planFrom held) :
    (c.phase = .revoke ∧ ∀ host k k', c.effect host rule.key.database k = some k' →
      ∀ p, p ∈ k'.defaults rule.key ↔
        p ∈ k.defaults rule.key ∧ ¬(p ∈ held ∧ p ∉ rule.privileges)) ∨
    c.phase = .grant ∧ ∀ host k k', c.effect host rule.key.database k = some k' →
      ∀ p, p ∈ k'.defaults rule.key ↔
        p ∈ k.defaults rule.key ∨ p ∈ rule.privileges ∧ p ∉ held := by
  rcases List.mem_append.1 hc with hc | hc
  · obtain ⟨-, rfl⟩ := RuleKey.mem_revoke.1 hc
    refine .inl ⟨rfl, fun host k k' heffect p => ?_⟩
    rw [(RuleKey.effect_revokeDefaults heffect).2, Difference.mem_surplus_between]
  · obtain ⟨-, rfl⟩ := RuleKey.mem_grant.1 hc
    refine .inr ⟨rfl, fun host k k' heffect p => ?_⟩
    rw [(RuleKey.effect_grantDefaults heffect).2, Difference.mem_missing_between]

variable (host) in
/-- A plan that starts from what a rule gives takes the surplus off before it adds what is
missing. -/
theorem Rule.takesFirst (rule : Rule) {held : OrderedSet Privilege}
    (hk : k.defaults rule.key = held) :
    TakesFirst (Statement.effect host rule.key.database) (rule.planFrom held).ordered
      (fun k p => p ∈ k.defaults rule.key) (· ∈ rule.privileges) k where
  ascends := Plan.ascends_ordered _
  early {c k k' p} hc hrank heffect hp := by
    rcases mem_planFrom (Plan.mem_ordered.1 hc) with ⟨-, hrevoke⟩ | ⟨hphase, -⟩
    · exact ((hrevoke host k k' heffect p).1 hp).1
    · rw [hphase] at hrank
      exact absurd hrank (Nat.lt_irrefl _)
  gives {c k k' p} hc heffect hp := by
    rcases mem_planFrom (Plan.mem_ordered.1 hc) with ⟨-, hrevoke⟩ | ⟨-, hgrant⟩
    · exact .inl ((hrevoke host k k' heffect p).1 hp).1
    · exact ((hgrant host k k' heffect p).1 hp).imp_right And.left
  takes {p} hp hnot := by
    have hsurplus : p ∈ (Difference.between held rule.privileges).surplus :=
      Difference.mem_surplus_between.2 ⟨hk ▸ hp, hnot⟩
    have hrevoke : .revokeDefaults rule.key.owner rule.key.schema rule.key.type
        (some (Difference.between held rule.privileges).surplus) rule.key.role ∈
          rule.key.revoke (Difference.between held rule.privileges).surplus :=
      RuleKey.mem_revoke.2 ⟨List.ne_nil_of_mem hsurplus, rfl⟩
    refine ⟨_, Plan.mem_ordered.2 (List.mem_append_left _ hrevoke), Nat.lt_succ_self _, ?_⟩
    intro k k' heffect hp
    exact (((RuleKey.effect_revokeDefaults heffect).2 p).1 hp).2 hsurplus

variable (host) in
/-- While a plan for a rule is carried out, the rule gives no more than at first or than is
declared. -/
theorem Rule.privileges_throughout {rule old : Rule} (hk : k.defaults rule.key = old.privileges)
    (hkey : old.key = rule.key) (hplan : rule.plan (some old) = .ok plan) :
    plan.Throughout host rule.key.database k fun _ k₁ =>
      (∀ p ∈ k₁.defaults rule.key, p ∈ k.defaults rule.key) ∨
        ∀ p ∈ k₁.defaults rule.key, p ∈ rule.privileges := by
  intro before after k₁ hsplit hrun
  simp only [Rule.plan] at hplan
  rw [if_pos hkey] at hplan
  obtain rfl := Except.ok.inj hplan
  have hfirst := rule.takesFirst host hk
  rw [hsplit] at hfirst
  exact hfirst.bounded hrun

end Rule

/-! ## All plans -/

/-- At no point of a plan does anyone hold more than at first and more than is declared: not a role
in its groups, nobody but its owners on a schema, and not a rule that is updated in place. -/
theorem Plan.never_escalates (host : Host) (k : Catalog) :
    (∀ database dialect (spec : DeclaredRole) current plan e,
      (current.name ≠ spec.name → k.MembershipsSound) →
      k.roles current.name = some e → current.roles = e.groups →
      spec.updatePlan dialect current = .ok plan →
      plan.Throughout host database k fun before k₁ =>
        ∃ e₁, k₁.roles (if before = [] then current.name else spec.name) = some e₁ ∧
          ((∀ g ∈ e₁.groups, g ∈ e.groups) ∨ ∀ g ∈ e₁.groups, g ∈ spec.roles)) ∧
    (∀ (desired : DeclaredSchema) defaultDatabase spec current plan e,
      desired.normalize defaultDatabase = .ok spec →
      k.schemas spec.database current.name = some e →
      e.Shown spec.database current.name current →
      spec.updatePlan current = .ok plan →
      plan.Throughout host spec.database k fun before k₁ =>
        ∃ e₁, k₁.schemas spec.database (if before = [] then current.name else spec.name) =
            some e₁ ∧
          ∀ g, g ≠ e.owner → g ≠ spec.owner.getD e.owner →
            (∀ r ∈ e₁.acl.rights g, r ∈ e.acl.rights g) ∨
              ∀ r ∈ e₁.acl.rights g, r ∈ spec.policies.getD g ∅) ∧
    (∀ (rule old : Rule) plan,
      k.defaults rule.key = old.privileges → old.key = rule.key →
      rule.plan (some old) = .ok plan →
      plan.Throughout host rule.key.database k fun _ k₁ =>
        (∀ p ∈ k₁.defaults rule.key, p ∈ k.defaults rule.key) ∨
          ∀ p ∈ k₁.defaults rule.key, p ∈ rule.privileges) := by
  refine ⟨?_, ?_, ?_⟩
  · intro database dialect spec current plan e hk he hgroups hplan
    exact DeclaredRole.memberships_throughout host database hk he hgroups hplan
  · intro desired defaultDatabase spec current plan e hspec he hshown hplan
    exact NormalSchema.rights_throughout host (DeclaredSchema.closed_policies hspec) he hshown hplan
  · intro rule old plan hk hkey hplan
    exact Rule.privileges_throughout host hk hkey hplan

/-! ## Plans that are broken off -/

/-- The catalog with the schema `former` of the owner `boss`. -/
def bossCatalog : Catalog :=
  Catalog.empty.setSchema "main" "former"
    (some (.ofGrants "boss" (formerRows.filterMap GrantRow.grant?)))

/-- A rule under which a role may read. -/
def readingRule : Rule :=
  ⟨⟨"main", "data", "app", "staff", .table⟩, .ofList [.select]⟩

/-- A catalog with that rule. -/
def readingCatalog : Catalog :=
  Catalog.empty.setDefaults readingRule.key readingRule.privileges

/-- A plan for a role is broken off before its last statement, one for a schema after four of seven,
and one for a rule between its two statements. -/
theorem Plan.never_escalates_broken_off :
    (∃ plan k₁ e₁,
      renamedRole.updatePlan ⟨⟨16, 0, 0⟩⟩ (formerEntry.known "former" (some "before")) = .ok plan ∧
      plan.length = 7 ∧
      effects (Statement.effect plainHost "main") (plan.ordered.take 6) formerCatalog = some k₁ ∧
      k₁.roles "app" = some e₁ ∧
      ((∀ g ∈ e₁.groups, g ∈ formerEntry.groups) ∨ ∀ g ∈ e₁.groups, g ∈ renamedRole.roles)) ∧
    (∃ spec current plan k₁ e e₁, renamedSchema.normalize "main" = .ok spec ∧
      ((⟨formerSchema.server, none⟩ : Session _).schema? "main" "former").result ⟨(), none⟩ =
        (.ok (some current), ⟨(), none⟩) ∧
      spec.updatePlan current = .ok plan ∧ plan.length = 7 ∧
      effects (Statement.effect smallHost "main") (plan.ordered.take 4) bossCatalog = some k₁ ∧
      bossCatalog.schemas "main" "former" = some e ∧ k₁.schemas "main" "data" = some e₁ ∧
      ((∀ r ∈ e₁.acl.rights "writer", r ∈ e.acl.rights "writer") ∨
        ∀ r ∈ e₁.acl.rights "writer", r ∈ spec.policies.getD "writer" ∅)) ∧
    (∃ plan k₁, { readingRule with privileges := .ofList [.insert] }.plan (some readingRule) =
        .ok plan ∧ plan.length = 2 ∧
      effects (Statement.effect smallHost "main") (plan.ordered.take 1) readingCatalog = some k₁ ∧
      ((∀ p ∈ k₁.defaults readingRule.key, p ∈ readingCatalog.defaults readingRule.key) ∨
        ∀ p ∈ k₁.defaults readingRule.key, p ∈ OrderedSet.ofList [.insert])) := by
  refine ⟨?_, ?_, ?_⟩
  · have hplan : (renamedRole.updatePlan ⟨⟨16, 0, 0⟩⟩
        (formerEntry.known "former" (some "before"))).toOption.map (fun plan =>
          (plan.length, (effects (Statement.effect plainHost "main")
            (plan.ordered.take 6) formerCatalog).isSome)) = some (7, true) := by
      decide +kernel
    obtain ⟨plan, hplan, hrun⟩ := Option.map_eq_some_iff.1 hplan
    obtain ⟨hlength, hrun⟩ := Prod.mk.inj hrun
    obtain ⟨k₁, hrun⟩ := Option.isSome_iff_exists.1 hrun
    have hplan := Except.eq_ok_of_toOption hplan
    have hne : plan.ordered.take 6 ≠ [] :=
      List.ne_nil_of_length_pos (by simp [Plan.length_ordered, hlength])
    obtain ⟨e₁, he₁, hgroups⟩ := (Plan.never_escalates plainHost formerCatalog).1 "main" _ _ _ _ _
      (fun _ => formerCatalog_membershipsSound) rfl rfl hplan _ _ _
      (List.take_append_drop 6 plan.ordered).symm hrun
    rw [if_neg hne] at he₁
    exact ⟨plan, k₁, e₁, hplan, hlength, hrun, he₁, hgroups⟩
  · have hplan : ((renamedSchema.normalize "main").toOption.bind fun spec =>
        (((⟨formerSchema.server, none⟩ : Session _).schema? "main" "former").result
          ⟨(), none⟩).1.toOption.join.bind fun current =>
            (spec.updatePlan current).toOption.map fun plan =>
              (spec.name, spec.database, spec.owner, plan.length,
                (effects (Statement.effect smallHost "main") (plan.ordered.take 4)
                  bossCatalog).isSome)) =
        some ("data", "main", some "heir", 7, true) := by
      decide +kernel
    obtain ⟨spec, hspec, hplan⟩ := Option.bind_eq_some_iff.1 hplan
    have hspec := Except.eq_ok_of_toOption hspec
    have hshown : ∃ current,
        ((⟨formerSchema.server, none⟩ : Session _).schema? "main" "former").result ⟨(), none⟩ =
          (.ok (some current), ⟨(), none⟩) ∧
        (SchemaEntry.ofGrants "boss" (formerRows.filterMap GrantRow.grant?)).Shown "main" "former"
          current :=
      SchemaEntry.shown_of_cells (SchemaEntry.lists_ofGrants (by decide +kernel)) rfl rfl
    obtain ⟨current, hread, hshown⟩ := hshown
    rw [hread] at hplan
    obtain ⟨plan, hplan, hrun⟩ := Option.map_eq_some_iff.1 hplan
    have hplan := Except.eq_ok_of_toOption hplan
    simp only [Prod.mk.injEq] at hrun
    obtain ⟨hname, hdatabase, howner, hlength, hrun⟩ := hrun
    obtain ⟨k₁, hrun⟩ := Option.isSome_iff_exists.1 hrun
    have hne : plan.ordered.take 4 ≠ [] :=
      List.ne_nil_of_length_pos (by simp [Plan.length_ordered, hlength])
    have hbounded := (Plan.never_escalates smallHost bossCatalog).2.1 renamedSchema "main" spec
      current plan (.ofGrants "boss" (formerRows.filterMap GrantRow.grant?)) hspec
    rw [hshown.name, hdatabase] at hbounded
    obtain ⟨e₁, he₁, hrights⟩ := hbounded rfl hshown hplan _ _ _
      (List.take_append_drop 4 plan.ordered).symm hrun
    rw [if_neg hne, hname] at he₁
    exact ⟨spec, current, plan, k₁, _, e₁, hspec, hread, hplan, hlength, hrun, rfl, he₁,
      hrights "writer" (by decide) (by rw [howner]; decide)⟩
  · have hplan : ({ readingRule with privileges := .ofList [.insert] }.plan
        (some readingRule)).toOption.map (fun plan : Plan =>
          (plan.length, (effects (Statement.effect smallHost "main")
            (plan.ordered.take 1) readingCatalog).isSome)) = some (2, true) := by
      decide +kernel
    obtain ⟨plan, hplan, hrun⟩ := Option.map_eq_some_iff.1 hplan
    obtain ⟨hlength, hrun⟩ := Prod.mk.inj hrun
    obtain ⟨k₁, hrun⟩ := Option.isSome_iff_exists.1 hrun
    have hplan := Except.eq_ok_of_toOption hplan
    exact ⟨plan, k₁, hplan, hlength, hrun, (Plan.never_escalates smallHost readingCatalog).2.2
      { readingRule with privileges := .ofList [.insert] } readingRule plan rfl rfl hplan _ _ _
      (List.take_append_drop 1 plan.ordered).symm hrun⟩

end Accord
