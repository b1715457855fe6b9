import Accord.Proofs.Catalog.Memory
import Accord.Proofs.Session.Reading

/-!
# Plans for schemas lead to the declared policies

A schema is read as its owner and the list of grants to all others, in any order and with repeats.
The plan that is made from what was read can be carried out on the schema itself.  It ends with the
declared name, the declared owner, and exactly the declared rights for everyone but the owner
(`NormalSchema.schema_reached_of_plan`), and it does not mention those who have the declared
rights already.
-/

namespace Accord

/-! ## Grants -/

/-- A row of the list of grants, in the words of the server. -/
structure GrantRow where
  role : String
  privilege : String
  grantable : Bool

namespace GrantRow

/-- The row as the answer to the query holds it. -/
def cells (row : GrantRow) : List Json :=
  [.text row.role, .text row.privilege, .bool row.grantable]

/-- The grant, if it is of a privilege that policies are about. -/
def grant? (row : GrantRow) : Option SchemaGrant :=
  (SchemaPrivilege.parse? row.privilege).map fun p => ⟨row.role, p, row.grantable⟩

end GrantRow

/-- Rows of other privileges add nothing to the policies. -/
theorem Policies.ofResult_cells (rows : List GrantRow) :
    ofResult ⟨grantColumns, rows.map GrantRow.cells⟩ =
      ofResult ⟨grantColumns, (rows.filterMap GrantRow.grant?).map SchemaGrant.row⟩ := by
  have hfold : ∀ policies : Policies,
      ((rows.map GrantRow.cells).map (Row.mk grantColumns)).foldlM addRow policies =
        (((rows.filterMap GrantRow.grant?).map SchemaGrant.row).map
          (Row.mk grantColumns)).foldlM addRow policies := by
    induction rows with
    | nil => exact fun _ => rfl
    | cons row rows ih =>
      intro policies
      rw [List.map_cons, List.map_cons, List.foldlM_cons]
      cases hp : SchemaPrivilege.parse? row.privilege with
      | none =>
        have hgrant : row.grant? = none := by rw [GrantRow.grant?, hp, Option.map_none]
        have hskip : addRow policies ⟨grantColumns, row.cells⟩ = .ok policies :=
          addRow_of_none hp policies row.grantable
        rw [List.filterMap_cons_none hgrant, hskip]
        exact ih policies
      | some p =>
        have hgrant : row.grant? = some ⟨row.role, p, row.grantable⟩ := by
          rw [GrantRow.grant?, hp, Option.map_some]
        have hadd : addRow policies ⟨grantColumns, row.cells⟩ =
            addRow policies ⟨grantColumns, (SchemaGrant.mk row.role p row.grantable).row⟩ := by
          rw [addRow_row]
          exact addRow_of_some hp policies row.grantable
        rw [List.filterMap_cons_some hgrant, List.map_cons, List.map_cons, List.foldlM_cons, hadd]
        exact bind_congr ih
  exact hfold ∅

/-- The schema of an owner on which some grants were made. -/
def SchemaEntry.ofGrants (owner : String) (grants : List SchemaGrant) : SchemaEntry where
  owner
  acl := grants.foldl (fun acl g => acl.grant g.role g.privilege g.grantable) .empty

theorem Acl.mem_rights_foldl_grant {grants : List SchemaGrant} {acl : Acl} {role : String}
    {r : SchemaRight} :
    r ∈ (grants.foldl (fun acl g => acl.grant g.role g.privilege g.grantable) acl).rights role ↔
      r ∈ acl.rights role ∨ ∃ g ∈ grants, g.role = role ∧ r ∈ g.rights := by
  induction grants generalizing acl with
  | nil => simp
  | cons g grants ih =>
    rw [List.foldl_cons, ih]
    have hgrant : r ∈ (acl.grant g.role g.privilege g.grantable).rights role ↔
        r ∈ acl.rights role ∨ g.role = role ∧ r ∈ g.rights := by
      show r ∈ (if role = g.role then (acl.rights g.role).union g.rights else acl.rights role) ↔ _
      by_cases hrole : role = g.role
      · rw [if_pos hrole, OrderedSet.mem_union, hrole]
        simp
      · rw [if_neg hrole]
        simp [Ne.symm hrole]
    rw [hgrant]
    simp only [List.mem_cons, or_and_right, exists_or, exists_eq_left, or_assoc]

/-- Every list of grants to those who do not own a schema is the list of some schema. -/
theorem SchemaEntry.lists_ofGrants {owner : String} {grants : List SchemaGrant}
    (h : ∀ g ∈ grants, g.role ≠ owner) : (ofGrants owner grants).Lists grants := by
  refine lists_iff.2 fun role r => ?_
  show r ∈ (if role = owner then ∅ else (ofGrants owner grants).acl.rights role) ↔ _
  by_cases hrole : role = owner
  · rw [if_pos hrole]
    refine iff_of_false (OrderedSet.not_mem_empty r) ?_
    rintro ⟨g, hg, rfl, -⟩
    exact h g hg hrole
  · have hempty : r ∉ Acl.empty.rights role := OrderedSet.not_mem_empty r
    rw [if_neg hrole]
    exact Acl.mem_rights_foldl_grant.trans (or_iff_right hempty)

/-- What is read from the list of grants on a schema, whatever its order and its repeats. -/
theorem SchemaEntry.shown_of_cells {σ : Type} {session : Session σ} {e : SchemaEntry}
    {database name : String} {rows : List GrantRow} {s u t : σ}
    (hlists : e.Lists (rows.filterMap GrantRow.grant?))
    (hschema : session.server.query session.database (.schema name) s =
      (.ok ⟨["name", "owner"], [[.text name, .text e.owner]]⟩, u))
    (hgrants : session.server.query session.database (.schemaGrants name) u =
      (.ok ⟨grantColumns, rows.map GrantRow.cells⟩, t)) :
    ∃ st, (session.schema? database name).result s = (.ok (some st), t) ∧
      e.Shown database name st := by
  obtain ⟨policies, hpolicies, hheld⟩ := Policies.ofResult_lists hlists
  rw [← Policies.ofResult_cells] at hpolicies
  refine ⟨⟨name, database, e.owner, policies⟩, ?_, ⟨rfl, rfl, rfl, hheld⟩⟩
  exact Session.result_schema?.2 ⟨_, u, hschema, .inr ⟨⟨["name", "owner"],
    [.text name, .text e.owner]⟩, name, e.owner, _, policies, rfl, rfl, rfl, hgrants, hpolicies,
    rfl⟩⟩

/-! ## Whom a plan mentions -/

/-- The role that a statement about a schema gives rights to or takes them off. -/
def Statement.mentioned : Statement → Option String
  | .alterSchemaOwner _ owner => some owner
  | .grantSchema _ role _ _ | .revokeSchema _ role _ | .revokeAllSchema _ role => some role
  | _ => none

theorem GranteeChange.mentioned_statement (c : GranteeChange) (name : String) :
    (c.statement name).mentioned = some c.role := by
  cases c <;> rfl

theorem GranteeChange.exists_touches (c : GranteeChange) : ∃ r, c.Touches c.role r := by
  cases c with
  | revokeAll role => exact ⟨.base .usage, .inl rfl⟩
  | revoke role p => exact ⟨.base p, .inl ⟨rfl, rfl⟩⟩
  | grant role p withGrantOption => exact ⟨.base p, .inr ⟨rfl, .inl rfl⟩⟩

/-- Changes are made only for those who hold something else than what is declared. -/
theorem role_of_mem_policyChanges {current desired : Policies} {owner : String} {c : GranteeChange}
    (h : c ∈ policyChanges current desired owner) :
    c.role ≠ owner ∧ current.getD c.role ∅ ≠ desired.getD c.role ∅ := by
  obtain ⟨g, hg, hc⟩ := mem_policyChanges.1 h
  obtain ⟨r, hr⟩ := c.exists_touches
  obtain rfl := role_eq_of_mem_granteeChanges hc hr
  refine ⟨hg, fun heq => ?_⟩
  unfold granteeChanges at hc
  rw [if_pos heq] at hc
  exact absurd hc List.not_mem_nil

/-! ## Carrying out a plan -/

section Plans

variable {host : Host} {database name : String} {k k' : Catalog} {spec : NormalSchema}
  {current : ObservedSchema} {plan : Plan} {e e' : SchemaEntry}

/-- The statements can be carried out one after another, and in the end the schema is there with its
owner and with the declared rights of all others. -/
structure NormalSchema.ReachedBy (spec : NormalSchema) (host : Host) (owner : String)
    (l : List Statement) (k k' : Catalog) (e' : SchemaEntry) : Prop where
  run : effects (Statement.effect host spec.database) l k = some k'
  there : k'.schemas spec.database spec.name = some e'
  owner : e'.owner = spec.owner.getD owner
  rights : ∀ g, g ≠ e'.owner → e'.acl.rights g = spec.policies.getD g ∅

variable (host) in
/-- The statement for a change finds its schema and leaves the owner alone. -/
theorem GranteeChange.effect_of_there (c : GranteeChange)
    (he : k.schemas database name = some e) :
    ∃ e', (c.statement name).effect host database k =
      some (k.setSchema database name (some e')) ∧ e'.owner = e.owner := by
  have hchange : ∀ f, k.changeSchema database name f =
      some (k.setSchema database name (some (f e))) := by
    intro f
    unfold Catalog.changeSchema
    rw [he, Option.map_some]
  cases c with
  | revokeAll role => exact ⟨_, hchange _, rfl⟩
  | revoke role p => exact ⟨_, hchange _, rfl⟩
  | grant role p withGrantOption => exact ⟨_, hchange _, rfl⟩

variable (host) in
theorem effects_of_changes {l : List Statement}
    (hl : ∀ s ∈ l, ∃ c : GranteeChange, s = c.statement name)
    (he : k.schemas database name = some e) :
    ∃ k' e', effects (Statement.effect host database) l k = some k' ∧
      k'.schemas database name = some e' ∧ e'.owner = e.owner := by
  induction l generalizing k e with
  | nil => exact ⟨k, e, rfl, he, rfl⟩
  | cons s l ih =>
    obtain ⟨c, rfl⟩ := hl s (List.mem_cons_self ..)
    obtain ⟨e₁, hc, howner₁⟩ := c.effect_of_there host he
    have he₁ : (k.setSchema database name (some e₁)).schemas database name = some e₁ :=
      if_pos ⟨rfl, rfl⟩
    obtain ⟨k', e', hrest, he', howner⟩ := ih (fun t ht => hl t (List.mem_cons_of_mem _ ht)) he₁
    exact ⟨k', e', effects_cons.2 ⟨_, hc, hrest⟩, he', howner.trans howner₁⟩

variable (host) in
/-- The plan for a schema that has the declared name already. -/
theorem NormalSchema.reached_of_updatePlan (hspec : ∀ g, (spec.policies.getD g ∅).Closed)
    (hplan : spec.updatePlan current = .ok plan)
    (hshown : e.Shown spec.database spec.name current)
    (he : k.schemas spec.database spec.name = some e) :
    ∃ k' e', spec.ReachedBy host e.owner plan.ordered k k' e' ∧
      k.DifferAt k' (.schema spec.database spec.name) := by
  have hprogress : ∃ k' e', effects (Statement.effect host spec.database) plan.ordered k = some k' ∧
      k'.schemas spec.database spec.name = some e' ∧ e'.owner = spec.owner.getD e.owner := by
    have hplan' := hplan
    rw [NormalSchema.updatePlan_eq hshown.name hshown.database, hshown.owner] at hplan'
    obtain rfl := Except.ok.inj hplan'
    cases howner : spec.owner.filter fun o => decide (o ≠ e.owner) with
    | none =>
      rw [(filter_ne_eq_none spec.owner e.owner).1 howner]
      exact effects_of_changes host (fun s hs => exists_of_mem_policyStatements hs) he
    | some o =>
      obtain ⟨ho, -⟩ := Option.filter_eq_some_iff.1 howner
      have hset : (Statement.alterSchemaOwner spec.name o).effect host spec.database k =
          some (k.setSchema spec.database spec.name (some (e.setOwner o))) := by
        show (k.schemas spec.database spec.name).map _ = _
        rw [he, Option.map_some]
      have he₁ : (k.setSchema spec.database spec.name (some (e.setOwner o))).schemas spec.database
          spec.name = some (e.setOwner o) := if_pos ⟨rfl, rfl⟩
      obtain ⟨k', e', hrest, he', howner'⟩ :=
        effects_of_changes host (fun s hs => exists_of_mem_policyStatements hs) he₁
      refine ⟨k', e', ?_, he', ?_⟩
      · rw [Option.map_some, Option.toList_some, List.singleton_append,
          ordered_cons_policies (by show 2 ≤ 4; omega)]
        exact effects_cons.2 ⟨_, hset, hrest⟩
      · rw [howner', ho]
        rfl
  obtain ⟨k', e', hrun, he', howner⟩ := hprogress
  obtain ⟨now, hnow, hdiffer, hmeets⟩ :=
    NormalSchema.meets_of_updatePlan hspec hshown hplan hrun he'
  obtain rfl := Option.some.inj (he.symm.trans hnow)
  have hdeclared := (hmeets.2 (e.kept_self hspec)).2
  refine ⟨k', e', ⟨hrun, he', howner, fun g hg => OrderedSet.ext fun r => ?_⟩, hdiffer⟩
  rw [← hdeclared g hg r]
  unfold SchemaEntry.policy
  rw [if_neg hg]

/-! ## Renaming first -/

theorem NormalSchema.updatePlan_of_name_ne (hname : current.name ≠ spec.name) :
    spec.updatePlan current = .ok plan ↔
      ∃ rest, spec.updatePlan { current with name := spec.name } = .ok rest ∧
        plan = .renameSchema current.name spec.name :: rest := by
  unfold updatePlan ObservedSchema.changesTo
  by_cases hdatabase : current.database = spec.database
  · rw [if_neg (Classical.not_not.2 hdatabase), if_neg (Classical.not_not.2 hdatabase),
      if_neg hname]
    simp [Except.map, SchemaChanges.plan, eq_comm]
  · rw [if_pos hdatabase, if_pos hdatabase]
    simp [Except.map]

theorem NormalSchema.database_of_updatePlan (hplan : spec.updatePlan current = .ok plan)
    (hdatabase : current.database = database) : database = spec.database :=
  hdatabase.symm.trans (updatePlan_ok.1 hplan).1

/-- Besides renaming, a plan sets the owner and changes policies. -/
theorem NormalSchema.mem_updatePlan (hplan : spec.updatePlan current = .ok plan) {c : Statement}
    (hc : c ∈ plan) :
    (c = .renameSchema current.name spec.name ∧ current.name ≠ spec.name) ∨
      (∃ o, c = .alterSchemaOwner spec.name o ∧ spec.owner = some o ∧ o ≠ current.owner) ∨
      ∃ d ∈ policyChanges current.policies spec.policies (spec.owner.getD current.owner),
        c = d.statement spec.name := by
  obtain ⟨-, rfl⟩ := updatePlan_ok.1 hplan
  rcases List.mem_append.1 hc with hc | hc
  · rcases List.mem_append.1 hc with hc | hc
    · left
      by_cases hname : current.name = spec.name
      · simp [hname] at hc
      · simpa [hname] using hc
    · obtain ⟨o, ho, rfl⟩ := Option.map_eq_some_iff.1 (Option.mem_toList.1 hc)
      obtain ⟨hdeclared, hne⟩ := Option.filter_eq_some_iff.1 ho
      exact .inr (.inl ⟨o, rfl, hdeclared, of_decide_eq_true hne⟩)
  · obtain ⟨d, hd, rfl⟩ := List.mem_map.1 hc
    exact .inr (.inr ⟨d, hd, rfl⟩)

/-- A plan mentions the declared owner only to make it the owner, and of the others only those who
hold something else than what is declared. -/
theorem NormalSchema.mentioned_of_mem_updatePlan (hplan : spec.updatePlan current = .ok plan)
    (hshown : e.Shown database name current) {c : Statement} (hc : c ∈ plan) {g : String}
    (hg : c.mentioned = some g) :
    if g = spec.owner.getD e.owner then c = .alterSchemaOwner spec.name g ∧ g ≠ e.owner
    else e.policy g ≠ spec.policies.getD g ∅ := by
  rcases mem_updatePlan hplan hc with ⟨rfl, -⟩ | ⟨o, rfl, howner, hne⟩ | ⟨d, hd, rfl⟩
  · cases hg
  · obtain rfl := Option.some.inj hg
    rw [if_pos (by rw [howner]; rfl)]
    exact ⟨rfl, hshown.owner ▸ hne⟩
  · rw [GranteeChange.mentioned_statement] at hg
    obtain rfl := Option.some.inj hg
    obtain ⟨hother, hdiffers⟩ := role_of_mem_policyChanges hd
    rw [hshown.owner] at hother
    rw [if_neg hother, ← hshown.policies]
    exact hdiffers

variable (host) in
/-- A schema that is renamed is found under its new name, and only there. -/
theorem Statement.effect_renameSchema {old new : String} (he : k.schemas database old = some e)
    (hfree : k.schemas database new = none) :
    (Statement.renameSchema old new).effect host database k =
        some (k.renameSchema database old new) ∧
      (k.renameSchema database old new).schemas database new = some e ∧
      (k.renameSchema database old new).schemas database old = none := by
  have hne : new ≠ old := by
    rintro rfl
    simp [hfree] at he
  refine ⟨?_, ?_, ?_⟩
  · simp [Statement.effect, he, hfree]
  · show k.schemas database (if database = database then swapNames old new new else new) = _
    rw [if_pos rfl, swapNames, if_neg hne, if_pos rfl, he]
  · show k.schemas database (if database = database then swapNames old new old else old) = _
    rw [if_pos rfl, swapNames, if_pos rfl, hfree]

/-- All statements but the renaming come after it. -/
theorem NormalSchema.ordered_renameSchema (hplan : spec.updatePlan current = .ok plan)
    (old new : String) :
    Plan.ordered (.renameSchema old new :: plan) = .renameSchema old new :: Plan.ordered plan := by
  refine Plan.ordered_cons fun c hc => ?_
  rcases mem_updatePlan hplan hc with ⟨rfl, -⟩ | ⟨o, rfl, -, -⟩ | ⟨d, -, rfl⟩
  · exact Nat.le_refl _
  · exact Nat.le_of_ble_eq_true rfl
  · cases d <;> exact Nat.le_of_ble_eq_true rfl

theorem SchemaEntry.Shown.renamed (h : e.Shown database name current) (new : String) :
    e.Shown database new { current with name := new } :=
  ⟨rfl, h.database, h.owner, h.policies⟩

variable (host) in
/-- The plan for a schema that has another name, when the declared one is free. -/
theorem NormalSchema.reached_of_renaming (hspec : ∀ g, (spec.policies.getD g ∅).Closed)
    (hplan : spec.updatePlan current = .ok plan) (hname : current.name ≠ spec.name)
    (hshown : e.Shown spec.database current.name current)
    (hfree : k.schemas spec.database spec.name = none)
    (he : k.schemas spec.database current.name = some e) :
    ∃ k' e', spec.ReachedBy host e.owner plan.ordered k k' e' ∧
      k'.schemas spec.database current.name = none := by
  obtain ⟨rest, hrest, rfl⟩ := (updatePlan_of_name_ne hname).1 hplan
  obtain ⟨hrename, hthere, hgone⟩ := Statement.effect_renameSchema host he hfree
  obtain ⟨k', e', hreached, hdiffer⟩ :=
    reached_of_updatePlan host hspec hrest (hshown.renamed spec.name) hthere
  refine ⟨k', e', ⟨?_, hreached.there, hreached.owner, hreached.rights⟩, ?_⟩
  · rw [ordered_renameSchema hrest]
    exact effects_cons.2 ⟨_, hrename, hreached.run⟩
  · have hother : Place.schema spec.database current.name ≠ .schema spec.database spec.name :=
      fun h => hname (Place.schema.inj h).2
    have hagree := hdiffer _ hother
    exact (hgone.symm.trans hagree).symm

/-! ## Every plan -/

/-- Nothing has to change about a schema that is as declared. -/
theorem NormalSchema.ReachedBy.changesTo_isEmpty {owner : String} {l : List Statement}
    (h : spec.ReachedBy host owner l k k' e') (hspec : ∀ g, (spec.policies.getD g ∅).Closed)
    {final : ObservedSchema} (hshown : e'.Shown spec.database spec.name final) :
    ∃ c, final.changesTo spec = .ok c ∧ c.isEmpty = true := by
  have hget : spec.owner.getD final.owner = e'.owner := by
    rw [hshown.owner, h.owner]
    cases spec.owner <;> rfl
  have howner : (spec.owner.filter fun o => decide (o ≠ final.owner)) = none :=
    (filter_ne_eq_none _ _).2 (hget.trans hshown.owner.symm)
  have hpolicies : policyChanges final.policies spec.policies e'.owner = [] := by
    refine (policyChanges_eq_nil (fun g => ?_) hspec).2 fun g hg r => ?_
    · rw [hshown.policies]
      exact e'.closed_policy g
    · rw [hshown.policies, ← h.rights g hg]
      unfold SchemaEntry.policy
      rw [if_neg hg]
  refine ⟨⟨none, none, []⟩, ?_, rfl⟩
  unfold ObservedSchema.changesTo
  rw [if_neg (Classical.not_not.2 hshown.database), if_pos hshown.name, howner, hget, hpolicies]

variable (database name) in
/-- Every plan for a schema that was read leads to the declared schema, whatever list of grants it
was read from.

The plan mentions the declared owner only to make it the owner, and of the others only those who
hold something else than what is declared. -/
theorem NormalSchema.schema_reached_of_plan {desired : DeclaredSchema} {defaultDatabase : String}
    (hspec : desired.normalize defaultDatabase = .ok spec) (host : Host) {owner : String}
    {rows : List GrantRow} (hrows : ∀ row ∈ rows, row.role ≠ owner) {σ : Type}
    (session : Session σ) {s u t : σ}
    (hschema : session.server.query session.database (.schema name) s =
      (.ok ⟨["name", "owner"], [[.text name, .text owner]]⟩, u))
    (hgrants : session.server.query session.database (.schemaGrants name) u =
      (.ok ⟨grantColumns, rows.map GrantRow.cells⟩, t)) :
    ∃ current, (session.schema? database name).result s = (.ok (some current), t) ∧
      (∃ e : SchemaEntry, e.owner = owner ∧ e.Lists (rows.filterMap GrantRow.grant?)) ∧
      ∀ plan e k, spec.updatePlan current = .ok plan →
        e.owner = owner → e.Lists (rows.filterMap GrantRow.grant?) →
        k.schemas database name = some e →
        (name ≠ spec.name → k.schemas database spec.name = none) →
        (∃ k' e', spec.ReachedBy host owner plan.ordered k k' e' ∧
          (name ≠ spec.name → k'.schemas database name = none) ∧
          ∀ final, e'.Shown spec.database spec.name final →
            ∃ c, final.changesTo spec = .ok c ∧ c.isEmpty = true) ∧
        ∀ c ∈ plan, ∀ g, c.mentioned = some g →
          if g = spec.owner.getD owner then c = .alterSchemaOwner spec.name g ∧ g ≠ owner
          else e.policy g ≠ spec.policies.getD g ∅ := by
  have hclosed := desired.closed_policies hspec
  have hgiven : ∀ g ∈ rows.filterMap GrantRow.grant?, g.role ≠ owner := by
    intro g hg
    obtain ⟨row, hrow, hgrant⟩ := List.mem_filterMap.1 hg
    obtain ⟨p, -, rfl⟩ := Option.map_eq_some_iff.1 hgrant
    exact hrows row hrow
  have hlists := SchemaEntry.lists_ofGrants hgiven
  obtain ⟨current, hread, -⟩ :=
    SchemaEntry.shown_of_cells (e := .ofGrants owner _) hlists hschema hgrants
  refine ⟨current, hread, ⟨_, rfl, hlists⟩, fun plan e k hplan howner hlists' he hfree => ?_⟩
  subst howner
  obtain ⟨current', hread', hshown⟩ := SchemaEntry.shown_of_cells hlists' hschema hgrants
  obtain rfl : current = current' := by
    have hsame := hread.symm.trans hread'
    exact Option.some.inj (Except.ok.inj (Prod.mk.inj hsame).1)
  obtain rfl := database_of_updatePlan hplan hshown.database
  constructor
  · have hreached : ∃ k' e', spec.ReachedBy host e.owner plan.ordered k k' e' ∧
        (name ≠ spec.name → k'.schemas spec.database name = none) := by
      by_cases hname : name = spec.name
      · subst hname
        obtain ⟨k', e', hreached, -⟩ := reached_of_updatePlan host hclosed hplan hshown he
        exact ⟨k', e', hreached, fun hne => absurd rfl hne⟩
      · obtain rfl := hshown.name
        obtain ⟨k', e', hreached, hgone⟩ :=
          reached_of_renaming host hclosed hplan hname hshown (hfree hname) he
        exact ⟨k', e', hreached, fun _ => hgone⟩
    obtain ⟨k', e', hreached, hgone⟩ := hreached
    exact ⟨k', e', hreached, hgone, fun final hfinal =>
      hreached.changesTo_isEmpty hclosed hfinal⟩
  · intro c hc g hg
    exact mentioned_of_mem_updatePlan hplan hshown hc hg

end Plans

/-! ## A schema that changes its name and its owner -/

/-- The list of grants on a schema; one of them is repeated and another is of no policy. -/
def formerRows : List GrantRow :=
  [⟨"writer", "USAGE", true⟩, ⟨"reader", "USAGE", false⟩, ⟨"writer", "MAINTAIN", false⟩,
    ⟨"guest", "CREATE", false⟩, ⟨"writer", "USAGE", false⟩, ⟨"heir", "CREATE", true⟩]

/-- A server with the schema `former` of the owner `boss`. -/
def formerSchema : Memory Unit where
  opens _ := true
  effect _ _ _ := some ()
  answer _ q _ :=
    match q with
    | .schema "former" => ⟨["name", "owner"], [[.text "former", .text "boss"]]⟩
    | .schemaGrants "former" => ⟨grantColumns, formerRows.map GrantRow.cells⟩
    | _ => .none
  refuses _ := false

/-- The schema under another name, with another owner and with narrower and wider policies. -/
def renamedSchema : DeclaredSchema :=
  { DeclaredSchema.named "data" with
    owner := some "heir"
    policies := [⟨"boss", true, false, false, false⟩, ⟨"writer", false, true, true, false⟩,
      ⟨"reader", false, false, true, false⟩] }

/-- The schema is renamed and given to its heir, a guest loses everything, a writer loses one option
and gets another, the former owner gets a privilege, and a reader is not mentioned. -/
theorem schema_reached_of_plan_renamed :
    ∃ spec current plan k' e' t, renamedSchema.normalize "main" = .ok spec ∧
      ((⟨formerSchema.server, none⟩ : Session _).schema? "main" "former").result ⟨(), none⟩ =
        (.ok (some current), t) ∧
      spec.updatePlan current = .ok plan ∧ plan.length = 7 ∧
      spec.ReachedBy smallHost "boss" plan.ordered
        (Catalog.empty.setSchema "main" "former"
          (some (.ofGrants "boss" (formerRows.filterMap GrantRow.grant?)))) k' e' ∧
      e'.owner = "heir" ∧ k'.schemas "main" "former" = none ∧
      ∀ c ∈ plan, c.mentioned ≠ some "reader" := by
  have hseven : ((renamedSchema.normalize "main").toOption.bind fun spec =>
      (((⟨formerSchema.server, none⟩ : Session _).schema? "main" "former").result
        ⟨(), none⟩).1.toOption.join.bind fun current =>
          (spec.updatePlan current).toOption.map fun plan =>
            (spec.name, spec.owner, spec.policies.getD "reader" ∅, plan.length)) =
      some ("data", some "heir", .ofList [.base .usage], 7) := by
    decide +kernel
  obtain ⟨spec, hspec, hseven⟩ := Option.bind_eq_some_iff.1 hseven
  have hspec := Except.eq_ok_of_toOption hspec
  have hothers : ∀ row ∈ formerRows, row.role ≠ "boss" := by decide
  have hschema : formerSchema.server.query none (.schema "former") ⟨(), none⟩ =
      (.ok ⟨["name", "owner"], [[.text "former", .text "boss"]]⟩, ⟨(), none⟩) := rfl
  obtain ⟨current, hread, -, hreached⟩ := NormalSchema.schema_reached_of_plan "main" "former" hspec
    smallHost hothers ⟨formerSchema.server, none⟩ hschema rfl
  rw [hread] at hseven
  obtain ⟨plan, hplan, hseven⟩ := Option.map_eq_some_iff.1 hseven
  obtain ⟨hname, hseven⟩ := Prod.mk.inj hseven
  obtain ⟨howner, hseven⟩ := Prod.mk.inj hseven
  obtain ⟨hreads, hlength⟩ := Prod.mk.inj hseven
  have hplan := Except.eq_ok_of_toOption hplan
  have hfree : (Catalog.empty.setSchema "main" "former" (some (.ofGrants "boss"
      (formerRows.filterMap GrantRow.grant?)))).schemas "main" spec.name = none := by
    rw [hname]
    rfl
  obtain ⟨⟨k', e', hdeclared, hgone, -⟩, hmentioned⟩ := hreached plan
    (.ofGrants "boss" (formerRows.filterMap GrantRow.grant?)) _ hplan rfl
    (SchemaEntry.lists_ofGrants (by decide +kernel)) rfl fun _ => hfree
  refine ⟨spec, current, plan, k', e', _, hspec, hread, hplan, hlength, hdeclared, ?_, ?_, ?_⟩
  · rw [hdeclared.owner, howner]
    rfl
  · exact hgone (by rw [hname]; decide)
  · intro c hc hreader
    have hdiffers := hmentioned c hc "reader" hreader
    rw [howner, if_neg (by decide), hreads] at hdiffers
    exact hdiffers (by decide +kernel)

end Accord
