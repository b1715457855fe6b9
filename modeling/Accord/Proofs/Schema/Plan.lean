import Accord.Proofs.Name
import Accord.Proofs.Session.Run
import Accord.Schema.Change

/-!
# Plans for schemas

What normalizing a schema checks, which schema its identity stands for, and when a plan renames.
-/

namespace Accord

/-- What normalizing a schema checks and changes. -/
theorem DeclaredSchema.normalize_ok {desired : DeclaredSchema} {defaultDatabase : String}
    {spec : NormalSchema} (h : desired.normalize defaultDatabase = .ok spec) :
    normalizePolicies desired.policies ∅ = .ok spec.policies ∧
      normalizeName desired.name "schema" = .ok spec.name ∧
      normalizeName (desired.database.getD defaultDatabase) "database" = .ok spec.database ∧
      (desired.owner.mapM fun o => normalizeName o "owner") = .ok spec.owner ∧
      spec.ifNotExists = desired.ifNotExists := by
  unfold normalize at h
  obtain ⟨policies, hpolicies, h⟩ := Except.bind_ok.1 h
  obtain ⟨name, hname, h⟩ := Except.bind_ok.1 h
  obtain ⟨database, hdatabase, h⟩ := Except.bind_ok.1 h
  obtain ⟨owner, howner, h⟩ := Except.bind_ok.1 h
  obtain rfl := Except.ok.inj h
  exact ⟨hpolicies, hname, hdatabase, howner, rfl⟩

/-- An identity stands for its parts, normalized once more. -/
theorem ObservedSchema.decodeKey_joinIdentity {database name : String} {key : String × String}
    (h : decodeKey (joinIdentity [database, name]) = .ok key) :
    normalizeName database "database" = .ok key.1 ∧ normalizeName name "schema" = .ok key.2 := by
  unfold decodeKey at h
  obtain ⟨parts, hparts, h⟩ := Except.bind_ok.1 h
  obtain rfl := splitIdentity_joinIdentity hparts rfl (by simp)
  obtain ⟨a, ha, h⟩ := Except.bind_ok.1 h
  obtain ⟨b, hb, h⟩ := Except.bind_ok.1 h
  obtain rfl := Except.ok.inj h
  exact ⟨ha, hb⟩

/-! ## Renaming -/

theorem GranteeChange.statement_ne_rename (schema : String) (c : GranteeChange)
    (old new : String) : c.statement schema ≠ .renameSchema old new := by
  cases c <;> simp [statement]

theorem NormalSchema.rename_not_mem_creationPlan (spec : NormalSchema) (currentUser : String)
    (dialect : Dialect) (old new : String) :
    .renameSchema old new ∉ spec.creationPlan currentUser dialect := by
  unfold creationPlan Statement.newSchema
  rw [List.mem_cons, List.mem_map]
  rintro (h | ⟨c, -, h⟩)
  · simp at h
  · exact GranteeChange.statement_ne_rename _ _ _ _ h

/-- A plan is made for a schema in the declared database: it renames the schema, sets the owner and
changes policies. -/
theorem NormalSchema.updatePlan_ok {spec : NormalSchema} {current : ObservedSchema} {plan : Plan} :
    spec.updatePlan current = .ok plan ↔
      current.database = spec.database ∧ plan =
        (if current.name = spec.name then [] else [.renameSchema current.name spec.name]) ++
          ((spec.owner.filter fun o => decide (o ≠ current.owner)).map
            (Statement.alterSchemaOwner spec.name)).toList ++
          (policyChanges current.policies spec.policies (spec.owner.getD current.owner)).map
            (GranteeChange.statement spec.name) := by
  unfold updatePlan ObservedSchema.changesTo
  by_cases hdatabase : current.database = spec.database
  · rw [if_neg (Classical.not_not.2 hdatabase)]
    simp only [Except.map_ok, Except.ok.injEq, exists_eq_left', hdatabase, true_and]
    unfold SchemaChanges.plan
    by_cases hname : current.name = spec.name
    · rw [if_pos hname, if_pos hname]
      exact eq_comm
    · rw [if_neg hname, if_neg hname]
      exact eq_comm
  · rw [if_pos hdatabase]
    simp [Except.map, hdatabase]

/-- A plan is made for a schema in the declared database, and it renames the schema if and only if
it has another name than the declared one. -/
theorem NormalSchema.rename_mem_updatePlan {spec : NormalSchema} {current : ObservedSchema}
    {plan : Plan} (h : spec.updatePlan current = .ok plan) :
    current.database = spec.database ∧
      ((∃ old new, .renameSchema old new ∈ plan) ↔ current.name ≠ spec.name) := by
  obtain ⟨hdatabase, rfl⟩ := updatePlan_ok.1 h
  refine ⟨hdatabase, ?_⟩
  simp only [List.mem_append, List.mem_map, GranteeChange.statement_ne_rename, and_false,
    exists_false, or_false]
  by_cases hname : current.name = spec.name <;> simp [hname]

end Accord
