import Accord.Extension.Change
import Accord.Proofs.Name
import Accord.Proofs.Session.Run

/-!
# Plans for extensions

What normalizing an extension checks, which extension its identity stands for, and for which
extensions there is a plan.
-/

namespace Accord

/-- What normalizing an extension checks and changes. -/
theorem DeclaredExtension.normalize_ok {desired spec : DeclaredExtension}
    {defaultDatabase : String} (h : desired.normalize defaultDatabase = .ok spec) :
    ∃ database, spec.database = some database ∧
      normalizeName desired.name "extension" = .ok spec.name ∧
      normalizeName (desired.database.getD defaultDatabase) "database" = .ok database ∧
      (desired.schema.mapM fun s => normalizeName s "schema") = .ok spec.schema ∧
      spec.version = (desired.version.map Text.trim).filter fun v => decide (v ≠ "") := by
  unfold normalize at h
  obtain ⟨name, hname, h⟩ := Except.bind_ok.1 h
  obtain ⟨database, hdatabase, h⟩ := Except.bind_ok.1 h
  obtain ⟨schema, hschema, h⟩ := Except.bind_ok.1 h
  obtain rfl := Except.ok.inj h
  exact ⟨database, rfl, hname, hdatabase, hschema, rfl⟩

/-- An identity stands for its parts, normalized once more. -/
theorem InstalledExtension.decodeKey_joinIdentity {database name : String} {key : String × String}
    (h : decodeKey (joinIdentity [database, name]) = .ok key) :
    normalizeName database "database" = .ok key.1 ∧
      normalizeName name "extension" = .ok key.2 := by
  unfold decodeKey at h
  obtain ⟨parts, hparts, h⟩ := Except.bind_ok.1 h
  obtain rfl := splitIdentity_joinIdentity hparts rfl (by simp)
  obtain ⟨a, ha, h⟩ := Except.bind_ok.1 h
  obtain ⟨b, hb, h⟩ := Except.bind_ok.1 h
  obtain rfl := Except.ok.inj h
  exact ⟨ha, hb⟩

/-- A plan is made only for the declared extension, and what it lacks is its schema or its
version. -/
theorem DeclaredExtension.updatePlan_ok {spec : DeclaredExtension} {current : InstalledExtension}
    {database : String} {plan : Plan} (hdatabase : spec.database = some database) :
    spec.updatePlan current = .ok plan ↔
      current.name = spec.name ∧ current.database = database ∧
        plan =
          ((spec.schema.filter fun s => decide (s ≠ current.schema)).map
            (Statement.moveExtension spec.name)).toList ++
          (((spec.version.or current.defaultVersion).filter
            fun v => decide (v ≠ current.version)).map
            (Statement.updateExtension spec.name)).toList := by
  unfold updatePlan InstalledExtension.changesTo
  rw [hdatabase, Except.map_ok]
  by_cases hname : current.name = spec.name
  · rw [if_neg (Classical.not_not.2 hname)]
    by_cases hd : database = current.database
    · simp only [hd, Option.filter_some, ne_eq, not_true, decide_false, Bool.false_eq_true,
        if_false, Except.ok.injEq, exists_eq_left', hname, true_and]
      rw [List.map_append, eq_comm]
      simp only [Option.toList_map, List.map_map]
      rfl
    · simp [Option.filter_some, hd, Ne.symm hd]
  · simp [hname]

end Accord
