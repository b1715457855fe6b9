import Accord.Proofs.Catalog.Answer
import Accord.Proofs.Catalog.Effect
import Accord.Proofs.Extension.Plan
import Accord.Proofs.Session.Store
import Accord.Proofs.Statement.Order

/-!
# Extensions in the catalog and plans for them

An extension that is installed or updated is as declared afterwards.  If no version is declared, the
one that the server would install now is wanted.
-/

namespace Accord

/-- An extension in the catalog is as declared, where a version is installed by default. -/
def ExtensionEntry.Meets (e : ExtensionEntry) (spec : DeclaredExtension)
    (defaultVersion : Option String) : Prop :=
  spec.schema.getD e.schema = e.schema ∧
    (spec.version.or defaultVersion).getD e.version = e.version

section Plans

variable {host : Host} {database : String} {spec : DeclaredExtension} {k k' : Catalog}

/-- Nothing is planned for an extension exactly if it is as declared. -/
theorem ExtensionEntry.updatePlan_eq_nil (hdatabase : spec.database = some database)
    (e : ExtensionEntry) :
    spec.updatePlan (e.read host database spec.name) = .ok [] ↔
      e.Meets spec (host.defaultVersion database spec.name) := by
  rw [DeclaredExtension.updatePlan_ok hdatabase]
  unfold Meets
  rw [← filter_ne_eq_none, ← filter_ne_eq_none, eq_comm (a := []), List.append_eq_nil_iff,
    Option.toList_eq_nil_iff, Option.toList_eq_nil_iff, Option.map_eq_none_iff,
    Option.map_eq_none_iff]
  exact ⟨fun h => h.2.2, fun h => ⟨rfl, rfl, h⟩⟩

/-- What a statement does that changes an extension, if there is one to run. -/
theorem effects_changeExtension {name old : String} {o : Option String} {c : String → Statement}
    {f : String → ExtensionEntry → ExtensionEntry} {e : ExtensionEntry}
    (hc : ∀ x k, (c x).effect host database k = k.changeExtension database name (f x))
    (he : k.extensions database name = some e) (hold : f old e = e)
    (h : effects (Statement.effect host database) (o.map c).toList k = some k') :
    k.DifferAt k' (.extension database name) ∧
      k'.extensions database name = some (f (o.getD old) e) := by
  cases o with
  | none =>
    obtain rfl := Option.some.inj h
    exact ⟨.refl k _, he.trans (congrArg some hold.symm)⟩
  | some x =>
    obtain ⟨k₁, hx, h⟩ := effects_cons.1 h
    obtain rfl := Option.some.inj h
    rw [hc, Catalog.changeExtension, he] at hx
    obtain rfl := Option.some.inj hx
    exact ⟨k.differAt_setExtension database name _, if_pos ⟨rfl, rfl⟩⟩

/-- After an extension was updated it is as declared. -/
theorem DeclaredExtension.meets_of_updatePlan (hdatabase : spec.database = some database)
    {e : ExtensionEntry} (he : k.extensions database spec.name = some e) {plan : Plan}
    (hplan : spec.updatePlan (e.read host database spec.name) = .ok plan)
    (h : effects (Statement.effect host database) plan.ordered k = some k') :
    k.DifferAt k' (.extension database spec.name) ∧
      ∃ e', k'.extensions database spec.name = some e' ∧
        e'.Meets spec (host.defaultVersion database spec.name) := by
  obtain ⟨-, -, rfl⟩ := (updatePlan_ok hdatabase).1 hplan
  rw [Plan.ordered_eq_self] at h
  · obtain ⟨k₁, hmove, hupdate⟩ := effects_append.1 h
    obtain ⟨hdiffer, he₁⟩ := effects_changeExtension
      (f := fun s e => { e with schema := s }) (fun _ _ => rfl) he rfl hmove
    obtain ⟨hdiffer', he'⟩ := effects_changeExtension
      (f := fun v e => { e with version := v }) (fun _ _ => rfl) he₁ rfl hupdate
    refine ⟨hdiffer.trans hdiffer', _, he', ?_⟩
    show ExtensionEntry.Meets
      ⟨(spec.schema.filter fun s => decide (s ≠ e.schema)).getD e.schema,
        ((spec.version.or (host.defaultVersion database spec.name)).filter
          fun v => decide (v ≠ e.version)).getD e.version⟩ spec _
    rw [getD_filter_ne, getD_filter_ne]
    constructor
    · cases spec.schema <;> rfl
    · cases spec.version.or (host.defaultVersion database spec.name) <;> rfl
  · -- Both statements belong to the same phase.
    refine List.pairwise_of_forall_mem_list fun s hs t ht => ?_
    have hphase : ∀ s ∈ ((spec.schema.filter fun s => decide (s ≠ e.schema)).map
        (Statement.moveExtension spec.name)).toList ++
        (((spec.version.or (host.defaultVersion database spec.name)).filter
          fun v => decide (v ≠ e.version)).map (Statement.updateExtension spec.name)).toList,
        s.phase = .attribute := by
      intro s hs
      simp only [List.mem_append, Option.mem_toList, Option.map_eq_some_iff] at hs
      rcases hs with ⟨_, -, rfl⟩ | ⟨_, -, rfl⟩ <;> rfl
    exact Nat.le_of_eq (by rw [hphase s hs, hphase t ht])

/-- After an extension was installed it is as declared. -/
theorem DeclaredExtension.meets_of_creationPlan
    (h : effects (Statement.effect host database) spec.creationPlan.ordered k = some k') :
    k.DifferAt k' (.extension database spec.name) ∧
      ∃ e', k'.extensions database spec.name = some e' ∧
        e'.Meets spec (host.defaultVersion database spec.name) := by
  have hordered : spec.creationPlan.ordered = spec.creationPlan :=
    Plan.ordered_eq_self (List.pairwise_singleton _ _)
  rw [hordered] at h
  obtain ⟨k₁, hcreate, h⟩ := effects_cons.1 h
  obtain rfl := Option.some.inj h
  obtain ⟨-, hcreate⟩ := Option.ite_none_left_eq_some.1 hcreate
  obtain ⟨v, hv, rfl⟩ := Option.map_eq_some_iff.1 hcreate
  refine ⟨k.differAt_setExtension _ _ _, _, if_pos ⟨rfl, rfl⟩, ?_, ?_⟩
  · cases hschema : spec.schema <;> rfl
  · rw [hv]
    rfl

end Plans

end Accord
