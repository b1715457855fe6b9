import Accord.Proofs.Catalog.Memory
import Accord.Proofs.Lifecycle.Extension
import Accord.Proofs.Lifecycle.Role
import Accord.Proofs.Lifecycle.Rule
import Accord.Proofs.Lifecycle.Schema

/-!
# Applying a document twice

After a document has been applied on a faithful server, nothing is left to do: there is no drift,
nothing more is planned, and when it is applied once more no command is given.
-/

namespace Accord

variable {σ : Type}

/-- The document declares no object twice and no password for a role, and looking up any of its
objects leads to the object. -/
structure Document.Admissible (d : Document) (ctx : Context σ) : Prop where
  password : ∀ r ∈ d.roles, r.password = none
  roles_nodup : (d.roles.map (Lifecycle.roles.identity ctx)).Nodup
  schemas_nodup : (d.schemas.map (Lifecycle.schemas.identity ctx)).Nodup
  extensions_nodup : (d.extensions.map (Lifecycle.extensions.identity ctx)).Nodup
  rules_nodup : (d.rules.map (Lifecycle.rules.identity ctx)).Nodup
  roles_settled : ∀ r ∈ d.roles, Naming.roles.Settled ctx r
  schemas_settled : ∀ r ∈ d.schemas, Naming.schemas.Settled ctx r
  extensions_settled : ∀ r ∈ d.extensions, Naming.extensions.Settled ctx r
  rules_settled : ∀ r ∈ d.rules, Naming.rules.Settled ctx r

/-- All objects of a document are in place. -/
structure Document.Applied (d : Document) (ctx : Context σ) (host : Host) (k : Catalog) : Prop where
  roles : ∀ r ∈ d.roles, ctx.RoleApplied host r k
  schemas : ∀ r ∈ d.schemas, ctx.SchemaApplied host r k
  extensions : ∀ r ∈ d.extensions, ctx.ExtensionApplied host r k
  rules : ∀ r ∈ d.rules, ctx.RuleApplied host r k

namespace Document

variable {ctx : Context σ} {host : Host} {view : σ → Store Catalog} {d : Document} {s t : σ}

theorem Applied.recorded {k : Catalog} (h : d.Applied ctx host k) :
    d.Applied ctx.recorded host k where
  roles r hr := (h.roles r hr).recorded
  schemas r hr := (h.schemas r hr).recorded
  extensions r hr := (h.extensions r hr).recorded
  rules r hr := (h.rules r hr).recorded

/-- A document that was applied is in place, and there is no drift. -/
theorem applied_of_apply (h : ctx.Faithful host view) (hd : d.Admissible ctx)
    {results : List AppliedObject} (hrun : (d.apply ctx).result s = (.ok results, t)) :
    (∀ r ∈ results, r.drift = []) ∧ d.Applied ctx host (view t).committed := by
  obtain ⟨roles, s₁, hroles, hrun⟩ := Run.result_bind_ok.1 hrun
  obtain ⟨schemas, s₂, hschemas, hrun⟩ := Run.result_bind_ok.1 hrun
  obtain ⟨extensions, s₃, hextensions, hrun⟩ := Run.result_bind_ok.1 hrun
  obtain ⟨rules, s₄, hrules, hrun⟩ := Run.result_bind_ok.1 hrun
  obtain ⟨rfl, rfl⟩ := Run.result_pure_ok.1 hrun
  obtain ⟨hdrift₁, happlied₁, -⟩ := (Naming.idempotent_roles h).applyAll_ok
    (fun r hr => ⟨hd.roles_settled r hr, hd.password r hr⟩) hd.roles_nodup hroles
  obtain ⟨hdrift₂, happlied₂, hframe₂⟩ := (Naming.idempotent_schemas h).applyAll_ok
    hd.schemas_settled hd.schemas_nodup hschemas
  obtain ⟨hdrift₃, happlied₃, hframe₃⟩ := (Naming.idempotent_extensions h).applyAll_ok
    hd.extensions_settled hd.extensions_nodup hextensions
  obtain ⟨hdrift₄, happlied₄, hframe₄⟩ := (Naming.idempotent_rules h).applyAll_ok
    hd.rules_settled hd.rules_nodup hrules
  refine ⟨?_, ?_, ?_, ?_, happlied₄⟩
  · intro r hr
    simp only [List.mem_append] at hr
    rcases hr with ((hr | hr) | hr) | hr
    · exact hdrift₁ r hr
    · exact hdrift₂ r hr
    · exact hdrift₃ r hr
    · exact hdrift₄ r hr
  · refine (Naming.idempotent_roles h).applied_of_agree happlied₁ fun key => ?_
    refine ((hframe₂ _ ?_).trans (hframe₃ _ ?_)).trans (hframe₄ _ ?_) <;>
      rintro ⟨_, -, _, -, hplace⟩ <;> simp at hplace
  · refine (Naming.idempotent_schemas h).applied_of_agree happlied₂ fun key => ?_
    refine (hframe₃ _ ?_).trans (hframe₄ _ ?_) <;>
      rintro ⟨_, -, _, -, hplace⟩ <;> simp at hplace
  · refine (Naming.idempotent_extensions h).applied_of_agree happlied₃ fun key => ?_
    refine hframe₄ _ ?_
    rintro ⟨_, -, _, -, hplace⟩
    simp at hplace

/-- Nothing is planned for a document that is in place. -/
theorem plan_of_applied (h : ctx.Faithful host view) (hd : d.Applied ctx host (view s).committed) :
    ∃ t, (d.plan ctx).result s = (.ok [], t) ∧ (view t).committed = (view s).committed := by
  obtain ⟨s₁, hroles, h₁⟩ := (Naming.idempotent_roles h).planAll_nil hd.roles
  obtain ⟨s₂, hschemas, h₂⟩ := (Naming.idempotent_schemas h).planAll_nil
    (h₁.symm ▸ hd.schemas)
  rw [h₁] at h₂
  obtain ⟨s₃, hextensions, h₃⟩ := (Naming.idempotent_extensions h).planAll_nil
    (h₂.symm ▸ hd.extensions)
  rw [h₂] at h₃
  obtain ⟨t, hrules, h₄⟩ := (Naming.idempotent_rules h).planAll_nil (h₃.symm ▸ hd.rules)
  rw [h₃] at h₄
  refine ⟨t, ?_, h₄⟩
  unfold plan
  rw [Run.result_bind_of_ok hroles, Run.result_bind_of_ok hschemas,
    Run.result_bind_of_ok hextensions, Run.result_bind_of_ok hrules]
  rfl

/-- A document that is in place is applied again without any command. -/
theorem apply_of_applied (h : ctx.Faithful host view) (hd : d.Applied ctx host (view s).committed) :
    ∃ results t, (d.apply ctx).result s = (.ok results, t) ∧ ctx.server.Quiet s t := by
  obtain ⟨roles, s₁, hroles, h₁, hquiet₁⟩ := (Naming.idempotent_roles h).applyAll_again hd.roles
  obtain ⟨schemas, s₂, hschemas, h₂, hquiet₂⟩ := (Naming.idempotent_schemas h).applyAll_again
    (h₁.symm ▸ hd.schemas)
  rw [h₁] at h₂
  obtain ⟨extensions, s₃, hextensions, h₃, hquiet₃⟩ :=
    (Naming.idempotent_extensions h).applyAll_again (h₂.symm ▸ hd.extensions)
  rw [h₂] at h₃
  obtain ⟨rules, t, hrules, h₄, hquiet₄⟩ := (Naming.idempotent_rules h).applyAll_again
    (h₃.symm ▸ hd.rules)
  refine ⟨roles ++ schemas ++ extensions ++ rules, t, ?_,
    ((hquiet₁.trans hquiet₂).trans hquiet₃).trans hquiet₄⟩
  unfold apply
  rw [Run.result_bind_of_ok hroles, Run.result_bind_of_ok hschemas,
    Run.result_bind_of_ok hextensions, Run.result_bind_of_ok hrules]
  rfl

/-- Applying a document is idempotent. -/
theorem apply_idempotent (h : ctx.Faithful host view) (hd : d.Admissible ctx)
    {results : List AppliedObject} (hrun : (d.apply ctx).result s = (.ok results, t)) :
    (∀ r ∈ results, r.drift = []) ∧
      ∀ u, (view u).committed = (view t).committed →
        (∃ v, (d.plan ctx).result u = (.ok [], v)) ∧
        ∀ log, ∃ results' v log', (d.apply ctx.recorded).result (u, log) = (.ok results', v, log') ∧
          commandsIn log' = commandsIn log := by
  obtain ⟨hdrift, happlied⟩ := applied_of_apply h hd hrun
  refine ⟨hdrift, fun u hu => ?_⟩
  rw [← hu] at happlied
  obtain ⟨v, hplan, -⟩ := plan_of_applied h happlied
  refine ⟨⟨v, hplan⟩, fun log => ?_⟩
  obtain ⟨results', ⟨w, log'⟩, hagain, hquiet⟩ :=
    apply_of_applied (s := (u, log)) h.recorded happlied.recorded
  exact ⟨results', w, log', hagain, hquiet.commandsIn_recorded⟩

end Document

/-! ## A small document -/

/-- Two roles, a schema of one of them, an extension, and a rule. -/
def smallDocument : Document where
  roles := [.named "staff",
    { DeclaredRole.named " App " with
      validUntil := "2030-01-01 00:00:00+00", login := true, roles := .ofList ["staff"] }]
  schemas := [{ DeclaredSchema.named "data" with
    owner := some "App", policies := [⟨"staff", false, false, true, true⟩] }]
  rules := [⟨none, "data", "App", "staff", "table", ["select", "Insert"]⟩]
  extensions := [⟨"hstore", none, some "data", none⟩]

theorem smallDocument_admissible : smallDocument.Admissible smallContext where
  password := by decide +kernel
  roles_nodup := by
    have h : ((smallDocument.roles.map (Lifecycle.roles.identity smallContext)).map
        Except.toOption).Nodup := by decide +kernel
    exact List.Pairwise.of_map Except.toOption (fun a b hne heq => hne (congrArg _ heq)) h
  schemas_nodup := List.pairwise_singleton _ _
  extensions_nodup := List.pairwise_singleton _ _
  rules_nodup := List.pairwise_singleton _ _
  roles_settled := by
    have h : ∀ r ∈ smallDocument.roles,
        ((Lifecycle.roles.identity smallContext r).toOption.bind fun id =>
          (Naming.roles.sought id).toOption) =
            (Naming.roles.declared smallContext.defaultDatabase r).toOption := by
      decide +kernel
    exact fun r hr => Naming.settled_of_toOption (h r hr)
  schemas_settled r hr := by
    obtain rfl := List.mem_singleton.1 hr
    exact Naming.settled_of_toOption (by decide +kernel)
  extensions_settled r hr := by
    obtain rfl := List.mem_singleton.1 hr
    exact Naming.settled_of_toOption (by decide +kernel)
  rules_settled r hr := by
    obtain rfl := List.mem_singleton.1 hr
    exact Naming.settled_of_toOption (by decide +kernel)

/-- The document is applied to an empty server with seven statements, and then there is nothing
left to do. -/
theorem apply_idempotent_small :
    smallContext.Faithful smallHost id ∧ smallDocument.Admissible smallContext ∧
    ∃ results t, (smallDocument.apply smallContext).result ⟨.empty, none⟩ = (.ok results, t) ∧
      results.map AppliedObject.applied = [1, 2, 2, 1, 1] ∧
      (∀ r ∈ results, r.drift = []) ∧
      (∃ v, (smallDocument.plan smallContext).result t = (.ok [], v)) ∧
      ∃ results' v log', (smallDocument.apply smallContext.recorded).result (t, []) =
          (.ok results', v, log') ∧ commandsIn log' = [] := by
  have hfaithful : smallContext.Faithful smallHost id := smallHost.faithful ..
  have hcounts : ((smallDocument.apply smallContext).result ⟨.empty, none⟩).1.toOption.map
      (List.map AppliedObject.applied) = some [1, 2, 2, 1, 1] := by decide +kernel
  obtain ⟨results, hresults, happlied⟩ := Option.map_eq_some_iff.1 hcounts
  have hrun := Run.result_of_toOption hresults
  obtain ⟨hdrift, hafter⟩ :=
    Document.apply_idempotent hfaithful smallDocument_admissible hrun
  obtain ⟨hplan, hagain⟩ := hafter _ rfl
  exact ⟨hfaithful, smallDocument_admissible, results, _, hrun, happlied, hdrift, hplan, hagain []⟩

end Accord
