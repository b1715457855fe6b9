import Accord.Lifecycle.Document
import Accord.Proofs.Catalog.Answer
import Accord.Proofs.Lifecycle.Secrecy
import Mathlib.Data.List.Forall2

/-!
# Passwords are never shown

Two documents that differ in the texts of passwords only, planned or applied on servers that differ
in the hashes of passwords only, lead to the same answers or to the same failure
(`Document.passwords_never_shown`).
-/

namespace Accord

variable {σ τ δ ο ω : Type} {R : σ → τ → Prop} {ctx : Context σ} {server : Server τ}

/-! ## The objects of one kind -/

namespace Lifecycle.SameButPasswords

variable {k : Lifecycle δ ο ω} {D : δ → δ → Prop} {P : ο → ο → Prop} {ds ds' : List δ}

theorem planAll (h : k.SameButPasswords ctx server R D P) (hds : List.Forall₂ D ds ds') :
    Run.Alike R (fun l l' => l.map PlannedObject.toJson = l'.map PlannedObject.toJson)
      (k.planAll ctx ds) (k.planAll (ctx.on server) ds') := by
  induction hds with
  | nil => exact Run.alike_pure rfl
  | @cons d d' ds ds' hd _ ih =>
    unfold Lifecycle.planAll
    refine (h.pending hd).bind fun plan plan' hplan => ?_
    have hrest : ∀ here here' : List PlannedObject,
        here.map PlannedObject.toJson = here'.map PlannedObject.toJson →
        Run.Alike R (fun l l' => l.map PlannedObject.toJson = l'.map PlannedObject.toJson)
          (do return here ++ (← k.planAll ctx ds))
          (do return here' ++ (← k.planAll (ctx.on server) ds')) := by
      intro here here' hhere
      refine ih.bind fun later later' hlater => Run.alike_pure ?_
      rw [List.map_append, List.map_append, hhere, hlater]
    rw [hplan.isEmpty_eq, h.identity hd]
    by_cases hempty : plan'.isEmpty = true
    · rw [if_pos hempty, if_pos hempty]
      exact (Run.alike_pure rfl).bind_eq fun here => hrest here here rfl
    · rw [if_neg hempty, if_neg hempty]
      refine Run.alike_liftM_bind _ fun id => (Run.alike_pure ?_).bind hrest
      show [PlannedObject.toJson _] = [PlannedObject.toJson _]
      unfold PlannedObject.toJson
      rw [hplan.toJson_eq]

theorem applyAll (h : k.SameButPasswords ctx server R D P) (hds : List.Forall₂ D ds ds') :
    Run.Alike R (fun l l' => l.map AppliedObject.toJson = l'.map AppliedObject.toJson)
      (k.applyAll ctx ds) (k.applyAll (ctx.on server) ds') := by
  induction hds with
  | nil => exact Run.alike_pure rfl
  | cons hd _ ih =>
    unfold Lifecycle.applyAll
    refine (h.converge hd).bind fun o o' ho => ih.bind fun l l' hl => ?_
    apply Run.alike_pure
    rw [List.map_cons, List.map_cons, hl, ho.id, ho.observed, ho.applied, ho.drift]

end Lifecycle.SameButPasswords

/-! ## Documents -/

/-- Two documents differ in nothing but the texts of the passwords of roles. -/
structure Document.SameButPasswords (d d' : Document) : Prop where
  roles : List.Forall₂ DeclaredRole.SameButPassword d.roles d'.roles
  schemas : d.schemas = d'.schemas
  rules : d.rules = d'.rules
  extensions : d.extensions = d'.extensions

namespace Document

variable {d d' : Document}

theorem SameButPasswords.plan (hd : d.SameButPasswords d')
    (h : ctx.server.SameButHashes R server) :
    Run.Alike R (fun l l' => l.map PlannedObject.toJson = l'.map PlannedObject.toJson)
      (d.plan ctx) (d'.plan (ctx.on server)) := by
  unfold Document.plan
  rw [← hd.schemas, ← hd.rules, ← hd.extensions]
  refine ((Lifecycle.sameButPasswords_roles h).planAll hd.roles).bind fun roles roles' hroles => ?_
  refine ((Lifecycle.sameButPasswords_schemas h).planAll (List.forall₂_refl _)).bind
    fun schemas schemas' hschemas => ?_
  refine ((Lifecycle.sameButPasswords_extensions h).planAll (List.forall₂_refl _)).bind
    fun extensions extensions' hextensions => ?_
  refine ((Lifecycle.sameButPasswords_rules h).planAll (List.forall₂_refl _)).bind
    fun rules rules' hrules => Run.alike_pure ?_
  simp only [List.map_append, hroles, hschemas, hextensions, hrules]

theorem SameButPasswords.apply (hd : d.SameButPasswords d')
    (h : ctx.server.SameButHashes R server) :
    Run.Alike R (fun l l' => l.map AppliedObject.toJson = l'.map AppliedObject.toJson)
      (d.apply ctx) (d'.apply (ctx.on server)) := by
  unfold Document.apply
  rw [← hd.schemas, ← hd.rules, ← hd.extensions]
  refine ((Lifecycle.sameButPasswords_roles h).applyAll hd.roles).bind fun roles roles' hroles => ?_
  refine ((Lifecycle.sameButPasswords_schemas h).applyAll (List.forall₂_refl _)).bind
    fun schemas schemas' hschemas => ?_
  refine ((Lifecycle.sameButPasswords_extensions h).applyAll (List.forall₂_refl _)).bind
    fun extensions extensions' hextensions => ?_
  refine ((Lifecycle.sameButPasswords_rules h).applyAll (List.forall₂_refl _)).bind
    fun rules rules' hrules => Run.alike_pure ?_
  simp only [List.map_append, hroles, hschemas, hextensions, hrules]

/-- Passwords do not get into answers.

A document is planned or applied, and another one that differs in the texts of passwords only is
planned or applied on a server that reacts alike to commands that differ in the texts of passwords
only, and whose answers differ in the hashes of passwords only.  Then what is written about the
objects is the same in both runs, or both fail for the same cause. -/
theorem passwords_never_shown (h : ctx.server.SameButHashes R server)
    (hd : d.SameButPasswords d') {s : σ} {t : τ} (hst : R s t) :
    ((d.plan ctx).result s).1.map (List.map PlannedObject.toJson) =
        ((d'.plan (ctx.on server)).result t).1.map (List.map PlannedObject.toJson) ∧
      ((d.apply ctx).result s).1.map (List.map AppliedObject.toJson) =
        ((d'.apply (ctx.on server)).result t).1.map (List.map AppliedObject.toJson) := by
  constructor
  · exact (hd.plan h s t hst).1.map_eq fun _ _ hshown => hshown
  · exact (hd.apply h s t hst).1.map_eq fun _ _ hshown => hshown

end Document

/-- A server with one role.  Its state is what is stored for the password of the role. -/
def vault : Server String where
  connect _ s := (.ok (), s)
  execute _ c s := (.ok (),
    match c with
    | .run (.alterRole _ (.password (.encrypted password))) => "SCRAM-SHA-256$" ++ password
    | _ => s)
  query _ q s := (.ok
    (match q with
    | .role name bypass =>
      ⟨roleColumns, if name = "app" then [RoleEntry.fresh.row name bypass []] else []⟩
    | .passwordHash name => ⟨["passwd"], if name = "app" then [[.text s]] else []⟩
    | _ => .none), s)

theorem vault_sameButHashes : vault.SameButHashes (fun _ _ => True) vault where
  connect _ _ := ⟨rfl, trivial⟩
  execute _ _ _ _ _ := ⟨rfl, trivial⟩
  query {s t} _ q _ := by
    cases q with
    | passwordHash name =>
      refine ⟨congrArg Except.ok ?_, trivial⟩
      show ResultTable.hideTexts ⟨["passwd"], if name = "app" then [[.text s]] else []⟩ =
        ResultTable.hideTexts ⟨["passwd"], if name = "app" then [[.text t]] else []⟩
      by_cases hname : name = "app"
      · rw [if_pos hname, if_pos hname]
        rfl
      · rw [if_neg hname, if_neg hname]
    | _ => exact ⟨rfl, trivial⟩

/-- A context of that server. -/
def vaultContext : Context String where
  server := vault
  dialect := ⟨⟨16, 0, 0⟩⟩
  facts := ⟨"16.0", "admin", "main", true⟩
  readOnly := false
  lock := .free

/-- A document that declares the role with a password. -/
def vaultDocument (password : String) : Document :=
  { Document.empty with roles := [{ DeclaredRole.named "app" with password := some password }] }

/-- Two passwords are set, and the server stores what belongs to them, but what is planned and
applied is told in the same words. -/
theorem passwords_never_shown_vault :
    let d := vaultDocument "sesame"
    let d' := vaultDocument "hunter2"
    vault.SameButHashes (fun _ _ => True) vault ∧ d.SameButPasswords d' ∧
      (((d.plan vaultContext).result "").1.map (List.map PlannedObject.toJson) =
          ((d'.plan vaultContext).result "").1.map (List.map PlannedObject.toJson) ∧
        ((d.apply vaultContext).result "").1.map (List.map AppliedObject.toJson) =
          ((d'.apply vaultContext).result "").1.map (List.map AppliedObject.toJson)) ∧
      ((d.apply vaultContext).result "").1.toOption.map List.length = some 1 ∧
      ((d.apply vaultContext).result "").2 = "SCRAM-SHA-256$sesame" ∧
      ((d'.apply vaultContext).result "").2 = "SCRAM-SHA-256$hunter2" := by
  intro d d'
  have hd : d.SameButPasswords d' := by
    refine ⟨.cons ⟨rfl, rfl, ?_⟩ .nil, rfl, rfl, rfl⟩
    decide +kernel
  have hserver : vaultContext.server.SameButHashes (fun _ _ => True) vault := vault_sameButHashes
  refine ⟨vault_sameButHashes, hd, ?_, ?_, ?_, ?_⟩
  · exact Document.passwords_never_shown hserver hd trivial
  · decide +kernel
  · decide +kernel
  · decide +kernel

end Accord
