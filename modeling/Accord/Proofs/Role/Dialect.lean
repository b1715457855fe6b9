import Accord.Proofs.Role.Wording
import Accord.Proofs.Session.Rejection
import Accord.Proofs.Statement.Dialect

/-!
# Plans for roles in the dialect of a server

All statements about roles fit the dialect that they are made for.  A plan cannot be made if and
only if it would have to set something for which the dialect has no words
(`DeclaredRole.unsupported_creationPlan`, `DeclaredRole.unsupported_updatePlan`): whether a role
bypasses row-level security, or a password that is declared unencrypted.
-/

namespace Accord

/-- The password that is declared can only be set unencrypted. -/
structure DeclaredRole.NeedsUnencrypted (spec : DeclaredRole) : Prop where
  declared : spec.password ≠ none
  keeps : spec.removesPassword = false
  unencrypted : spec.encryptedPassword = false

namespace DeclaredRole

variable {spec : DeclaredRole} {dialect : Dialect} {plan : Plan}

/-! ## Statements -/

theorem supports_of_passwordClause {clause : PasswordClause}
    (h : spec.passwordClause dialect = .ok (some clause)) {f : Feature}
    (hf : f ∈ (RoleSetting.password clause).needs) : dialect.supports f = true := by
  have hclause := passwordClause_ok.1 h
  cases hp : spec.password with
  | none =>
    rw [hp] at hclause
    exact nomatch hclause
  | some p =>
    rw [hp] at hclause
    dsimp only at hclause
    split at hclause
    · obtain rfl := Option.some.inj hclause
      exact absurd hf List.not_mem_nil
    · split at hclause
      · obtain rfl := Option.some.inj hclause
        exact absurd hf List.not_mem_nil
      · obtain ⟨hsupports, hclause⟩ := hclause
        obtain rfl := Option.some.inj hclause
        obtain rfl := List.mem_singleton.1 hf
        exact hsupports

theorem fits_of_creation {c : Statement} (h : spec.creation dialect = .ok c) : c.Fits dialect where
  quoted := (creation_form h).1
  supported f hf := by
    obtain ⟨hbypass, password, hpassword, rfl⟩ := creation_eq_ok.1 h
    rcases List.mem_append.1 hf with hf | hf
    · by_cases hspelled : dialect.supports .createRoleWith = true
      · rw [if_pos hspelled, List.mem_singleton] at hf
        rwa [hf]
      · rw [if_neg hspelled] at hf
        exact absurd hf List.not_mem_nil
    · obtain ⟨s, hs, hneeds⟩ := List.mem_flatMap.1 hf
      have hleads := leadsTo_of_mem_settings hs
      cases s with
      | flag g on =>
        cases g with
        | bypassRowLevelSecurity =>
          obtain rfl := List.mem_singleton.1 hneeds
          refine hbypass.resolve_right fun hnone => ?_
          exact nomatch hnone.symm.trans hleads
        | _ => exact absurd hneeds List.not_mem_nil
      | password clause =>
        obtain rfl : password = some clause := by
          simpa [settings] using hs
        exact supports_of_passwordClause hpassword hneeds
      | _ => exact absurd hneeds List.not_mem_nil

theorem fits_of_statement? {change : RoleChange} {c : Statement}
    (h : change.statement? spec dialect = .ok (some c)) : c.Fits dialect where
  quoted := (arguments_statement? h).1
  supported f hf := by
    have hcases := statement?_cases h
    rcases change with ⟨old, new⟩ | (⟨g, on⟩ | limit) | _ | e | group | group
    case attribute.flag =>
      obtain rfl : c = _ := hcases
      cases g with
      | bypassRowLevelSecurity =>
        obtain rfl := List.mem_singleton.1 hf
        simp only [RoleChange.statement?, if_true, Except.bind_ok] at h
        obtain ⟨_, hrequire, -⟩ := h
        exact Dialect.require_ok.1 hrequire
      | _ => exact absurd hf List.not_mem_nil
    case password =>
      obtain ⟨clause, hclause, rfl⟩ := hcases
      exact supports_of_passwordClause hclause hf
    all_goals
      dsimp only at hcases
      rw [hcases] at hf
      exact absurd hf List.not_mem_nil

/-- A membership is granted in the same words everywhere. -/
theorem fits_grantMembership (dialect : Dialect) (group role : String) :
    (Statement.grantMembership group role).Fits dialect :=
  Statement.fits_of_needs_eq_nil trivial rfl

theorem fits_of_creationPlan (h : spec.creationPlan dialect = .ok plan) :
    ∀ c ∈ plan, c.Fits dialect := by
  unfold creationPlan at h
  obtain ⟨creation, hcreation, h⟩ := Except.bind_ok.1 h
  obtain rfl := Except.ok.inj h
  intro c hc
  rcases List.mem_cons.1 hc with rfl | hc
  · exact fits_of_creation hcreation
  · obtain ⟨group, -, rfl⟩ := List.mem_map.1 hc
    exact fits_grantMembership dialect group spec.name

theorem fits_of_updatePlan {r : ObservedRole} (h : spec.updatePlan dialect r = .ok plan) :
    ∀ c ∈ plan, c.Fits dialect := by
  intro c hc
  obtain ⟨change, -, hchange⟩ := (mem_planChanges h).1 hc
  exact fits_of_statement? hchange

end DeclaredRole

theorem RoleRemoval.fits_of_plan (options : RoleRemoval) (name user : String) (dialect : Dialect) :
    ∀ c ∈ options.plan name user dialect, c.Fits dialect := by
  have hreassign : (Statement.reassign name user dialect).Fits dialect := by
    unfold Statement.reassign
    by_cases hsupports : dialect.supports .reassignOwnedCurrentUser = true
    · rw [if_pos hsupports]
      exact Statement.fits_of_needs_eq_singleton trivial rfl hsupports
    · rw [if_neg hsupports]
      exact Statement.fits_of_needs_eq_nil trivial rfl
  have howned : (Statement.dropOwned name).Fits dialect :=
    Statement.fits_of_needs_eq_nil trivial rfl
  have hrole : (Statement.dropRole name).Fits dialect :=
    Statement.fits_of_needs_eq_nil trivial rfl
  intro c hc
  unfold plan at hc
  rcases List.mem_append.1 hc with hc | hc
  · rw [List.mem_ite_nil_left, List.mem_cons, List.mem_singleton] at hc
    rcases hc.2 with rfl | rfl
    · exact hreassign
    · exact howned
  · rw [List.mem_ite_nil_left, List.mem_singleton] at hc
    exact hc.2 ▸ hrole

/-! ## When a plan cannot be made -/

theorem Dialect.failsOnly_require (dialect : Dialect) (f : Feature) :
    FailsOnly (fun e => e.isUnsupported = true) (dialect.require f) := by
  unfold require
  split
  · exact .ok ()
  · exact .error rfl

namespace DeclaredRole

variable {spec : DeclaredRole} {dialect : Dialect}

theorem failsOnly_passwordClause (spec : DeclaredRole) (dialect : Dialect) :
    FailsOnly (fun e => e.isUnsupported = true) (spec.passwordClause dialect) := by
  unfold passwordClause
  split
  · exact .ok none
  · split
    · exact .ok _
    · split
      · exact .ok _
      · exact (dialect.failsOnly_require _).bind fun _ => .ok _

theorem unsupported_passwordClause :
    Unsupported (spec.passwordClause dialect) ↔
      spec.NeedsUnencrypted ∧ dialect.supports .unencryptedPassword = false := by
  unfold passwordClause
  cases hp : spec.password with
  | none => exact iff_of_false (not_unsupported_ok _) fun h => h.1.declared hp
  | some p =>
    dsimp only
    split
    · next hremoves =>
      exact iff_of_false (not_unsupported_ok _) fun h => nomatch h.1.keeps.symm.trans hremoves
    · next hkeeps =>
      split
      · next hencrypted =>
        exact iff_of_false (not_unsupported_ok _)
          fun h => nomatch h.1.unencrypted.symm.trans hencrypted
      · next hunencrypted =>
        have hneeds : spec.NeedsUnencrypted :=
          ⟨by simp [hp], Bool.eq_false_iff.2 hkeeps, Bool.eq_false_iff.2 hunencrypted⟩
        simp [unsupported_bind, Dialect.unsupported_require, hneeds, pure, Except.pure,
          not_unsupported_ok]

theorem unsupported_bypassSetting {bypass : Option Bool} :
    Unsupported (bypassSetting bypass dialect) ↔
      bypass ≠ none ∧ dialect.supports .rowLevelSecurity = false := by
  cases bypass with
  | none => exact iff_of_false (not_unsupported_ok _) fun h => h.1 rfl
  | some on =>
    simp [bypassSetting, unsupported_bind, Dialect.unsupported_require, pure, Except.pure,
      not_unsupported_ok]

theorem failsOnly_bypassSetting (bypass : Option Bool) (dialect : Dialect) :
    FailsOnly (fun e => e.isUnsupported = true) (bypassSetting bypass dialect) := by
  cases bypass with
  | none => exact .ok none
  | some on => exact (dialect.failsOnly_require _).bind fun _ => .ok _

/-- A role cannot be created if and only if it is declared whether it bypasses row-level security
and the server has none, or its password is declared unencrypted and the server stores no such
passwords. -/
theorem unsupported_creationPlan :
    Unsupported (spec.creationPlan dialect) ↔
      spec.bypassRowLevelSecurity ≠ none ∧ dialect.supports .rowLevelSecurity = false ∨
        spec.NeedsUnencrypted ∧ dialect.supports .unencryptedPassword = false := by
  rw [← unsupported_bypassSetting, ← unsupported_passwordClause]
  unfold creationPlan creation
  simp only [unsupported_bind, pure, Except.pure, not_unsupported_ok, and_false, exists_false,
    or_false]
  by_cases hbypass : Unsupported (bypassSetting spec.bypassRowLevelSecurity dialect)
  · simp [hbypass]
  · obtain ⟨setting, hsetting⟩ :=
      (failsOnly_bypassSetting spec.bypassRowLevelSecurity dialect).ok_iff_not_unsupported.2 hbypass
    simp [hsetting, not_unsupported_ok]

theorem failsOnly_statement? (change : RoleChange) (spec : DeclaredRole) (dialect : Dialect) :
    FailsOnly (fun e => e.isUnsupported = true) (change.statement? spec dialect) := by
  rcases change with ⟨old, new⟩ | (⟨f, on⟩ | limit) | _ | e | g | g
  case attribute.flag =>
    simp only [RoleChange.statement?]
    split
    · exact (dialect.failsOnly_require _).bind fun _ => .ok _
    · exact .ok _
  case password => exact (spec.failsOnly_passwordClause dialect).bind fun _ => .ok _
  all_goals exact .ok _

theorem unsupported_statement? {change : RoleChange} :
    Unsupported (change.statement? spec dialect) ↔
      (∃ on, change = .attribute (.flag .bypassRowLevelSecurity on)) ∧
          dialect.supports .rowLevelSecurity = false ∨
        change = .password ∧ spec.NeedsUnencrypted ∧
          dialect.supports .unencryptedPassword = false := by
  rcases change with ⟨old, new⟩ | (⟨f, on⟩ | limit) | _ | e | g | g
  case attribute.flag =>
    simp only [RoleChange.statement?]
    by_cases hf : f = .bypassRowLevelSecurity
    · subst hf
      simp [unsupported_bind, Dialect.unsupported_require, pure, Except.pure, not_unsupported_ok]
    · simp [hf, pure, Except.pure, not_unsupported_ok]
  case password =>
    simp [RoleChange.statement?, unsupported_bind, unsupported_passwordClause, pure, Except.pure,
      not_unsupported_ok]
  all_goals simp [RoleChange.statement?, pure, Except.pure, not_unsupported_ok]

theorem failsOnly_updatePlan (spec : DeclaredRole) (dialect : Dialect) (r : ObservedRole) :
    FailsOnly (fun e => e.isUnsupported = true) (spec.updatePlan dialect r) :=
  (FailsOnly.mapM (fun change => failsOnly_statement? change spec dialect) _).bind fun _ => .ok _

/-- A role cannot be changed if and only if it should bypass row-level security, or should not, and
that is not what was observed and the server has none, or if another password is declared, which is
declared unencrypted, and the server stores no such passwords. -/
theorem unsupported_updatePlan {r : ObservedRole} :
    Unsupported (spec.updatePlan dialect r) ↔
      (∃ on, spec.bypassRowLevelSecurity = some on ∧ r.bypassRowLevelSecurity ≠ some on) ∧
          dialect.supports .rowLevelSecurity = false ∨
        spec.NeedsUnencrypted ∧ spec.password ≠ r.password ∧
          dialect.supports .unencryptedPassword = false := by
  unfold updatePlan planChanges
  simp only [unsupported_bind, unsupported_mapM fun c => failsOnly_statement? c spec dialect, pure,
    Except.pure, not_unsupported_ok, and_false, exists_false, or_false, unsupported_statement?,
    ObservedRole.mem_changesTo, and_or_left, exists_or]
  refine or_congr ?_ ?_
  · constructor
    · rintro ⟨_, hneeds, ⟨on, rfl⟩, hsupports⟩
      exact ⟨⟨on, hneeds⟩, hsupports⟩
    · rintro ⟨⟨on, hneeds⟩, hsupports⟩
      exact ⟨.attribute (.flag .bypassRowLevelSecurity on), hneeds, ⟨on, rfl⟩, hsupports⟩
  · constructor
    · rintro ⟨_, hneeds, rfl, hunencrypted, hsupports⟩
      exact ⟨hunencrypted, hneeds.2, hsupports⟩
    · rintro ⟨hunencrypted, hother, hsupports⟩
      exact ⟨.password, ⟨hunencrypted.declared, hother⟩, rfl, hunencrypted, hsupports⟩

/-- What is known of a role that was just written always leads to a plan: the password is the
declared one, and where the server has no row-level security, so is whether it is bypassed. -/
theorem exists_updatePlan_known {σ : Type} (ctx : Context σ) (spec : DeclaredRole)
    (r : ObservedRole) :
    ∃ left, spec.updatePlan ctx.dialect (Session.known ctx (some spec) r) = .ok left := by
  rw [(failsOnly_updatePlan _ _ _).ok_iff_not_unsupported, unsupported_updatePlan]
  rintro (⟨⟨on, hon, hne⟩, hsupports⟩ | ⟨-, hne, -⟩)
  · refine hne ?_
    simp [Session.known, hsupports, hon]
  · exact hne rfl

end DeclaredRole

end Accord
