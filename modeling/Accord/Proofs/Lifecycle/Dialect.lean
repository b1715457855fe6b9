import Accord.Proofs.Lifecycle.Preview
import Accord.Proofs.Lifecycle.Rejection
import Accord.Proofs.Role.Dialect

/-!
# Statements of operations in the dialect of a server

Every statement that is planned for an object fits the dialect that it is planned for, and so does
every statement of a plan for what is read again.  Operations give no other statements
(`Lifecycle.Fits`), so that whatever is called, the statements fit (`Call.givesOnly_fits`).
-/

namespace Accord

variable {σ δ ο ω : Type} {dialect : Dialect} {plan : Plan}

/-! ## Plans -/

theorem GranteeChange.fits_statement (c : GranteeChange) (schema : String) (dialect : Dialect) :
    (c.statement schema).Fits dialect := by
  cases c <;> exact Statement.fits_of_needs_eq_nil trivial rfl

/-- Servers that do not know the words are not told that a schema may exist. -/
theorem Statement.fits_newSchema (name : String) (owner : Option String) (ifNotExists : Bool)
    (dialect : Dialect) : (Statement.newSchema name owner ifNotExists dialect).Fits dialect where
  quoted := trivial
  supported f hf := by
    unfold Statement.newSchema Statement.needs at hf
    rw [List.mem_ite_nil_right, Bool.and_eq_true, List.mem_singleton] at hf
    obtain ⟨⟨-, hsupports⟩, rfl⟩ := hf
    exact hsupports

theorem NormalSchema.fits_of_planFrom {spec : NormalSchema} (user : String)
    (found : Option ObservedSchema) (h : spec.planFrom user dialect found = .ok plan) :
    ∀ c ∈ plan, c.Fits dialect := by
  intro c hc
  cases found with
  | none =>
    obtain rfl := Except.ok.inj h
    rcases List.mem_cons.1 hc with rfl | hc
    · exact Statement.fits_newSchema _ _ _ _
    · obtain ⟨change, -, rfl⟩ := List.mem_map.1 hc
      exact change.fits_statement _ _
  | some current =>
    obtain ⟨-, rfl⟩ := updatePlan_ok.1 h
    simp only [List.mem_append, List.mem_ite_nil_left, List.mem_singleton, Option.mem_toList,
      Option.map_eq_some_iff, List.mem_map] at hc
    rcases hc with (⟨-, rfl⟩ | ⟨owner, -, rfl⟩) | ⟨change, -, rfl⟩
    · exact Statement.fits_of_needs_eq_nil trivial rfl
    · exact Statement.fits_of_needs_eq_nil trivial rfl
    · exact change.fits_statement _ _

theorem DeclaredExtension.fits_of_planFrom {spec : DeclaredExtension} {database : String}
    (found : Option InstalledExtension) (hfeature : dialect.supports .extension = true)
    (hdatabase : spec.database = some database) (h : spec.planFrom found = .ok plan) :
    ∀ c ∈ plan, c.Fits dialect := by
  intro c hc
  cases found with
  | none =>
    obtain rfl := Except.ok.inj h
    obtain rfl := List.mem_singleton.1 hc
    exact Statement.fits_of_needs_eq_singleton trivial rfl hfeature
  | some current =>
    obtain ⟨-, -, rfl⟩ := (updatePlan_ok hdatabase).1 h
    simp only [List.mem_append, Option.mem_toList, Option.map_eq_some_iff] at hc
    rcases hc with ⟨_, -, rfl⟩ | ⟨_, -, rfl⟩
    · exact Statement.fits_of_needs_eq_singleton trivial rfl hfeature
    · exact Statement.fits_of_needs_eq_singleton trivial rfl hfeature

theorem RuleKey.fits_of_mem_revokeAll {key : RuleKey}
    (hfeature : dialect.supports .defaultPrivileges = true) :
    ∀ c ∈ key.revokeAll, c.Fits dialect := by
  intro c hc
  obtain rfl := List.mem_singleton.1 hc
  exact Statement.fits_of_needs_eq_singleton trivial rfl hfeature

theorem Rule.fits_of_plan {rule : Rule} (found : Option Rule)
    (hfeature : dialect.supports .defaultPrivileges = true) (h : rule.plan found = .ok plan) :
    ∀ c ∈ plan, c.Fits dialect := by
  have hfrom : ∀ held, ∀ c ∈ rule.planFrom held, c.Fits dialect := by
    intro held c hc
    rcases List.mem_append.1 hc with hc | hc
    · rw [(RuleKey.mem_revoke.1 hc).2]
      exact Statement.fits_of_needs_eq_singleton trivial rfl hfeature
    · rw [(RuleKey.mem_grant.1 hc).2]
      exact Statement.fits_of_needs_eq_singleton trivial rfl hfeature
  cases found with
  | none =>
    obtain rfl := Except.ok.inj h
    exact hfrom ∅
  | some old =>
    simp only [Rule.plan] at h
    split at h
    · obtain rfl := Except.ok.inj h
      exact hfrom _
    · split at h
      · cases h
      · obtain rfl := Except.ok.inj h
        intro c hc
        rcases List.mem_append.1 hc with hc | hc
        · exact RuleKey.fits_of_mem_revokeAll hfeature c hc
        · exact hfrom ∅ c hc

/-! ## Operations -/

/-- The command runs no statement that does not fit. -/
def Command.Fits (dialect : Dialect) (c : Command) : Prop :=
  ∀ s, c = .run s → s.Fits dialect

/-- A plan of which all statements fit is applied by commands that fit. -/
theorem Session.givesOnly_fits {session : Session σ} (h : ∀ c ∈ plan, c.Fits dialect) :
    (session.apply plan).GivesOnly (Command.Fits dialect) session.server :=
  Session.givesOnly_apply (fun c hc _ hs => Command.run.inj hs ▸ h c hc)
    fun _ hc s hs => absurd hs (hc s)

/-- What is done in a section under a side of the lock gives the commands of the session. -/
theorem Context.givesOnly_section {ctx : Context σ} {side : Side} {database : String} {α : Type}
    {f : Session σ → Run σ α} {P : Command → Prop}
    (h : (f (ctx.opened database)).GivesOnly P ctx.server) :
    Run.GivesOnly P (do
      ctx.hold side
      let s ← ctx.session database
      f s) ctx.server :=
  (ctx.quietOn_hold side).givesOnly.bind fun _ => Context.givesOnly_session h

/-- A plan that a section was opened with was made in its session. -/
theorem Writing.prepare_of_opening {w : Writing σ ο} {ctx : Context σ} {s t : σ}
    (h : (w.opening ctx).result s = (.ok plan, t)) :
    ∃ u, (w.prepare (ctx.opened w.database)).result u = (.ok plan, t) := by
  unfold opening at h
  simp only [Run.result_bind_ok, Context.result_session] at h
  obtain ⟨-, -, -, _, u, ⟨-, rfl⟩, h⟩ := h
  exact ⟨u, h⟩

/-- All plans of the section, those that are made and those for what is read again, consist of
statements that fit. -/
structure Writing.Fits (w : Writing σ ο) (session : Session σ) (dialect : Dialect) : Prop where
  prepare {s t : σ} {plan : Plan} : (w.prepare session).result s = (.ok plan, t) →
    ∀ c ∈ plan, c.Fits dialect
  replan {o : ο} {left : Plan} : w.replan o = .ok left → ∀ c ∈ left, c.Fits dialect

theorem Writing.Fits.givesOnly_run {w : Writing σ ο} {ctx : Context σ}
    (h : w.Fits (ctx.opened w.database) dialect) (hquiet : w.Quiet (ctx.opened w.database)) :
    (w.run ctx).GivesOnly (Command.Fits dialect) ctx.server := by
  rw [run_eq]
  refine hquiet.opening.givesOnly.bind_of fun s plan t hopening => ?_
  obtain ⟨u, hprepare⟩ := Writing.prepare_of_opening hopening
  have happly : ((ctx.opened w.database).apply plan).GivesOnly (Command.Fits dialect) ctx.server :=
    Session.givesOnly_fits (h.prepare hprepare)
  exact happly.bind fun n => (hquiet.verify n).givesOnly

/-- All statements of the kind fit: those that are planned, those of write sections, and those by
which objects are deleted. -/
structure Lifecycle.Fits (k : Lifecycle δ ο ω) (ctx : Context σ)
    (writing : String → Option ο → δ → Except Error (Writing σ ο)) : Prop where
  writes : k.Writes ctx writing
  written {id : String} {found : Option ο} {desired : δ} {w : Writing σ ο} :
    writing id found desired = .ok w → w.Fits (ctx.opened w.database) ctx.dialect
  plan {found : Option ο} {desired : δ} {plan : Plan} :
    k.plan ctx found desired = .ok plan → ∀ c ∈ plan, c.Fits ctx.dialect
  delete (id : String) (options : ω) :
    (k.delete ctx id options).GivesOnly (Command.Fits ctx.dialect) ctx.server

namespace Lifecycle

theorem fits_roles (ctx : Context σ) : roles.Fits ctx (Role.writing ctx) := by
  have hfrom : ∀ {spec : DeclaredRole} {found : Option ObservedRole} {plan : Plan},
      spec.planFrom ctx.dialect found = .ok plan → ∀ c ∈ plan, c.Fits ctx.dialect := by
    intro spec found plan h
    cases found with
    | none => exact DeclaredRole.fits_of_creationPlan h
    | some r => exact DeclaredRole.fits_of_updatePlan h
  refine ⟨writes_roles ctx, fun {id found desired w} hw => ?_, fun {found desired plan} h => ?_,
    fun id options => ?_⟩
  · obtain ⟨-, -, spec, plan, -, hplan, rfl⟩ := Role.writing_ok.1 hw
    refine ⟨fun hprepare => ?_, DeclaredRole.fits_of_updatePlan⟩
    obtain ⟨rfl, -⟩ := Run.result_pure_ok.1 hprepare
    exact hfrom hplan
  · rw [show roles.plan ctx found desired = _ from Role.plan_eq ctx found desired,
      Except.bind_ok] at h
    obtain ⟨spec, -, h⟩ := h
    exact hfrom h
  · refine .liftM_bind fun _ _ => .liftM_bind fun name _ => ?_
    dsimp only
    split
    · exact .pure ()
    · refine Context.givesOnly_section (Run.GivesOnly.bind ?_ fun _ => .pure ())
      exact Session.givesOnly_fits (options.fits_of_plan _ _ _)

theorem fits_schemas (ctx : Context σ) : schemas.Fits ctx fun _ => Schema.writing ctx := by
  refine ⟨writes_schemas ctx, fun {id found desired w} hw => ?_, fun {found desired plan} h => ?_,
    fun id options => ?_⟩
  · obtain ⟨-, spec, plan, -, hplan, rfl⟩ := Schema.writing_ok.1 hw
    refine ⟨fun hprepare => ?_, fun {o left} hleft => ?_⟩
    · obtain ⟨rfl, -⟩ := Run.result_pure_ok.1 hprepare
      exact NormalSchema.fits_of_planFrom _ _ hplan
    · exact NormalSchema.fits_of_planFrom "" (some o) hleft
  · rw [show schemas.plan ctx found desired = _ from Schema.plan_eq ctx found desired,
      Except.bind_ok] at h
    obtain ⟨spec, -, h⟩ := h
    exact NormalSchema.fits_of_planFrom _ _ h
  · refine .liftM_bind fun _ _ => .liftM_bind fun _ _ => ?_
    refine Context.givesOnly_section (Run.GivesOnly.bind ?_ fun _ => .pure ())
    refine Session.givesOnly_fits fun c hc => ?_
    obtain rfl := List.mem_singleton.1 hc
    exact Statement.fits_of_needs_eq_nil trivial rfl

theorem fits_extensions (ctx : Context σ) :
    extensions.Fits ctx fun _ => Extension.writing ctx := by
  refine ⟨writes_extensions ctx, fun {id found desired w} hw => ?_,
    fun {found desired plan} h => ?_, fun id options => ?_⟩
  · simp only [Extension.writing, Except.bind_ok, Dialect.require_ok] at hw
    obtain ⟨-, -, -, hfeature, spec, hspec, plan, hplan, database, -, hw⟩ := hw
    obtain rfl := Except.ok.inj hw
    obtain ⟨_, hdeclared, -⟩ := DeclaredExtension.normalize_ok hspec
    refine ⟨fun hprepare => ?_, fun {o left} hleft => ?_⟩
    · obtain ⟨rfl, -⟩ := Run.result_pure_ok.1 hprepare
      exact DeclaredExtension.fits_of_planFrom _ hfeature hdeclared hplan
    · exact DeclaredExtension.fits_of_planFrom (some o) hfeature hdeclared hleft
  · rw [show extensions.plan ctx found desired = _ from Extension.plan_eq ctx found desired] at h
    simp only [Except.bind_ok, Dialect.require_ok] at h
    obtain ⟨-, hfeature, spec, hspec, h⟩ := h
    obtain ⟨_, hdeclared, -⟩ := DeclaredExtension.normalize_ok hspec
    exact DeclaredExtension.fits_of_planFrom _ hfeature hdeclared h
  · refine .liftM_bind fun _ _ => .liftM_bind fun _ hfeature => .liftM_bind fun key _ => ?_
    refine Context.givesOnly_section (Run.GivesOnly.bind ?_ fun _ => .pure ())
    refine Session.givesOnly_fits fun c hc => ?_
    obtain rfl := List.mem_singleton.1 hc
    exact Statement.fits_of_needs_eq_singleton trivial rfl (Dialect.require_ok.1 hfeature)

/-- The plan for a rule that is made in a session. -/
theorem Rule.plan_of_prepare {rule : Rule} {found : Option Rule} {session : Session σ} {s t : σ}
    {plan : Plan} (h : (prepare rule found session).result s = (.ok plan, t)) :
    ∃ before, rule.plan before = .ok plan := by
  cases found with
  | some old => exact ⟨some old, (Run.result_ofExcept.1 h).1⟩
  | none =>
    obtain ⟨before, u, -, h⟩ := Run.result_bind_ok.1 h
    exact ⟨before, (Run.result_ofExcept.1 h).1⟩

theorem fits_rules (ctx : Context σ) : rules.Fits ctx fun _ => Rule.writing ctx := by
  refine ⟨writes_rules ctx, fun {id found desired w} hw => ?_,
    fun {found desired plan} h => ?_, fun id options => ?_⟩
  · simp only [Rule.writing, Except.bind_ok, Dialect.require_ok] at hw
    obtain ⟨-, -, -, hfeature, rule, -, hw⟩ := hw
    obtain rfl := Except.ok.inj hw
    refine ⟨fun hprepare => ?_, fun {o left} hleft => ?_⟩
    · obtain ⟨before, hplan⟩ := Rule.plan_of_prepare hprepare
      exact Accord.Rule.fits_of_plan _ hfeature hplan
    · exact Accord.Rule.fits_of_plan (some o) hfeature hleft
  · obtain ⟨_, hfeature, h⟩ := Except.bind_ok.1 h
    obtain ⟨rule, -, h⟩ := Except.bind_ok.1 h
    exact Accord.Rule.fits_of_plan _ (Dialect.require_ok.1 hfeature) h
  · refine .liftM_bind fun _ _ => .liftM_bind fun _ hfeature => .liftM_bind fun key _ => ?_
    refine Context.givesOnly_section (Run.GivesOnly.bind ?_ fun _ => .pure ())
    exact Session.givesOnly_fits
      (RuleKey.fits_of_mem_revokeAll (Dialect.require_ok.1 hfeature))

/-- Objects of a kind are written and deleted by statements that fit. -/
theorem Fits.givesOnly {k : Lifecycle δ ο ω} {ctx : Context σ}
    {writing : String → Option ο → δ → Except Error (Writing σ ο)} (h : k.Fits ctx writing) :
    k.GivesOnly (Command.Fits ctx.dialect) ctx where
  write id found desired := by
    rw [h.writes.write]
    exact .liftM_bind fun w hw => (h.written hw).givesOnly_run (h.writes.quiet hw)
  delete := h.delete

end Lifecycle

/-- All statements that are given by a call fit the dialect of the context. -/
theorem Call.givesOnly_fits (ctx : Context σ) (call : Call) :
    (call.run ctx).GivesOnly (Command.Fits ctx.dialect) ctx.server :=
  Call.givesOnly {
    roles := (Lifecycle.fits_roles ctx).givesOnly
    schemas := (Lifecycle.fits_schemas ctx).givesOnly
    extensions := (Lifecycle.fits_extensions ctx).givesOnly
    rules := (Lifecycle.fits_rules ctx).givesOnly } call

end Accord
