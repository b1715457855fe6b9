import Accord.Proofs.Lifecycle.Dialect
import Accord.Proofs.Lifecycle.Report

/-!
# Operations and the features of a server

Every statement that an operation plans, gives or reports as drift is understood by the connected
server, whatever its version.  And an operation fails because a feature is missing if and only if
there is no plan without it: names, identities and observed states need none, so what is left is
what is declared about roles, and the two kinds of objects that older servers do not have
(`statements_fit_server`).
-/

namespace Accord

variable {σ δ ο ω α β : Type} {dialect : Dialect}

/-! ## When a feature is missing -/

/-- The operation fails because a feature is missing. -/
def Run.Unsupported (m : Run σ α) (s : σ) : Prop :=
  ∃ feature version t, m.result s = (.error (.failed (.unsupported feature version)), t)

theorem Run.unsupported_liftM_bind {x : Except Error α} {f : α → Run σ β} {s : σ} :
    Run.Unsupported ((liftM x : Run σ α) >>= f) s ↔
      Accord.Unsupported x ∨ ∃ a, x = .ok a ∧ (f a).Unsupported s := by
  cases x with
  | ok a =>
    show (f a).Unsupported s ↔ _
    simp [not_unsupported_ok]
  | error e =>
    constructor
    · rintro ⟨feature, version, t, h⟩
      obtain rfl := Halt.failed.inj (Except.error.inj (Prod.mk.inj h).1)
      exact .inl ⟨feature, version, rfl⟩
    · rintro (⟨feature, version, h⟩ | ⟨a, h, -⟩)
      · obtain rfl := Except.error.inj h
        exact ⟨feature, version, s, rfl⟩
      · exact nomatch h

theorem Run.FailsOnly.not_unsupported {m : Run σ α}
    (h : m.FailsOnly fun e => e.isUnsupported = false) (s : σ) : ¬m.Unsupported s :=
  fun ⟨_, _, t, hrun⟩ => nomatch h s _ t hrun

theorem Error.isUnsupported_of_not_isRejection {e : Error} (h : e.isRejection = false) :
    e.isUnsupported = false := by
  cases e <;> first | rfl | cases h

theorem Context.not_unsupported_requireWritable (ctx : Context σ) :
    ¬Unsupported ctx.requireWritable := by
  unfold requireWritable
  split
  · exact fun ⟨_, _, h⟩ => nomatch h
  · exact not_unsupported_ok ()

/-- What is declared about a role, and is not so yet, cannot be said to a server of the version. -/
def DeclaredRole.HasNoWords (spec : DeclaredRole) (v : Version) : Option ObservedRole → Prop
  | none =>
    spec.bypassRowLevelSecurity ≠ none ∧ ¬v.Since 9 5 ∨ spec.NeedsUnencrypted ∧ v.Since 10 0
  | some r =>
    (∃ on, spec.bypassRowLevelSecurity = some on ∧ r.bypassRowLevelSecurity ≠ some on) ∧
        ¬v.Since 9 5 ∨
      spec.NeedsUnencrypted ∧ spec.password ≠ r.password ∧ v.Since 10 0

theorem Dialect.supports_eq_false_iff {dialect : Dialect} {f : Feature} :
    dialect.supports f = false ↔ ¬f.Available dialect.version := by
  rw [← supports_iff, Bool.not_eq_true]

theorem DeclaredRole.unsupported_planFrom {spec : DeclaredRole} {found : Option ObservedRole} :
    Unsupported (spec.planFrom dialect found) ↔ spec.HasNoWords dialect.version found := by
  cases found with
  | none =>
    refine unsupported_creationPlan.trans ?_
    simp only [Dialect.supports_eq_false_iff, Feature.Available, Classical.not_not, HasNoWords]
  | some r =>
    refine unsupported_updatePlan.trans ?_
    simp only [Dialect.supports_eq_false_iff, Feature.Available, Classical.not_not, HasNoWords]

/-! ## What needs no feature -/

/-- All failures are about values outside their domain. -/
abbrev FailsAsInvalid (x : Except Error α) : Prop :=
  FailsOnly (fun e => e.isInvalid = true) x

theorem FailsOnly.not_unsupported_of_invalid {x : Except Error α}
    (h : FailsAsInvalid x) : ¬Unsupported x :=
  fun ⟨_, _, hx⟩ => nomatch h _ hx

theorem FailsOnly.supported_of_invalid {x : Except Error α} (h : FailsAsInvalid x) :
    FailsOnly (fun e => e.isUnsupported = false) x :=
  h.mono fun e he => by cases e <;> first | rfl | cases he

theorem failsAsInvalid_normalizeName (raw what : String) :
    FailsAsInvalid (normalizeName raw what) := by
  unfold normalizeName
  dsimp only
  split
  · exact .error rfl
  · split
    · exact .error rfl
    · split
      · exact .error rfl
      · exact .ok _

theorem failsAsInvalid_mapM_normalizeName (raw : Option String) (what : String) :
    FailsAsInvalid (raw.mapM fun r => normalizeName r what) := by
  cases raw with
  | none => exact .ok none
  | some r => exact (failsAsInvalid_normalizeName r what).bind fun _ => .ok _

theorem failsAsInvalid_splitIdentity (id : String) (expected : List String) :
    FailsAsInvalid (splitIdentity id expected) := by
  unfold splitIdentity
  dsimp only
  split
  · exact .ok _
  · exact .error rfl

theorem ObservedSchema.failsAsInvalid_decodeKey (id : String) : FailsAsInvalid (decodeKey id) := by
  refine (failsAsInvalid_splitIdentity _ _).bind fun parts => ?_
  refine (failsAsInvalid_normalizeName _ _).bind fun database => ?_
  exact (failsAsInvalid_normalizeName _ _).bind fun name => .ok _

theorem InstalledExtension.failsAsInvalid_decodeKey (id : String) :
    FailsAsInvalid (decodeKey id) := by
  refine (failsAsInvalid_splitIdentity _ _).bind fun parts => ?_
  refine (failsAsInvalid_normalizeName _ _).bind fun database => ?_
  exact (failsAsInvalid_normalizeName _ _).bind fun name => .ok _

theorem ObjectType.failsAsInvalid_parse (raw : String) : FailsAsInvalid (parse raw) := by
  unfold parse
  split
  · exact .ok _
  · exact .error rfl

theorem RuleKey.failsAsInvalid_ofNames (database schema owner role : String) :
    FailsAsInvalid (ofNames database schema owner role) := by
  unfold ofNames
  iterate 4 refine (failsAsInvalid_normalizeName _ _).bind fun _ => ?_
  exact .ok _

theorem RuleKey.failsAsInvalid_decode (id : String) : FailsAsInvalid (decode id) := by
  refine (failsAsInvalid_splitIdentity _ _).bind fun parts => ?_
  refine (failsAsInvalid_ofNames _ _ _ _).bind fun key => ?_
  exact (ObjectType.failsAsInvalid_parse _).bind fun type => .ok _

namespace DeclaredSchema

theorem failsAsInvalid_normalizePolicies (l : List DeclaredPolicy) (policies : Policies) :
    FailsAsInvalid (normalizePolicies l policies) := by
  induction l generalizing policies with
  | nil => exact .ok policies
  | cons p l ih => exact (failsAsInvalid_normalizeName _ _).bind fun role => ih _

theorem failsAsInvalid_normalize (desired : DeclaredSchema) (defaultDatabase : String) :
    FailsAsInvalid (desired.normalize defaultDatabase) := by
  refine (failsAsInvalid_normalizePolicies _ _).bind fun policies => ?_
  refine (failsAsInvalid_normalizeName _ _).bind fun name => ?_
  refine (failsAsInvalid_normalizeName _ _).bind fun database => ?_
  exact (failsAsInvalid_mapM_normalizeName _ _).bind fun owner => .ok _

end DeclaredSchema

theorem NormalSchema.failsAsInvalid_planFrom (spec : NormalSchema) (user : String)
    (dialect : Dialect) (found : Option ObservedSchema) :
    FailsAsInvalid (spec.planFrom user dialect found) := by
  cases found with
  | none => exact .ok _
  | some current =>
    show FailsAsInvalid ((current.changesTo spec).map _)
    unfold ObservedSchema.changesTo
    split
    · exact .error rfl
    · exact .ok _

theorem DeclaredRole.failsAsInvalid_normalize (desired : DeclaredRole) :
    FailsAsInvalid desired.normalize := by
  unfold normalize
  dsimp only
  split
  · exact .error rfl
  · refine (FailsOnly.mapM (fun r => failsAsInvalid_normalizeName r _) _).bind fun roles => ?_
    exact (failsAsInvalid_normalizeName _ _).bind fun name => .ok _

theorem DeclaredExtension.failsAsInvalid_normalize (desired : DeclaredExtension)
    (defaultDatabase : String) : FailsAsInvalid (desired.normalize defaultDatabase) := by
  refine (failsAsInvalid_normalizeName _ _).bind fun name => ?_
  refine (failsAsInvalid_normalizeName _ _).bind fun database => ?_
  exact (failsAsInvalid_mapM_normalizeName _ _).bind fun schema => .ok _

theorem DeclaredExtension.failsAsInvalid_planFrom (spec : DeclaredExtension)
    (found : Option InstalledExtension) : FailsAsInvalid (spec.planFrom found) := by
  cases found with
  | none => exact .ok _
  | some current =>
    show FailsAsInvalid ((current.changesTo spec).map _)
    unfold InstalledExtension.changesTo
    split
    · exact .error rfl
    · split
      · exact .error rfl
      · exact .ok _

theorem DeclaredExtension.failsAsInvalid_databaseOf (spec : DeclaredExtension) :
    FailsAsInvalid spec.databaseOf := by
  unfold databaseOf
  split
  · exact .ok _
  · exact .error rfl

theorem ObjectType.failsAsInvalid_privileges (type : ObjectType) (raw : String) :
    FailsAsInvalid (type.privileges raw) := by
  unfold privileges
  dsimp only
  split
  · exact .ok _
  · split
    · split
      · exact .ok _
      · exact .error rfl
    · exact .error rfl

theorem DeclaredRule.failsAsInvalid_normalize (desired : DeclaredRule) (defaultDatabase : String) :
    FailsAsInvalid (desired.normalize defaultDatabase) := by
  have hset : ∀ type : ObjectType, FailsAsInvalid (type.privilegeSet desired.privileges) :=
    fun type => (FailsOnly.mapM type.failsAsInvalid_privileges _).bind fun _ => .ok _
  refine (ObjectType.failsAsInvalid_parse _).bind fun type => (hset type).bind fun privileges => ?_
  dsimp only
  split
  · exact .error rfl
  · exact (RuleKey.failsAsInvalid_ofNames _ _ _ _).bind fun key => .ok _

theorem Rule.failsAsInvalid_plan (rule : Rule) (found : Option Rule) :
    FailsAsInvalid (rule.plan found) := by
  unfold plan
  split
  · exact .ok _
  · split
    · exact .ok _
    · split
      · exact .error rfl
      · exact .ok _

/-! ## Operations that need a feature -/

namespace Lifecycle

variable {ctx : Context σ}

/-- Checks before anything is written aside, a creation or an update fails because a feature is
missing if and only if no plan can be made without it; and so does a deletion if and only if some
feature is missing. -/
def NeedsOnly (k : Lifecycle δ ο ω) (ctx : Context σ) (own : String → Option ο → Prop)
    (missing : Prop) : Prop :=
  (∀ id found desired s, (k.write ctx id found desired).Unsupported s ↔
    ctx.readOnly = false ∧ own id found ∧ Unsupported (k.plan ctx found desired)) ∧
  ∀ id options s, (k.delete ctx id options).Unsupported s ↔ ctx.readOnly = false ∧ missing

theorem Writes.unsupported_write {k : Lifecycle δ ο ω}
    {writing : String → Option ο → δ → Except Error (Writing σ ο)} (h : k.Writes ctx writing)
    (hserver : ctx.server.PlainErrors)
    (hfails : ∀ {id found desired w}, writing id found desired = .ok w →
      w.FailsWith (fun e => e.isUnsupported = false) (ctx.opened w.database))
    (id : String) (found : Option ο) (desired : δ) (s : σ) :
    (k.write ctx id found desired).Unsupported s ↔ Unsupported (writing id found desired) := by
  rw [h.write, Run.unsupported_liftM_bind]
  refine or_iff_left fun ⟨w, hw, hrun⟩ => ?_
  exact ((hfails hw).run hserver fun _ => Error.isUnsupported_of_not_isRejection).not_unsupported
    s hrun

/-- A section in which a plan is applied needs no feature. -/
theorem not_unsupported_section (hserver : ctx.server.PlainErrors) (database : String)
    (plan : Plan) (s : σ) :
    ¬Run.Unsupported (do
      ctx.hold .exclusive
      let session ← ctx.session database
      let _ ← session.apply plan) s := by
  have hother : ∀ e : Error, e.isRejection = false → e.isUnsupported = false :=
    fun _ => Error.isUnsupported_of_not_isRejection
  refine Run.FailsOnly.not_unsupported ?_ s
  refine (ctx.failsOnly_hold .exclusive).bind fun _ => ?_
  refine ((Context.failsAsServer_session hserver _).neverRejects.mono hother).bind fun session => ?_
  exact ((session.neverRejects_apply plan).mono hother).bind fun _ => .pure ()

theorem FailsAsServer.supported {m : Run σ α} (h : m.FailsAsServer) :
    m.FailsOnly fun e => e.isUnsupported = false :=
  h.neverRejects.mono fun _ => Error.isUnsupported_of_not_isRejection

theorem exists_ok_unit {x : Except Error Unit} : (∃ u, x = .ok u) ↔ x = .ok () :=
  ⟨fun ⟨(), h⟩ => h, fun h => ⟨(), h⟩⟩

theorem needsOnly_roles (hserver : ctx.server.PlainErrors) :
    roles.NeedsOnly ctx (fun id found => Role.requireOwn id found = .ok ()) False := by
  refine ⟨fun id found desired s => ?_, fun id options s => ?_⟩
  · have hown : ¬Unsupported (Role.requireOwn id found) := by
      cases found with
      | none => exact not_unsupported_ok ()
      | some current =>
        refine FailsOnly.not_unsupported_of_invalid ?_
        refine (failsAsInvalid_normalizeName id "role").bind fun name => ?_
        split
        · exact .error rfl
        · exact .ok ()
    rw [(writes_roles ctx).unsupported_write hserver, show roles.plan ctx found desired = _ from
      Role.plan_eq ctx found desired]
    · simp [Role.writing, unsupported_bind, ctx.not_unsupported_requireWritable, hown,
        Context.requireWritable_ok, exists_ok_unit, pure, Except.pure, not_unsupported_ok]
    · intro id found desired w hw
      have hverifies := (verifies_roles hserver).2 hw
      obtain ⟨-, -, spec, plan, -, -, rfl⟩ := Role.writing_ok.1 hw
      exact ⟨.pure plan, FailsAsServer.supported hverifies.reread, hverifies.failsOnly_replan⟩
  · refine iff_of_false ?_ fun h => h.2
    show ¬Run.Unsupported (Role.delete ctx id options) s
    unfold Role.delete
    simp only [Run.unsupported_liftM_bind, ctx.not_unsupported_requireWritable, false_or,
      (failsAsInvalid_normalizeName _ _).not_unsupported_of_invalid]
    rintro ⟨_, -, name, -, h⟩
    split at h
    · obtain ⟨_, _, _, h⟩ := h
      cases h
    · exact not_unsupported_section hserver _ _ s h

theorem needsOnly_schemas (hserver : ctx.server.PlainErrors) :
    schemas.NeedsOnly ctx (fun _ _ => True) False := by
  refine ⟨fun id found desired s => ?_, fun id options s => ?_⟩
  · rw [(writes_schemas ctx).unsupported_write hserver, show schemas.plan ctx found desired = _ from
      Schema.plan_eq ctx found desired]
    · simp [Schema.writing, unsupported_bind, ctx.not_unsupported_requireWritable,
        Context.requireWritable_ok, pure, Except.pure, not_unsupported_ok]
    · intro id found desired w hw
      have hverifies := @(verifies_schemas hserver).2 id found desired w hw
      obtain ⟨-, spec, plan, -, -, rfl⟩ := Schema.writing_ok.1 hw
      exact ⟨.pure plan, FailsAsServer.supported hverifies.reread, hverifies.failsOnly_replan⟩
  · refine iff_of_false ?_ fun h => h.2
    show ¬Run.Unsupported (Schema.delete ctx id options) s
    unfold Schema.delete
    have hkey : ¬Unsupported (ObservedSchema.decodeKey id) :=
      FailsOnly.not_unsupported_of_invalid (ObservedSchema.failsAsInvalid_decodeKey id)
    simp only [Run.unsupported_liftM_bind, ctx.not_unsupported_requireWritable, false_or, hkey]
    rintro ⟨_, -, key, -, h⟩
    exact not_unsupported_section hserver _ _ s h

/-- Of a check, the check for a feature, a key and what is done with the key, only the second can
find a feature missing. -/
theorem unsupported_gated {α : Type} {f : Feature} {key : Except Error α} {body : α → Run σ Unit}
    (hkey : FailsAsInvalid key) {s : σ} (hbody : ∀ a, ¬(body a).Unsupported s) :
    Run.Unsupported (do
      ctx.requireWritable
      ctx.dialect.require f
      let a ← key
      body a) s ↔ ctx.readOnly = false ∧ ¬f.Available ctx.dialect.version := by
  simp only [Run.unsupported_liftM_bind, ctx.not_unsupported_requireWritable, false_or,
    hkey.not_unsupported_of_invalid, hbody, and_false, exists_false, or_false,
    Dialect.unsupported_require, Dialect.supports_eq_false_iff]
  exact ⟨fun ⟨(), h, hf⟩ => ⟨Context.requireWritable_ok.1 h, hf⟩,
    fun ⟨h, hf⟩ => ⟨(), Context.requireWritable_ok.2 h, hf⟩⟩

theorem needsOnly_extensions (hserver : ctx.server.PlainErrors) :
    extensions.NeedsOnly ctx (fun _ _ => True) (¬ctx.dialect.version.Since 9 1) := by
  refine ⟨fun id found desired s => ?_, fun id options s => ?_⟩
  · rw [(writes_extensions ctx).unsupported_write hserver,
      show extensions.plan ctx found desired = _ from Extension.plan_eq ctx found desired]
    · have hinvalid : ∀ spec : DeclaredExtension, ¬Unsupported (spec.planFrom found) ∧
          ¬Unsupported spec.databaseOf := fun spec =>
        ⟨(spec.failsAsInvalid_planFrom found).not_unsupported_of_invalid,
          spec.failsAsInvalid_databaseOf.not_unsupported_of_invalid⟩
      simp [Extension.writing, unsupported_bind, ctx.not_unsupported_requireWritable, hinvalid,
        Context.requireWritable_ok, pure, Except.pure, not_unsupported_ok]
    · intro id found desired w hw
      obtain ⟨-, -, spec, plan, database, -, -, -, rfl⟩ := Extension.writing_ok.1 hw
      exact ⟨.pure plan, FailsAsServer.supported (Session.failsAsServer_extension? hserver _ _),
        fun {_ _ o} _ => (spec.failsAsInvalid_planFrom (some o)).supported_of_invalid⟩
  · exact unsupported_gated (InstalledExtension.failsAsInvalid_decodeKey id) fun key =>
      not_unsupported_section hserver _ _ s

theorem needsOnly_rules (hserver : ctx.server.PlainErrors) :
    rules.NeedsOnly ctx (fun _ _ => True) (¬ctx.dialect.version.Since 9 0) := by
  refine ⟨fun id found desired s => ?_, fun id options s => ?_⟩
  · rw [(writes_rules ctx).unsupported_write hserver]
    · have hinvalid : ∀ rule : Accord.Rule, ¬Unsupported (rule.plan found) := fun rule =>
        (rule.failsAsInvalid_plan found).not_unsupported_of_invalid
      show _ ↔ _ ∧ _ ∧ Unsupported (Rule.plan ctx found desired)
      simp [Rule.writing, Rule.plan, unsupported_bind, ctx.not_unsupported_requireWritable,
        hinvalid, Context.requireWritable_ok, pure, Except.pure, not_unsupported_ok]
    · intro id found desired w hw
      obtain ⟨-, -, rule, -, rfl⟩ := Rule.writing_ok.1 hw
      have hreread : ((ctx.opened rule.key.database).rule? rule.key).FailsOnly
          fun e => e.isUnsupported = false :=
        FailsAsServer.supported (Session.failsAsServer_rule? hserver _)
      refine ⟨?_, hreread, fun {_ _ o} _ =>
        (rule.failsAsInvalid_plan (some o)).supported_of_invalid⟩
      cases found with
      | some old => exact .ofExcept (rule.failsAsInvalid_plan (some old)).supported_of_invalid
      | none =>
        exact hreread.bind fun before =>
          .ofExcept (rule.failsAsInvalid_plan before).supported_of_invalid
  · exact unsupported_gated (RuleKey.failsAsInvalid_decode id) fun key =>
      not_unsupported_section hserver _ _ s

/-! ## Plans -/

theorem unsupported_plan_roles (found : Option ObservedRole) (desired : DeclaredRole) :
    Unsupported (roles.plan ctx found desired) ↔
      ∃ spec, desired.normalize = .ok spec ∧ spec.HasNoWords ctx.dialect.version found := by
  rw [show roles.plan ctx found desired = _ from Role.plan_eq ctx found desired, unsupported_bind,
    or_iff_right desired.failsAsInvalid_normalize.not_unsupported_of_invalid]
  simp only [DeclaredRole.unsupported_planFrom]

theorem not_unsupported_plan_schemas (found : Option ObservedSchema) (desired : DeclaredSchema) :
    ¬Unsupported (schemas.plan ctx found desired) := by
  rw [show schemas.plan ctx found desired = _ from Schema.plan_eq ctx found desired]
  exact ((desired.failsAsInvalid_normalize _).bind fun spec =>
    spec.failsAsInvalid_planFrom _ _ _).not_unsupported_of_invalid

/-- After the check for a feature only what is declared can be refused. -/
theorem unsupported_require_bind {f : Feature} {x : Except Error α} (hx : FailsAsInvalid x) :
    Unsupported (dialect.require f >>= fun _ => x) ↔ ¬f.Available dialect.version := by
  rw [unsupported_bind, Dialect.unsupported_require, Dialect.supports_eq_false_iff]
  exact or_iff_left fun ⟨_, _, h⟩ => hx.not_unsupported_of_invalid h

theorem unsupported_plan_extensions (found : Option InstalledExtension)
    (desired : DeclaredExtension) :
    Unsupported (extensions.plan ctx found desired) ↔ ¬ctx.dialect.version.Since 9 1 := by
  rw [show extensions.plan ctx found desired = _ from Extension.plan_eq ctx found desired]
  exact unsupported_require_bind ((desired.failsAsInvalid_normalize _).bind fun spec =>
    spec.failsAsInvalid_planFrom _)

theorem unsupported_plan_rules (found : Option Accord.Rule) (desired : DeclaredRule) :
    Unsupported (rules.plan ctx found desired) ↔ ¬ctx.dialect.version.Since 9 0 :=
  unsupported_require_bind ((desired.failsAsInvalid_normalize _).bind fun rule =>
    rule.failsAsInvalid_plan _)

/-! ## All operations -/

/-- All statements that are planned for objects of the kind, or that a change reports as drift, are
understood by the server. -/
structure Understood (k : Lifecycle δ ο ω) (ctx : Context σ) : Prop where
  plan {found : Option ο} {desired : δ} {plan : Plan} :
    k.plan ctx found desired = .ok plan → ∀ c ∈ plan, c.UnderstoodBy ctx.dialect.version
  drift {id : String} {found : Option ο} {desired : δ} {s t : σ} {outcome : Outcome ο} :
    (k.write ctx id found desired).result s = (.ok outcome, t) →
    ∃ left : Plan, outcome.drift = left.shown ∧
      ∀ c ∈ left, c.UnderstoodBy ctx.dialect.version

theorem Fits.understood {k : Lifecycle δ ο ω}
    {writing : String → Option ο → δ → Except Error (Writing σ ο)} (h : k.Fits ctx writing) :
    k.Understood ctx where
  plan hplan c hc := (h.plan hplan c hc).understoodBy
  drift {id found desired s t outcome} hrun := by
    rw [h.writes.write, Run.result_bind_ok] at hrun
    obtain ⟨w, u, hlift, hrun⟩ := hrun
    obtain ⟨hw, -⟩ := Run.result_liftM.1 hlift
    obtain ⟨-, left, -, hleft, hdrift⟩ := Writing.result_run_ok hrun
    exact ⟨left, hdrift, fun c hc => ((h.written hw).replan hleft c hc).understoodBy⟩

end Lifecycle

/-- Statements never exceed the connected server.

Whatever is called, every statement that is given is understood by the server, in the version that
it has, and so is every statement that is planned or reported as drift.  A plan fails because a
feature is missing if and only if there are no words for it: for what is declared about a role and
is not so yet, or for extensions and default privileges on a server that has none.  If the errors of
the server are about connections and queries, creations, updates and deletions fail for that reason
and no other. -/
theorem statements_fit_server (ctx : Context σ) :
    (∀ (call : Call) s log r t log',
      (call.run ctx.recorded).result (s, log) = (r, t, log') →
      ∃ events, log' = log ++ events ∧ ∀ g ∈ commandsIn events, ∀ c, g.1 = .run c →
        c.UnderstoodBy ctx.dialect.version) ∧
    (Lifecycle.roles.Understood ctx ∧ Lifecycle.schemas.Understood ctx ∧
      Lifecycle.extensions.Understood ctx ∧ Lifecycle.rules.Understood ctx) ∧
    ((∀ found desired, Unsupported (Lifecycle.roles.plan ctx found desired) ↔
        ∃ spec, desired.normalize = .ok spec ∧ spec.HasNoWords ctx.dialect.version found) ∧
      (∀ found desired, ¬Unsupported (Lifecycle.schemas.plan ctx found desired)) ∧
      (∀ found desired, Unsupported (Lifecycle.extensions.plan ctx found desired) ↔
        ¬ctx.dialect.version.Since 9 1) ∧
      ∀ found desired, Unsupported (Lifecycle.rules.plan ctx found desired) ↔
        ¬ctx.dialect.version.Since 9 0) ∧
    (ctx.server.PlainErrors →
      Lifecycle.roles.NeedsOnly ctx
        (fun id found => Lifecycle.Role.requireOwn id found = .ok ()) False ∧
      Lifecycle.schemas.NeedsOnly ctx (fun _ _ => True) False ∧
      Lifecycle.extensions.NeedsOnly ctx (fun _ _ => True) (¬ctx.dialect.version.Since 9 1) ∧
      Lifecycle.rules.NeedsOnly ctx (fun _ _ => True) (¬ctx.dialect.version.Since 9 0)) := by
  refine ⟨fun call s log r t log' hrun => ?_, ⟨(Lifecycle.fits_roles ctx).understood,
    (Lifecycle.fits_schemas ctx).understood, (Lifecycle.fits_extensions ctx).understood,
    (Lifecycle.fits_rules ctx).understood⟩, ⟨Lifecycle.unsupported_plan_roles,
    Lifecycle.not_unsupported_plan_schemas, Lifecycle.unsupported_plan_extensions,
    Lifecycle.unsupported_plan_rules⟩, fun hserver => ⟨Lifecycle.needsOnly_roles hserver,
    Lifecycle.needsOnly_schemas hserver, Lifecycle.needsOnly_extensions hserver,
    Lifecycle.needsOnly_rules hserver⟩⟩
  obtain ⟨events, hlog, hfits⟩ := (Call.givesOnly_fits ctx.recorded call).of_recorded hrun
  exact ⟨events, hlog, fun g hg c hc => (hfits g hg c hc).understoodBy⟩

/-- A server of version 9.4 cannot be told that a role bypasses row-level security, so that such a
role is neither planned nor created; the errors of this server are about connections only. -/
theorem statements_fit_server_old :
    oldContext.server.PlainErrors ∧ ¬oldContext.dialect.version.Since 9 5 ∧
    Unsupported (Lifecycle.roles.plan oldContext none exemptRole) ∧
    ∀ s, Run.Unsupported (Lifecycle.roles.create oldContext exemptRole) s := by
  have hserver : oldContext.server.PlainErrors := Memory.plainErrors _
  have hversion : ¬oldContext.dialect.version.Since 9 5 := by decide
  have hplan : Unsupported (Lifecycle.roles.plan oldContext none exemptRole) := by
    refine ((statements_fit_server oldContext).2.2.1.1 none exemptRole).2 ?_
    refine ⟨exemptRole, Except.eq_ok_of_toOption (by decide +kernel), .inl ⟨nofun, hversion⟩⟩
  refine ⟨hserver, hversion, hplan, fun s => ?_⟩
  exact (((statements_fit_server oldContext).2.2.2 hserver).1.1 "" none exemptRole s).2
    ⟨rfl, rfl, hplan⟩

end Accord
