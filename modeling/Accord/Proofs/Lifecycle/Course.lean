import Accord.Proofs.Lifecycle.Section
import Accord.Proofs.Session.Asking

/-!
# The course of a creation or an update

Every creation and every update first checks what it is given, which may fail, and then goes through
one write section (`Lifecycle.Writes`).  A write section goes one of two ways, whatever the server
does: it ends before any command is given, or a plan is applied in a transaction and the object is
read again (`Writing.course`).
-/

namespace Accord

variable {σ δ ο ω : Type}

/-! ## Write sections -/

/-- What one write section is made of. -/
structure Writing (σ ο : Type) where
  kind : String
  /-- The identity of the object afterwards. -/
  id : String
  database : String
  /-- Makes the plan. -/
  prepare : Session σ → Run σ Plan
  /-- Reads the object again. -/
  reread : Session σ → Run σ (Option ο)
  /-- What an object that was read still needs. -/
  replan : ο → Except Error Plan

namespace Writing

/-- Goes through the whole section. -/
def run (w : Writing σ ο) (ctx : Context σ) : Run σ (Outcome ο) :=
  writeSection ctx w.kind w.id w.database w.prepare w.reread w.replan

/-- The first part of the section, which ends with a plan. -/
def opening (w : Writing σ ο) (ctx : Context σ) : Run σ Plan := do
  ctx.hold .exclusive
  let s ← ctx.session w.database
  w.prepare s

/-- The last part of the section: the object is read again and compared with what it should be. -/
def verify (w : Writing σ ο) (session : Session σ) (applied : Nat) : Run σ (Outcome ο) := do
  let observed ← w.reread session
  Run.ofExcept (Outcome.ofReread w.kind w.id applied observed w.replan)

theorem run_eq (w : Writing σ ο) (ctx : Context σ) :
    w.run ctx = (do
      let plan ← w.opening ctx
      let applied ← (ctx.opened w.database).apply plan
      w.verify (ctx.opened w.database) applied) := by
  unfold run writeSection opening Context.session Session.connect verify
  simp only [bind_assoc, pure_bind]
  rfl

/-- Without a session there is no plan. -/
theorem opening_of_connect_error {w : Writing σ ο} {ctx : Context σ} {s t : σ} {e : Error}
    (hlock : ctx.lock.grants .exclusive = true)
    (hconnect : ctx.server.connect (ctx.opened w.database).database s = (.error e, t)) :
    (w.opening ctx).result s = (.error (.failed e), t) := by
  unfold opening
  rw [Run.result_bind_of_ok ((Context.result_hold (a := ())).2 ⟨hlock, rfl⟩),
    Run.result_bind_of_error (Context.result_session_of_error hconnect)]

/-- Once a session is open, the plan is made in it. -/
theorem opening_of_connect {w : Writing σ ο} {ctx : Context σ} {s t : σ}
    (hlock : ctx.lock.grants .exclusive = true)
    (hconnect : ctx.server.connect (ctx.opened w.database).database s = (.ok (), t)) :
    (w.opening ctx).result s = (w.prepare (ctx.opened w.database)).result t := by
  unfold opening
  rw [Run.result_bind_of_ok ((Context.result_hold (a := ())).2 ⟨hlock, rfl⟩),
    Run.result_bind_of_ok (Context.result_session.2 ⟨hconnect, rfl⟩)]

/-- Making the plan and reading the object again give no command. -/
structure Quiet (w : Writing σ ο) (session : Session σ) : Prop where
  prepare : (w.prepare session).QuietOn session.server
  reread : (w.reread session).QuietOn session.server

namespace Quiet

variable {w : Writing σ ο} {ctx : Context σ}

theorem opening (h : w.Quiet (ctx.opened w.database)) : (w.opening ctx).QuietOn ctx.server := by
  unfold Writing.opening Context.session Session.connect
  simp only [bind_assoc, pure_bind]
  refine (ctx.quietOn_hold .exclusive).bind fun _ => ?_
  exact (Run.quietOn_connect ctx.server _).bind fun _ => h.prepare

theorem verify {session : Session σ} (h : w.Quiet session) (n : Nat) :
    (w.verify session n).QuietOn session.server :=
  h.reread.bind fun _ => Run.quietOn_ofExcept _ _

end Quiet

/-- From where a plan is made, it is applied in a transaction, and if that succeeds the object is
read again. -/
inductive Course (w : Writing σ ο) (session : Session σ) (plan : Plan) (s : σ) :
    Except Halt (Outcome ο) → σ → List Given → Prop where
  | failed {given : List Given} {h : Halt} {t : σ} :
      session.server.Trace s (eventsOf session.database given) t →
      Transaction plan given (.error h) → Course w session plan s (.error h) t given
  | applied {given : List Given} {n : Nat} {t u : σ} {r : Except Halt (Outcome ο)} :
      session.server.Trace s (eventsOf session.database given) t →
      Transaction plan given (.ok n) → (w.verify session n).result t = (r, u) →
      Course w session plan s r u given

variable {w : Writing σ ο} {ctx : Context σ} {s t : σ} {plan : Plan}

/-- Once a plan is made, the section goes on with a transaction. -/
theorem course_of_opening (hopening : (w.opening ctx).result s = (.ok plan, t)) :
    ∃ given, w.Course (ctx.opened w.database) plan t ((w.run ctx).result s).1
      ((w.run ctx).result s).2 given := by
  obtain ⟨given, r, u, happly, htrace, ht⟩ := (ctx.opened w.database).apply_transaction plan t
  refine ⟨given, ?_⟩
  rw [run_eq, Run.result_bind_of_ok hopening]
  cases r with
  | error h =>
    rw [Run.result_bind_of_error happly]
    exact .failed htrace ht
  | ok n =>
    rw [Run.result_bind_of_ok happly]
    exact .applied htrace ht rfl

/-- A section that makes no plan fails. -/
theorem run_of_opening_error {h : Halt} (hopening : (w.opening ctx).result s = (.error h, t)) :
    (w.run ctx).result s = (.error h, t) := by
  rw [run_eq, Run.result_bind_of_error hopening]

/-- If no command fails, the plan is carried out. -/
theorem Course.given_of_all_ok {session : Session σ} {r : Except Halt (Outcome ο)}
    {given : List Given} (h : w.Course session plan s r t given) (hok : ∀ g ∈ given, g.2 = .ok ()) :
    given = plan.carriedOut := by
  cases h with
  | failed _ ht => exact ht.given_of_all_ok hok
  | applied _ ht _ => exact ht.given_of_all_ok hok

/-- What passes after the plan is made are the commands of the plan, and questions. -/
theorem Course.trace {session : Session σ} {r : Except Halt (Outcome ο)} {given : List Given}
    (h : w.Course session plan s r t given) (hquiet : w.Quiet session) :
    ∃ events, session.server.Trace s events t ∧ commandsIn events = given := by
  cases h with
  | failed htrace ht => exact ⟨_, htrace, commandsIn_eventsOf _ _⟩
  | @applied given n u t r htrace ht hverify =>
    obtain ⟨events, hevents, hnone⟩ := hquiet.verify n u
    rw [hverify] at hevents
    refine ⟨_, htrace.trans hevents, ?_⟩
    rw [commandsIn_append, commandsIn_eventsOf, hnone, List.append_nil]

/-- The commands of a section are those that apply the plan. -/
theorem Course.commandsIn_recorded {server : Server σ} {database : Option String}
    {w : Writing (σ × List Event) ο} {s t : σ × List Event} {r : Except Halt (Outcome ο)}
    {given : List Given} (h : w.Course ⟨server.recorded, database⟩ plan s r t given)
    (hquiet : w.Quiet ⟨server.recorded, database⟩) :
    commandsIn t.2 = commandsIn s.2 ++ given := by
  obtain ⟨events, htrace, hgiven⟩ := h.trace hquiet
  rw [htrace.of_recorded.2, commandsIn_append, hgiven]

end Writing

/-! ## Creations and updates -/

/-- What the kind does to write an object: some checks, and then a write section. -/
structure Lifecycle.Writes (k : Lifecycle δ ο ω) (ctx : Context σ)
    (writing : String → Option ο → δ → Except Error (Writing σ ο)) : Prop where
  write (id : String) (found : Option ο) (desired : δ) :
    k.write ctx id found desired = (do
      let w ← (liftM (writing id found desired) : Run σ (Writing σ ο))
      w.run ctx)
  quiet {id : String} {found : Option ο} {desired : δ} {w : Writing σ ο} :
    writing id found desired = .ok w → w.Quiet (ctx.opened w.database)

/-! ## Plans -/

/-- The plan for a role that was found, or for one that was not. -/
def DeclaredRole.planFrom (spec : DeclaredRole) (dialect : Dialect) :
    Option ObservedRole → Except Error Plan
  | some current => spec.updatePlan dialect current
  | none => spec.creationPlan dialect

/-- The plan for a schema that was found, or for one that was not. -/
def NormalSchema.planFrom (spec : NormalSchema) (user : String) (dialect : Dialect) :
    Option ObservedSchema → Except Error Plan
  | some current => spec.updatePlan current
  | none => return spec.creationPlan user dialect

/-- The plan for an extension that was found, or for one that was not. -/
def DeclaredExtension.planFrom (spec : DeclaredExtension) :
    Option InstalledExtension → Except Error Plan
  | some current => spec.updatePlan current
  | none => return spec.creationPlan

namespace Lifecycle

theorem Role.plan_eq (ctx : Context σ) (found : Option ObservedRole) (desired : DeclaredRole) :
    plan ctx found desired = desired.normalize >>= fun spec => spec.planFrom ctx.dialect found := by
  cases found <;> rfl

theorem Schema.plan_eq (ctx : Context σ) (found : Option ObservedSchema)
    (desired : DeclaredSchema) :
    plan ctx found desired = desired.normalize ctx.defaultDatabase >>= fun spec =>
      spec.planFrom ctx.facts.currentUser ctx.dialect found := by
  cases found <;> rfl

theorem Extension.plan_eq (ctx : Context σ) (found : Option InstalledExtension)
    (desired : DeclaredExtension) :
    plan ctx found desired = ctx.dialect.require .extension >>= fun _ =>
      desired.normalize ctx.defaultDatabase >>= fun spec => spec.planFrom found := by
  cases found <;> rfl

/-! ## Roles -/

namespace Role

/-- An update is refused if it is for the identity of another role. -/
def requireOwn (id : String) : Option ObservedRole → Except Error Unit
  | none => return ()
  | some current => do
    let name ← normalizeName id "role"
    if name ≠ current.name then throw (.validation (.otherRole current.name name))

/-- The write section for a plan. -/
def writingOf (ctx : Context σ) (spec : DeclaredRole) (plan : Plan) : Writing σ ObservedRole where
  kind := "role"
  id := spec.name
  database := ctx.defaultDatabase
  prepare _ := pure plan
  reread session := session.knownRole? ctx spec.name (some spec)
  replan := spec.updatePlan ctx.dialect

/-- The write section of a creation or an update, once all checks are passed. -/
def writing (ctx : Context σ) (id : String) (found : Option ObservedRole)
    (desired : DeclaredRole) : Except Error (Writing σ ObservedRole) := do
  ctx.requireWritable
  requireOwn id found
  let spec ← desired.normalize
  let plan ← spec.planFrom ctx.dialect found
  return writingOf ctx spec plan

theorem writing_ok {ctx : Context σ} {id : String} {found : Option ObservedRole}
    {desired : DeclaredRole} {w : Writing σ ObservedRole} :
    writing ctx id found desired = .ok w ↔
      ctx.requireWritable = .ok () ∧ requireOwn id found = .ok () ∧ ∃ spec plan,
        desired.normalize = .ok spec ∧ spec.planFrom ctx.dialect found = .ok plan ∧
        w = writingOf ctx spec plan := by
  simp only [writing, Except.bind_ok]
  constructor
  · rintro ⟨_, hwritable, _, hown, spec, hspec, plan, hplan, h⟩
    exact ⟨hwritable, hown, spec, plan, hspec, hplan, (Except.ok.inj h).symm⟩
  · rintro ⟨hwritable, hown, spec, plan, hspec, hplan, rfl⟩
    exact ⟨(), hwritable, (), hown, spec, hspec, plan, hplan, rfl⟩

end Role

theorem writes_roles (ctx : Context σ) : roles.Writes ctx (Role.writing ctx) where
  write id found desired := by
    simp only [Role.writing, Run.liftM_bind, Run.liftM_pure, bind_assoc, pure_bind]
    cases found with
    | none => rfl
    | some current =>
      simp only [Role.requireOwn, Run.liftM_bind, bind_assoc, Run.liftM_guard_bind]
      rfl
  quiet {id found desired w} h := by
    obtain ⟨-, -, spec, plan, -, -, rfl⟩ := Role.writing_ok.1 h
    exact ⟨Run.quietOn_pure _ _, (Asks.knownRole? _ ctx _ _).quiet _⟩

/-! ## Schemas -/

namespace Schema

/-- The write section for a plan. -/
def writingOf (spec : NormalSchema) (plan : Plan) : Writing σ ObservedSchema where
  kind := "schema"
  id := spec.identity
  database := spec.database
  prepare _ := pure plan
  reread session := session.schema? spec.database spec.name
  replan := spec.updatePlan

/-- The write section of a creation or an update, once all checks are passed. -/
def writing (ctx : Context σ) (found : Option ObservedSchema) (desired : DeclaredSchema) :
    Except Error (Writing σ ObservedSchema) := do
  ctx.requireWritable
  let spec ← desired.normalize ctx.defaultDatabase
  let plan ← spec.planFrom ctx.facts.currentUser ctx.dialect found
  return writingOf spec plan

theorem writing_ok {ctx : Context σ} {found : Option ObservedSchema} {desired : DeclaredSchema}
    {w : Writing σ ObservedSchema} :
    writing ctx found desired = .ok w ↔
      ctx.requireWritable = .ok () ∧ ∃ spec plan,
        desired.normalize ctx.defaultDatabase = .ok spec ∧
        spec.planFrom ctx.facts.currentUser ctx.dialect found = .ok plan ∧
        w = writingOf spec plan := by
  simp only [writing, Except.bind_ok]
  constructor
  · rintro ⟨_, hwritable, spec, hspec, plan, hplan, h⟩
    exact ⟨hwritable, spec, plan, hspec, hplan, (Except.ok.inj h).symm⟩
  · rintro ⟨hwritable, spec, plan, hspec, hplan, rfl⟩
    exact ⟨(), hwritable, spec, hspec, plan, hplan, rfl⟩

end Schema

theorem writes_schemas (ctx : Context σ) : schemas.Writes ctx fun _ => Schema.writing ctx where
  write id found desired := by
    simp only [Schema.writing, Run.liftM_bind, Run.liftM_pure, bind_assoc, pure_bind]
    cases found <;> rfl
  quiet {id found desired w} h := by
    obtain ⟨-, spec, plan, -, -, rfl⟩ := Schema.writing_ok.1 h
    exact ⟨Run.quietOn_pure _ _, (Asks.schema? _ _ _).quiet _⟩

/-! ## Extensions -/

namespace Extension

/-- The write section for a plan, in the database of the extension. -/
def writingOf (spec : DeclaredExtension) (database : String) (plan : Plan) :
    Writing σ InstalledExtension where
  kind := "extension"
  id := joinIdentity [database, spec.name]
  database
  prepare _ := pure plan
  reread session := session.extension? database spec.name
  replan := spec.updatePlan

/-- The write section of a creation or an update, once all checks are passed. -/
def writing (ctx : Context σ) (found : Option InstalledExtension) (desired : DeclaredExtension) :
    Except Error (Writing σ InstalledExtension) := do
  ctx.requireWritable
  ctx.dialect.require .extension
  let spec ← desired.normalize ctx.defaultDatabase
  let plan ← spec.planFrom found
  let database ← spec.databaseOf
  return writingOf spec database plan

theorem writing_ok {ctx : Context σ} {found : Option InstalledExtension}
    {desired : DeclaredExtension} {w : Writing σ InstalledExtension} :
    writing ctx found desired = .ok w ↔
      ctx.requireWritable = .ok () ∧ ctx.dialect.require .extension = .ok () ∧
        ∃ spec plan database, desired.normalize ctx.defaultDatabase = .ok spec ∧
          spec.planFrom found = .ok plan ∧ spec.databaseOf = .ok database ∧
          w = writingOf spec database plan := by
  simp only [writing, Except.bind_ok]
  constructor
  · rintro ⟨_, hwritable, _, hfeature, spec, hspec, plan, hplan, database, hdatabase, h⟩
    exact ⟨hwritable, hfeature, spec, plan, database, hspec, hplan, hdatabase,
      (Except.ok.inj h).symm⟩
  · rintro ⟨hwritable, hfeature, spec, plan, database, hspec, hplan, hdatabase, rfl⟩
    exact ⟨(), hwritable, (), hfeature, spec, hspec, plan, hplan, database, hdatabase, rfl⟩

end Extension

theorem writes_extensions (ctx : Context σ) :
    extensions.Writes ctx fun _ => Extension.writing ctx where
  write id found desired := by
    simp only [Extension.writing, Run.liftM_bind, Run.liftM_pure, bind_assoc, pure_bind]
    cases found <;> rfl
  quiet {id found desired w} h := by
    obtain ⟨-, -, spec, plan, database, -, -, -, rfl⟩ := Extension.writing_ok.1 h
    exact ⟨Run.quietOn_pure _ _, (Asks.extension? _ _ _).quiet _⟩

/-! ## Rules -/

namespace Rule

/-- The write section of a rule, which makes its plan only in the section. -/
def writingOf (rule : Rule) (found : Option Rule) : Writing σ Rule where
  kind := "default_privileges"
  id := rule.key.identity
  database := rule.key.database
  prepare := prepare rule found
  reread session := session.rule? rule.key
  replan o := rule.plan (some o)

/-- The write section of a creation or an update, once all checks are passed. -/
def writing (ctx : Context σ) (found : Option Rule) (desired : DeclaredRule) :
    Except Error (Writing σ Rule) := do
  ctx.requireWritable
  ctx.dialect.require .defaultPrivileges
  let rule ← desired.normalize ctx.defaultDatabase
  return writingOf rule found

theorem writing_ok {ctx : Context σ} {found : Option Rule} {desired : DeclaredRule}
    {w : Writing σ Rule} :
    writing ctx found desired = .ok w ↔
      ctx.requireWritable = .ok () ∧ ctx.dialect.require .defaultPrivileges = .ok () ∧
        ∃ rule, desired.normalize ctx.defaultDatabase = .ok rule ∧ w = writingOf rule found := by
  simp only [writing, Except.bind_ok]
  constructor
  · rintro ⟨_, hwritable, _, hfeature, rule, hrule, h⟩
    exact ⟨hwritable, hfeature, rule, hrule, (Except.ok.inj h).symm⟩
  · rintro ⟨hwritable, hfeature, rule, hrule, rfl⟩
    exact ⟨(), hwritable, (), hfeature, rule, hrule, rfl⟩

end Rule

theorem writes_rules (ctx : Context σ) : rules.Writes ctx fun _ => Rule.writing ctx where
  write id found desired := by
    simp only [Rule.writing, Run.liftM_bind, Run.liftM_pure, bind_assoc, pure_bind]
    cases found with
    | some old => rfl
    | none =>
      show Rule.apply ctx none desired = _
      unfold Rule.apply Writing.run writeSection Rule.writingOf Rule.prepare
      simp only [bind_assoc]
      rfl
  quiet {id found desired w} h := by
    obtain ⟨-, -, rule, -, rfl⟩ := Rule.writing_ok.1 h
    exact ⟨Rule.quietOn_prepare _ _ _, (Asks.rule? _ _).quiet _⟩

end Lifecycle

end Accord
