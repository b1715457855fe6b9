import Accord.Lifecycle.Extension
import Accord.Lifecycle.Rule
import Accord.Lifecycle.Schema
import Accord.Proofs.Session.Asking
import Accord.Proofs.Session.Transaction

/-!
# Read sections and write sections

Every lifecycle reads under the shared side of the catalog lock and writes under the exclusive side.
Writing goes the same way for all kinds: a session is opened, a plan is made and applied, and the
object is read again.  `writeSection` is this way, and the lemmas below say for each kind what its
operations consist of.  Reading is built from questions alone (`asks_inDatabase`, `Role.asks_read`).
-/

namespace Accord

variable {σ ο : Type}

namespace Context

/-- A session on a database, once it is open. -/
def opened (ctx : Context σ) (database : String) : Session σ :=
  ⟨ctx.server, if database = ctx.defaultDatabase then none else some database⟩

theorem result_session {ctx : Context σ} {database : String} {session : Session σ} {s t : σ} :
    (ctx.session database).result s = (.ok session, t) ↔
      ctx.server.connect (ctx.opened database).database s = (.ok (), t) ∧
        session = ctx.opened database :=
  Session.result_connect

theorem result_session_of_error {ctx : Context σ} {database : String} {s t : σ} {e : Error}
    (h : ctx.server.connect (ctx.opened database).database s = (.error e, t)) :
    (ctx.session database).result s = (.error (.failed e), t) :=
  Run.result_bind_of_error (Run.result_reaction_of_error h)

theorem requireWritable_ok {ctx : Context σ} {u : Unit} :
    ctx.requireWritable = .ok u ↔ ctx.readOnly = false := by
  unfold requireWritable
  cases ctx.readOnly <;> simp

end Context

theorem Outcome.ofReread_ok {kind id : String} {n : Nat} {observed : Option ο}
    {replan : ο → Except Error Plan} {outcome : Outcome ο} :
    Outcome.ofReread kind id n observed replan = .ok outcome ↔
      ∃ o plan, observed = some o ∧ replan o = .ok plan ∧ outcome = ⟨id, o, n, plan.shown⟩ := by
  cases observed with
  | none => simp [ofReread]
  | some o =>
    show (replan o >>= fun plan => pure (Outcome.mk id o n plan.shown)) = .ok outcome ↔ _
    rw [Except.bind_ok]
    simp [pure, Except.pure, eq_comm]

/-- Makes a plan in a session, applies it, and reads the object again. -/
def writeSection (ctx : Context σ) (kind id database : String) (prepare : Session σ → Run σ Plan)
    (reread : Session σ → Run σ (Option ο)) (replan : ο → Except Error Plan) :
    Run σ (Outcome ο) := do
  ctx.hold .exclusive
  let s ← ctx.session database
  let plan ← prepare s
  let applied ← s.apply plan
  let observed ← reread s
  Run.ofExcept (Outcome.ofReread kind id applied observed replan)

theorem result_writeSection {ctx : Context σ} {kind id database : String}
    {prepare : Session σ → Run σ Plan} {reread : Session σ → Run σ (Option ο)}
    {replan : ο → Except Error Plan} {outcome : Outcome ο} {s t : σ} :
    (writeSection ctx kind id database prepare reread replan).result s = (.ok outcome, t) ↔
      ctx.lock.grants .exclusive = true ∧ ∃ s₁ plan s₂ n s₃ o left,
        ctx.server.connect (ctx.opened database).database s = (.ok (), s₁) ∧
        (prepare (ctx.opened database)).result s₁ = (.ok plan, s₂) ∧
        ((ctx.opened database).apply plan).result s₂ = (.ok n, s₃) ∧
        (reread (ctx.opened database)).result s₃ = (.ok (some o), t) ∧
        replan o = .ok left ∧ outcome = ⟨id, o, n, left.shown⟩ := by
  unfold writeSection
  simp only [Run.result_bind_ok, Context.result_hold, Context.result_session, Run.result_ofExcept,
    Outcome.ofReread_ok]
  constructor
  · rintro ⟨_, _, ⟨hlock, rfl⟩, _, s₁, ⟨hconnect, rfl⟩, plan, s₂, hplan, n, s₃, hn, _, _, ho,
      ⟨o, left, rfl, hleft, rfl⟩, rfl⟩
    exact ⟨hlock, s₁, plan, s₂, n, s₃, o, left, hconnect, hplan, hn, ho, hleft, rfl⟩
  · rintro ⟨hlock, s₁, plan, s₂, n, s₃, o, left, hconnect, hplan, hn, ho, hleft, rfl⟩
    exact ⟨(), s, ⟨hlock, rfl⟩, _, s₁, ⟨hconnect, rfl⟩, plan, s₂, hplan, n, s₃, hn, some o, t, ho,
      ⟨o, left, rfl, hleft, rfl⟩, rfl⟩

/-- The commands of a write section are those of one transaction. -/
theorem trace_writeSection {ctx : Context σ} {kind id database : String}
    {prepare : Session σ → Run σ Plan} {reread : Session σ → Run σ (Option ο)}
    {replan : ο → Except Error Plan} {outcome : Outcome ο} {s t : σ}
    (hprepare : ∀ {s t : σ} {plan : Plan},
      (prepare (ctx.opened database)).result s = (.ok plan, t) → ctx.server.Quiet s t)
    (hreread : ∀ {s t : σ} {found : Option ο},
      (reread (ctx.opened database)).result s = (.ok found, t) → ctx.server.Quiet s t)
    (h : (writeSection ctx kind id database prepare reread replan).result s = (.ok outcome, t)) :
    ∃ s₁ plan s₂ events n, (prepare (ctx.opened database)).result s₁ = (.ok plan, s₂) ∧
      ctx.server.Trace s events t ∧ Transaction plan (commandsIn events) (.ok n) := by
  obtain ⟨-, s₁, plan, s₂, n, s₃, o, left, hconnect, hplan, hn, ho, -, -⟩ :=
    result_writeSection.1 h
  obtain ⟨given, r, s₃', hr, htrace, ht⟩ := (ctx.opened database).apply_transaction plan s₂
  obtain ⟨rfl, rfl⟩ := Prod.mk.inj (hn.symm.trans hr)
  obtain ⟨before, hbefore, hquiet⟩ := Server.Quiet.trans (.connect hconnect) (hprepare hplan)
  obtain ⟨after, hafter, hquiet'⟩ := hreread ho
  refine ⟨s₁, plan, s₂, before ++ (eventsOf _ given ++ after), n, hplan,
    hbefore.trans (htrace.trans hafter), ?_⟩
  rw [commandsIn_append, commandsIn_append, hquiet, hquiet', commandsIn_eventsOf,
    List.append_nil, List.nil_append]
  exact ht

/-- The same for a plan that was made before. -/
theorem trace_writePlan {ctx : Context σ} {kind id database : String} {plan : Plan}
    {reread : Session σ → Run σ (Option ο)} {replan : ο → Except Error Plan} {outcome : Outcome ο}
    {s t : σ}
    (hreread : ∀ {s t : σ} {found : Option ο},
      (reread (ctx.opened database)).result s = (.ok found, t) → ctx.server.Quiet s t)
    (h : (writeSection ctx kind id database (fun _ => pure plan) reread replan).result s =
      (.ok outcome, t)) :
    ∃ events n, ctx.server.Trace s events t ∧ Transaction plan (commandsIn events) (.ok n) := by
  obtain ⟨_, _, _, events, n, hpure, htrace, ht⟩ := trace_writeSection
    (fun h => (Run.result_pure_ok.1 h).2 ▸ .refl _) hreread h
  obtain ⟨rfl, -⟩ := Run.result_pure_ok.1 hpure
  exact ⟨events, n, htrace, ht⟩

namespace Lifecycle

variable {ctx : Context σ} {s t : σ}

/-- The second half of converging: updates what was found, or creates what was not. -/
def write {δ ω : Type} (k : Lifecycle δ ο ω) (ctx : Context σ) (id : String) (found : Option ο)
    (desired : δ) : Run σ (Outcome ο) :=
  match found with
  | some current => k.update ctx id current desired
  | none => k.create ctx desired

theorem result_converge {δ ω : Type} {k : Lifecycle δ ο ω} {desired : δ} {outcome : Outcome ο} :
    (k.converge ctx desired).result s = (.ok outcome, t) ↔
      ∃ id found u, k.identity ctx desired = .ok id ∧
        (k.read ctx id none).result s = (.ok found, u) ∧
        (k.write ctx id found desired).result u = (.ok outcome, t) := by
  unfold converge write
  simp only [Run.result_bind_ok, Run.result_liftM]
  constructor
  · rintro ⟨id, _, ⟨hid, rfl⟩, found, u, hread, h⟩
    refine ⟨id, found, u, hid, hread, ?_⟩
    cases found <;> exact h
  · rintro ⟨id, found, u, hid, hread, h⟩
    refine ⟨id, s, ⟨hid, rfl⟩, found, u, hread, ?_⟩
    cases found <;> exact h

theorem result_pending {δ ω : Type} {k : Lifecycle δ ο ω} {desired : δ} {plan : Plan} :
    (k.pending ctx desired).result s = (.ok plan, t) ↔
      ∃ id found, k.identity ctx desired = .ok id ∧
        (k.read ctx id none).result s = (.ok found, t) ∧ k.plan ctx found desired = .ok plan := by
  unfold pending
  simp only [Run.result_bind_ok, Run.result_liftM, Run.result_ofExcept]
  constructor
  · rintro ⟨id, _, ⟨hid, rfl⟩, found, u, hread, hplan, rfl⟩
    exact ⟨id, found, hid, hread, hplan⟩
  · rintro ⟨id, found, hid, hread, hplan⟩
    exact ⟨id, s, ⟨hid, rfl⟩, found, t, hread, hplan, rfl⟩

/-! ## Roles -/

namespace Role

theorem applyPlan_eq (ctx : Context σ) (spec : DeclaredRole) (plan : Plan) :
    applyPlan ctx spec plan =
      writeSection ctx "role" spec.name ctx.defaultDatabase (fun _ => pure plan)
        (fun session => session.knownRole? ctx spec.name (some spec))
        (spec.updatePlan ctx.dialect) :=
  rfl

theorem result_create {desired : DeclaredRole} {outcome : Outcome ObservedRole} :
    (create ctx desired).result s = (.ok outcome, t) ↔
      ctx.readOnly = false ∧ ∃ spec plan, desired.normalize = .ok spec ∧
        spec.creationPlan ctx.dialect = .ok plan ∧
        (applyPlan ctx spec plan).result s = (.ok outcome, t) := by
  unfold create
  simp only [Run.result_bind_ok, Run.result_liftM, Context.requireWritable_ok]
  constructor
  · rintro ⟨_, _, ⟨hw, rfl⟩, spec, _, ⟨hspec, rfl⟩, plan, _, ⟨hplan, rfl⟩, h⟩
    exact ⟨hw, spec, plan, hspec, hplan, h⟩
  · rintro ⟨hw, spec, plan, hspec, hplan, h⟩
    exact ⟨(), s, ⟨hw, rfl⟩, spec, s, ⟨hspec, rfl⟩, plan, s, ⟨hplan, rfl⟩, h⟩

theorem result_read {id : String} {lastKnown : Option DeclaredRole}
    {found : Option ObservedRole} :
    (read ctx id lastKnown).result s = (.ok found, t) ↔
      ∃ name u, normalizeName id "role" = .ok name ∧ ctx.lock.grants .shared = true ∧
        ctx.server.connect (ctx.opened ctx.defaultDatabase).database s = (.ok (), u) ∧
        ((ctx.opened ctx.defaultDatabase).knownRole? ctx name lastKnown).result u =
          (.ok found, t) := by
  unfold read
  simp only [Run.result_bind_ok, Run.result_liftM, Context.result_hold, Context.result_session]
  constructor
  · rintro ⟨name, _, ⟨hname, rfl⟩, _, _, ⟨hlock, rfl⟩, _, u, ⟨hconnect, rfl⟩, h⟩
    exact ⟨name, u, hname, hlock, hconnect, h⟩
  · rintro ⟨name, u, hname, hlock, hconnect, h⟩
    exact ⟨name, s, ⟨hname, rfl⟩, (), s, ⟨hlock, rfl⟩, _, u, ⟨hconnect, rfl⟩, h⟩

theorem result_update {id : String} {current : ObservedRole} {desired : DeclaredRole}
    {outcome : Outcome ObservedRole} :
    (update ctx id current desired).result s = (.ok outcome, t) ↔
      ctx.readOnly = false ∧ normalizeName id "role" = .ok current.name ∧
        ∃ spec plan, desired.normalize = .ok spec ∧
          spec.updatePlan ctx.dialect current = .ok plan ∧
          (applyPlan ctx spec plan).result s = (.ok outcome, t) := by
  unfold update
  simp only [Run.result_bind_ok, Run.result_liftM, Context.requireWritable_ok, Run.result_guard,
    ne_eq, Decidable.not_not]
  constructor
  · rintro ⟨_, _, ⟨hw, rfl⟩, name, _, ⟨hname, rfl⟩, rfl, spec, _, ⟨hspec, rfl⟩, plan, _,
      ⟨hplan, rfl⟩, h⟩
    exact ⟨hw, hname, spec, plan, hspec, hplan, h⟩
  · rintro ⟨hw, hname, spec, plan, hspec, hplan, h⟩
    exact ⟨(), s, ⟨hw, rfl⟩, _, s, ⟨hname, rfl⟩, rfl, spec, s, ⟨hspec, rfl⟩, plan, s,
      ⟨hplan, rfl⟩, h⟩

end Role

/-- Reading where the database has to be looked for first. -/
theorem result_inDatabase {database : String} {α : Type} {read : Session σ → Run σ (Option α)}
    {found : Option α} :
    Run.result (do
      ctx.hold .shared
      let s ← ctx.session ctx.defaultDatabase
      if ← s.exists? (.databaseExists database) then
        let s ← ctx.session database
        read s
      else return none) s = (.ok found, t) ↔
      ctx.lock.grants .shared = true ∧ ∃ u table v,
        ctx.server.connect (ctx.opened ctx.defaultDatabase).database s = (.ok (), u) ∧
        ctx.server.query (ctx.opened ctx.defaultDatabase).database (.databaseExists database) u =
          (.ok table, v) ∧
        (table.isEmpty = true ∧ found = none ∧ t = v ∨
          table.isEmpty = false ∧ ∃ w,
            ctx.server.connect (ctx.opened database).database v = (.ok (), w) ∧
            (read (ctx.opened database)).result w = (.ok found, t)) := by
  simp only [Run.result_bind_ok, Context.result_hold, Context.result_session,
    Session.result_exists?]
  constructor
  · rintro ⟨_, _, ⟨hlock, rfl⟩, _, u, ⟨hconnect, rfl⟩, _, v, ⟨table, hq, rfl⟩, h⟩
    refine ⟨hlock, u, table, v, hconnect, hq, ?_⟩
    cases htable : table.isEmpty with
    | true =>
      simp only [htable, Bool.not_true, Bool.false_eq_true, if_false, Run.result_pure_ok] at h
      exact .inl ⟨rfl, h⟩
    | false =>
      simp only [htable, Bool.not_false, if_true, Run.result_bind_ok,
        Context.result_session] at h
      obtain ⟨_, w, ⟨hconnect', rfl⟩, h⟩ := h
      exact .inr ⟨rfl, w, hconnect', h⟩
  · rintro ⟨hlock, u, table, v, hconnect, hq, h⟩
    refine ⟨(), s, ⟨hlock, rfl⟩, _, u, ⟨hconnect, rfl⟩, _, v, ⟨table, hq, rfl⟩, ?_⟩
    rcases h with ⟨htable, rfl, rfl⟩ | ⟨htable, w, hconnect', h⟩
    · simp [htable]
    · simp only [htable, Bool.not_false, if_true, Run.result_bind_ok, Context.result_session]
      exact ⟨_, w, ⟨hconnect', rfl⟩, h⟩

/-! ## Schemas -/

namespace Schema

theorem applyPlan_eq (ctx : Context σ) (spec : NormalSchema) (plan : Plan) :
    applyPlan ctx spec plan =
      writeSection ctx "schema" spec.identity spec.database (fun _ => pure plan)
        (fun session => session.schema? spec.database spec.name) spec.updatePlan :=
  rfl

theorem result_create {desired : DeclaredSchema} {outcome : Outcome ObservedSchema} :
    (create ctx desired).result s = (.ok outcome, t) ↔
      ctx.readOnly = false ∧ ∃ spec, desired.normalize ctx.defaultDatabase = .ok spec ∧
        (applyPlan ctx spec (spec.creationPlan ctx.facts.currentUser ctx.dialect)).result s =
          (.ok outcome, t) := by
  unfold create
  simp only [Run.result_bind_ok, Run.result_liftM, Context.requireWritable_ok]
  constructor
  · rintro ⟨_, _, ⟨hw, rfl⟩, spec, _, ⟨hspec, rfl⟩, h⟩
    exact ⟨hw, spec, hspec, h⟩
  · rintro ⟨hw, spec, hspec, h⟩
    exact ⟨(), s, ⟨hw, rfl⟩, spec, s, ⟨hspec, rfl⟩, h⟩

theorem result_read {id : String} {found : Option ObservedSchema} :
    (read ctx id).result s = (.ok found, t) ↔
      ∃ database name, ObservedSchema.decodeKey id = .ok (database, name) ∧
        ctx.lock.grants .shared = true ∧ ∃ u table v,
          ctx.server.connect (ctx.opened ctx.defaultDatabase).database s = (.ok (), u) ∧
          ctx.server.query (ctx.opened ctx.defaultDatabase).database (.databaseExists database) u =
            (.ok table, v) ∧
          (table.isEmpty = true ∧ found = none ∧ t = v ∨
            table.isEmpty = false ∧ ∃ w,
              ctx.server.connect (ctx.opened database).database v = (.ok (), w) ∧
              ((ctx.opened database).schema? database name).result w = (.ok found, t)) := by
  unfold read
  rw [Run.result_bind_ok]
  constructor
  · rintro ⟨⟨database, name⟩, _, hkey, h⟩
    obtain ⟨hdecode, rfl⟩ := Run.result_liftM.1 hkey
    exact ⟨database, name, hdecode, result_inDatabase.1 h⟩
  · rintro ⟨database, name, hkey, h⟩
    exact ⟨(database, name), s, Run.result_liftM.2 ⟨hkey, rfl⟩, result_inDatabase.2 h⟩

theorem result_update {current : ObservedSchema} {desired : DeclaredSchema}
    {outcome : Outcome ObservedSchema} :
    (update ctx current desired).result s = (.ok outcome, t) ↔
      ctx.readOnly = false ∧ ∃ spec plan, desired.normalize ctx.defaultDatabase = .ok spec ∧
        spec.updatePlan current = .ok plan ∧
        (applyPlan ctx spec plan).result s = (.ok outcome, t) := by
  unfold update
  simp only [Run.result_bind_ok, Run.result_liftM, Context.requireWritable_ok]
  constructor
  · rintro ⟨_, _, ⟨hw, rfl⟩, spec, _, ⟨hspec, rfl⟩, plan, _, ⟨hplan, rfl⟩, h⟩
    exact ⟨hw, spec, plan, hspec, hplan, h⟩
  · rintro ⟨hw, spec, plan, hspec, hplan, h⟩
    exact ⟨(), s, ⟨hw, rfl⟩, spec, s, ⟨hspec, rfl⟩, plan, s, ⟨hplan, rfl⟩, h⟩

end Schema

/-! ## Extensions -/

namespace Extension

theorem applyPlan_eq {spec : DeclaredExtension} {database : String}
    (hdatabase : spec.database = some database) (ctx : Context σ) (plan : Plan) :
    applyPlan ctx spec plan =
      writeSection ctx "extension" (joinIdentity [database, spec.name]) database
        (fun _ => pure plan) (fun session => session.extension? database spec.name)
        spec.updatePlan := by
  unfold applyPlan DeclaredExtension.databaseOf
  rw [hdatabase]
  rfl

theorem result_create {desired : DeclaredExtension} {outcome : Outcome InstalledExtension} :
    (create ctx desired).result s = (.ok outcome, t) ↔
      ctx.readOnly = false ∧ ctx.dialect.supports .extension = true ∧
        ∃ spec, desired.normalize ctx.defaultDatabase = .ok spec ∧
          (applyPlan ctx spec spec.creationPlan).result s = (.ok outcome, t) := by
  unfold create
  simp only [Run.result_bind_ok, Run.result_liftM, Context.requireWritable_ok, Dialect.require_ok]
  constructor
  · rintro ⟨_, _, ⟨hw, rfl⟩, _, _, ⟨hf, rfl⟩, spec, _, ⟨hspec, rfl⟩, h⟩
    exact ⟨hw, hf, spec, hspec, h⟩
  · rintro ⟨hw, hf, spec, hspec, h⟩
    exact ⟨(), s, ⟨hw, rfl⟩, (), s, ⟨hf, rfl⟩, spec, s, ⟨hspec, rfl⟩, h⟩

theorem result_read {id : String} {found : Option InstalledExtension} :
    (read ctx id).result s = (.ok found, t) ↔
      ∃ database name, InstalledExtension.decodeKey id = .ok (database, name) ∧
        ctx.lock.grants .shared = true ∧ ∃ u table v,
          ctx.server.connect (ctx.opened ctx.defaultDatabase).database s = (.ok (), u) ∧
          ctx.server.query (ctx.opened ctx.defaultDatabase).database (.databaseExists database) u =
            (.ok table, v) ∧
          (table.isEmpty = true ∧ found = none ∧ t = v ∨
            table.isEmpty = false ∧ ∃ w,
              ctx.server.connect (ctx.opened database).database v = (.ok (), w) ∧
              ((ctx.opened database).extension? database name).result w = (.ok found, t)) := by
  unfold read
  rw [Run.result_bind_ok]
  constructor
  · rintro ⟨⟨database, name⟩, _, hkey, h⟩
    obtain ⟨hdecode, rfl⟩ := Run.result_liftM.1 hkey
    exact ⟨database, name, hdecode, result_inDatabase.1 h⟩
  · rintro ⟨database, name, hkey, h⟩
    exact ⟨(database, name), s, Run.result_liftM.2 ⟨hkey, rfl⟩, result_inDatabase.2 h⟩

theorem result_update {current : InstalledExtension} {desired : DeclaredExtension}
    {outcome : Outcome InstalledExtension} :
    (update ctx current desired).result s = (.ok outcome, t) ↔
      ctx.readOnly = false ∧ ctx.dialect.supports .extension = true ∧
        ∃ spec plan, desired.normalize ctx.defaultDatabase = .ok spec ∧
          spec.updatePlan current = .ok plan ∧
          (applyPlan ctx spec plan).result s = (.ok outcome, t) := by
  unfold update
  simp only [Run.result_bind_ok, Run.result_liftM, Context.requireWritable_ok, Dialect.require_ok]
  constructor
  · rintro ⟨_, _, ⟨hw, rfl⟩, _, _, ⟨hf, rfl⟩, spec, _, ⟨hspec, rfl⟩, plan, _, ⟨hplan, rfl⟩, h⟩
    exact ⟨hw, hf, spec, plan, hspec, hplan, h⟩
  · rintro ⟨hw, hf, spec, plan, hspec, hplan, h⟩
    exact ⟨(), s, ⟨hw, rfl⟩, (), s, ⟨hf, rfl⟩, spec, s, ⟨hspec, rfl⟩, plan, s, ⟨hplan, rfl⟩, h⟩

end Extension

/-! ## Rules -/

namespace Rule

/-- The plan for a rule: it starts from the observed rule, or looks the rule up. -/
def prepare (rule : Rule) (current : Option Rule) (session : Session σ) : Run σ Plan :=
  match current with
  | some old => Run.ofExcept (rule.plan (some old))
  | none => do
    let before ← session.rule? rule.key
    Run.ofExcept (rule.plan before)

theorem result_apply {current : Option Rule} {desired : DeclaredRule} {outcome : Outcome Rule} :
    (apply ctx current desired).result s = (.ok outcome, t) ↔
      ctx.readOnly = false ∧ ctx.dialect.supports .defaultPrivileges = true ∧
        ∃ rule, desired.normalize ctx.defaultDatabase = .ok rule ∧
          (writeSection ctx "default_privileges" rule.key.identity rule.key.database
            (prepare rule current) (fun session => session.rule? rule.key)
            (fun o => rule.plan (some o))).result s = (.ok outcome, t) := by
  unfold apply writeSection
  simp only [Run.result_bind_ok, Run.result_liftM, Context.requireWritable_ok, Dialect.require_ok]
  cases current with
  | some old =>
    simp only [prepare, Run.result_bind_ok, Run.result_liftM, Run.result_ofExcept,
      Run.result_pure_ok]
    constructor
    · rintro ⟨_, _, ⟨hw, rfl⟩, _, _, ⟨hf, rfl⟩, rule, _, ⟨hrule, rfl⟩, u, v, hhold, session, _,
        hsession, _, _, ⟨rfl, rfl⟩, plan, _, ⟨hplan, rfl⟩, h⟩
      exact ⟨hw, hf, rule, hrule, u, v, hhold, session, _, hsession, plan, _, ⟨hplan, rfl⟩, h⟩
    · rintro ⟨hw, hf, rule, hrule, u, v, hhold, session, _, hsession, plan, _, ⟨hplan, rfl⟩, h⟩
      exact ⟨(), s, ⟨hw, rfl⟩, (), s, ⟨hf, rfl⟩, rule, s, ⟨hrule, rfl⟩, u, v, hhold, session, _,
        hsession, _, _, ⟨rfl, rfl⟩, plan, _, ⟨hplan, rfl⟩, h⟩
  | none =>
    simp only [prepare, Run.result_bind_ok, Run.result_liftM, Run.result_ofExcept]
    constructor
    · rintro ⟨_, _, ⟨hw, rfl⟩, _, _, ⟨hf, rfl⟩, rule, _, ⟨hrule, rfl⟩, u, v, hhold, session, w,
        hsession, before, _, hbefore, plan, _, ⟨hplan, rfl⟩, h⟩
      exact ⟨hw, hf, rule, hrule, u, v, hhold, session, w, hsession, plan, _,
        ⟨before, _, hbefore, hplan, rfl⟩, h⟩
    · rintro ⟨hw, hf, rule, hrule, u, v, hhold, session, w, hsession, plan, _,
        ⟨before, _, hbefore, hplan, rfl⟩, h⟩
      exact ⟨(), s, ⟨hw, rfl⟩, (), s, ⟨hf, rfl⟩, rule, s, ⟨hrule, rfl⟩, u, v, hhold, session, w,
        hsession, before, _, hbefore, plan, _, ⟨hplan, rfl⟩, h⟩

theorem result_read {id : String} {found : Option Rule} :
    (read ctx id).result s = (.ok found, t) ↔
      ∃ key u, RuleKey.decode id = .ok key ∧ ctx.lock.grants .shared = true ∧
        ctx.server.connect (ctx.opened key.database).database s = (.ok (), u) ∧
        ((ctx.opened key.database).rule? key).result u = (.ok found, t) := by
  unfold read
  simp only [Run.result_bind_ok, Run.result_liftM, Context.result_hold, Context.result_session]
  constructor
  · rintro ⟨key, _, ⟨hkey, rfl⟩, _, _, ⟨hlock, rfl⟩, _, u, ⟨hconnect, rfl⟩, h⟩
    exact ⟨key, u, hkey, hlock, hconnect, h⟩
  · rintro ⟨key, u, hkey, hlock, hconnect, h⟩
    exact ⟨key, s, ⟨hkey, rfl⟩, (), s, ⟨hlock, rfl⟩, _, u, ⟨hconnect, rfl⟩, h⟩

end Rule

/-! ## Reading asks -/

section Asking

variable {α : Type}

theorem asks_hold (ctx : Context σ) (side : Side) :
    Asks fun _ server => (ctx.on server).hold side := by
  show Asks fun τ _ => (if ctx.lock.grants side then return () else throw .waiting : Run τ Unit)
  exact .ite (.pure ()) (.throw .waiting)

theorem asks_session (ctx : Context σ) (database : String)
    {f : (τ : Type) → Server τ → Session τ → Run τ α}
    (h : ∀ named, Asks fun τ server => f τ server ⟨server, named⟩) :
    Asks fun τ server => (ctx.on server).session database >>= f τ server := by
  show Asks fun τ server => Session.connect server (ctx.opened database).database >>= f τ server
  exact Asks.connect_bind (h _)

/-- What is done in a section under a side of the lock. -/
theorem asks_section (ctx : Context σ) (side : Side) (database : String)
    {f : (τ : Type) → Server τ → Session τ → Run τ α}
    (h : ∀ named, Asks fun τ server => f τ server ⟨server, named⟩) :
    Asks fun τ (server : Server τ) => (do
      (ctx.on server).hold side
      let s ← (ctx.on server).session database
      f τ server s) :=
  .bind (asks_hold ctx side) fun _ => asks_session ctx database h

theorem asks_inDatabase (ctx : Context σ) (database : String)
    {read : (τ : Type) → Session τ → Run τ (Option α)}
    (h : ∀ named, Asks fun τ server => read τ ⟨server, named⟩) :
    Asks fun τ (server : Server τ) => (do
      (ctx.on server).hold .shared
      let s ← (ctx.on server).session ctx.defaultDatabase
      if ← s.exists? (.databaseExists database) then
        let s ← (ctx.on server).session database
        read τ s
      else return none) := by
  refine asks_section ctx .shared ctx.defaultDatabase fun named => ?_
  refine .bind (Asks.exists? named _) fun there => ?_
  exact .ite (asks_session ctx database h) (.pure none)

theorem Role.asks_read (ctx : Context σ) (id : String) (lastKnown : Option DeclaredRole) :
    Asks fun _ server => read (ctx.on server) id lastKnown := by
  refine .liftM_bind _ fun name => ?_
  exact asks_section ctx .shared ctx.defaultDatabase fun named =>
    Asks.knownRole? named ctx name lastKnown

theorem Schema.asks_read (ctx : Context σ) (id : String) :
    Asks fun _ server => read (ctx.on server) id :=
  .liftM_bind _ fun key => asks_inDatabase ctx key.1 fun named => Asks.schema? named key.1 key.2

theorem Extension.asks_read (ctx : Context σ) (id : String) :
    Asks fun _ server => read (ctx.on server) id :=
  .liftM_bind _ fun key => asks_inDatabase ctx key.1 fun named =>
    Asks.extension? named key.1 key.2

theorem Rule.asks_read (ctx : Context σ) (id : String) :
    Asks fun _ server => read (ctx.on server) id :=
  .liftM_bind _ fun key => asks_section ctx .shared key.database fun named =>
    Asks.rule? named key

end Asking

/-! ## Reading gives no command -/

theorem Role.quiet_read {id : String} {lastKnown : Option DeclaredRole}
    {found : Option ObservedRole} (h : (Role.read ctx id lastKnown).result s = (.ok found, t)) :
    ctx.server.Quiet s t :=
  ((Role.asks_read ctx id lastKnown).quiet ctx.server).of_result h

theorem Schema.quiet_read {id : String} {found : Option ObservedSchema}
    (h : (Schema.read ctx id).result s = (.ok found, t)) : ctx.server.Quiet s t :=
  ((Schema.asks_read ctx id).quiet ctx.server).of_result h

theorem Extension.quiet_read {id : String} {found : Option InstalledExtension}
    (h : (Extension.read ctx id).result s = (.ok found, t)) : ctx.server.Quiet s t :=
  ((Extension.asks_read ctx id).quiet ctx.server).of_result h

theorem Rule.quiet_read {id : String} {found : Option Rule}
    (h : (Rule.read ctx id).result s = (.ok found, t)) : ctx.server.Quiet s t :=
  ((Rule.asks_read ctx id).quiet ctx.server).of_result h

theorem Rule.quietOn_prepare (rule : Rule) (found : Option Rule) (session : Session σ) :
    (prepare rule found session).QuietOn session.server := by
  cases found with
  | some old => exact Run.quietOn_ofExcept _ _
  | none =>
    have hask := (Asks.rule? session.database rule.key).quiet session.server
    exact hask.bind fun _ => Run.quietOn_ofExcept _ _

theorem Rule.quiet_prepare {rule : Rule} {current : Option Rule} {session : Session σ}
    {plan : Plan} (h : (Rule.prepare rule current session).result s = (.ok plan, t)) :
    session.server.Quiet s t :=
  (quietOn_prepare rule current session).of_result h

end Lifecycle

end Accord
