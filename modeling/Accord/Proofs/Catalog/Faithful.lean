import Accord.Proofs.Catalog.Answer
import Accord.Proofs.Catalog.Effect
import Accord.Proofs.Lifecycle.Section
import Accord.Proofs.Session.Atomicity

/-!
# Faithful servers

A context is faithful if its server keeps a catalog, carries out statements as `Statement.effect`
says, and answers questions truthfully.  Statements and commits may fail at any time, questions do
not.  The lemmas below say what is read from a faithful server in each kind of session.
-/

namespace Accord

variable {σ : Type}

/-- The server of a context keeps a catalog.  Only commands change it, and a session that is opened
is outside of any transaction. -/
structure Context.Faithful (ctx : Context σ) (host : Host) (view : σ → Store Catalog) : Prop where
  facts : ctx.facts = host.facts
  opens (database : Option String) (s : σ) :
    (∃ t, ctx.server.connect database s = (.ok (), t)) ↔
      host.databases (host.databaseOf database) = true
  connect {database : Option String} {s t : σ} {reply : Except Error Unit} :
    ctx.server.connect database s = (reply, t) → (view t).committed = (view s).committed
  idle {database : Option String} {s t : σ} :
    ctx.server.connect database s = (.ok (), t) → (view t).working = none
  answers (database : Option String) (q : Query) (s : σ) :
    host.databases (host.databaseOf database) = true → (view s).working = none →
    ∃ table t, ctx.server.query database q s = (.ok table, t) ∧
      (view s).committed.Answers host (host.databaseOf database) table q
  query {database : Option String} {q : Query} {s t : σ} {reply : Except Error ResultTable} :
    ctx.server.query database q s = (reply, t) → view t = view s
  transactional (database : Option String) : ctx.server.Transactional database view
    (Statement.effect host (host.databaseOf database))

/-- A role is shown as it is in the catalog, but for its password and the hash of it. -/
def RoleEntry.Shown (e : RoleEntry) (ctx : Context σ) (name : String)
    (lastKnown : Option DeclaredRole) (r : ObservedRole) : Prop :=
  ∃ hash, r = Session.known ctx lastKnown
    { e.read name (ctx.dialect.supports .rowLevelSecurity) with passwordHash := hash }

/-- A schema is shown as it is in the catalog. -/
structure SchemaEntry.Shown (e : SchemaEntry) (database name : String) (s : ObservedSchema) :
    Prop where
  name : s.name = name
  database : s.database = database
  owner : s.owner = e.owner
  policies (role : String) : s.policies.getD role ∅ = e.policy role

/-- What is read about a role if the catalog is shown truthfully. -/
def Catalog.RoleFound (k : Catalog) (ctx : Context σ) (name : String)
    (lastKnown : Option DeclaredRole) (found : Option ObservedRole) : Prop :=
  match k.roles name with
  | none => found = none
  | some e => ∃ r, found = some r ∧ e.Shown ctx name lastKnown r

/-- What is read about a schema if the catalog is shown truthfully. -/
def Catalog.SchemaFound (k : Catalog) (database name : String) (found : Option ObservedSchema) :
    Prop :=
  match k.schemas database name with
  | none => found = none
  | some e => ∃ r, found = some r ∧ e.Shown database name r

/-- What is read about a rule. -/
def Catalog.rule? (k : Catalog) (key : RuleKey) : Option Rule :=
  if (k.defaults key).isEmpty then none else some ⟨key, k.defaults key⟩

/-- What is read about an extension. -/
def Catalog.extension? (k : Catalog) (host : Host) (database name : String) :
    Option InstalledExtension :=
  (k.extensions database name).map fun e => e.read host database name

namespace Context.Faithful

variable {ctx : Context σ} {host : Host} {view : σ → Store Catalog}

theorem databaseOf_opened (h : ctx.Faithful host view) (database : String) :
    host.databaseOf (ctx.opened database).database = database := by
  unfold Context.opened Host.databaseOf Context.defaultDatabase
  rw [h.facts]
  by_cases hd : database = host.facts.database
  · simp [hd]
  · simp [hd]

/-- Opening a session on a database that there is leaves the catalog as it is. -/
theorem connect_opened (h : ctx.Faithful host view) {database : String}
    (hdatabase : host.databases database = true) (s : σ) :
    ∃ t, ctx.server.connect (ctx.opened database).database s = (.ok (), t) ∧
      view t = ⟨(view s).committed, none⟩ := by
  obtain ⟨t, ht⟩ := (h.opens (ctx.opened database).database s).2
    (by rwa [h.databaseOf_opened])
  refine ⟨t, ht, ?_⟩
  rw [← h.connect ht, ← h.idle ht]

/-- Every question is answered, and the catalog is as it was. -/
theorem ask (h : ctx.Faithful host view) {database : String} {s : σ}
    (hdatabase : host.databases database = true) (hs : (view s).working = none) (q : Query) :
    ∃ table t, ctx.server.query (ctx.opened database).database q s = (.ok table, t) ∧
      view t = view s ∧ (view s).committed.Answers host database table q := by
  obtain ⟨table, t, hq, hanswer⟩ := h.answers (ctx.opened database).database q s
    (by rwa [h.databaseOf_opened]) hs
  rw [h.databaseOf_opened] at hanswer
  exact ⟨table, t, hq, h.query hq, hanswer⟩

/-! ## Reading -/

theorem knownRole? (h : ctx.Faithful host view) {database : String} {s : σ}
    (hdatabase : host.databases database = true) (hs : (view s).working = none) (name : String)
    (lastKnown : Option DeclaredRole) :
    ∃ found t, ((ctx.opened database).knownRole? ctx name lastKnown).result s = (.ok found, t) ∧
      view t = view s ∧ (view s).committed.RoleFound ctx name lastKnown found := by
  unfold Catalog.RoleFound
  obtain ⟨table, t, hq, ht, hcolumns, hrows⟩ := h.ask hdatabase hs
    (.role name (ctx.dialect.supports .rowLevelSecurity))
  obtain ⟨columns, rows⟩ := table
  cases he : (view s).committed.roles name with
  | none =>
    rw [he] at hrows
    refine ⟨none, t, Session.result_knownRole?.2 ⟨none, Session.result_role?.2
      ⟨_, t, hq, .inl ⟨?_, rfl, rfl⟩⟩, rfl⟩, ht, rfl⟩
    simp only at hrows
    subst hrows
    rfl
  | some e =>
    rw [he] at hrows
    obtain ⟨groups, hgroups, hrows⟩ := hrows
    simp only at hcolumns hrows
    subst hcolumns hrows
    have hrow := e.ofRow_row name (ctx.dialect.supports .rowLevelSecurity) hgroups
    cases hsuper : ctx.facts.isSuperuser with
    | false =>
      refine ⟨_, t, Session.result_knownRole?.2 ⟨_, Session.result_role?.2
        ⟨_, t, hq, .inr ⟨_, _, rfl, hrow, .inl ⟨hsuper, rfl, rfl⟩⟩⟩, rfl⟩, ht, _, rfl, ?_⟩
      exact ⟨none, rfl⟩
    | true =>
      obtain ⟨hashes, u, hq', hu, hcolumns', hrows'⟩ := h.ask hdatabase (by rw [ht]; exact hs)
        (.passwordHash name)
      have hhash : ∃ hash, passwordHashOf hashes = .ok hash := by
        rw [ht, he] at hrows'
        refine passwordHashOf_ok e.password hcolumns' ?_
        cases hlogin : e.has .login with
        | true => exact .inr (by rw [hrows']; simp [hlogin])
        | false => exact .inl (by rw [hrows']; simp [hlogin])
      obtain ⟨hash, hhash⟩ := hhash
      refine ⟨_, u, Session.result_knownRole?.2 ⟨_, Session.result_role?.2
        ⟨_, t, hq, .inr ⟨_, _, rfl, hrow, .inr ⟨hsuper, hashes, hash, hq', hhash, rfl⟩⟩⟩, rfl⟩,
        hu.trans ht, _, rfl, ?_⟩
      exact ⟨hash, rfl⟩

theorem schema? (h : ctx.Faithful host view) {database : String} {s : σ}
    (hdatabase : host.databases database = true) (hs : (view s).working = none) (name : String) :
    ∃ found t, ((ctx.opened database).schema? database name).result s = (.ok found, t) ∧
      view t = view s ∧ (view s).committed.SchemaFound database name found := by
  unfold Catalog.SchemaFound
  obtain ⟨table, t, hq, ht, hcolumns, hrows⟩ := h.ask hdatabase hs (.schema name)
  obtain ⟨columns, rows⟩ := table
  simp only at hcolumns hrows
  subst hcolumns hrows
  cases he : (view s).committed.schemas database name with
  | none =>
    refine ⟨none, t, Session.result_schema?.2 ⟨_, t, hq, .inl ⟨?_, rfl, rfl⟩⟩, ht, rfl⟩
    rw [he]
    rfl
  | some e =>
    obtain ⟨table', u, hq', hu, hcolumns', hgrants⟩ := h.ask hdatabase (by rw [ht]; exact hs)
      (.schemaGrants name)
    rw [ht, he] at hgrants
    obtain ⟨grants, hlists, hrows'⟩ := hgrants
    obtain ⟨columns', rows'⟩ := table'
    simp only at hcolumns' hrows'
    subst hcolumns' hrows'
    obtain ⟨policies, hpolicies, hgetD⟩ := Policies.ofResult_lists hlists
    refine ⟨_, u, Session.result_schema?.2 ⟨_, t, hq, .inr ⟨⟨["name", "owner"],
      [.text name, .text e.owner]⟩, name, e.owner, _, policies, ?_, rfl, rfl, hq', hpolicies,
      rfl⟩⟩, hu.trans ht, _, rfl, ⟨rfl, rfl, rfl, hgetD⟩⟩
    rw [he]
    rfl

theorem rule? (h : ctx.Faithful host view) {s : σ} (key : RuleKey)
    (hdatabase : host.databases key.database = true) (hs : (view s).working = none) :
    ∃ t, ((ctx.opened key.database).rule? key).result s =
        (.ok ((view s).committed.rule? key), t) ∧
      view t = view s := by
  obtain ⟨table, t, hq, ht, hcolumns, privileges, hprivileges, hrows⟩ :=
    h.ask hdatabase hs (.rule key)
  obtain ⟨columns, rows⟩ := table
  simp only at hcolumns hrows
  subst hcolumns hrows
  exact ⟨t, Session.result_rule?.2 ⟨_, hq, Rule.ofResult_privileges key hprivileges⟩, ht⟩

theorem extension? (h : ctx.Faithful host view) {database : String} {s : σ}
    (hdatabase : host.databases database = true) (hs : (view s).working = none) (name : String) :
    ∃ t, ((ctx.opened database).extension? database name).result s =
        (.ok ((view s).committed.extension? host database name), t) ∧
      view t = view s := by
  unfold Catalog.extension?
  obtain ⟨table, t, hq, ht, hcolumns, hrows⟩ := h.ask hdatabase hs (.extension name)
  obtain ⟨columns, rows⟩ := table
  simp only at hcolumns hrows
  subst hcolumns hrows
  refine ⟨t, Session.result_extension?.2 ⟨_, hq, ?_⟩, ht⟩
  cases he : (view s).committed.extensions database name with
  | none => exact .inl ⟨rfl, rfl⟩
  | some e =>
    exact .inr ⟨_, _, rfl, InstalledExtension.ofRow_row database name e _, rfl⟩

/-! ## Keeping a record -/

/-- A faithful server that keeps a record is still faithful. -/
theorem recorded (h : ctx.Faithful host view) :
    ctx.recorded.Faithful host fun s => view s.1 where
  facts := h.facts
  opens database s := by
    rw [← h.opens database s.1]
    constructor
    · rintro ⟨t, ht⟩
      exact ⟨t.1, Server.recorded_connect ht⟩
    · rintro ⟨t, ht⟩
      refine ⟨(t, s.2 ++ [.connect database (.ok ())]), ?_⟩
      show ((ctx.server.connect database s.1).1, _) = _
      rw [ht]
  connect hconnect := h.connect (Server.recorded_connect hconnect)
  idle hconnect := h.idle (Server.recorded_connect hconnect)
  answers database q s hdatabase hs := by
    obtain ⟨table, t, hq, hanswer⟩ := h.answers database q s.1 hdatabase hs
    refine ⟨table, (t, s.2 ++ [.query database q (.ok table)]), ?_, hanswer⟩
    show ((ctx.server.query database q s.1).1, _) = _
    rw [hq]
  query hq := h.query (Server.recorded_query hq)
  transactional database := (h.transactional database).recorded

end Context.Faithful

end Accord
