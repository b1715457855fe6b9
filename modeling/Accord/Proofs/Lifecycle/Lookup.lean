import Accord.Proofs.Extension.Plan
import Accord.Proofs.Lifecycle.Section
import Accord.Proofs.Role.Plan
import Accord.Proofs.Rule.Plan
import Accord.Proofs.Schema.Plan
import Accord.Proofs.Session.Store

/-!
# Which object is looked up

The declared name of an object is normalized, made into an identity, and normalized once more when
the object is looked up.  The object that is looked up is the declared one if and only if every
name in its key is `Plain`; otherwise a plan for an object that was found acts on a foreign object.

A `Naming` says for one kind of object what its keys are, and which statements act on other objects
than that of a key.
-/

namespace Accord

variable {σ δ ο ω κ : Type}

/-- A server that answers look-ups by name with objects of that name. -/
structure Server.AnswersByName (server : Server σ) : Prop where
  role {database : Option String} {name : String} {bypass : Bool} {s t : σ} {r : ResultTable}
    {row : Row} : server.query database (.role name bypass) s = (.ok r, t) →
    r.first? = some row → row.text "name" = .ok name
  schema {database : Option String} {name : String} {s t : σ} {r : ResultTable} {row : Row} :
    server.query database (.schema name) s = (.ok r, t) →
    r.first? = some row → row.text "name" = .ok name
  extension {database : Option String} {name : String} {s t : σ} {r : ResultTable} {row : Row} :
    server.query database (.extension name) s = (.ok r, t) →
    r.first? = some row → row.text "name" = .ok name

/-- The names of the objects of one kind. -/
structure Naming (k : Lifecycle δ ο ω) (κ : Type) where
  /-- The key of a declared object, once the spec is normalized. -/
  declared : String → δ → Except Error κ
  /-- The key that is looked up for an identity. -/
  sought : String → Except Error κ
  /-- The key of an object that was found. -/
  key : ο → κ
  /-- The names in a key. -/
  names : κ → List String
  /-- Whether a statement acts on another object than that of a key. -/
  Foreign : κ → Statement → Prop

namespace Naming

/-- Another role is renamed. -/
def roles : Naming Lifecycle.roles String where
  declared _ desired := desired.normalize.map DeclaredRole.name
  sought id := normalizeName id "role"
  key := ObservedRole.name
  names name := [name]
  Foreign _ c := ∃ old new, c = .renameRole old new

/-- Another schema is renamed. -/
def schemas : Naming Lifecycle.schemas (String × String) where
  declared default desired := (desired.normalize default).map fun s => (s.database, s.name)
  sought := ObservedSchema.decodeKey
  key s := (s.database, s.name)
  names key := [key.1, key.2]
  Foreign _ c := ∃ old new, c = .renameSchema old new

/-- Another extension is changed. -/
def extensions : Naming Lifecycle.extensions (String × String) where
  declared default desired := do
    let spec ← desired.normalize default
    return (← spec.databaseOf, spec.name)
  sought := InstalledExtension.decodeKey
  key e := (e.database, e.name)
  names key := [key.1, key.2]
  Foreign key c := ∃ name value,
    (c = .moveExtension name value ∨ c = .updateExtension name value) ∧ name ≠ key.2

/-- Privileges are taken off another rule. -/
def rules : Naming Lifecycle.rules RuleKey where
  declared default desired := (desired.normalize default).map Rule.key
  sought := RuleKey.decode
  key := Rule.key
  names key := [key.database, key.schema, key.owner, key.role]
  Foreign key c := ∃ other, c.revokedKey? key.database = some other ∧ other ≠ key

variable {k : Lifecycle δ ο ω}

/-- All names in a key stay as they are when they are normalized again. -/
def Plain (N : Naming k κ) (key : κ) : Prop :=
  ∀ name ∈ N.names key, Accord.Plain name

/-- For a declared key, what was looked up and what was found there, and what statements that come
of it are about. -/
structure Judged (N : Naming k κ) (key sought : κ) (found : Option ο)
    (statements : List Statement) : Prop where
  /-- The declared object is looked up if and only if its names are plain. -/
  sought_iff : sought = key ↔ N.Plain key
  found_eq : ∀ o, found = some o → N.key o = sought
  /-- The statements act on a foreign object if and only if one was found. -/
  foreign_iff : (∃ c ∈ statements, N.Foreign key c) ↔ found.isSome = true ∧ ¬N.Plain key

/-- What the look-up of a kind has to satisfy for its results to be judged. -/
structure Lawful (N : Naming k κ) (ctx : Context σ) : Prop where
  sought {desired : δ} {id : String} {key : κ} {found : Option ο} {s t : σ} :
    N.declared ctx.defaultDatabase desired = .ok key → k.identity ctx desired = .ok id →
    (k.read ctx id none).result s = (.ok found, t) →
    ∃ sought, N.sought id = .ok sought ∧ (sought = key ↔ N.Plain key) ∧
      ∀ o, found = some o → N.key o = sought
  quiet {id : String} {found : Option ο} {s t : σ} :
    (k.read ctx id none).result s = (.ok found, t) → ctx.server.Quiet s t
  plan {desired : δ} {found : Option ο} {plan : Plan} : k.plan ctx found desired = .ok plan →
    ∃ key, N.declared ctx.defaultDatabase desired = .ok key ∧
      ((∃ c ∈ plan, N.Foreign key c) ↔ ∃ o, found = some o ∧ N.key o ≠ key)
  /-- What is written is the plan for what was found.  If nothing was found, the object of the
  declared key may be looked up again. -/
  write {desired : δ} {id : String} {found : Option ο} {outcome : Outcome ο} {s t : σ} :
    (k.write ctx id found desired).result s = (.ok outcome, t) →
    ∃ before plan events n,
      (before = found ∨ found = none ∧ ∀ o key, before = some o →
        N.declared ctx.defaultDatabase desired = .ok key → N.key o = key) ∧
      k.plan ctx before desired = .ok plan ∧ ctx.server.Trace s events t ∧
      Transaction plan (commandsIn events) (.ok n)

end Naming

/-- The statements among some commands. -/
def statementsIn (given : List Given) : List Statement :=
  given.filterMap fun g =>
    match g.1 with
    | .run c => some c
    | _ => none

theorem statementsIn_succeeded (l : List Statement) : statementsIn (succeeded l) = l := by
  unfold statementsIn succeeded
  rw [List.filterMap_map]
  exact List.filterMap_some

/-- When a plan is applied, its statements are run in order. -/
theorem Transaction.statementsIn {plan : Plan} {given : List Given} {n : Nat}
    (h : Transaction plan given (.ok n)) : Accord.statementsIn given = plan.ordered := by
  cases h with
  | empty hplan => rw [Plan.ordered_eq_nil.2 hplan]; rfl
  | committed hplan =>
    have := statementsIn_succeeded plan.ordered
    unfold Accord.statementsIn at this ⊢
    rw [List.filterMap_cons_none rfl, List.filterMap_append, this]
    exact List.append_nil _

namespace Naming

variable {k : Lifecycle δ ο ω}

/-- The results of a kind are about the declared object exactly if its names are plain: the plan
that is shown, and the statements that are run. -/
def Exact (N : Naming k κ) (ctx : Context σ) : Prop :=
  (∀ desired s plan t, (k.pending ctx desired).result s = (.ok plan, t) →
    ∃ id key sought found, k.identity ctx desired = .ok id ∧
      N.declared ctx.defaultDatabase desired = .ok key ∧ N.sought id = .ok sought ∧
      (k.read ctx id none).result s = (.ok found, t) ∧ N.Judged key sought found plan) ∧
  ∀ desired s log outcome t log',
    (k.converge ctx.recorded desired).result (s, log) = (.ok outcome, t, log') →
    ∃ id key sought found u events, k.identity ctx.recorded desired = .ok id ∧
      N.declared ctx.defaultDatabase desired = .ok key ∧ N.sought id = .ok sought ∧
      (k.read ctx.recorded id none).result (s, log) = (.ok found, u) ∧ log' = log ++ events ∧
      N.Judged key sought found (statementsIn (commandsIn events))

theorem Lawful.judged {N : Naming k κ} {ctx : Context σ} (h : N.Lawful ctx) {desired : δ}
    {id : String} {found before : Option ο} {plan : Plan} {s t : σ}
    (hid : k.identity ctx desired = .ok id) (hread : (k.read ctx id none).result s = (.ok found, t))
    (hbefore : before = found ∨ found = none ∧ ∀ o key, before = some o →
      N.declared ctx.defaultDatabase desired = .ok key → N.key o = key)
    (hplan : k.plan ctx before desired = .ok plan) :
    ∃ key sought, N.declared ctx.defaultDatabase desired = .ok key ∧ N.sought id = .ok sought ∧
      N.Judged key sought found plan := by
  obtain ⟨key, hkey, hforeign⟩ := h.plan hplan
  obtain ⟨sought, hsought, hplain, hfound⟩ := h.sought hkey hid hread
  refine ⟨key, sought, hkey, hsought, hplain, hfound, ?_⟩
  rw [hforeign, Option.isSome_iff_exists, ← hplain]
  rcases hbefore with rfl | ⟨rfl, hbefore⟩
  · constructor
    · rintro ⟨o, rfl, hne⟩
      exact ⟨⟨o, rfl⟩, fun heq => hne ((hfound o rfl).trans heq)⟩
    · rintro ⟨⟨o, rfl⟩, hne⟩
      exact ⟨o, rfl, fun heq => hne ((hfound o rfl).symm.trans heq)⟩
  · constructor
    · rintro ⟨o, ho, hne⟩
      exact absurd (hbefore o key ho hkey) hne
    · rintro ⟨⟨o, ho⟩, -⟩
      exact absurd ho (by simp)

theorem exact_of_lawful {N : Naming k κ} {ctx : Context σ} (h : N.Lawful ctx)
    (hrecorded : N.Lawful ctx.recorded) : N.Exact ctx := by
  constructor
  · intro desired s plan t hpending
    obtain ⟨id, found, hid, hread, hplan⟩ := Lifecycle.result_pending.1 hpending
    obtain ⟨key, sought, hkey, hsought, hjudged⟩ := h.judged hid hread (.inl rfl) hplan
    exact ⟨id, key, sought, found, hid, hkey, hsought, hread, hjudged⟩
  · intro desired s log outcome t log' hconverge
    obtain ⟨id, found, u, hid, hread, hwrite⟩ := Lifecycle.result_converge.1 hconverge
    obtain ⟨before, plan, events, n, hbefore, hplan, htrace, ht⟩ := hrecorded.write hwrite
    obtain ⟨key, sought, hkey, hsought, hjudged⟩ := hrecorded.judged hid hread hbefore hplan
    obtain ⟨events₀, htrace₀, hquiet⟩ := hrecorded.quiet hread
    refine ⟨id, key, sought, found, u, events₀ ++ events, hid, hkey, hsought, hread,
      (htrace₀.trans htrace).of_recorded.2, hjudged.sought_iff, hjudged.found_eq, ?_⟩
    rw [commandsIn_append, hquiet, List.nil_append, ht.statementsIn]
    simpa only [Plan.mem_ordered] using hjudged.foreign_iff

/-! ## Roles -/

/-- A role that was read has the name that was looked up. -/
theorem normalizeName_of_read {ctx : Context σ} (h : ctx.server.AnswersByName) {id : String}
    {lastKnown : Option DeclaredRole} {o : ObservedRole} {s t : σ}
    (hread : (Lifecycle.Role.read ctx id lastKnown).result s = (.ok (some o), t)) :
    normalizeName id "role" = .ok o.name := by
  obtain ⟨name, u, hname, -, -, hread⟩ := Lifecycle.Role.result_read.1 hread
  obtain ⟨seen, hseen, ho⟩ := Session.result_knownRole?.1 hread
  obtain ⟨r, rfl, rfl⟩ := Option.map_eq_some_iff.1 ho.symm
  obtain ⟨table, v, hq, ⟨-, hnone, -⟩ | ⟨row, state, hrow, hstate, hr⟩⟩ :=
    Session.result_role?.1 hseen
  · exact nomatch hnone
  · have hstate := ObservedRole.ofRow_name hstate
    obtain rfl := Except.ok.inj (hstate.symm.trans (h.role hq hrow))
    rcases hr with ⟨-, hr, -⟩ | ⟨-, _, _, -, -, hr⟩
    · rw [Option.some.inj hr]
      exact hname
    · rw [Option.some.inj hr]
      exact hname

theorem lawful_roles {ctx : Context σ} (h : ctx.server.AnswersByName) : roles.Lawful ctx where
  sought {desired id key found s t} hkey hid hread := by
    obtain ⟨spec, hspec, rfl⟩ := Except.map_ok.1 hkey
    dsimp only [Lifecycle.roles, roles] at hid hread ⊢
    obtain rfl := Except.ok.inj ((DeclaredRole.normalize_name hspec).symm.trans hid)
    obtain ⟨name, u, hname, -⟩ := Lifecycle.Role.result_read.1 hread
    refine ⟨name, hname, ?_, ?_⟩
    · rw [normalizeName_eq_self hname]
      simp [Plain]
    · rintro o rfl
      exact Except.ok.inj ((normalizeName_of_read h hread).symm.trans hname)
  quiet hread := Lifecycle.Role.quiet_read hread
  plan {desired found plan} hplan := by
    obtain ⟨spec, hspec, hplan⟩ := Except.bind_ok.1 hplan
    refine ⟨spec.name, Except.map_ok.2 ⟨spec, hspec, rfl⟩, ?_⟩
    cases found with
    | none =>
      simp only [roles, reduceCtorEq, false_and, exists_false, iff_false]
      rintro ⟨c, hc, old, new, rfl⟩
      exact DeclaredRole.rename_not_mem_creationPlan hplan hc
    | some current =>
      have hrename := DeclaredRole.rename_mem_updatePlan hplan
      simp only [roles, Option.some.injEq, exists_eq_left']
      rw [← hrename]
      constructor
      · rintro ⟨c, hc, old, new, rfl⟩
        exact ⟨old, new, hc⟩
      · rintro ⟨old, new, hc⟩
        exact ⟨_, hc, old, new, rfl⟩
  write {desired id found outcome s t} hwrite := by
    cases found with
    | none =>
      obtain ⟨-, spec, plan, hspec, hplan, hwrite⟩ := Lifecycle.Role.result_create.1 hwrite
      rw [Lifecycle.Role.applyPlan_eq] at hwrite
      obtain ⟨events, n, htrace, ht⟩ := trace_writePlan Session.quiet_knownRole? hwrite
      exact ⟨none, plan, events, n, .inl rfl, Except.bind_ok.2 ⟨spec, hspec, hplan⟩, htrace, ht⟩
    | some current =>
      obtain ⟨-, -, spec, plan, hspec, hplan, hwrite⟩ := Lifecycle.Role.result_update.1 hwrite
      rw [Lifecycle.Role.applyPlan_eq] at hwrite
      obtain ⟨events, n, htrace, ht⟩ := trace_writePlan Session.quiet_knownRole? hwrite
      exact ⟨some current, plan, events, n, .inl rfl, Except.bind_ok.2 ⟨spec, hspec, hplan⟩,
        htrace, ht⟩

/-! ## Schemas -/

theorem lawful_schemas {ctx : Context σ} (h : ctx.server.AnswersByName) : schemas.Lawful ctx where
  sought {desired id key found s t} hkey hid hread := by
    obtain ⟨spec, hspec, rfl⟩ := Except.map_ok.1 hkey
    obtain ⟨spec', hspec', rfl⟩ := Except.map_ok.1 hid
    obtain rfl := Except.ok.inj (hspec.symm.trans hspec')
    obtain ⟨database, name, hdecode, -, u, table, v, -, -, hread⟩ :=
      Lifecycle.Schema.result_read.1 hread
    obtain ⟨hdatabase, hname⟩ := ObservedSchema.decodeKey_joinIdentity hdecode
    refine ⟨(database, name), hdecode, ?_, ?_⟩
    · rw [Prod.mk.injEq, normalizeName_eq_self hdatabase, normalizeName_eq_self hname]
      simp [Plain, schemas]
    · rintro o rfl
      rcases hread with ⟨-, hnone, -⟩ | ⟨-, w, -, hread⟩
      · simp at hnone
      · obtain ⟨table', x, hq, ⟨-, hnone, -⟩ | ⟨row, foundName, owner, grants, policies, hrow,
          hfoundName, -, -, -, ho⟩⟩ := Session.result_schema?.1 hread
        · simp at hnone
        · obtain rfl := Except.ok.inj (hfoundName.symm.trans (h.schema hq hrow))
          rw [Option.some.inj ho]
          rfl
  quiet hread := Lifecycle.Schema.quiet_read hread
  plan {desired found plan} hplan := by
    obtain ⟨spec, hspec, hplan⟩ := Except.bind_ok.1 hplan
    refine ⟨(spec.database, spec.name), Except.map_ok.2 ⟨spec, hspec, rfl⟩, ?_⟩
    cases found with
    | none =>
      obtain rfl := Except.ok.inj hplan
      simp only [schemas, reduceCtorEq, false_and, exists_false, iff_false]
      rintro ⟨c, hc, old, new, rfl⟩
      exact NormalSchema.rename_not_mem_creationPlan _ _ _ _ _ hc
    | some current =>
      obtain ⟨hdatabase, hrename⟩ := NormalSchema.rename_mem_updatePlan hplan
      simp only [schemas, Option.some.injEq, exists_eq_left', ne_eq, Prod.mk.injEq, hdatabase,
        true_and]
      rw [← ne_eq, ← hrename]
      constructor
      · rintro ⟨c, hc, old, new, rfl⟩
        exact ⟨old, new, hc⟩
      · rintro ⟨old, new, hc⟩
        exact ⟨_, hc, old, new, rfl⟩
  write {desired id found outcome s t} hwrite := by
    cases found with
    | none =>
      obtain ⟨-, spec, hspec, hwrite⟩ := Lifecycle.Schema.result_create.1 hwrite
      rw [Lifecycle.Schema.applyPlan_eq] at hwrite
      obtain ⟨events, n, htrace, ht⟩ := trace_writePlan Session.quiet_schema? hwrite
      exact ⟨none, _, events, n, .inl rfl, Except.bind_ok.2 ⟨spec, hspec, rfl⟩, htrace, ht⟩
    | some current =>
      obtain ⟨-, spec, plan, hspec, hplan, hwrite⟩ := Lifecycle.Schema.result_update.1 hwrite
      rw [Lifecycle.Schema.applyPlan_eq] at hwrite
      obtain ⟨events, n, htrace, ht⟩ := trace_writePlan Session.quiet_schema? hwrite
      exact ⟨some current, plan, events, n, .inl rfl, Except.bind_ok.2 ⟨spec, hspec, hplan⟩,
        htrace, ht⟩

/-! ## Extensions -/

theorem extensions_declared_ok {defaultDatabase : String} {desired : DeclaredExtension}
    {key : String × String} :
    extensions.declared defaultDatabase desired = .ok key ↔
      ∃ spec database, desired.normalize defaultDatabase = .ok spec ∧
        spec.database = some database ∧ key = (database, spec.name) := by
  show (desired.normalize defaultDatabase >>= fun spec => spec.databaseOf >>= fun database =>
    pure (database, spec.name)) = .ok key ↔ _
  simp only [Except.bind_ok, pure, Except.pure, Except.ok.injEq]
  constructor
  · rintro ⟨spec, hspec, database, hdatabase, rfl⟩
    obtain ⟨database', hdatabase', -⟩ := DeclaredExtension.normalize_ok hspec
    rw [DeclaredExtension.databaseOf, hdatabase'] at hdatabase
    obtain rfl := Except.ok.inj hdatabase
    exact ⟨spec, database', hspec, hdatabase', rfl⟩
  · rintro ⟨spec, database, hspec, hdatabase, rfl⟩
    refine ⟨spec, hspec, database, ?_, rfl⟩
    rw [DeclaredExtension.databaseOf, hdatabase]

theorem lawful_extensions {ctx : Context σ} (h : ctx.server.AnswersByName) :
    extensions.Lawful ctx where
  sought {desired id key found s t} hkey hid hread := by
    obtain ⟨spec, database, hspec, hdatabase, rfl⟩ := extensions_declared_ok.1 hkey
    obtain ⟨spec', hspec', hid⟩ := Except.bind_ok.1 hid
    obtain rfl := Except.ok.inj (hspec.symm.trans hspec')
    rw [DeclaredExtension.databaseOf, hdatabase] at hid
    obtain rfl := Except.ok.inj hid
    obtain ⟨database', name, hdecode, -, u, table, v, -, -, hread⟩ :=
      Lifecycle.Extension.result_read.1 hread
    obtain ⟨hdatabase', hname⟩ := InstalledExtension.decodeKey_joinIdentity hdecode
    refine ⟨(database', name), hdecode, ?_, ?_⟩
    · rw [Prod.mk.injEq, normalizeName_eq_self hdatabase', normalizeName_eq_self hname]
      simp [Plain, extensions]
    · rintro o rfl
      rcases hread with ⟨-, hnone, -⟩ | ⟨-, w, -, hread⟩
      · simp at hnone
      · obtain ⟨table', hq, ⟨-, hnone⟩ | ⟨row, e, hrow, he, ho⟩⟩ :=
          Session.result_extension?.1 hread
        · simp at hnone
        · obtain ⟨hename, hedatabase⟩ := InstalledExtension.ofRow_name he
          obtain rfl := Except.ok.inj (hename.symm.trans (h.extension hq hrow))
          rw [Option.some.inj ho, ← hedatabase]
          rfl
  quiet hread := Lifecycle.Extension.quiet_read hread
  plan {desired found plan} hplan := by
    obtain ⟨-, -, hplan⟩ := Except.bind_ok.1 hplan
    obtain ⟨spec, hspec, hplan⟩ := Except.bind_ok.1 hplan
    obtain ⟨database, hdatabase, -⟩ := DeclaredExtension.normalize_ok hspec
    refine ⟨(database, spec.name),
      extensions_declared_ok.2 ⟨spec, database, hspec, hdatabase, rfl⟩, ?_⟩
    -- Neither side can hold: there is no plan for an extension of another name.
    refine iff_of_false ?_ ?_
    · rintro ⟨c, hc, name, value, hcname, hne⟩
      cases found with
      | none =>
        obtain rfl := Except.ok.inj hplan
        obtain rfl := List.mem_singleton.1 hc
        simp at hcname
      | some current =>
        obtain ⟨-, -, rfl⟩ := (DeclaredExtension.updatePlan_ok hdatabase).1 hplan
        simp only [List.mem_append, Option.mem_toList, Option.map_eq_some_iff] at hc
        rcases hc with ⟨_, -, rfl⟩ | ⟨_, -, rfl⟩
        · simp only [Statement.moveExtension.injEq, reduceCtorEq, or_false] at hcname
          exact hne hcname.1.symm
        · simp only [Statement.updateExtension.injEq, reduceCtorEq, false_or] at hcname
          exact hne hcname.1.symm
    · rintro ⟨current, rfl, hne⟩
      obtain ⟨hname, hcurrent, -⟩ := (DeclaredExtension.updatePlan_ok hdatabase).1 hplan
      exact hne (Prod.ext hcurrent hname)
  write {desired id found outcome s t} hwrite := by
    cases found with
    | none =>
      obtain ⟨-, hfeature, spec, hspec, hwrite⟩ := Lifecycle.Extension.result_create.1 hwrite
      obtain ⟨database, hdatabase, -⟩ := DeclaredExtension.normalize_ok hspec
      rw [Lifecycle.Extension.applyPlan_eq hdatabase] at hwrite
      obtain ⟨events, n, htrace, ht⟩ := trace_writePlan Session.quiet_extension? hwrite
      exact ⟨none, _, events, n, .inl rfl,
        Except.bind_ok.2 ⟨(), Dialect.require_ok.2 hfeature,
          Except.bind_ok.2 ⟨spec, hspec, rfl⟩⟩, htrace, ht⟩
    | some current =>
      obtain ⟨-, hfeature, spec, plan, hspec, hplan, hwrite⟩ :=
        Lifecycle.Extension.result_update.1 hwrite
      obtain ⟨database, hdatabase, -⟩ := DeclaredExtension.normalize_ok hspec
      rw [Lifecycle.Extension.applyPlan_eq hdatabase] at hwrite
      obtain ⟨events, n, htrace, ht⟩ := trace_writePlan Session.quiet_extension? hwrite
      exact ⟨some current, plan, events, n, .inl rfl,
        Except.bind_ok.2 ⟨(), Dialect.require_ok.2 hfeature,
          Except.bind_ok.2 ⟨spec, hspec, hplan⟩⟩, htrace, ht⟩

/-! ## Rules -/

theorem lawful_rules (ctx : Context σ) : rules.Lawful ctx where
  sought {desired id key found s t} hkey hid hread := by
    obtain ⟨rule, hrule, rfl⟩ := Except.map_ok.1 hkey
    obtain ⟨rule', hrule', rfl⟩ := Except.map_ok.1 hid
    obtain rfl := Except.ok.inj (hrule.symm.trans hrule')
    obtain ⟨sought, u, hdecode, -, -, hread⟩ := Lifecycle.Rule.result_read.1 hread
    obtain ⟨hdatabase, hschema, howner, hrole, htype⟩ := RuleKey.decode_identity hdecode
    refine ⟨sought, hdecode, ?_, ?_⟩
    · rw [RuleKey.eq_iff, normalizeName_eq_self hdatabase, normalizeName_eq_self hschema,
        normalizeName_eq_self howner, normalizeName_eq_self hrole]
      simp [Plain, rules, htype]
    · rintro o rfl
      exact Session.rule?_key hread
  quiet hread := Lifecycle.Rule.quiet_read hread
  plan {desired found plan} hplan := by
    obtain ⟨-, -, hplan⟩ := Except.bind_ok.1 hplan
    obtain ⟨rule, hrule, hplan⟩ := Except.bind_ok.1 hplan
    exact ⟨rule.key, Except.map_ok.2 ⟨rule, hrule, rfl⟩, Rule.revokedKey?_of_plan hplan⟩
  write {desired id found outcome s t} hwrite := by
    have hwrite : (Lifecycle.Rule.apply ctx found desired).result s = (.ok outcome, t) := by
      cases found <;> exact hwrite
    obtain ⟨-, hfeature, rule, hrule, hwrite⟩ := Lifecycle.Rule.result_apply.1 hwrite
    obtain ⟨s₁, plan, s₂, events, n, hprepare, htrace, ht⟩ :=
      trace_writeSection Lifecycle.Rule.quiet_prepare Session.quiet_rule? hwrite
    have hplan : ∀ before, rule.plan before = .ok plan →
        Lifecycle.rules.plan ctx before desired = .ok plan := fun before h =>
      Except.bind_ok.2 ⟨(), Dialect.require_ok.2 hfeature, Except.bind_ok.2 ⟨rule, hrule, h⟩⟩
    cases found with
    | some old =>
      exact ⟨some old, plan, events, n, .inl rfl, hplan _ (Run.result_ofExcept.1 hprepare).1,
        htrace, ht⟩
    | none =>
      obtain ⟨before, u, hbefore, hmade⟩ := Run.result_bind_ok.1 hprepare
      refine ⟨before, plan, events, n, .inr ⟨rfl, ?_⟩, hplan _ (Run.result_ofExcept.1 hmade).1,
        htrace, ht⟩
      rintro o key rfl hkey
      obtain ⟨rule', hrule', rfl⟩ := Except.map_ok.1 hkey
      obtain rfl := Except.ok.inj (hrule.symm.trans hrule')
      exact Session.rule?_key hbefore

/-! ## All kinds -/

theorem answersByName_recorded {server : Server σ} (h : server.AnswersByName) :
    server.recorded.AnswersByName where
  role hq := h.role (Server.recorded_query hq)
  schema hq := h.schema (Server.recorded_query hq)
  extension hq := h.extension (Server.recorded_query hq)

/-- For every kind of object, what is looked up, planned and run is about the declared object
exactly if the names in its key are plain. -/
theorem lookup_exact_iff_plain (ctx : Context σ) (h : ctx.server.AnswersByName) :
    roles.Exact ctx ∧ schemas.Exact ctx ∧ extensions.Exact ctx ∧ rules.Exact ctx := by
  have h' : ctx.recorded.server.AnswersByName := answersByName_recorded h
  exact ⟨exact_of_lawful (lawful_roles h) (lawful_roles h'),
    exact_of_lawful (lawful_schemas h) (lawful_schemas h'),
    exact_of_lawful (lawful_extensions h) (lawful_extensions h'),
    exact_of_lawful (lawful_rules ctx) (lawful_rules ctx.recorded)⟩

end Naming

/-! ## A role that is mistaken for another one -/

/-- A server with one role and nothing else. -/
def loneRole : Memory Unit where
  opens _ := true
  effect _ _ _ := some ()
  answer _ q _ :=
    match q with
    | .role name _ =>
      if name = "app" then
        ⟨["name", "superuser", "inherit", "create_role", "create_database", "login", "replication",
            "connection_limit", "valid_until", "bypass_row_level_security", "roles"],
          [[.text "app", .bool false, .bool true, .bool false, .bool false, .bool false,
            .bool false, .number (.integer (-1)), .text "infinity", .bool false, .array []]]⟩
      else .none
    | _ => .none
  refuses _ := false

/-- The context of that server. -/
def loneRoleContext : Context (Store Unit) where
  server := loneRole.server
  dialect := ⟨⟨16, 0, 0⟩⟩
  facts := ⟨"16.0", "admin", "main", false⟩
  readOnly := false
  lock := .free

/-- A role whose name is the word `app` between quotes. -/
def quotedApp : DeclaredRole :=
  .named "\"\"\"app\"\"\""

theorem loneRole_answersByName : loneRole.server.AnswersByName where
  role {_ name _ _ _ _ _} hq hrow := by
    obtain ⟨hr, -⟩ := Prod.mk.inj hq
    obtain rfl := Except.ok.inj hr
    by_cases hname : name = "app"
    · subst hname
      obtain rfl := Option.some.inj hrow
      rfl
    · simp [loneRole, hname, ResultTable.first?, ResultTable.toRows, ResultTable.none] at hrow
  schema hq hrow := by
    obtain ⟨hr, -⟩ := Prod.mk.inj hq
    obtain rfl := Except.ok.inj hr
    simp [loneRole, ResultTable.first?, ResultTable.toRows, ResultTable.none] at hrow
  extension hq hrow := by
    obtain ⟨hr, -⟩ := Prod.mk.inj hq
    obtain rfl := Except.ok.inj hr
    simp [loneRole, ResultTable.first?, ResultTable.toRows, ResultTable.none] at hrow

theorem result_pending_quotedApp : ∃ t,
    (Lifecycle.roles.pending loneRoleContext quotedApp).result ⟨(), none⟩ =
      (.ok [.renameRole "app" "\"app\""], t) :=
  ⟨_, Run.result_of_toOption (by decide +kernel)⟩

/-- The plan for a role whose name stands between quotes renames the role without the quotes. -/
theorem pending_renames_other_role :
    loneRole.server.AnswersByName ∧ (∃ spec, quotedApp.normalize = .ok spec ∧
      spec.name = "\"app\"") ∧ ∃ t,
    (Lifecycle.roles.pending loneRoleContext quotedApp).result ⟨(), none⟩ =
      (.ok [.renameRole "app" "\"app\""], t) := by
  refine ⟨loneRole_answersByName, ?_, result_pending_quotedApp⟩
  have h : (quotedApp.normalize.toOption.map DeclaredRole.name) = some "\"app\"" := by
    decide +kernel
  cases hspec : quotedApp.normalize with
  | error e => simp [hspec, Except.toOption] at h
  | ok spec => exact ⟨spec, rfl, by simpa [hspec, Except.toOption] using h⟩

/-- The same plan as a case of the general result: its name is not plain, and a role is found. -/
theorem lookup_exact_iff_plain_quotedApp :
    loneRoleContext.server.AnswersByName ∧
      ∃ key sought found, key ≠ sought ∧ ¬Naming.roles.Plain key ∧ found ≠ none ∧
        Naming.roles.Judged key sought found [.renameRole "app" "\"app\""] := by
  have h : loneRoleContext.server.AnswersByName := loneRole_answersByName
  obtain ⟨t, hpending⟩ := result_pending_quotedApp
  have hexact := (Naming.lookup_exact_iff_plain loneRoleContext h).1.1 quotedApp ⟨(), none⟩
    [.renameRole "app" "\"app\""] t hpending
  obtain ⟨id, key, sought, found, -, -, -, -, hjudged⟩ := hexact
  obtain ⟨hfound, hplain⟩ := hjudged.foreign_iff.1
    ⟨_, List.mem_singleton_self _, "app", "\"app\"", rfl⟩
  refine ⟨h, key, sought, found, ?_, hplain, ?_, hjudged⟩
  · exact fun heq => hplain (hjudged.sought_iff.1 heq.symm)
  · rintro rfl
    simp at hfound

end Accord
