import Accord.Proofs.Access.Privilege
import Accord.Proofs.Lifecycle.Preview
import Accord.Proofs.Lifecycle.Rule
import Accord.Proofs.Rule.Plan

/-!
# Adjusting a rule

A rule that is created, or updated from what its key gives, is adjusted in one transaction: what is
held and not declared is revoked, then what is declared and not held is granted, and that is all
(`Lifecycle.adjusts_rule`).
-/

namespace Accord

variable {σ ο : Type}

/-! ## Declared privileges -/

/-- A declared rule gives the privileges that its words name. -/
theorem DeclaredRule.mem_privileges {desired : DeclaredRule} {defaultDatabase : String}
    {rule : Rule} (h : desired.normalize defaultDatabase = .ok rule) (p : Privilege) :
    p ∈ rule.privileges ↔ ∃ word ∈ desired.privileges, rule.key.type.Names word p := by
  obtain ⟨-, hset, -⟩ := normalize_ok h
  obtain ⟨l, hl, hset⟩ := Except.bind_ok.1 hset
  rw [← Except.ok.inj hset, OrderedSet.mem_ofList]
  exact ObjectType.mem_flatten_privileges hl p

/-! ## The text of an adjustment -/

namespace RuleKey

/-- The text that grants or revokes some privileges under a key; none if there are no privileges. -/
def alteration (key : RuleKey) (verb preposition : String) (privileges : List Privilege) :
    List String :=
  if privileges.isEmpty then []
  else ["ALTER DEFAULT PRIVILEGES FOR ROLE " ++ Sql.identifier key.owner ++ " IN SCHEMA "
    ++ Sql.identifier key.schema ++ verb ++ ",".intercalate (privileges.map Privilege.sql)
    ++ " ON " ++ key.type.plural ++ preposition ++ Sql.identifier key.role]

/-- The texts of the commands that take some privileges off a key and add others. -/
def script (key : RuleKey) (lost gained : List Privilege) : List String :=
  match key.alteration " REVOKE " " FROM " lost ++ key.alteration " GRANT " " TO " gained with
  | [] => []
  | l => "BEGIN" :: (l ++ ["COMMIT"])

theorem sql_revoke (key : RuleKey) (lost : List Privilege) :
    (key.revoke lost).map Statement.sql = key.alteration " REVOKE " " FROM " lost := by
  unfold revoke alteration
  by_cases hlost : lost.isEmpty = true
  · rw [if_pos hlost, if_pos hlost, List.map_nil]
  · rewrite [if_neg hlost, if_neg hlost, List.map_singleton]
    unfold Statement.sql Statement.privilegeList
    dsimp only

theorem sql_grant (key : RuleKey) (gained : List Privilege) :
    (key.grant gained).map Statement.sql = key.alteration " GRANT " " TO " gained := by
  unfold grant alteration
  by_cases hgained : gained.isEmpty = true
  · rw [if_pos hgained, if_pos hgained, List.map_nil]
  · rewrite [if_neg hgained, if_neg hgained, List.map_singleton]
    unfold Statement.sql Statement.privilegeList
    dsimp only

/-- What is sent for an adjustment when nothing fails. -/
theorem sql_carriedOut (key : RuleKey) (lost gained : List Privilege) :
    (Plan.carriedOut (key.revoke lost ++ key.grant gained)).map (fun g => g.1.sql) =
      key.script lost gained := by
  unfold Plan.carriedOut script
  rw [ordered_exchange, ← sql_revoke, ← sql_grant, ← List.map_append]
  cases key.revoke lost ++ key.grant gained with
  | nil => rfl
  | cons c l => simp [succeeded, Command.sql]

end RuleKey

/-! ## Sections in which nothing fails -/

namespace Context.Faithful

variable {ctx : Context σ} {host : Host} {view : σ → Store Catalog}

/-- A section that makes a plan, and in which no command fails, carries the plan out and then reads
the object again. -/
theorem run_of_all_ok (h : ctx.Faithful host view) {w : Writing (σ × List Event) ο}
    (hquiet : w.Quiet (ctx.recorded.opened w.database)) {plan : Plan} {s u v : σ × List Event}
    {r : Except Halt (Outcome ο)} (hopening : (w.opening ctx.recorded).result s = (.ok plan, u))
    (hidle : (view u.1).working = none) (hlog : commandsIn u.2 = [])
    (hrun : (w.run ctx.recorded).result s = (r, v)) (hbroken : ∀ e ∈ v.2, e.broken = false) :
    commandsIn v.2 = plan.carriedOut ∧ ∃ t : σ × List Event,
      effects (Statement.effect host w.database) plan.ordered (view u.1).committed =
        some (view t.1).committed ∧
      (view t.1).working = none ∧
      (w.verify (ctx.recorded.opened w.database) plan.length).result t = (r, v) := by
  obtain ⟨given, hcourse⟩ := Writing.course_of_opening hopening
  rw [hrun] at hcourse
  have hgiven : commandsIn v.2 = given := by
    rw [hcourse.commandsIn_recorded hquiet, hlog, List.nil_append]
  have hok : ∀ g ∈ given, g.2 = .ok () := fun g hg => ok_of_mem_commandsIn hbroken (hgiven ▸ hg)
  refine ⟨hgiven.trans (hcourse.given_of_all_ok hok), ?_⟩
  cases hcourse with
  | failed _ ht => exact nomatch ht.ok_of_all_ok hok
  | applied htrace ht hverify =>
    obtain rfl := Except.ok.inj (ht.ok_of_all_ok hok)
    have hserver := h.recorded.transactional (ctx.opened w.database).database
    rw [h.databaseOf_opened] at hserver
    have hidle' := idle_of_transaction hserver htrace ht hidle
    exact ⟨_, (committed_of_transaction hserver htrace ht).1 _ rfl, hidle', hverify⟩

variable {rule : Rule}

/-- The plan for a rule starts from what its key gives, whether that is looked up or known. -/
theorem rule_prepare_held (h : ctx.Faithful host view) {s : σ}
    (hdatabase : host.databases rule.key.database = true) (hs : (view s).working = none)
    {found : Option Rule}
    (hfound : found = none ∨ found = some ⟨rule.key, (view s).committed.defaults rule.key⟩) :
    ∃ t, (Lifecycle.Rule.prepare rule found (ctx.opened rule.key.database)).result s =
        (.ok (rule.planFrom ((view s).committed.defaults rule.key)), t) ∧ view t = view s := by
  rcases hfound with rfl | rfl
  · obtain ⟨t, hread, hview⟩ := h.rule? rule.key hdatabase hs
    exact ⟨t, Run.result_bind_ok.2 ⟨_, t, hread, Run.result_ofExcept.2 ⟨rule.plan_rule? _, rfl⟩⟩,
      hview⟩
  · exact ⟨s, Run.result_ofExcept.2 ⟨if_pos rfl, rfl⟩, rfl⟩

theorem rule_opening_held (h : ctx.Faithful host view) {s : σ}
    (hlock : ctx.lock.grants .exclusive = true)
    (hdatabase : host.databases rule.key.database = true) {found : Option Rule}
    (hfound : found = none ∨ found = some ⟨rule.key, (view s).committed.defaults rule.key⟩) :
    ∃ t, ((Lifecycle.Rule.writingOf rule found).opening ctx).result s =
        (.ok (rule.planFrom ((view s).committed.defaults rule.key)), t) ∧
      view t = ⟨(view s).committed, none⟩ := by
  obtain ⟨u, hconnect, hview⟩ := h.connect_opened hdatabase s
  have hheld : (view u).committed = (view s).committed := by rw [hview]
  rw [← hheld] at hfound ⊢
  obtain ⟨t, hplan, hview'⟩ := h.rule_prepare_held hdatabase (by rw [hview]) hfound
  refine ⟨t, (Writing.opening_of_connect hlock hconnect).trans hplan, ?_⟩
  rw [hview', hview]

/-- A rule that is in place is read again as it is declared, and nothing more is planned. -/
theorem rule_verify_meets (h : ctx.Faithful host view) {s : σ} {found : Option Rule}
    (hdatabase : host.databases rule.key.database = true) (hs : (view s).working = none)
    (hgiven : ∃ p, p ∈ rule.privileges) (hmeets : ∀ p, (view s).committed.MeetsRule rule p)
    (n : Nat) :
    ∃ t, ((Lifecycle.Rule.writingOf rule found).verify (ctx.opened rule.key.database) n).result s =
        (.ok ⟨rule.key.identity, rule, n, []⟩, t) ∧ view t = view s := by
  obtain ⟨t, hread, hview⟩ := h.rule? rule.key hdatabase hs
  rw [Catalog.rule?_of_meets hgiven hmeets] at hread
  have hleft : rule.plan (some rule) = .ok [] :=
    (if_pos rfl).trans (congrArg Except.ok (Rule.planFrom_eq_nil.2 fun p => Iff.rfl))
  exact ⟨t, Run.result_bind_ok.2 ⟨_, _, hread, Run.result_ofExcept.2
    ⟨Outcome.ofReread_ok.2 ⟨rule, [], rfl, hleft, rfl⟩, rfl⟩⟩, hview⟩

end Context.Faithful

/-! ## Adjusting a rule -/

/-- A rule was adjusted: `lost` was revoked and `gained` was granted under its key, and what came of
it is reported. -/
structure Rule.Adjusted (rule : Rule) (k k' : Catalog) (r : Except Halt (Outcome Rule))
    (given : List Given) (lost gained : List Privilege) : Prop where
  lost_ascending : Ascending lost
  mem_lost (p : Privilege) : p ∈ lost ↔ p ∈ k.defaults rule.key ∧ p ∉ rule.privileges
  gained_ascending : Ascending gained
  mem_gained (p : Privilege) : p ∈ gained ↔ p ∈ rule.privileges ∧ p ∉ k.defaults rule.key
  given_eq : given = Plan.carriedOut (rule.key.revoke lost ++ rule.key.grant gained)
  sql : given.map (fun g => g.1.sql) = rule.key.script lost gained
  /-- Nothing is done if and only if the key gives what is declared. -/
  given_eq_nil : given = [] ↔ k.defaults rule.key = rule.privileges
  /-- The rule is reported as it is declared, without any drift. -/
  outcome : r = .ok ⟨rule.key.identity, rule,
    (rule.key.revoke lost ++ rule.key.grant gained).length, []⟩
  defaults : k'.defaults rule.key = rule.privileges
  others : k.DifferAt k' (.defaults rule.key)

namespace Lifecycle

variable {ctx : Context σ} {host : Host} {view : σ → Store Catalog}

theorem adjusts_of_write (h : ctx.Faithful host view) (hready : ctx.Ready)
    (hfeature : ctx.dialect.supports .defaultPrivileges = true) {desired : DeclaredRule}
    {rule : Rule} (hrule : desired.normalize ctx.defaultDatabase = .ok rule)
    (hdatabase : host.databases rule.key.database = true) {s v : σ} {id : String}
    {found : Option Rule} {r : Except Halt (Outcome Rule)} {log : List Event}
    (hfound : found = none ∨ found = some ⟨rule.key, (view s).committed.defaults rule.key⟩)
    (hrun : (rules.write ctx.recorded id found desired).result (s, []) = (r, v, log))
    (hbroken : ∀ e ∈ log, e.broken = false) :
    ∃ lost gained, rule.Adjusted (view s).committed (view v).committed r (commandsIn log) lost
      gained := by
  have hwriting : Rule.writing ctx.recorded found desired = .ok (Rule.writingOf rule found) :=
    Rule.writing_ok.2 ⟨Context.requireWritable_ok.2 hready.writable, Dialect.require_ok.2 hfeature,
      rule, hrule, rfl⟩
  rw [(writes_rules ctx.recorded).write, hwriting] at hrun
  have hrun : ((Rule.writingOf rule found).run ctx.recorded).result (s, []) = (r, v, log) := hrun
  have hquiet : (Rule.writingOf rule found).Quiet (ctx.recorded.opened rule.key.database) :=
    ⟨Rule.quietOn_prepare _ _ _, (Asks.rule? _ _).quiet _⟩
  have hfaithful := h.recorded
  obtain ⟨u, hopening, hview⟩ :=
    hfaithful.rule_opening_held (s := (s, [])) hready.recorded.exclusive hdatabase hfound
  have hview : view u.1 = ⟨(view s).committed, none⟩ := hview
  have hlog : commandsIn u.2 = [] := (hquiet.opening.of_result hopening).commandsIn_recorded
  obtain ⟨hgiven, t, heffects, hidle, hverify⟩ :=
    h.run_of_all_ok hquiet hopening (by rw [hview]) hlog hrun hbroken
  rw [hview, Rule.ordered_planFrom] at heffects
  obtain ⟨hothers, hmeets⟩ := mem_defaults_of_planFrom heffects
  have hall : ∀ p, (view t.1).committed.MeetsRule rule p := fun p => (hmeets p).2 fun hnow => hnow
  obtain ⟨t', hreread, hview'⟩ := hfaithful.rule_verify_meets hdatabase hidle
    (DeclaredRule.exists_privilege hrule) hall _
  obtain ⟨rfl, rfl⟩ := Prod.mk.inj (hverify.symm.trans hreread)
  have hview' : view v = view t.1 := hview'
  rw [hview']
  exact ⟨_, _, {
    lost_ascending := OrderedSet.ascending _
    mem_lost := fun p => Difference.mem_surplus_between
    gained_ascending := OrderedSet.ascending _
    mem_gained := fun p => Difference.mem_missing_between
    given_eq := hgiven
    sql := hgiven ▸ rule.key.sql_carriedOut _ _
    given_eq_nil := by
      rw [hgiven, Plan.carriedOut_eq_nil, Rule.planFrom_eq_nil]
      exact ⟨OrderedSet.ext, fun heq p => by rw [heq]⟩
    outcome := rfl
    defaults := OrderedSet.ext hall
    others := hothers }⟩

/-- On a faithful server, whatever the key of a declared rule gives, and in whatever order the
server lists it: a creation and an update from what is held that meet no failure adjust the rule to
the privileges that its words name. -/
theorem adjusts_rule (h : ctx.Faithful host view) (hready : ctx.Ready)
    (hfeature : ctx.dialect.supports .defaultPrivileges = true) {desired : DeclaredRule}
    {rule : Rule} (hrule : desired.normalize ctx.defaultDatabase = .ok rule)
    (hdatabase : host.databases rule.key.database = true) {s v : σ} (id : String)
    {r : Except Halt (Outcome Rule)} {log : List Event}
    (hrun : (rules.create ctx.recorded desired).result (s, []) = (r, v, log) ∨
      (rules.update ctx.recorded id ⟨rule.key, (view s).committed.defaults rule.key⟩
        desired).result (s, []) = (r, v, log))
    (hbroken : ∀ e ∈ log, e.broken = false) :
    (∀ p, p ∈ rule.privileges ↔ ∃ word ∈ desired.privileges, rule.key.type.Names word p) ∧
      ∃ lost gained, rule.Adjusted (view s).committed (view v).committed r (commandsIn log) lost
        gained := by
  refine ⟨DeclaredRule.mem_privileges hrule, ?_⟩
  rcases hrun with hrun | hrun
  · have hwrite : (rules.write ctx.recorded id none desired).result (s, []) = (r, v, log) := hrun
    exact adjusts_of_write h hready hfeature hrule hdatabase (.inl rfl) hwrite hbroken
  · have hwrite : (rules.write ctx.recorded id
        (some ⟨rule.key, (view s).committed.defaults rule.key⟩) desired).result (s, []) =
        (r, v, log) := hrun
    exact adjusts_of_write h hready hfeature hrule hdatabase (.inr rfl) hwrite hbroken

end Lifecycle

/-! ## A rule in other words -/

/-- A rule with blanks, other cases and a word that comes twice. -/
def wordyRule : DeclaredRule :=
  ⟨none, "data", "App", "staff", " Table ", ["select", " Insert ", "SELECT"]⟩

/-- That rule in the form of the catalog. -/
def wordyNormal : Rule :=
  ⟨⟨"main", "data", "App", "staff", .table⟩, .ofList [.select, .insert]⟩

/-- A catalog where the role `staff` may read and delete. -/
def readDeleteCatalog : Catalog :=
  Catalog.empty.setDefaults wordyNormal.key (.ofList [.select, .delete])

/-- Deleting is taken off and inserting is added, whether the rule is created or updated. -/
theorem adjusts_rule_wordy :
    smallContext.Faithful smallHost id ∧ smallContext.Ready ∧
    wordyRule.normalize smallContext.defaultDatabase = .ok wordyNormal ∧
    (∃ r v log, (Lifecycle.rules.create smallContext.recorded wordyRule).result
        (⟨readDeleteCatalog, none⟩, []) = (r, v, log) ∧
      ∃ lost gained, wordyNormal.Adjusted readDeleteCatalog v.committed r (commandsIn log) lost
        gained) ∧
    ∃ r v log, (Lifecycle.rules.update smallContext.recorded "main-data-App-staff-table"
        ⟨wordyNormal.key, .ofList [.select, .delete]⟩ wordyRule).result
        (⟨readDeleteCatalog, none⟩, []) = (r, v, log) ∧
      ∃ lost gained, wordyNormal.Adjusted readDeleteCatalog v.committed r (commandsIn log) lost
        gained := by
  have hfaithful : smallContext.Faithful smallHost id := smallHost.faithful _ _
  have hready : smallContext.Ready := ⟨rfl, rfl, rfl⟩
  have hfeature : smallContext.dialect.supports .defaultPrivileges = true := by decide
  have hrule : wordyRule.normalize smallContext.defaultDatabase = .ok wordyNormal :=
    Except.eq_ok_of_toOption (by decide +kernel)
  have hcreate : ∀ e ∈ ((Lifecycle.rules.create smallContext.recorded wordyRule).result
      (⟨readDeleteCatalog, none⟩, [])).2.2, e.broken = false := by decide +kernel
  have hupdate : ∀ e ∈ ((Lifecycle.rules.update smallContext.recorded "main-data-App-staff-table"
      ⟨wordyNormal.key, .ofList [.select, .delete]⟩ wordyRule).result
      (⟨readDeleteCatalog, none⟩, [])).2.2, e.broken = false := by decide +kernel
  refine ⟨hfaithful, hready, hrule, ⟨_, _, _, rfl, ?_⟩, ⟨_, _, _, rfl, ?_⟩⟩
  · exact (Lifecycle.adjusts_rule hfaithful hready hfeature hrule (by decide) "" (.inl rfl)
      hcreate).2
  · exact (Lifecycle.adjusts_rule hfaithful hready hfeature hrule (by decide)
      "main-data-App-staff-table" (.inr rfl) hupdate).2

end Accord
