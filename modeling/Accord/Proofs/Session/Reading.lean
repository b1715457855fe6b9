import Accord.Lifecycle.Role
import Accord.Proofs.Session.Trace
import Accord.Session.Catalog

/-!
# Reading in a session

When reading an object of the catalog succeeds, and what it gives then.
-/

namespace Accord

/-- A role has the name that its row gives. -/
theorem ObservedRole.ofRow_name {row : Row} {r : ObservedRole} (h : ofRow row = .ok r) :
    row.text "name" = .ok r.name := by
  unfold ofRow at h
  obtain ⟨limit, -, h⟩ := Except.bind_ok.1 h
  obtain ⟨name, hname, h⟩ := Except.bind_ok.1 h
  simp only [Except.bind_ok, pure, Except.pure, Except.ok.injEq] at h
  obtain ⟨_, -, _, -, _, -, _, -, _, -, _, -, _, -, _, -, _, -, rfl⟩ := h
  exact hname

/-- An extension has the name that its row gives. -/
theorem InstalledExtension.ofRow_name {database : String} {row : Row} {e : InstalledExtension}
    (h : ofRow database row = .ok e) : row.text "name" = .ok e.name ∧ e.database = database := by
  unfold ofRow at h
  obtain ⟨name, hname, h⟩ := Except.bind_ok.1 h
  simp only [Except.bind_ok, pure, Except.pure, Except.ok.injEq] at h
  obtain ⟨_, -, _, -, _, -, rfl⟩ := h
  exact ⟨hname, rfl⟩

namespace Session

variable {σ : Type} {session : Session σ} {s t : σ}

theorem result_role? {name : String} {dialect : Dialect} {withHash : Bool}
    {found : Option ObservedRole} :
    (session.role? name dialect withHash).result s = (.ok found, t) ↔
      ∃ table u, session.server.query session.database
          (.role name (dialect.supports .rowLevelSecurity)) s = (.ok table, u) ∧
        (table.first? = none ∧ found = none ∧ t = u ∨
          ∃ row state, table.first? = some row ∧ ObservedRole.ofRow row = .ok state ∧
            (withHash = false ∧ found = some state ∧ t = u ∨
              withHash = true ∧ ∃ hashes hash,
                session.server.query session.database (.passwordHash name) u = (.ok hashes, t) ∧
                passwordHashOf hashes = .ok hash ∧
                found = some { state with passwordHash := hash })) := by
  unfold role?
  rw [Run.result_bind_ok]
  refine exists_congr fun table => exists_congr fun u =>
    and_congr result_query ?_
  cases hrow : table.first? with
  | none =>
    simp only [Run.result_pure_ok]
    simp
  | some row =>
    simp only [Run.result_bind_ok, Run.result_liftM, reduceCtorEq, false_and, false_or,
      Option.some.injEq]
    constructor
    · rintro ⟨state, u', ⟨hstate, rfl⟩, h⟩
      refine ⟨row, state, rfl, hstate, ?_⟩
      by_cases hw : withHash = true
      · rw [if_pos hw] at h
        simp only [Run.result_bind_ok, Run.result_liftM, Run.result_pure_ok, result_query] at h
        obtain ⟨hashes, u', hq, hash, u'', ⟨hhash, rfl⟩, rfl, rfl⟩ := h
        exact .inr ⟨hw, hashes, hash, hq, hhash, rfl⟩
      · rw [if_neg hw, Run.result_pure_ok] at h
        exact .inl ⟨by simpa using hw, h⟩
    · rintro ⟨row', state, rfl, hstate, ⟨rfl, rfl, rfl⟩ | ⟨rfl, hashes, hash, hq, hhash, rfl⟩⟩
      · exact ⟨state, _, ⟨hstate, rfl⟩, rfl⟩
      · refine ⟨state, u, ⟨hstate, rfl⟩, ?_⟩
        simp only [if_true, Run.result_bind_ok, Run.result_liftM, Run.result_pure_ok, result_query]
        exact ⟨hashes, t, hq, hash, t, ⟨hhash, rfl⟩, rfl, rfl⟩

theorem result_schema? {database name : String} {found : Option ObservedSchema} :
    (session.schema? database name).result s = (.ok found, t) ↔
      ∃ table u, session.server.query session.database (.schema name) s = (.ok table, u) ∧
        (table.first? = none ∧ found = none ∧ t = u ∨
          ∃ row foundName owner grants policies, table.first? = some row ∧
            row.text "name" = .ok foundName ∧ row.text "owner" = .ok owner ∧
            session.server.query session.database (.schemaGrants name) u = (.ok grants, t) ∧
            Policies.ofResult grants = .ok policies ∧
            found = some ⟨foundName, database, owner, policies⟩) := by
  unfold schema?
  rw [Run.result_bind_ok]
  refine exists_congr fun table => exists_congr fun u => and_congr result_query ?_
  cases hrow : table.first? with
  | none =>
    simp only [Run.result_pure_ok]
    simp
  | some row =>
    simp only [Run.result_bind_ok, Run.result_liftM, Run.result_pure_ok, result_query,
      reduceCtorEq, false_and, false_or, Option.some.injEq]
    constructor
    · rintro ⟨foundName, _, ⟨hname, rfl⟩, owner, _, ⟨howner, rfl⟩, grants, u', hq, policies, _,
        ⟨hpolicies, rfl⟩, rfl, rfl⟩
      exact ⟨row, foundName, owner, grants, policies, rfl, hname, howner, hq, hpolicies, rfl⟩
    · rintro ⟨row', foundName, owner, grants, policies, rfl, hname, howner, hq, hpolicies, rfl⟩
      exact ⟨foundName, u, ⟨hname, rfl⟩, owner, u, ⟨howner, rfl⟩, grants, t, hq, policies, t,
        ⟨hpolicies, rfl⟩, rfl, rfl⟩

theorem result_rule? {key : RuleKey} {found : Option Rule} :
    (session.rule? key).result s = (.ok found, t) ↔
      ∃ table, session.server.query session.database (.rule key) s = (.ok table, t) ∧
        Rule.ofResult key table = .ok found := by
  unfold rule?
  simp only [Run.result_bind_ok, result_query, Run.result_ofExcept]
  constructor
  · rintro ⟨table, u, hq, hfound, rfl⟩
    exact ⟨table, hq, hfound⟩
  · rintro ⟨table, hq, hfound⟩
    exact ⟨table, t, hq, hfound, rfl⟩

theorem result_extension? {database name : String} {found : Option InstalledExtension} :
    (session.extension? database name).result s = (.ok found, t) ↔
      ∃ table, session.server.query session.database (.extension name) s = (.ok table, t) ∧
        (table.first? = none ∧ found = none ∨
          ∃ row e, table.first? = some row ∧ InstalledExtension.ofRow database row = .ok e ∧
            found = some e) := by
  unfold extension?
  rw [Run.result_bind_ok]
  constructor
  · rintro ⟨table, u, hq, h⟩
    rw [result_query] at hq
    cases hrow : table.first? with
    | none =>
      simp only [hrow, Run.result_pure_ok] at h
      obtain ⟨rfl, rfl⟩ := h
      exact ⟨table, hq, .inl ⟨hrow, rfl⟩⟩
    | some row =>
      simp only [hrow, Run.result_bind_ok, Run.result_liftM, Run.result_pure_ok] at h
      obtain ⟨e, _, ⟨he, rfl⟩, rfl, rfl⟩ := h
      exact ⟨table, hq, .inr ⟨row, e, hrow, he, rfl⟩⟩
  · rintro ⟨table, hq, ⟨hrow, rfl⟩ | ⟨row, e, hrow, he, rfl⟩⟩
    · refine ⟨table, t, result_query.2 hq, ?_⟩
      simp only [hrow, Run.result_pure]
    · refine ⟨table, t, result_query.2 hq, ?_⟩
      simp only [hrow, Run.result_bind_ok, Run.result_liftM, Run.result_pure_ok]
      exact ⟨e, t, ⟨he, rfl⟩, rfl, rfl⟩

/-- What is known about a role besides what the catalog tells. -/
def known (ctx : Context σ) (lastKnown : Option DeclaredRole) (r : ObservedRole) : ObservedRole :=
  { r with
    password := lastKnown.bind DeclaredRole.password
    bypassRowLevelSecurity :=
      if ctx.dialect.supports .rowLevelSecurity then r.bypassRowLevelSecurity
      else some ((lastKnown.bind DeclaredRole.bypassRowLevelSecurity).getD false) }

theorem result_knownRole? {ctx : Context σ} {name : String} {lastKnown : Option DeclaredRole}
    {found : Option ObservedRole} :
    (session.knownRole? ctx name lastKnown).result s = (.ok found, t) ↔
      ∃ seen, (session.role? name ctx.dialect ctx.facts.isSuperuser).result s = (.ok seen, t) ∧
        found = seen.map (known ctx lastKnown) := by
  unfold knownRole?
  rw [Run.result_bind_ok]
  constructor
  · rintro ⟨seen, u, hseen, h⟩
    obtain ⟨rfl, rfl⟩ := Run.result_pure_ok.1 h
    exact ⟨seen, hseen, rfl⟩
  · rintro ⟨seen, hseen, rfl⟩
    exact ⟨seen, t, hseen, rfl⟩

/-- The rule that is read has the key that was asked for. -/
theorem rule?_key {key : RuleKey} {rule : Rule}
    (h : (session.rule? key).result s = (.ok (some rule), t)) : rule.key = key := by
  obtain ⟨table, -, hresult⟩ := result_rule?.1 h
  unfold Rule.ofResult at hresult
  by_cases hempty : table.isEmpty = true
  · rw [if_pos hempty] at hresult
    simp [pure, Except.pure] at hresult
  · rw [if_neg hempty] at hresult
    obtain ⟨privileges, -, hresult⟩ := Except.bind_ok.1 hresult
    rw [← Option.some.inj (Except.ok.inj hresult)]

end Session

end Accord
