import Accord.Proofs.Name
import Accord.Proofs.Session.Run
import Accord.Rule.Change

/-!
# Plans for default-privilege rules

What normalizing a rule checks, which rule its identity stands for, and which rules a plan takes
privileges off.
-/

namespace Accord

theorem RuleKey.eq_iff {a b : RuleKey} :
    a = b ↔ a.database = b.database ∧ a.schema = b.schema ∧ a.owner = b.owner ∧ a.role = b.role ∧
      a.type = b.type := by
  cases a
  cases b
  exact RuleKey.mk.injEq .. ▸ Iff.rfl

/-- A key is made of normalized names. -/
theorem RuleKey.ofNames_ok {database schema owner role : String} {type : ObjectType}
    {key : ObjectType → RuleKey} (h : ofNames database schema owner role = .ok key) :
    normalizeName database "database" = .ok (key type).database ∧
      normalizeName schema "schema" = .ok (key type).schema ∧
      normalizeName owner "owner" = .ok (key type).owner ∧
      normalizeName role "role" = .ok (key type).role ∧ (key type).type = type := by
  unfold ofNames at h
  obtain ⟨a, ha, h⟩ := Except.bind_ok.1 h
  obtain ⟨b, hb, h⟩ := Except.bind_ok.1 h
  obtain ⟨c, hc, h⟩ := Except.bind_ok.1 h
  obtain ⟨d, hd, h⟩ := Except.bind_ok.1 h
  obtain rfl := Except.ok.inj h
  exact ⟨ha, hb, hc, hd, rfl⟩

/-- What normalizing a rule checks and changes. -/
theorem DeclaredRule.normalize_ok {desired : DeclaredRule} {defaultDatabase : String} {rule : Rule}
    (h : desired.normalize defaultDatabase = .ok rule) :
    ObjectType.parse desired.objectType = .ok rule.key.type ∧
      rule.key.type.privilegeSet desired.privileges = .ok rule.privileges ∧
      rule.privileges.isEmpty = false ∧
      normalizeName (desired.database.getD defaultDatabase) "database" = .ok rule.key.database ∧
      normalizeName desired.schema "schema" = .ok rule.key.schema ∧
      normalizeName desired.owner "owner" = .ok rule.key.owner ∧
      normalizeName desired.role "role" = .ok rule.key.role := by
  unfold normalize at h
  obtain ⟨type, htype, h⟩ := Except.bind_ok.1 h
  obtain ⟨privileges, hprivileges, h⟩ := Except.bind_ok.1 h
  by_cases hempty : privileges.isEmpty = true
  · rw [if_pos hempty] at h
    simp [throw, throwThe, MonadExceptOf.throw, bind, Except.bind] at h
  · rw [if_neg hempty] at h
    obtain ⟨key, hkey, h⟩ := Except.bind_ok.1 h
    obtain rfl := Except.ok.inj h
    obtain ⟨hdatabase, hschema, howner, hrole, hkeyType⟩ := @RuleKey.ofNames_ok _ _ _ _ type _ hkey
    rw [hkeyType]
    exact ⟨htype, hprivileges, by simpa using hempty, hdatabase, hschema, howner, hrole⟩

theorem ObjectType.parse_name (type : ObjectType) : parse type.name = .ok type := by
  have h : parse? type.name = some type := by
    cases type <;> decide +kernel
  unfold parse
  rw [h]

/-- An identity stands for its parts, normalized once more. -/
theorem RuleKey.decode_identity {key key' : RuleKey} (h : decode key.identity = .ok key') :
    normalizeName key.database "database" = .ok key'.database ∧
      normalizeName key.schema "schema" = .ok key'.schema ∧
      normalizeName key.owner "owner" = .ok key'.owner ∧
      normalizeName key.role "role" = .ok key'.role ∧ key'.type = key.type := by
  unfold decode identity at h
  obtain ⟨parts, hparts, h⟩ := Except.bind_ok.1 h
  obtain rfl := splitIdentity_joinIdentity hparts rfl (by simp)
  obtain ⟨ofType, hofType, h⟩ := Except.bind_ok.1 h
  obtain ⟨type, htype, h⟩ := Except.bind_ok.1 h
  obtain rfl := Except.ok.inj h
  obtain rfl := Except.ok.inj ((ObjectType.parse_name key.type).symm.trans htype)
  exact ofNames_ok hofType

/-! ## Privileges that are taken away -/

theorem RuleKey.mem_revoke {key : RuleKey} {privileges : List Privilege} {c : Statement} :
    c ∈ key.revoke privileges ↔ privileges ≠ [] ∧
      c = .revokeDefaults key.owner key.schema key.type (some privileges) key.role := by
  unfold revoke
  cases privileges <;> simp

theorem RuleKey.mem_grant {key : RuleKey} {privileges : List Privilege} {c : Statement} :
    c ∈ key.grant privileges ↔ privileges ≠ [] ∧
      c = .grantDefaults key.owner key.schema key.type privileges key.role := by
  unfold grant
  cases privileges <;> simp

/-- The rule that a statement takes privileges off, in a session on a database. -/
def Statement.revokedKey? (database : String) : Statement → Option RuleKey
  | .revokeDefaults owner schema type _ role => some { database, schema, owner, role, type }
  | _ => none

theorem RuleKey.revokedKey?_of_mem_revoke {key : RuleKey} {privileges : List Privilege}
    {c : Statement} (h : c ∈ key.revoke privileges) : c.revokedKey? key.database = some key := by
  rw [(mem_revoke.1 h).2]
  rfl

theorem RuleKey.revokedKey?_of_mem_grant {key : RuleKey} {privileges : List Privilege}
    {c : Statement} {database : String} (h : c ∈ key.grant privileges) :
    c.revokedKey? database = none := by
  rw [(mem_grant.1 h).2]
  rfl

/-- Starting from privileges under its own key, a rule takes nothing off another one. -/
theorem Rule.revokedKey?_of_mem_planFrom {rule : Rule} {held : OrderedSet Privilege}
    {c : Statement} {key : RuleKey} (h : c ∈ rule.planFrom held)
    (hkey : c.revokedKey? rule.key.database = some key) : key = rule.key := by
  unfold planFrom at h
  rcases List.mem_append.1 h with h | h
  · exact (Option.some.inj ((RuleKey.revokedKey?_of_mem_revoke h).symm.trans hkey)).symm
  · rw [RuleKey.revokedKey?_of_mem_grant h] at hkey
    simp at hkey

/-- A plan takes privileges off another rule if and only if it starts from another rule. -/
theorem Rule.revokedKey?_of_plan {rule : Rule} {current : Option Rule} {plan : Plan}
    (h : rule.plan current = .ok plan) :
    (∃ c ∈ plan, ∃ key, c.revokedKey? rule.key.database = some key ∧ key ≠ rule.key) ↔
      ∃ old, current = some old ∧ old.key ≠ rule.key := by
  cases current with
  | none =>
    obtain rfl := Except.ok.inj h
    simp only [reduceCtorEq, false_and, exists_false, iff_false]
    rintro ⟨c, hc, key, hkey, hne⟩
    exact hne (revokedKey?_of_mem_planFrom hc hkey)
  | some old =>
    simp only [Option.some.injEq, exists_eq_left']
    simp only [Rule.plan] at h
    by_cases hkey : old.key = rule.key
    · rw [if_pos hkey] at h
      obtain rfl := Except.ok.inj h
      simp only [hkey, ne_eq, not_true, iff_false]
      rintro ⟨c, hc, key, hckey, hne⟩
      exact hne (revokedKey?_of_mem_planFrom hc hckey)
    · rw [if_neg hkey] at h
      by_cases hdatabase : old.key.database = rule.key.database
      · rw [if_neg (Classical.not_not.2 hdatabase)] at h
        obtain rfl := Except.ok.inj h
        refine iff_of_true
          ⟨_, List.mem_append_left _ (List.mem_singleton_self _), old.key, ?_, hkey⟩ hkey
        rw [← hdatabase]
        rfl
      · rw [if_pos hdatabase] at h
        simp at h

end Accord
