import Accord.Proofs.Catalog.Effect
import Accord.Proofs.Ordered.Difference
import Accord.Proofs.Session.Store
import Accord.Proofs.Statement.Order
import Accord.Rule.Change

/-!
# Rules in the catalog and plans for them

A plan takes off what a rule gives and is not declared, and adds what is declared and missing.  If
the rule is no longer the one that the plan was made for, whatever the plan leaves alone stays as it
is (`mem_defaults_of_planFrom`).
-/

namespace Accord

section Effects

variable {host : Host} {key : RuleKey} {k k' : Catalog} {l : List Privilege}

theorem RuleKey.effect_revokeDefaults
    (h : (Statement.revokeDefaults key.owner key.schema key.type (some l) key.role).effect host
      key.database k = some k') :
    k.DifferAt k' (.defaults key) ∧
      ∀ p, p ∈ k'.defaults key ↔ p ∈ k.defaults key ∧ p ∉ l := by
  obtain rfl := Option.some.inj h
  refine ⟨k.differAt_setDefaults key _, fun p => ?_⟩
  show p ∈ (if key = key then (k.defaults key).filter fun p => decide (p ∉ l)
    else k.defaults key) ↔ _
  rw [if_pos rfl, OrderedSet.mem_filter, decide_eq_true_eq]

theorem RuleKey.effect_grantDefaults
    (h : (Statement.grantDefaults key.owner key.schema key.type l key.role).effect host
      key.database k = some k') :
    k.DifferAt k' (.defaults key) ∧
      ∀ p, p ∈ k'.defaults key ↔ p ∈ k.defaults key ∨ p ∈ l := by
  obtain rfl := Option.some.inj h
  refine ⟨k.differAt_setDefaults key _, fun p => ?_⟩
  show p ∈ (if key = key then (k.defaults key).insertAll l else k.defaults key) ↔ _
  rw [if_pos rfl, OrderedSet.mem_insertAll]

theorem RuleKey.effects_revoke
    (h : effects (Statement.effect host key.database) (key.revoke l) k = some k') :
    k.DifferAt k' (.defaults key) ∧
      ∀ p, p ∈ k'.defaults key ↔ p ∈ k.defaults key ∧ p ∉ l := by
  unfold revoke at h
  by_cases hl : l.isEmpty = true
  · rw [if_pos hl] at h
    obtain rfl := Option.some.inj h
    obtain rfl := List.isEmpty_iff.1 hl
    exact ⟨.refl k _, fun p => by simp⟩
  · rw [if_neg hl] at h
    obtain ⟨k₁, hrevoke, h⟩ := effects_cons.1 h
    obtain rfl := Option.some.inj h
    exact effect_revokeDefaults hrevoke

theorem RuleKey.effects_grant
    (h : effects (Statement.effect host key.database) (key.grant l) k = some k') :
    k.DifferAt k' (.defaults key) ∧
      ∀ p, p ∈ k'.defaults key ↔ p ∈ k.defaults key ∨ p ∈ l := by
  unfold grant at h
  by_cases hl : l.isEmpty = true
  · rw [if_pos hl] at h
    obtain rfl := Option.some.inj h
    obtain rfl := List.isEmpty_iff.1 hl
    exact ⟨.refl k _, fun p => by simp⟩
  · rw [if_neg hl] at h
    obtain ⟨k₁, hgrant, h⟩ := effects_cons.1 h
    obtain rfl := Option.some.inj h
    exact effect_grantDefaults hgrant

end Effects

section Plans

variable {host : Host} {rule : Rule} {held : OrderedSet Privilege} {k k' : Catalog}

/-- Statements that revoke stand before those that grant. -/
theorem RuleKey.ordered_exchange (key : RuleKey) (lost gained : List Privilege) :
    Plan.ordered (key.revoke lost ++ key.grant gained) = key.revoke lost ++ key.grant gained := by
  refine Plan.ordered_eq_self ?_
  unfold revoke grant Plan.Ascends
  split <;> split <;> simp [Statement.phase, Phase.rank]

theorem Rule.ordered_planFrom (rule : Rule) (held : OrderedSet Privilege) :
    Plan.ordered (rule.planFrom held) = rule.planFrom held :=
  rule.key.ordered_exchange _ _

/-- After a plan was carried out, a privilege is as declared if and only if it was not as declared
when the plan was made, or is so when it is carried out. -/
theorem mem_defaults_of_planFrom
    (h : effects (Statement.effect host rule.key.database) (rule.planFrom held) k = some k') :
    k.DifferAt k' (.defaults rule.key) ∧
      ∀ p, (p ∈ k'.defaults rule.key ↔ p ∈ rule.privileges) ↔
        ((p ∈ held ↔ p ∈ rule.privileges) →
          (p ∈ k.defaults rule.key ↔ p ∈ rule.privileges)) := by
  obtain ⟨k₁, hrevoke, hgrant⟩ := effects_append.1 h
  obtain ⟨hdiffer, hrevoked⟩ := RuleKey.effects_revoke hrevoke
  obtain ⟨hdiffer', hgranted⟩ := RuleKey.effects_grant hgrant
  refine ⟨hdiffer.trans hdiffer', fun p => ?_⟩
  rw [hgranted, hrevoked, Difference.mem_surplus_between, Difference.mem_missing_between]
  by_cases hheld : p ∈ held <;> by_cases hwanted : p ∈ rule.privileges <;>
    simp [hheld, hwanted]

theorem RuleKey.revoke_eq_nil {key : RuleKey} {l : List Privilege} :
    key.revoke l = [] ↔ l = [] := by
  unfold revoke
  cases l <;> simp

theorem RuleKey.grant_eq_nil {key : RuleKey} {l : List Privilege} : key.grant l = [] ↔ l = [] := by
  unfold grant
  cases l <;> simp

theorem Rule.planFrom_eq_nil : rule.planFrom held = [] ↔ ∀ p, p ∈ held ↔ p ∈ rule.privileges := by
  unfold planFrom
  rw [List.append_eq_nil_iff, RuleKey.revoke_eq_nil, RuleKey.grant_eq_nil,
    Difference.surplus_between_eq_nil, Difference.missing_between_eq_nil]
  constructor
  · rintro ⟨hsurplus, hmissing⟩ p
    exact ⟨hsurplus p, hmissing p⟩
  · intro h
    exact ⟨fun p => (h p).1, fun p => (h p).2⟩

end Plans

end Accord
