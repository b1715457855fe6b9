import Accord.Proofs.Lifecycle.Preview
import Accord.Proofs.Lifecycle.Rule
import Accord.Proofs.Rule.Plan

/-!
# Moving a rule to another key

A plan for a rule with another key takes everything off the old key and adds all that is declared to
the new one.  What the new key gave before is not looked at: it stays (`Rule.move_settles_iff`), so
the rule is in place only if the new key gave nothing that is not declared.
-/

namespace Accord

/-- The statement is about default privileges. -/
def Statement.IsOfDefaults : Statement → Prop
  | .grantDefaults .. | .revokeDefaults .. => True
  | _ => False

section Effects

variable {k k' : Catalog}

/-- Statements about default privileges can always be carried out. -/
theorem exists_effects_of_defaults (host : Host) (database : String) {l : List Statement}
    (hl : ∀ c ∈ l, c.IsOfDefaults) (k : Catalog) :
    ∃ k', effects (Statement.effect host database) l k = some k' := by
  induction l generalizing k with
  | nil => exact ⟨k, rfl⟩
  | cons c l ih =>
    obtain ⟨hc, hl⟩ := List.forall_mem_cons.1 hl
    obtain ⟨k₁, hfirst⟩ : ∃ k₁, c.effect host database k = some k₁ := by
      cases c with
      | grantDefaults owner schema type privileges role => exact ⟨_, rfl⟩
      | revokeDefaults owner schema type privileges role => exact ⟨_, rfl⟩
      | _ => exact hc.elim
    obtain ⟨k', hrest⟩ := ih hl k₁
    exact ⟨k', effects_cons.2 ⟨k₁, hfirst, hrest⟩⟩

theorem RuleKey.effects_revokeAll {host : Host} {key : RuleKey}
    (h : effects (Statement.effect host key.database) key.revokeAll k = some k') :
    k.DifferAt k' (.defaults key) ∧ k'.defaults key = ∅ := by
  obtain ⟨k₁, hrevoke, h⟩ := effects_cons.1 h
  obtain rfl := Option.some.inj h
  obtain rfl := Option.some.inj hrevoke
  exact ⟨k.differAt_setDefaults key _, if_pos rfl⟩

end Effects

namespace Rule

variable {rule old : Rule}

theorem isOfDefaults_of_mem_planFrom {held : OrderedSet Privilege} {c : Statement}
    (h : c ∈ rule.planFrom held) : c.IsOfDefaults := by
  unfold planFrom at h
  rcases List.mem_append.1 h with h | h
  · rw [(RuleKey.mem_revoke.1 h).2]
    trivial
  · rw [(RuleKey.mem_grant.1 h).2]
    trivial

/-- The plan for a rule with another key in the same database. -/
theorem plan_of_moved (hkey : old.key ≠ rule.key)
    (hdatabase : old.key.database = rule.key.database) :
    rule.plan (some old) = .ok (old.key.revokeAll ++ rule.planFrom ∅) := by
  simp only [plan]
  rw [if_neg hkey, if_neg (Classical.not_not.2 hdatabase)]

/-- What the old key gives is revoked before anything is granted. -/
theorem ordered_move (rule : Rule) (key : RuleKey) :
    Plan.ordered (key.revokeAll ++ rule.planFrom ∅) = key.revokeAll ++ rule.planFrom ∅ := by
  unfold RuleKey.revokeAll
  rw [List.singleton_append, Plan.ordered_cons, ordered_planFrom]
  intro c hc
  unfold planFrom at hc
  rcases List.mem_append.1 hc with hc | hc
  · rw [(RuleKey.mem_revoke.1 hc).2]
    exact Nat.le_refl _
  · rw [(RuleKey.mem_grant.1 hc).2]
    exact Nat.le_succ _

/-- A plan that starts from nothing adds what is declared to what there is. -/
theorem defaults_of_planFrom_empty {host : Host} {k k' : Catalog}
    (h : effects (Statement.effect host rule.key.database) (rule.planFrom ∅) k = some k') :
    k'.defaults rule.key = (k.defaults rule.key).union rule.privileges := by
  obtain ⟨k₁, hrevoke, hgrant⟩ := effects_append.1 h
  obtain ⟨-, hrevoked⟩ := RuleKey.effects_revoke hrevoke
  obtain ⟨-, hgranted⟩ := RuleKey.effects_grant hgrant
  refine OrderedSet.ext fun p => ?_
  rw [hgranted, hrevoked, Difference.mem_surplus_between, Difference.mem_missing_between,
    OrderedSet.mem_union]
  simp

/-- After a move, what the rule still needs is to lose what its key gave before and is not
declared. -/
theorem plan_of_union {k k' : Catalog}
    (h : k'.defaults rule.key = (k.defaults rule.key).union rule.privileges) :
    rule.plan (k'.rule? rule.key) =
      .ok (rule.key.revoke (Difference.between (k.defaults rule.key) rule.privileges).surplus) := by
  have hsurplus : (Difference.between (k'.defaults rule.key) rule.privileges).surplus =
      (Difference.between (k.defaults rule.key) rule.privileges).surplus := by
    refine congrArg OrderedSet.toList (OrderedSet.ext fun p => ?_)
    rw [h, OrderedSet.mem_difference, OrderedSet.mem_difference, OrderedSet.mem_union]
    constructor
    · rintro ⟨hp | hp, hnot⟩
      · exact ⟨hp, hnot⟩
      · exact absurd hp hnot
    · rintro ⟨hp, hnot⟩
      exact ⟨.inl hp, hnot⟩
  have hmissing : (Difference.between (k'.defaults rule.key) rule.privileges).missing = [] := by
    refine List.eq_nil_iff_forall_not_mem.2 fun p hp => ?_
    obtain ⟨hwanted, hnot⟩ := Difference.mem_missing_between.1 hp
    rw [h, OrderedSet.mem_union] at hnot
    exact hnot (.inr hwanted)
  rw [rule.plan_rule?]
  unfold planFrom
  dsimp only
  rw [hsurplus, hmissing]
  exact congrArg Except.ok (List.append_nil _)

/-- A rule that moves leaves nothing under its old key and touches no third one.  Under its new key
there is what is declared and also what was there before: the rule is in place, and nothing more is
planned, if and only if all that was there before is declared. -/
theorem move_settles_iff (host : Host) (k : Catalog) (hkey : old.key ≠ rule.key)
    (hdatabase : old.key.database = rule.key.database) :
    ∃ plan k', rule.plan (some old) = .ok plan ∧
      effects (Statement.effect host rule.key.database) plan.ordered k = some k' ∧
      k'.defaults old.key = ∅ ∧
      k'.defaults rule.key = (k.defaults rule.key).union rule.privileges ∧
      (∀ place, place ≠ .defaults old.key → place ≠ .defaults rule.key → k.AgreeAt k' place) ∧
      rule.plan (k'.rule? rule.key) =
        .ok (rule.key.revoke (Difference.between (k.defaults rule.key) rule.privileges).surplus) ∧
      (k'.defaults rule.key = rule.privileges ↔
        ∀ p ∈ k.defaults rule.key, p ∈ rule.privileges) ∧
      (rule.plan (k'.rule? rule.key) = .ok [] ↔
        ∀ p ∈ k.defaults rule.key, p ∈ rule.privileges) := by
  have hall : ∀ c ∈ old.key.revokeAll ++ rule.planFrom ∅, c.IsOfDefaults := by
    intro c hc
    rcases List.mem_append.1 hc with hc | hc
    · rw [List.mem_singleton.1 hc]
      trivial
    · exact isOfDefaults_of_mem_planFrom hc
  obtain ⟨k', hk'⟩ := exists_effects_of_defaults host rule.key.database hall k
  obtain ⟨k₁, hrevoke, hgrant⟩ := effects_append.1 hk'
  rw [← hdatabase] at hrevoke
  obtain ⟨hdiffer, hempty⟩ := RuleKey.effects_revokeAll hrevoke
  obtain ⟨hdiffer', -⟩ := mem_defaults_of_planFrom hgrant
  have hold : k₁.defaults old.key = k'.defaults old.key :=
    hdiffer' (.defaults old.key) fun h => hkey (Place.defaults.inj h)
  have hnew : k.defaults rule.key = k₁.defaults rule.key :=
    hdiffer (.defaults rule.key) fun h => hkey (Place.defaults.inj h).symm
  have hunion := defaults_of_planFrom_empty hgrant
  rw [← hnew] at hunion
  have hleft := plan_of_union hunion
  refine ⟨_, k', plan_of_moved hkey hdatabase, ?_, hold.symm.trans hempty, hunion,
    fun place hnotOld hnotNew => (hdiffer place hnotOld).trans (hdiffer' place hnotNew), hleft,
    ?_, ?_⟩
  · rw [ordered_move]
    exact hk'
  · rw [hunion]
    constructor
    · intro heq p hp
      rw [← heq]
      exact OrderedSet.mem_union.2 (.inl hp)
    · intro hsub
      exact OrderedSet.ext fun p => OrderedSet.mem_union.trans (or_iff_right_of_imp (hsub p))
  · rw [hleft, Except.ok.injEq, RuleKey.revoke_eq_nil, Difference.surplus_between_eq_nil]

end Rule

/-! ## A rule that moves onto another one -/

/-- A rule that gives the role `former` what `staffRule` gives the role `staff`. -/
def formerRule : Rule :=
  ⟨⟨"main", "data", "App", "former", .table⟩, .ofList [.select, .insert]⟩

/-- That rule, in the form of the catalog, for the role `staff`. -/
def staffNormal : Rule :=
  { formerRule with key := { formerRule.key with role := "staff" } }

/-- A catalog with that rule, and one that lets the role `staff` delete. -/
def crowdedCatalog : Catalog :=
  (Catalog.empty.setDefaults formerRule.key formerRule.privileges).setDefaults staffNormal.key
    (.ofList [.select, .delete])

/-- A rule that moves to a key that gives more than is declared is not in place afterwards: what is
too much is left there, and a plan that would take it away is still needed. -/
theorem moved_rule_keeps_surplus :
    ∃ plan k', staffRule.normalize "main" = .ok staffNormal ∧
      crowdedCatalog.defaults formerRule.key = formerRule.privileges ∧
      formerRule.key ≠ staffNormal.key ∧
      formerRule.key.database = staffNormal.key.database ∧
      staffNormal.plan (some formerRule) = .ok plan ∧
      effects (Statement.effect smallHost "main") plan.ordered crowdedCatalog = some k' ∧
      k'.defaults staffNormal.key ≠ staffNormal.privileges ∧
      staffNormal.plan (k'.rule? staffNormal.key) =
        .ok [.revokeDefaults "App" "data" .table (some [.delete]) "staff"] := by
  refine ⟨_, _, ?_, rfl, by decide, rfl, Rule.plan_of_moved (by decide) rfl, rfl, by decide +kernel,
    ?_⟩
  · exact Except.eq_ok_of_toOption (by decide +kernel)
  · exact Except.eq_ok_of_toOption (by decide +kernel)

/-- What `staff` may do beyond what is declared is exactly what is left. -/
theorem move_settles_iff_crowded :
    formerRule.key ≠ staffNormal.key ∧ formerRule.key.database = staffNormal.key.database ∧
    ∃ plan k', staffNormal.plan (some formerRule) = .ok plan ∧
      effects (Statement.effect smallHost "main") plan.ordered crowdedCatalog = some k' ∧
      k'.defaults formerRule.key = ∅ ∧
      k'.defaults staffNormal.key = .ofList [.select, .insert, .delete] ∧
      staffNormal.plan (k'.rule? staffNormal.key) ≠ .ok [] := by
  have hkey : formerRule.key ≠ staffNormal.key := by decide
  obtain ⟨plan, k', hplan, hk', hold, hnew, -, -, -, hsettled⟩ :=
    Rule.move_settles_iff smallHost crowdedCatalog hkey rfl
  refine ⟨hkey, rfl, plan, k', hplan, hk', hold, hnew.trans ?_, fun hnil => ?_⟩
  · decide +kernel
  · exact absurd (hsettled.1 hnil .delete (by decide +kernel)) (by decide +kernel)

end Accord
