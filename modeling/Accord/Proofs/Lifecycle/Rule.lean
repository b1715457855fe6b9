import Accord.Proofs.Lifecycle.Faithful
import Accord.Proofs.Lifecycle.Idempotent
import Accord.Proofs.Rule.Convergence

/-!
# Rules on a faithful server

What a rule gives after it was created or updated (`Faithful.rule_write`).  When no rule was found,
it is looked up once more in the write section, so that nothing can come in between.
-/

namespace Accord

open Lifecycle

variable {σ : Type} {rule : Rule}

/-- The catalog gives a privilege exactly if the rule says so. -/
def Catalog.MeetsRule (k : Catalog) (rule : Rule) (p : Privilege) : Prop :=
  p ∈ k.defaults rule.key ↔ p ∈ rule.privileges

/-- The plan for a rule that is read starts from what the rule gives. -/
theorem Rule.plan_rule? (rule : Rule) (k : Catalog) :
    rule.plan (k.rule? rule.key) = .ok (rule.planFrom (k.defaults rule.key)) := by
  unfold Catalog.rule?
  by_cases hempty : (k.defaults rule.key).isEmpty = true
  · have hnone : k.defaults rule.key = ∅ := OrderedSet.ext fun p =>
      iff_of_false (OrderedSet.isEmpty_iff.1 hempty p) (OrderedSet.not_mem_empty p)
    rw [if_pos hempty, hnone]
    rfl
  · rw [if_neg hempty]
    exact if_pos rfl

namespace Context.Faithful

variable {ctx : Context σ} {host : Host} {view : σ → Store Catalog} {s t : σ}
  {outcome : Outcome Rule}

/-- The plan for a rule starts from what was found, or else from what there is. -/
theorem rule_prepare (h : ctx.Faithful host view)
    (hdatabase : host.databases rule.key.database = true) (hs : (view s).working = none)
    (k : Catalog) :
    ∃ t, (Lifecycle.Rule.prepare rule (k.rule? rule.key)
          (ctx.opened rule.key.database)).result s =
        (.ok (rule.planFrom (if (k.defaults rule.key).isEmpty then
          (view s).committed.defaults rule.key else k.defaults rule.key)), t) ∧
      view t = view s ∧ ctx.server.Quiet s t := by
  by_cases hempty : (k.defaults rule.key).isEmpty = true
  · obtain ⟨t, hread, hview⟩ := h.rule? rule.key hdatabase hs
    have hnone : k.rule? rule.key = none := if_pos hempty
    rw [hnone, if_pos hempty]
    refine ⟨t, Run.result_bind_ok.2 ⟨_, t, hread, Run.result_ofExcept.2 ⟨rule.plan_rule? _, rfl⟩⟩,
      hview, Session.quiet_rule? hread⟩
  · have hsome : k.rule? rule.key = some ⟨rule.key, k.defaults rule.key⟩ := if_neg hempty
    have hplan := rule.plan_rule? k
    rw [hsome] at hplan ⊢
    rw [if_neg hempty]
    exact ⟨s, Run.result_ofExcept.2 ⟨hplan, rfl⟩, rfl, .refl s⟩

theorem rule_write (h : ctx.Faithful host view) {id : String} {desired : DeclaredRule}
    (hrule : desired.normalize ctx.defaultDatabase = .ok rule) (k : Catalog)
    (hrun : (rules.write ctx id (k.rule? rule.key) desired).result s = (.ok outcome, t)) :
    ctx.readOnly = false ∧ ctx.dialect.supports .defaultPrivileges = true ∧
      ctx.lock.grants .exclusive = true ∧ host.databases rule.key.database = true ∧
      (view t).working = none ∧
      (view s).committed.DifferAt (view t).committed (.defaults rule.key) ∧
      (outcome.drift = [] ↔ ∀ p, (view t).committed.MeetsRule rule p) ∧
      ∀ p, (view t).committed.MeetsRule rule p ↔
        (k.rule? rule.key).isSome → k.MeetsRule rule p → (view s).committed.MeetsRule rule p := by
  have hrun : (Lifecycle.Rule.apply ctx (k.rule? rule.key) desired).result s =
      (.ok outcome, t) := by
    cases hfound : k.rule? rule.key <;> rw [hfound] at hrun <;> exact hrun
  obtain ⟨hwritable, hfeature, rule', hrule', hrun⟩ := Rule.result_apply.1 hrun
  obtain rfl := Except.ok.inj (hrule.symm.trans hrule')
  obtain ⟨hlock, hdatabase, s₁, plan, s₂, s₃, o, left, hview, hplan, happly, hread, hleft,
    hdrift⟩ := h.writeSection_ok hrun
  obtain ⟨s₂', hplan', hview₂, -⟩ := h.rule_prepare hdatabase (by rw [hview]) k
  obtain ⟨hmade, rfl⟩ := Prod.mk.inj (hplan.symm.trans hplan')
  obtain rfl := Except.ok.inj hmade
  rw [hview] at hview₂
  obtain ⟨hcommitted, hidle⟩ := happly (by rw [hview₂])
  rw [hview, hview₂, Rule.ordered_planFrom] at hcommitted
  obtain ⟨hdiffer, hmeets⟩ := mem_defaults_of_planFrom hcommitted
  obtain ⟨t', hread', hview'⟩ := h.rule? rule.key hdatabase hidle
  obtain ⟨ho, rfl⟩ := Prod.mk.inj (hread.symm.trans hread')
  rw [hview']
  refine ⟨hwritable, hfeature, hlock, hdatabase, hidle, hdiffer, ?_, fun p => (hmeets p).trans ?_⟩
  · have hleft' := rule.plan_rule? (view s₃).committed
    rw [← Except.ok.inj ho, hleft] at hleft'
    rw [hdrift, Plan.shown_eq_nil, Except.ok.inj hleft', Rule.planFrom_eq_nil]
    rfl
  · by_cases hempty : (k.defaults rule.key).isEmpty = true
    · have hnone : k.rule? rule.key = none := if_pos hempty
      rw [if_pos hempty, hnone]
      exact iff_of_true (fun hnow => hnow) fun hsome => by simp at hsome
    · have hsome : k.rule? rule.key = some ⟨rule.key, k.defaults rule.key⟩ := if_neg hempty
      rw [if_neg hempty, hsome]
      exact ⟨fun hkept _ => hkept, fun hkept => hkept rfl⟩

end Context.Faithful

/-! ## Applying a rule twice -/

/-- A declared rule is in place. -/
def Context.RuleApplied (ctx : Context σ) (host : Host) (desired : DeclaredRule) (k : Catalog) :
    Prop :=
  ctx.Ready ∧ ctx.dialect.supports .defaultPrivileges = true ∧
    ∃ rule, desired.normalize ctx.defaultDatabase = .ok rule ∧
      RuleKey.decode rule.key.identity = .ok rule.key ∧
      host.databases rule.key.database = true ∧ ∀ p, k.MeetsRule rule p

theorem Context.RuleApplied.recorded {ctx : Context σ} {host : Host} {desired : DeclaredRule}
    {k : Catalog} (h : ctx.RuleApplied host desired k) : ctx.recorded.RuleApplied host desired k :=
  ⟨h.1.recorded, h.2⟩

/-- A declared rule gives something. -/
theorem DeclaredRule.exists_privilege {desired : DeclaredRule} {defaultDatabase : String}
    (h : desired.normalize defaultDatabase = .ok rule) : ∃ p, p ∈ rule.privileges := by
  obtain ⟨-, -, hempty, -⟩ := normalize_ok h
  exact OrderedSet.isEmpty_eq_false_iff.1 hempty

theorem rule_identity {ctx : Context σ} {desired : DeclaredRule}
    (h : desired.normalize ctx.defaultDatabase = .ok rule) :
    rules.identity ctx desired = .ok rule.key.identity :=
  Except.map_ok.2 ⟨rule, h, rfl⟩

/-- A rule that is in place is read as it is declared. -/
theorem Catalog.rule?_of_meets {k : Catalog} (hgiven : ∃ p, p ∈ rule.privileges)
    (hmeets : ∀ p, k.MeetsRule rule p) : k.rule? rule.key = some rule := by
  obtain ⟨p, hp⟩ := hgiven
  have hdefaults : k.defaults rule.key = rule.privileges := OrderedSet.ext hmeets
  unfold rule?
  rw [hdefaults, if_neg fun hempty => OrderedSet.isEmpty_iff.1 hempty p hp]

namespace Context.Faithful

variable {ctx : Context σ} {host : Host} {view : σ → Store Catalog}

/-- What is found when a rule is looked up. -/
theorem rule_lookup (h : ctx.Faithful host view) {id : String} {desired : DeclaredRule}
    (hsettled : Naming.rules.Settled ctx desired) (hid : rules.identity ctx desired = .ok id)
    {found : Option Rule} {s u : σ}
    (hread : (rules.read ctx id none).result s = (.ok found, u)) :
    ∃ rule, desired.normalize ctx.defaultDatabase = .ok rule ∧
      RuleKey.decode rule.key.identity = .ok rule.key ∧ ctx.lock.grants .shared = true ∧
      view u = ⟨(view s).committed, none⟩ ∧ found = (view s).committed.rule? rule.key := by
  obtain ⟨rule, hrule, rfl⟩ := Except.map_ok.1 hid
  have hkey := hsettled _ _ hid (Except.map_ok.2 ⟨rule, hrule, rfl⟩)
  dsimp only [Naming.rules] at hkey
  exact ⟨rule, hrule, hkey, h.rule_read hkey hread⟩

/-- Nothing is planned for a rule that is in place. -/
theorem rule_read_applied (h : ctx.Faithful host view) {desired : DeclaredRule} {s : σ}
    (happlied : ctx.RuleApplied host desired (view s).committed) :
    ∃ rule t, desired.normalize ctx.defaultDatabase = .ok rule ∧
      (view s).committed.rule? rule.key = some rule ∧
      (rules.read ctx rule.key.identity none).result s = (.ok (some rule), t) ∧
      view t = ⟨(view s).committed, none⟩ ∧ rule.plan (some rule) = .ok [] := by
  obtain ⟨hready, -, rule, hrule, hkey, hdatabase, hmeets⟩ := happlied
  have hthere := Catalog.rule?_of_meets (DeclaredRule.exists_privilege hrule) hmeets
  obtain ⟨found, t, hread⟩ := h.rule_read_ok hkey hready.shared hdatabase s
  obtain ⟨-, hview, rfl⟩ := h.rule_read hkey hread
  rw [hthere] at hread
  have hplan := rule.plan_rule? (view s).committed
  rw [hthere, Rule.planFrom_eq_nil.2 hmeets] at hplan
  exact ⟨rule, t, hrule, hthere, hread, hview, hplan⟩

/-- A rule that is in place is written again without any command. -/
theorem rule_again (h : ctx.Faithful host view) {desired : DeclaredRule} {s : σ}
    (happlied : ctx.RuleApplied host desired (view s).committed) :
    ∃ outcome t, (rules.converge ctx desired).result s = (.ok outcome, t) ∧
      (view t).committed = (view s).committed ∧ ctx.server.Quiet s t := by
  obtain ⟨rule, u, hrule, hthere, hread, hview, hplan⟩ := h.rule_read_applied happlied
  obtain ⟨hready, hfeature, rule', hrule', -, hdatabase, hmeets⟩ := happlied
  obtain rfl := Except.ok.inj (hrule.symm.trans hrule')
  have hwrite : ∃ outcome t,
      (writeSection ctx "default_privileges" rule.key.identity rule.key.database
        (Rule.prepare rule (some rule)) (fun session => session.rule? rule.key)
        fun o => rule.plan (some o)).result u = (.ok outcome, t) ∧
        (view t).committed = (view u).committed ∧ ctx.server.Quiet u t := by
    refine h.writeSection_nothing hready.exclusive hdatabase
      (fun v hv => ⟨v, Run.result_ofExcept.2 ⟨hplan, rfl⟩, rfl, .refl v⟩) fun v hv => ?_
    obtain ⟨w, hreread, hview'⟩ := h.rule? rule.key hdatabase (by rw [hv])
    rw [hv, hview, hthere] at hreread
    exact ⟨rule, w, hreread, hview', Session.quiet_rule? hreread, hplan⟩
  obtain ⟨outcome, t, hwrite, ht, hquiet⟩ := hwrite
  rw [hview] at ht
  have hupdate : (Rule.apply ctx (some rule) desired).result u = (.ok outcome, t) :=
    Rule.result_apply.2 ⟨hready.writable, hfeature, rule, hrule, hwrite⟩
  exact ⟨outcome, t, Lifecycle.result_converge.2 ⟨rule.key.identity, some rule, u,
    rule_identity hrule, hread, hupdate⟩, ht, .trans (Rule.quiet_read hread) hquiet⟩

end Context.Faithful

/-- Rules are applied once and for all. -/
theorem Naming.idempotent_rules {ctx : Context σ} {host : Host} {view : σ → Store Catalog}
    (h : ctx.Faithful host view) :
    rules.Idempotent ctx view Place.defaults (rules.Settled ctx) (ctx.RuleApplied host) where
  identity {d d' key} hd hd' := by
    obtain ⟨rule, hrule, rfl⟩ := Except.map_ok.1 hd
    obtain ⟨rule', hrule', hkey⟩ := Except.map_ok.1 hd'
    rw [rule_identity hrule, rule_identity hrule', hkey]
  place_inj := Place.defaults.inj
  converge {d s t outcome} hsafe hrun := by
    obtain ⟨id, found, u, hid, hread, hwrite⟩ := Lifecycle.result_converge.1 hrun
    obtain ⟨rule, hrule, hkey, hshared, hview, rfl⟩ := h.rule_lookup hsafe hid hread
    obtain ⟨hwritable, hfeature, hexclusive, hdatabase, -, hdiffer, hdrift, hmeets⟩ :=
      h.rule_write hrule _ hwrite
    rw [hview] at hdiffer hmeets
    have hall : ∀ p, (view t).committed.MeetsRule rule p := fun p =>
      (hmeets p).2 fun _ hnow => hnow
    exact ⟨hdrift.2 hall, ⟨⟨hwritable, hshared, hexclusive⟩, hfeature, rule, hrule, hkey, hdatabase,
      hall⟩, _, Except.map_ok.2 ⟨rule, hrule, rfl⟩, hdiffer⟩
  keeps {d c c'} happlied hagree := by
    obtain ⟨hready, hfeature, rule, hrule, hkey, hdatabase, hmeets⟩ := happlied
    have hsame : c.defaults rule.key = c'.defaults rule.key :=
      hagree _ (Except.map_ok.2 ⟨rule, hrule, rfl⟩)
    refine ⟨hready, hfeature, rule, hrule, hkey, hdatabase, fun p => ?_⟩
    unfold Catalog.MeetsRule
    rw [← hsame]
    exact hmeets p
  pending {d s} happlied := by
    obtain ⟨rule, t, hrule, -, hread, hview, hplan⟩ := h.rule_read_applied happlied
    refine ⟨t, Lifecycle.result_pending.2 ⟨rule.key.identity, some rule, rule_identity hrule,
      hread, ?_⟩, by rw [hview]⟩
    exact Except.bind_ok.2 ⟨(), Dialect.require_ok.2 happlied.2.1,
      Except.bind_ok.2 ⟨rule, hrule, hplan⟩⟩
  again happlied := h.rule_again happlied

end Accord
