import Accord.Lifecycle.Document
import Accord.Proofs.Catalog.Memory
import Accord.Proofs.Lifecycle.Role
import Accord.Proofs.Lifecycle.Rule
import Accord.Proofs.Lifecycle.Schema
import Accord.Proofs.Session.Interleaving

/-!
# Concurrent converging

An object is looked up in one section of the catalog lock and written in another one.  The plan for
an object that was found is made from what was looked up, so it leaves alone what was as declared at
that time, even if another client changes it before it is this client's turn to write.

`Declared.Kept` says that nothing of this kind was changed.  It is exactly the condition under which
the object is as declared after it was written (`System.drift_eq_nil_iff_kept`), and two clients
that declare the same role can break it.
-/

namespace Accord

open Lifecycle

variable {σ : Type}

/-! ## Converging in sections -/

namespace Lifecycle

variable {δ ο ω : Type} {k : Lifecycle δ ο ω} {ctx : Context σ} {desired : δ}

/-- What came of an object, as it is reported. -/
def report (k : Lifecycle δ ο ω) (outcome : Outcome ο) : AppliedObject :=
  ⟨k.kind, outcome.id, outcome.applied, k.toJson outcome.observed, outcome.drift⟩

/-- Creating or updating an object, in the sections that hold the catalog lock. -/
def process (k : Lifecycle δ ο ω) (ctx : Context σ) (desired : δ) : Process σ AppliedObject :=
  match k.identity ctx desired with
  | .error e => .done (.error (.failed e))
  | .ok id =>
    .after (k.read ctx id none) fun found =>
      .after (k.write ctx id found desired) fun outcome => .done (.ok (k.report outcome))

theorem converge_eq {id : String} (hid : k.identity ctx desired = .ok id) :
    k.converge ctx desired = k.read ctx id none >>= fun found => k.write ctx id found desired := by
  unfold converge
  rw [hid]
  show (pure id >>= fun id => _) = _
  rw [pure_bind]
  congr 1

/-- A client that has the server for itself converges as if there were no sections. -/
theorem finish_process (s : σ) :
    (k.process ctx desired).finish s =
      (k.report <$> k.converge ctx desired).result s := by
  unfold process
  cases hid : k.identity ctx desired with
  | error e =>
    unfold converge
    rw [hid]
    rfl
  | ok id =>
    rw [converge_eq hid, map_bind]
    refine Process.finish_after (fun found s => ?_) s
    rw [map_eq_pure_bind]
    exact Process.finish_after (fun outcome s => rfl) s

variable {ι : Type} [DecidableEq ι] {w : System ι σ AppliedObject} {i : ι} {schedule : List ι}
  {r : AppliedObject}

/-- A client that has converged an object has run its two sections. -/
theorem run_process (hstart : w.clients i = k.process ctx desired)
    (hdone : (w.run schedule).clients i = .done (.ok r)) :
    ∃ before between later id found u outcome, schedule = before ++ i :: (between ++ i :: later) ∧
      i ∉ before ∧ i ∉ between ∧ k.identity ctx desired = .ok id ∧
      (k.read ctx id none).result (w.run before).server = (.ok found, u) ∧
      (k.write ctx id found desired).result (w.run (before ++ i :: between)).server =
        (.ok outcome, (w.run (before ++ i :: (between ++ [i]))).server) ∧
      r = k.report outcome := by
  unfold process at hstart
  cases hid : k.identity ctx desired with
  | error e =>
    rw [hid] at hstart
    rw [System.run_done hstart] at hdone
    exact nomatch hdone
  | ok id =>
    rw [hid] at hstart
    obtain ⟨before, rest, found, rfl, hbefore, hread, hclient⟩ := System.run_after hstart hdone
    rw [System.run_append_cons] at hdone
    obtain ⟨between, later, outcome, rfl, hbetween, hwrite, hlast⟩ :=
      System.run_after hclient hdone
    refine ⟨before, between, later, id, found, _, outcome, rfl, hbefore, hbetween, rfl, hread, ?_,
      ?_⟩
    · rw [System.run_append_cons w before i between,
        System.run_append_cons w before i (between ++ [i])]
      exact hwrite
    · rw [System.run_append_cons, System.run_done hlast] at hdone
      exact (Except.ok.inj (Process.done.inj hdone)).symm

end Lifecycle

/-! ## What is left alone -/

/-- An object that several clients may converge at once. -/
inductive Declared where
  | role (desired : DeclaredRole)
  | schema (desired : DeclaredSchema)
  | rule (desired : DeclaredRule)

namespace Declared

/-- Converging the object, in sections. -/
def process (ctx : Context σ) : Declared → Process σ AppliedObject
  | .role desired => roles.process ctx desired
  | .schema desired => schemas.process ctx desired
  | .rule desired => rules.process ctx desired

/-- Looking up the identity of the object leads to the object. -/
def Settled (ctx : Context σ) : Declared → Prop
  | .role desired => Naming.roles.Settled ctx desired
  | .schema desired => Naming.schemas.Settled ctx desired
  | .rule desired => Naming.rules.Settled ctx desired

/-- The object in the catalog is as declared. -/
def Met (ctx : Context σ) (k : Catalog) : Declared → Prop
  | .role desired => ∃ spec e, desired.normalize = .ok spec ∧ k.roles spec.name = some e ∧
      ∀ a, e.Meets ctx.bypass spec a
  | .schema desired => ∃ spec e, desired.normalize ctx.defaultDatabase = .ok spec ∧
      k.schemas spec.database spec.name = some e ∧ e.Meets spec
  | .rule desired => ∃ rule, desired.normalize ctx.defaultDatabase = .ok rule ∧
      ∀ p, k.MeetsRule rule p

/-- What a plan that is made for one state of the catalog leaves alone is as declared in another
state.  A rule that is not there is planned for the other state. -/
def Kept (ctx : Context σ) (host : Host) (k now : Catalog) : Declared → Prop
  | .role desired => ∀ spec, desired.normalize = .ok spec → ∀ a,
      (k.roleAt spec.name).Meets ctx.bypass spec a → (now.roleAt spec.name).Meets ctx.bypass spec a
  | .schema desired => ∀ spec, desired.normalize ctx.defaultDatabase = .ok spec →
      (k.schemaAt host spec).Kept (now.schemaAt host spec) spec
  | .rule desired => ∀ rule, desired.normalize ctx.defaultDatabase = .ok rule →
      (k.rule? rule.key).isSome → ∀ p, k.MeetsRule rule p → now.MeetsRule rule p

/-- Where the object is kept. -/
def At (ctx : Context σ) (p : Place) : Declared → Prop
  | .role desired => ∃ spec, desired.normalize = .ok spec ∧ p = .role spec.name
  | .schema desired => ∃ spec, desired.normalize ctx.defaultDatabase = .ok spec ∧
      p = .schema spec.database spec.name
  | .rule desired => ∃ rule, desired.normalize ctx.defaultDatabase = .ok rule ∧
      p = .defaults rule.key

variable {ctx : Context σ} {host : Host} {d : Declared}

theorem met_role {desired : DeclaredRole} {spec : DeclaredRole} {e : RoleEntry} {k : Catalog}
    (hspec : desired.normalize = .ok spec) (he : k.roles spec.name = some e) :
    (role desired).Met ctx k ↔ ∀ a, e.Meets ctx.bypass spec a := by
  simp only [Met, exists_and_left, Except.exists_eq_ok hspec, he, Option.some.injEq,
    exists_eq_left']

theorem kept_role {desired spec : DeclaredRole} {k now : Catalog}
    (hspec : desired.normalize = .ok spec) :
    (role desired).Kept ctx host k now ↔ ∀ a,
      (k.roleAt spec.name).Meets ctx.bypass spec a →
        (now.roleAt spec.name).Meets ctx.bypass spec a :=
  Except.forall_eq_ok hspec

theorem met_schema {desired : DeclaredSchema} {spec : NormalSchema} {e : SchemaEntry} {k : Catalog}
    (hspec : desired.normalize ctx.defaultDatabase = .ok spec)
    (he : k.schemas spec.database spec.name = some e) :
    (schema desired).Met ctx k ↔ e.Meets spec := by
  simp only [Met, exists_and_left, Except.exists_eq_ok hspec, he, Option.some.injEq,
    exists_eq_left']

theorem kept_schema {desired : DeclaredSchema} {spec : NormalSchema} {k now : Catalog}
    (hspec : desired.normalize ctx.defaultDatabase = .ok spec) :
    (schema desired).Kept ctx host k now ↔
      (k.schemaAt host spec).Kept (now.schemaAt host spec) spec :=
  Except.forall_eq_ok hspec

theorem met_rule {desired : DeclaredRule} {rule : Rule} {k : Catalog}
    (hrule : desired.normalize ctx.defaultDatabase = .ok rule) :
    (Declared.rule desired).Met ctx k ↔ ∀ p, k.MeetsRule rule p :=
  Except.exists_eq_ok hrule

theorem kept_rule {desired : DeclaredRule} {rule : Rule} {k now : Catalog}
    (hrule : desired.normalize ctx.defaultDatabase = .ok rule) :
    (Declared.rule desired).Kept ctx host k now ↔
      ((k.rule? rule.key).isSome → ∀ p, k.MeetsRule rule p → now.MeetsRule rule p) :=
  Except.forall_eq_ok hrule

/-- Nothing is lost if the object has not changed. -/
theorem Kept.of_agree {k now : Catalog} (h : ∀ p, d.At ctx p → k.AgreeAt now p) :
    d.Kept ctx host k now := by
  cases d with
  | role desired =>
    intro spec hspec a hmeets
    have hsame : k.roles spec.name = now.roles spec.name := h _ ⟨spec, hspec, rfl⟩
    unfold Catalog.roleAt at hmeets ⊢
    rwa [← hsame]
  | schema desired =>
    intro spec hspec
    have hsame : k.schemas spec.database spec.name = now.schemas spec.database spec.name :=
      h _ ⟨spec, hspec, rfl⟩
    unfold Catalog.schemaAt
    rw [← hsame]
    exact SchemaEntry.kept_self (DeclaredSchema.closed_policies hspec) _
  | rule desired =>
    intro rule hrule _ p hmeets
    have hsame : k.defaults rule.key = now.defaults rule.key := h _ ⟨rule, hrule, rfl⟩
    unfold Catalog.MeetsRule at hmeets ⊢
    rwa [← hsame]

end Declared

namespace Context.Faithful

variable {ctx : Context σ} {host : Host} {view : σ → Store Catalog} {id : String} {s s' t u : σ}

/-- What comes of a role that was looked up in one state and is written in another. -/
theorem role_sections (h : ctx.Faithful host view) {desired : DeclaredRole}
    (hsettled : Naming.roles.Settled ctx desired) (hid : roles.identity ctx desired = .ok id)
    {found : Option ObservedRole} (hread : (roles.read ctx id none).result s = (.ok found, u))
    {outcome : Outcome ObservedRole}
    (hwrite : (roles.write ctx id found desired).result s' = (.ok outcome, t)) :
    (outcome.drift = [] ↔ (Declared.role desired).Met ctx (view t).committed) ∧
      (outcome.drift = [] ↔
        (Declared.role desired).Kept ctx host (view s).committed (view s').committed) := by
  obtain ⟨spec, hspec, -, -, -, -, hfound⟩ := h.role_lookup hsettled hid hread hwrite
  obtain ⟨-, -, -, -, -, e, he, hdrift, hmeets⟩ := h.role_write hspec hfound hwrite
  rw [Declared.met_role hspec he, Declared.kept_role hspec]
  exact ⟨hdrift, hdrift.trans (forall_congr' hmeets)⟩

theorem schema_sections (h : ctx.Faithful host view) {desired : DeclaredSchema}
    (hsettled : Naming.schemas.Settled ctx desired) (hid : schemas.identity ctx desired = .ok id)
    {found : Option ObservedSchema} (hread : (schemas.read ctx id none).result s = (.ok found, u))
    {outcome : Outcome ObservedSchema}
    (hwrite : (schemas.write ctx id found desired).result s' = (.ok outcome, t)) :
    (outcome.drift = [] ↔ (Declared.schema desired).Met ctx (view t).committed) ∧
      (outcome.drift = [] ↔
        (Declared.schema desired).Kept ctx host (view s).committed (view s').committed) := by
  obtain ⟨spec, hspec, -, -, -, -, hfound⟩ := h.schema_lookup hsettled hid hread hwrite
  obtain ⟨-, -, -, -, -, e, he, hdrift, hmeets⟩ := h.schema_write hspec hfound hwrite
  rw [Declared.met_schema hspec he, Declared.kept_schema hspec]
  exact ⟨hdrift, hdrift.trans hmeets⟩

theorem rule_sections (h : ctx.Faithful host view) {desired : DeclaredRule}
    (hsettled : Naming.rules.Settled ctx desired) (hid : rules.identity ctx desired = .ok id)
    {found : Option Rule} (hread : (rules.read ctx id none).result s = (.ok found, u))
    {outcome : Outcome Rule}
    (hwrite : (rules.write ctx id found desired).result s' = (.ok outcome, t)) :
    (outcome.drift = [] ↔ (Declared.rule desired).Met ctx (view t).committed) ∧
      (outcome.drift = [] ↔
        (Declared.rule desired).Kept ctx host (view s).committed (view s').committed) := by
  obtain ⟨rule, hrule, -, -, -, rfl⟩ := h.rule_lookup hsettled hid hread
  obtain ⟨-, -, -, -, -, -, hdrift, hmeets⟩ := h.rule_write hrule _ hwrite
  rw [Declared.met_rule hrule, Declared.kept_rule hrule, hdrift, forall_congr' hmeets]
  exact ⟨Iff.rfl, forall_comm⟩

end Context.Faithful

/-! ## Systems of clients -/

namespace System

variable {ι : Type}

/-- Some clients that are about to converge one object each. -/
def start (ctx : ι → Context σ) (declared : ι → Declared) (s : σ) : System ι σ AppliedObject :=
  ⟨s, fun i => (declared i).process (ctx i)⟩

/-- What is committed. -/
def catalog {α : Type} (view : σ → Store Catalog) (w : System ι σ α) : Catalog :=
  (view w.server).committed

variable [DecidableEq ι] {host : Host} {view : σ → Store Catalog} {schedule : List ι} {i : ι}
  {r : AppliedObject}

/-- What a client reports that converges an object, whatever the others do. -/
theorem run_declared {w : System ι σ AppliedObject} {ctx : Context σ} {d : Declared}
    (h : ctx.Faithful host view) (hsettled : d.Settled ctx) (hstart : w.clients i = d.process ctx)
    (hdone : (w.run schedule).clients i = .done (.ok r)) :
    ∃ before between later, schedule = before ++ i :: (between ++ i :: later) ∧
      i ∉ before ∧ i ∉ between ∧
      (r.drift = [] ↔ d.Met ctx ((w.run (before ++ i :: (between ++ [i]))).catalog view)) ∧
      (r.drift = [] ↔ d.Kept ctx host ((w.run before).catalog view)
        ((w.run (before ++ i :: between)).catalog view)) := by
  cases d with
  | role desired =>
    obtain ⟨before, between, later, id, found, u, outcome, hschedule, hbefore, hbetween, hid, hread,
      hwrite, rfl⟩ := run_process hstart hdone
    exact ⟨before, between, later, hschedule, hbefore, hbetween,
      h.role_sections hsettled hid hread hwrite⟩
  | schema desired =>
    obtain ⟨before, between, later, id, found, u, outcome, hschedule, hbefore, hbetween, hid, hread,
      hwrite, rfl⟩ := run_process hstart hdone
    exact ⟨before, between, later, hschedule, hbefore, hbetween,
      h.schema_sections hsettled hid hread hwrite⟩
  | rule desired =>
    obtain ⟨before, between, later, id, found, u, outcome, hschedule, hbefore, hbetween, hid, hread,
      hwrite, rfl⟩ := run_process hstart hdone
    exact ⟨before, between, later, hschedule, hbefore, hbetween,
      h.rule_sections hsettled hid hread hwrite⟩

/-- A client that has converged an object reports no drift if and only if the object is as declared
right after the client has written it, and this is so if and only if nothing was changed that was as
declared when the client looked the object up. -/
theorem drift_eq_nil_iff_kept {ctx : ι → Context σ} {declared : ι → Declared} {s : σ}
    (h : ∀ i, (ctx i).Faithful host view) (hsettled : (declared i).Settled (ctx i))
    (hdone : ((start ctx declared s).run schedule).clients i = .done (.ok r)) :
    ∃ before between later, schedule = before ++ i :: (between ++ i :: later) ∧
      i ∉ before ∧ i ∉ between ∧
      (r.drift = [] ↔ (declared i).Met (ctx i)
        (((start ctx declared s).run (before ++ i :: (between ++ [i]))).catalog view)) ∧
      (r.drift = [] ↔ (declared i).Kept (ctx i) host
        (((start ctx declared s).run before).catalog view)
        (((start ctx declared s).run (before ++ i :: between)).catalog view)) ∧
      ((∀ p, (declared i).At (ctx i) p →
        (((start ctx declared s).run before).catalog view).AgreeAt
          (((start ctx declared s).run (before ++ i :: between)).catalog view) p) →
        r.drift = []) := by
  obtain ⟨before, between, later, hschedule, hbefore, hbetween, hmet, hkept⟩ :=
    run_declared (h i) hsettled rfl hdone
  exact ⟨before, between, later, hschedule, hbefore, hbetween, hmet, hkept,
    fun hsame => hkept.2 (.of_agree hsame)⟩

/-- Two clients declare a role; one of them wants it to log in, the other one wants it to create
databases. -/
def rivals : Bool → Declared
  | false => .role { DeclaredRole.named "app" with login := true }
  | true => .role { DeclaredRole.named "app" with createDatabase := true }

/-- The two clients, and a role that can do neither. -/
def rivalry : System Bool (Store Catalog) AppliedObject :=
  .start (fun _ => smallContext) rivals ⟨Catalog.empty.setRole "app" (some .fresh), none⟩

theorem run_rivalry : ∃ r,
    (rivalry.run [false, true, false, true]).clients true = .done (.ok r) ∧
      r.drift = ["ALTER ROLE \"app\" WITH NOLOGIN"] := by
  have hdrift : ((rivalry.run [false, true, false, true]).clients true).value?.map
      AppliedObject.drift = some ["ALTER ROLE \"app\" WITH NOLOGIN"] := by decide +kernel
  obtain ⟨r, hr, hdrift⟩ := Option.map_eq_some_iff.1 hdrift
  exact ⟨r, Process.value?_eq_some.1 hr, hdrift⟩

theorem settled_rivals (i : Bool) : (rivals i).Settled smallContext := by
  cases i <;> exact Naming.settled_of_toOption (by decide +kernel)

/-- Both clients look the role up before one of them writes it, and the change of the first one is
still there when the second one is done. -/
theorem drift_of_rivals :
    smallContext.Faithful smallHost id ∧ (∀ i, (rivals i).Settled smallContext) ∧
    ∃ r, (rivalry.run [false, true, false, true]).clients true = .done (.ok r) ∧ r.drift ≠ [] := by
  obtain ⟨r, hdone, hdrift⟩ := run_rivalry
  refine ⟨smallHost.faithful .., settled_rivals, r, hdone, ?_⟩
  simp [hdrift]

/-- The second client has changed a role that is not what it was when the client looked it up. -/
theorem not_kept_of_rivals :
    (∀ _ : Bool, smallContext.Faithful smallHost id) ∧ (rivals true).Settled smallContext ∧
    ∃ r, (rivalry.run [false, true, false, true]).clients true = .done (.ok r) ∧
      ∃ before between later, [false, true, false, true] =
          before ++ true :: (between ++ true :: later) ∧
        ¬(rivals true).Met smallContext
          ((rivalry.run (before ++ true :: (between ++ [true]))).catalog id) ∧
        ¬(rivals true).Kept smallContext smallHost ((rivalry.run before).catalog id)
          ((rivalry.run (before ++ true :: between)).catalog id) := by
  have hfaithful : ∀ _ : Bool, smallContext.Faithful smallHost id := fun _ => smallHost.faithful ..
  obtain ⟨r, hdone, hdrift⟩ := run_rivalry
  obtain ⟨before, between, later, hschedule, -, -, hmet, hkept, -⟩ :=
    drift_eq_nil_iff_kept hfaithful (settled_rivals true) hdone
  have hne : r.drift ≠ [] := by simp [hdrift]
  exact ⟨hfaithful, settled_rivals true, r, hdone, before, between, later, hschedule,
    mt hmet.2 hne, mt hkept.2 hne⟩

end System

end Accord
