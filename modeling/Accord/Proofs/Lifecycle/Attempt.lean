import Accord.Proofs.Lifecycle.Dialect
import Accord.Proofs.Lifecycle.Failure

/-!
# Attempts at one object

Creating or updating a declared object, whichever is called for, comes to an end before any command
is given, or a plan for the object is applied in one transaction (`Lifecycle.Attempts.attempt`).
The object that a successful attempt reports is the declared one, and what is committed is the whole
plan or nothing of it.
-/

namespace Accord

variable {σ δ ο ω κ : Type}

/-! ## Servers that commit as a whole -/

/-- A commit that fails has taken effect as a whole or not at all. -/
structure Server.CommitsWhole (server : Server σ) (view : σ → Store κ)
    (effect : Option String → Statement → κ → Option κ) : Prop
    extends server.Commits view effect where
  commitFailed {database : Option String} {s t : σ} {e : Error} {k : κ} :
    server.execute database .commit s = (.error e, t) → (view s).working = some k →
    (view t).committed = (view s).committed ∨ (view t).committed = k

/-- On such a server a plan that fails is committed as a whole or not at all. -/
theorem Server.CommitsWhole.committed_of_error {server : Server σ} {view : σ → Store κ}
    {effect : Option String → Statement → κ → Option κ} (hserver : server.CommitsWhole view effect)
    {database : Option String} {plan : Plan} {given : List Given} {halt : Halt} {s t : σ}
    (h : server.Trace s (eventsOf database given) t) (ht : Transaction plan given (.error halt)) :
    (view t).committed = (view s).committed ∨
      effects (effect database) plan.ordered (view s).committed = some (view t).committed := by
  have htransactional := hserver.transactional database
  have hunchanged := (committed_of_transaction htransactional h ht).2
  cases ht with
  | notOpened e hplan => exact .inl (hunchanged _ rfl fun _ => nofun)
  | broken done c rest e reply hordered => exact .inl (hunchanged _ rfl fun _ => nofun)
  | notCommitted e hplan =>
    obtain ⟨u, hstart, hu⟩ := h.execute_inv
    have hview := htransactional.start hstart
    obtain ⟨k, v, hk, hv, hrest⟩ := working_of_succeeded htransactional hu (by rw [hview])
    obtain ⟨w, hcommit, hnil⟩ := hrest.execute_inv
    cases hnil
    rw [hview] at hv
    rcases hserver.commitFailed hcommit (by rw [hv]) with hsame | hwhole
    · exact .inl (by rw [hsame, hv])
    · exact .inr (by rw [hk, hwhole])

/-! ## Write sections -/

theorem Transaction.length_of_ok {plan : Plan} {given : List Given} {n : Nat}
    (h : Transaction plan given (.ok n)) : n = plan.length := by
  cases h with
  | empty hplan => rw [hplan]; rfl
  | committed hplan => rfl

namespace Writing

variable {w : Writing σ ο} {ctx : Context σ} {session : Session σ} {plan : Plan} {s t : σ}
  {r : Except Halt (Outcome ο)} {given : List Given}

/-- The report of a section is about the object that was written. -/
theorem result_verify_ok {n : Nat} {outcome : Outcome ο}
    (h : (w.verify session n).result s = (.ok outcome, t)) :
    outcome.id = w.id ∧ outcome.applied = n := by
  obtain ⟨observed, u, -, hreport⟩ := Run.result_bind_ok.1 h
  obtain ⟨o, left, -, -, rfl⟩ := Outcome.ofReread_ok.1 (Run.result_ofExcept.1 hreport).1
  exact ⟨rfl, rfl⟩

/-- What a section comes to: the plan fails, or it is carried out, and then the report is about the
object and counts the statements. -/
theorem Course.outcome (h : w.Course session plan s r t given) :
    (∃ halt, r = .error halt ∧ Transaction plan given (.error halt)) ∨
      given = plan.carriedOut ∧ ∀ outcome, r = .ok outcome →
        outcome.id = w.id ∧ outcome.applied = plan.length := by
  cases h with
  | failed htrace ht => exact .inl ⟨_, rfl, ht⟩
  | @applied given n u t r htrace ht hverify =>
    refine .inr ⟨ht.given_of_ok, fun outcome hr => ?_⟩
    subst hr
    obtain ⟨hid, hn⟩ := result_verify_ok hverify
    exact ⟨hid, hn.trans ht.length_of_ok⟩

section Committed

variable {view : σ → Store κ} {effect : Option String → Statement → κ → Option κ}

/-- A plan that is reported as applied is committed. -/
theorem Course.committed_of_ok {outcome : Outcome ο}
    (h : w.Course session plan s (.ok outcome) t given) (hquiet : w.Quiet session)
    (hserver : session.server.Commits view effect) :
    effects (effect session.database) plan.ordered (view s).committed =
      some (view t).committed := by
  cases h with
  | applied htrace ht hverify => exact committed_of_applied hserver hquiet htrace ht hverify

/-- A plan is committed as a whole or not at all. -/
theorem Course.committed_whole (h : w.Course session plan s r t given) (hquiet : w.Quiet session)
    (hserver : session.server.CommitsWhole view effect) :
    (view t).committed = (view s).committed ∨
      effects (effect session.database) plan.ordered (view s).committed =
        some (view t).committed := by
  cases h with
  | failed htrace ht => exact hserver.committed_of_error htrace ht
  | applied htrace ht hverify =>
    exact .inr (committed_of_applied hserver.toCommits hquiet htrace ht hverify)

end Committed

end Writing

/-! ## Objects of one kind -/

/-- What the kind does to write an object: it reads quietly, makes a plan for the object, and ends
with the identity of the object. -/
structure Lifecycle.Attempts (k : Lifecycle δ ο ω) (ctx : Context σ)
    (writing : String → Option ο → δ → Except Error (Writing σ ο)) : Prop where
  writes : k.Writes ctx writing
  reads : k.QuietReads ctx
  identity {id : String} {found : Option ο} {desired : δ} {w : Writing σ ο} :
    writing id found desired = .ok w → k.identity ctx desired = .ok w.id
  plan {id : String} {found : Option ο} {desired : δ} {w : Writing σ ο} {plan : Plan} {s t : σ} :
    writing id found desired = .ok w →
    (w.prepare (ctx.opened w.database)).result s = (.ok plan, t) →
    ∃ before, k.plan ctx before desired = .ok plan

namespace Lifecycle

/-- A plan for the declared object is made, and the write section goes on from there. -/
structure Underway (k : Lifecycle δ ο ω) (ctx : Context σ) (desired : δ) (w : Writing σ ο)
    (plan : Plan) (s t : σ) (r : Except Halt (Outcome ο)) (given : List Given) : Prop where
  identity : k.identity ctx desired = .ok w.id
  planned : ∃ found, k.plan ctx found desired = .ok plan
  quiet : w.Quiet (ctx.opened w.database)
  course : ∃ u, ctx.server.Quiet s u ∧ w.Course (ctx.opened w.database) plan u r t given

variable {k : Lifecycle δ ο ω} {ctx : Context σ}
  {writing : String → Option ο → δ → Except Error (Writing σ ο)}

/-- An attempt at an object fails before any command, or its plan is applied. -/
theorem Attempts.attempt (h : k.Attempts ctx writing) (desired : δ) {s t : σ}
    {r : Except Halt (Outcome ο)} (hrun : (k.converge ctx desired).result s = (r, t)) :
    (∃ halt, r = .error halt) ∧ ctx.server.Quiet s t ∨
      ∃ w plan given, k.Underway ctx desired w plan s t r given := by
  unfold converge at hrun
  cases hid : k.identity ctx desired with
  | error e =>
    rw [hid, Run.result_liftM_bind_of_error rfl] at hrun
    obtain ⟨rfl, rfl⟩ := Prod.mk.inj hrun
    exact .inl ⟨⟨_, rfl⟩, .refl s⟩
  | ok id =>
    rw [Run.result_bind_of_ok (Run.result_liftM.2 ⟨hid, rfl⟩)] at hrun
    rcases hread : (k.read ctx id none).result s with ⟨halt | found, u⟩
    · rw [Run.result_bind_of_error hread] at hrun
      obtain ⟨rfl, rfl⟩ := Prod.mk.inj hrun
      exact .inl ⟨⟨_, rfl⟩, (h.reads.read id none).of_result hread⟩
    · rw [Run.result_bind_of_ok hread] at hrun
      have hu : ctx.server.Quiet s u := (h.reads.read id none).of_result hread
      have hrun : (k.write ctx id found desired).result u = (r, t) := by
        cases found <;> exact hrun
      rw [h.writes.write] at hrun
      cases hw : writing id found desired with
      | error e =>
        rw [hw, Run.result_liftM_bind_of_error rfl] at hrun
        obtain ⟨rfl, rfl⟩ := Prod.mk.inj hrun
        exact .inl ⟨⟨_, rfl⟩, hu⟩
      | ok w =>
        rw [Run.result_bind_of_ok (Run.result_liftM.2 ⟨hw, rfl⟩)] at hrun
        have hquiet := h.writes.quiet hw
        rcases hopening : (w.opening ctx).result u with ⟨halt | plan, v⟩
        · rw [Writing.run_of_opening_error hopening] at hrun
          obtain ⟨rfl, rfl⟩ := Prod.mk.inj hrun
          exact .inl ⟨⟨_, rfl⟩, hu.trans (hquiet.opening.of_result hopening)⟩
        · obtain ⟨given, hcourse⟩ := Writing.course_of_opening hopening
          rw [hrun] at hcourse
          obtain ⟨x, hprepare⟩ := Writing.prepare_of_opening hopening
          exact .inr ⟨w, plan, given, h.identity hw, h.plan hw hprepare, hquiet, v,
            hu.trans (hquiet.opening.of_result hopening), hcourse⟩

/-! ## All kinds -/

theorem attempts_roles (ctx : Context σ) : roles.Attempts ctx (Role.writing ctx) := by
  refine ⟨writes_roles ctx, quietReads_roles ctx, fun {id found desired w} hw => ?_,
    fun {id found desired w plan s t} hw hprepare => ?_⟩
  · obtain ⟨-, -, spec, plan, hspec, -, rfl⟩ := Role.writing_ok.1 hw
    simp only [roles]
    exact DeclaredRole.normalize_name hspec
  · obtain ⟨-, -, spec, plan, hspec, hplan, rfl⟩ := Role.writing_ok.1 hw
    obtain ⟨rfl, -⟩ := Run.result_pure_ok.1 hprepare
    exact ⟨found, (Role.plan_eq ctx found desired).trans (Except.bind_ok.2 ⟨spec, hspec, hplan⟩)⟩

theorem attempts_schemas (ctx : Context σ) :
    schemas.Attempts ctx fun _ => Schema.writing ctx := by
  refine ⟨writes_schemas ctx, quietReads_schemas ctx, fun {id found desired w} hw => ?_,
    fun {id found desired w plan s t} hw hprepare => ?_⟩
  · obtain ⟨-, spec, plan, hspec, -, rfl⟩ := Schema.writing_ok.1 hw
    exact Except.map_ok.2 ⟨spec, hspec, rfl⟩
  · obtain ⟨-, spec, plan, hspec, hplan, rfl⟩ := Schema.writing_ok.1 hw
    obtain ⟨rfl, -⟩ := Run.result_pure_ok.1 hprepare
    exact ⟨found, (Schema.plan_eq ctx found desired).trans
      (Except.bind_ok.2 ⟨spec, hspec, hplan⟩)⟩

theorem attempts_extensions (ctx : Context σ) :
    extensions.Attempts ctx fun _ => Extension.writing ctx := by
  refine ⟨writes_extensions ctx, quietReads_extensions ctx, fun {id found desired w} hw => ?_,
    fun {id found desired w plan s t} hw hprepare => ?_⟩
  · obtain ⟨-, -, spec, plan, database, hspec, -, hdatabase, rfl⟩ := Extension.writing_ok.1 hw
    exact Except.bind_ok.2 ⟨spec, hspec, Except.bind_ok.2 ⟨database, hdatabase, rfl⟩⟩
  · obtain ⟨-, hfeature, spec, plan, _, hspec, hplan, -, rfl⟩ := Extension.writing_ok.1 hw
    obtain ⟨rfl, -⟩ := Run.result_pure_ok.1 hprepare
    exact ⟨found, (Extension.plan_eq ctx found desired).trans
      (Except.bind_ok.2 ⟨(), hfeature, Except.bind_ok.2 ⟨spec, hspec, hplan⟩⟩)⟩

theorem attempts_rules (ctx : Context σ) : rules.Attempts ctx fun _ => Rule.writing ctx := by
  refine ⟨writes_rules ctx, quietReads_rules ctx, fun {id found desired w} hw => ?_,
    fun {id found desired w plan s t} hw hprepare => ?_⟩
  · obtain ⟨-, -, rule, hrule, rfl⟩ := Rule.writing_ok.1 hw
    exact Except.map_ok.2 ⟨rule, hrule, rfl⟩
  · obtain ⟨-, hfeature, rule, hrule, rfl⟩ := Rule.writing_ok.1 hw
    obtain ⟨before, hplan⟩ := Rule.plan_of_prepare hprepare
    exact ⟨before, Except.bind_ok.2 ⟨(), hfeature, Except.bind_ok.2 ⟨rule, hrule, hplan⟩⟩⟩

end Lifecycle

end Accord
