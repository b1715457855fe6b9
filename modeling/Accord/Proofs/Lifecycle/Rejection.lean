import Accord.Proofs.Lifecycle.Call
import Accord.Proofs.Lifecycle.Preview
import Accord.Proofs.Role.Dialect

/-!
# Rejections have no effect

All checks of an operation come before its first command.  So a context that may not be changed
gives no commands at all, and neither does reading and planning; and whenever an operation on one
object rejects what it is asked for, it has given no command (`rejections_have_no_effect`).  For
that the plan for what is read again after a change must never be refused, which is shown for every
kind (`Lifecycle.Verifies`).
-/

namespace Accord

variable {σ δ ο ω : Type}

/-! ## Sections -/

/-- What is done in a section under a side of the lock rejects quietly if it does so in the
session. -/
theorem Context.rejectsQuietly_section {ctx : Context σ} {side : Side} {database : String}
    {α : Type} {f : Session σ → Run σ α}
    (h : (f (ctx.opened database)).RejectsQuietly ctx.server) :
    Run.RejectsQuietly (do
      ctx.hold side
      let s ← ctx.session database
      f s) ctx.server := by
  refine .bind (ctx.quietOn_hold side) fun _ => ?_
  unfold Context.session Session.connect
  simp only [bind_assoc, pure_bind]
  exact .bind (Run.quietOn_connect ctx.server _) fun _ => h

namespace Writing

/-- What is read again can be read but for errors of the server, and there is always a plan for
it. -/
structure Verifies (w : Writing σ ο) (session : Session σ) : Prop where
  reread : (w.reread session).FailsAsServer
  replan {s t : σ} {o : ο} : (w.reread session).result s = (.ok (some o), t) →
    ∃ left, w.replan o = .ok left

variable {w : Writing σ ο} {ctx : Context σ} {session : Session σ} {P : Error → Prop}

/-- The end of a write section fails in reading, because nothing is found, or in planning for what
was read. -/
theorem failsOnly_verify (hreread : (w.reread session).FailsOnly P)
    (hreplan : ∀ {s t o}, (w.reread session).result s = (.ok (some o), t) →
      FailsOnly P (w.replan o))
    (hfound : ∀ message, P (.notFound message)) (n : Nat) : (w.verify session n).FailsOnly P := by
  refine hreread.bind_of fun s observed t hread => .ofExcept ?_
  cases observed with
  | none => exact .error (hfound _)
  | some o => exact (hreplan hread).bind fun left => .ok _

/-- All failures of the section that do not come from the session are of some sort. -/
structure FailsWith (P : Error → Prop) (w : Writing σ ο) (session : Session σ) : Prop where
  prepare : (w.prepare session).FailsOnly P
  reread : (w.reread session).FailsOnly P
  replan {s t : σ} {o : ο} : (w.reread session).result s = (.ok (some o), t) →
    FailsOnly P (w.replan o)

theorem FailsWith.run (h : w.FailsWith P (ctx.opened w.database))
    (hserver : ctx.server.PlainErrors) (hP : ∀ e, e.isRejection = false → P e) :
    (w.run ctx).FailsOnly P := by
  rw [run_eq]
  refine .bind ?_ fun plan => ?_
  · unfold opening
    refine (ctx.failsOnly_hold .exclusive).bind fun _ => ?_
    refine ((Context.failsAsServer_session hserver _).neverRejects.mono hP).bind_of
      fun s session t hsession => ?_
    obtain ⟨-, rfl⟩ := Context.result_session.1 hsession
    exact h.prepare
  · refine ((Session.neverRejects_apply _ plan).mono hP).bind fun n => ?_
    exact failsOnly_verify h.reread h.replan (fun _ => hP _ rfl) n

theorem Verifies.failsOnly_replan (h : w.Verifies session) {s t : σ} {o : ο}
    (hread : (w.reread session).result s = (.ok (some o), t)) : FailsOnly P (w.replan o) := by
  obtain ⟨left, hleft⟩ := h.replan hread
  rw [hleft]
  exact .ok left

theorem Verifies.rejectsQuietly_run (h : w.Verifies (ctx.opened w.database))
    (hquiet : w.Quiet (ctx.opened w.database)) : (w.run ctx).RejectsQuietly ctx.server := by
  rw [run_eq]
  refine .bind hquiet.opening fun plan => Run.FailsOnly.rejectsQuietly ?_
  refine (Session.neverRejects_apply _ plan).bind fun n => ?_
  exact failsOnly_verify h.reread.neverRejects h.failsOnly_replan (fun _ => rfl) n

end Writing

namespace Lifecycle

/-! ## What is read again -/

/-- What is read again after a creation or an update of the kind can be read but for errors of the
server, and there is always a plan for it. -/
def Verifies (k : Lifecycle δ ο ω) (ctx : Context σ)
    (writing : String → Option ο → δ → Except Error (Writing σ ο)) : Prop :=
  k.Writes ctx writing ∧ ∀ {id found desired w}, writing id found desired = .ok w →
    w.Verifies (ctx.opened w.database)

section Verifying

variable {ctx : Context σ}

theorem verifies_roles (h : ctx.server.PlainErrors) : roles.Verifies ctx (Role.writing ctx) := by
  refine ⟨writes_roles ctx, fun {id found desired w} hw => ?_⟩
  obtain ⟨-, -, spec, plan, -, -, rfl⟩ := Role.writing_ok.1 hw
  refine ⟨Session.failsAsServer_knownRole? h ctx _ _, fun {s t o} hread => ?_⟩
  obtain ⟨seen, -, hseen⟩ := Session.result_knownRole?.1 hread
  obtain ⟨r, -, rfl⟩ := Option.map_eq_some_iff.1 hseen.symm
  exact DeclaredRole.exists_updatePlan_known ctx spec r

theorem verifies_schemas (h : ctx.server.PlainErrors) :
    schemas.Verifies ctx fun _ => Schema.writing ctx := by
  refine ⟨writes_schemas ctx, fun {id found desired w} hw => ?_⟩
  obtain ⟨-, spec, plan, -, -, rfl⟩ := Schema.writing_ok.1 hw
  refine ⟨Session.failsAsServer_schema? h _ _, fun {s t o} hread => ?_⟩
  obtain ⟨_, _, -, ⟨-, hnone, -⟩ | ⟨_, _, _, _, _, -, -, -, -, -, hsome⟩⟩ :=
    Session.result_schema?.1 hread
  · cases hnone
  · obtain rfl := Option.some.inj hsome
    exact ⟨_, NormalSchema.updatePlan_ok.2 ⟨rfl, rfl⟩⟩

theorem verifies_extensions (h : ctx.server.PlainErrors) (hnames : ctx.server.AnswersByName) :
    extensions.Verifies ctx fun _ => Extension.writing ctx := by
  refine ⟨writes_extensions ctx, fun {id found desired w} hw => ?_⟩
  obtain ⟨-, -, spec, plan, database, hspec, -, hdatabase, rfl⟩ := Extension.writing_ok.1 hw
  refine ⟨Session.failsAsServer_extension? h _ _, fun {s t o} hread => ?_⟩
  obtain ⟨table, hq, ⟨-, hnone⟩ | ⟨row, e, hrow, he, hsome⟩⟩ :=
    Session.result_extension?.1 hread
  · cases hnone
  · obtain rfl := Option.some.inj hsome
    obtain ⟨hname, hwithin⟩ := InstalledExtension.ofRow_name he
    have hfound := Except.ok.inj (hname.symm.trans (hnames.extension hq hrow))
    obtain ⟨declared, hdeclared, -⟩ := DeclaredExtension.normalize_ok hspec
    rw [DeclaredExtension.databaseOf, hdeclared] at hdatabase
    obtain rfl := Except.ok.inj hdatabase
    exact ⟨_, (DeclaredExtension.updatePlan_ok hdeclared).2 ⟨hfound, hwithin, rfl⟩⟩

theorem verifies_rules (h : ctx.server.PlainErrors) :
    rules.Verifies ctx fun _ => Rule.writing ctx := by
  refine ⟨writes_rules ctx, fun {id found desired w} hw => ?_⟩
  obtain ⟨-, -, rule, -, rfl⟩ := Rule.writing_ok.1 hw
  refine ⟨Session.failsAsServer_rule? h _, fun {s t o} hread => ?_⟩
  refine ⟨rule.planFrom o.privileges, ?_⟩
  simp only [Rule.writingOf, Accord.Rule.plan]
  rw [if_pos (Session.rule?_key hread)]

end Verifying

/-! ## Operations on one object -/

/-- Objects of the kind are written and deleted without a command if that is rejected. -/
structure RejectsQuietly (k : Lifecycle δ ο ω) (ctx : Context σ) : Prop where
  write (id : String) (found : Option ο) (desired : δ) :
    (k.write ctx id found desired).RejectsQuietly ctx.server
  delete (id : String) (options : ω) : (k.delete ctx id options).RejectsQuietly ctx.server

section Operations

variable {k : Lifecycle δ ο ω} {ctx : Context σ}

theorem Verifies.write {writing : String → Option ο → δ → Except Error (Writing σ ο)}
    (h : k.Verifies ctx writing) (id : String) (found : Option ο) (desired : δ) :
    (k.write ctx id found desired).RejectsQuietly ctx.server := by
  rw [h.1.write]
  exact .liftM_bind fun w hw => (h.2 hw).rejectsQuietly_run (h.1.quiet hw)

/-- Applying a plan, and nothing else, rejects quietly. -/
theorem rejectsQuietly_apply (session : Session σ) (plan : Plan) :
    Run.RejectsQuietly (do let _ ← session.apply plan) session.server :=
  Run.FailsOnly.rejectsQuietly ((session.neverRejects_apply plan).bind fun _ => .pure ())

theorem rejectsQuietly_roles (h : ctx.server.PlainErrors) : roles.RejectsQuietly ctx where
  write := (verifies_roles h).write
  delete id options := by
    refine .liftM_bind fun _ _ => .liftM_bind fun name _ => ?_
    dsimp only
    split
    · exact (Run.quietOn_pure _ ()).rejectsQuietly
    · exact Context.rejectsQuietly_section (rejectsQuietly_apply _ _)

theorem rejectsQuietly_schemas (h : ctx.server.PlainErrors) : schemas.RejectsQuietly ctx where
  write := (verifies_schemas h).write
  delete _ _ := .liftM_bind fun _ _ => .liftM_bind fun _ _ =>
    Context.rejectsQuietly_section (rejectsQuietly_apply _ _)

theorem rejectsQuietly_extensions (h : ctx.server.PlainErrors)
    (hnames : ctx.server.AnswersByName) : extensions.RejectsQuietly ctx where
  write := (verifies_extensions h hnames).write
  delete _ _ := .liftM_bind fun _ _ => .liftM_bind fun _ _ => .liftM_bind fun _ _ =>
    Context.rejectsQuietly_section (rejectsQuietly_apply _ _)

theorem rejectsQuietly_rules (h : ctx.server.PlainErrors) : rules.RejectsQuietly ctx where
  write := (verifies_rules h).write
  delete _ _ := .liftM_bind fun _ _ => .liftM_bind fun _ _ => .liftM_bind fun _ _ =>
    Context.rejectsQuietly_section (rejectsQuietly_apply _ _)

/-- Every call for one object rejects quietly. -/
theorem RejectsQuietly.call (h : k.RejectsQuietly ctx) (hreads : k.QuietReads ctx)
    (c : Lifecycle.Call δ ο ω) : (c.run k ctx).RejectsQuietly ctx.server := by
  have hdrop : ∀ {α : Type} {m : Run σ α}, m.RejectsQuietly ctx.server →
      Run.RejectsQuietly (do let _ ← m) ctx.server := by
    intro α m hm s e t hrun he
    rcases hresult : m.result s with ⟨halt | a, u⟩
    · rw [Run.result_bind_of_error hresult] at hrun
      cases hrun
      exact hm s e t hresult he
    · rw [Run.result_bind_of_ok hresult] at hrun
      cases hrun
  cases c with
  | read id lastKnown => exact ((hreads.call (c := .read id lastKnown) rfl)).rejectsQuietly
  | exists? id => exact ((hreads.call (c := .exists? id) rfl)).rejectsQuietly
  | plan current desired => exact ((hreads.call (c := .plan current desired) rfl)).rejectsQuietly
  | pending desired => exact ((hreads.call (c := .pending desired) rfl)).rejectsQuietly
  | create desired => exact hdrop (h.write "" none desired)
  | update id current desired => exact hdrop (h.write id (some current) desired)
  | delete id options => exact h.delete id options
  | converge desired =>
    refine hdrop (.liftM_bind fun id _ => .bind (hreads.read id none) fun found => ?_)
    have hwrite := h.write id found desired
    cases found <;> exact hwrite

end Operations

end Lifecycle

theorem Call.rejectsQuietly {ctx : Context σ} (h : ctx.server.PlainErrors)
    (hnames : ctx.server.AnswersByName) {call : Call} (hcall : call.isApply = false) :
    (call.run ctx).RejectsQuietly ctx.server := by
  cases call with
  | role c =>
    exact (Lifecycle.rejectsQuietly_roles h).call (Lifecycle.quietReads_roles ctx) c
  | schema c =>
    exact (Lifecycle.rejectsQuietly_schemas h).call (Lifecycle.quietReads_schemas ctx) c
  | extension c =>
    exact (Lifecycle.rejectsQuietly_extensions h hnames).call
      (Lifecycle.quietReads_extensions ctx) c
  | rule c => exact (Lifecycle.rejectsQuietly_rules h).call (Lifecycle.quietReads_rules ctx) c
  | plan d => exact ((d.quietOn_plan ctx).bind fun _ => Run.quietOn_pure _ ()).rejectsQuietly
  | apply d => exact nomatch hcall

/-! ## Contexts that may not be changed -/

/-- After a failed check there is nothing left to do. -/
theorem Run.givesOnly_of_error {P : Command → Prop} {α β : Type} {x : Except Error α} {e : Error}
    {f : α → Run σ β} {server : Server σ} (h : x = .error e) :
    ((liftM x : Run σ α) >>= f).GivesOnly P server := by
  subst h
  exact (Run.quietOn_throw server (.failed e)).givesOnly

theorem Context.givesOnly_of_readOnly {P : Command → Prop} {ctx : Context σ}
    (h : ctx.readOnly = true) : ctx.GivesOnly P := by
  have hrefused : ctx.requireWritable = .error (.config .readOnly) := by
    rw [requireWritable, if_pos h]
  have hwrite : ∀ {δ ο ω : Type} {k : Lifecycle δ ο ω}
      {writing : String → Option ο → δ → Except Error (Writing σ ο)}, k.Writes ctx writing →
      (∀ id found desired, writing id found desired = .error (.config .readOnly)) →
      ∀ id found desired, (k.write ctx id found desired).GivesOnly P ctx.server := by
    intro δ ο ω k writing hwrites hwriting id found desired
    rw [hwrites.write]
    exact Run.givesOnly_of_error (hwriting id found desired)
  exact {
    roles := {
      write := hwrite (Lifecycle.writes_roles ctx) fun _ _ _ => by
        rw [Lifecycle.Role.writing, hrefused]; rfl
      delete _ _ := Run.givesOnly_of_error hrefused }
    schemas := {
      write := hwrite (Lifecycle.writes_schemas ctx) fun _ _ _ => by
        rw [Lifecycle.Schema.writing, hrefused]; rfl
      delete _ _ := Run.givesOnly_of_error hrefused }
    extensions := {
      write := hwrite (Lifecycle.writes_extensions ctx) fun _ _ _ => by
        rw [Lifecycle.Extension.writing, hrefused]; rfl
      delete _ _ := Run.givesOnly_of_error hrefused }
    rules := {
      write := hwrite (Lifecycle.writes_rules ctx) fun _ _ _ => by
        rw [Lifecycle.Rule.writing, hrefused]; rfl
      delete _ _ := Run.givesOnly_of_error hrefused } }

/-! ## Calls in a row -/

/-- Rejections have no effect.

A context that may not be changed gives no commands, whatever is called and in whatever order.
Reading and planning give none in any context.  And on a server whose own errors are about
connections and queries, and which answers look-ups by name with objects of that name, a call for
one object that ends with a validation error, a missing feature or a configuration error has given
no command; what is read again after a change is never refused. -/
theorem rejections_have_no_effect (ctx : Context σ) :
    (ctx.readOnly = true → ∀ (calls : List Call) s log,
      commandsIn (ctx.recorded.perform calls (s, log)).2 = commandsIn log) ∧
    (∀ calls : List Call, (∀ call ∈ calls, call.isReading = true) → ∀ s log,
      commandsIn (ctx.recorded.perform calls (s, log)).2 = commandsIn log) ∧
    (ctx.server.PlainErrors → ctx.server.AnswersByName →
      (∀ call : Call, call.isApply = false → ∀ s log e t log',
        (call.run ctx.recorded).result (s, log) = (.error (.failed e), t, log') →
        e.isRejection = true → commandsIn log' = commandsIn log) ∧
      Lifecycle.roles.Verifies ctx (Lifecycle.Role.writing ctx) ∧
      Lifecycle.schemas.Verifies ctx (fun _ => Lifecycle.Schema.writing ctx) ∧
      Lifecycle.extensions.Verifies ctx (fun _ => Lifecycle.Extension.writing ctx) ∧
      Lifecycle.rules.Verifies ctx fun _ => Lifecycle.Rule.writing ctx) := by
  refine ⟨fun hreadOnly calls s log => ?_, fun calls hcalls s log => ?_, fun hserver hnames => ?_⟩
  · have hnever : ctx.recorded.GivesOnly fun _ => False := Context.givesOnly_of_readOnly hreadOnly
    have hquiet : ∀ call ∈ calls, (call.run ctx.recorded).QuietOn ctx.recorded.server :=
      fun call _ => (Call.givesOnly hnever call).quietOn
    exact (Context.quiet_perform hquiet (s, log)).commandsIn_recorded
  · have hquiet : ∀ call ∈ calls, (call.run ctx.recorded).QuietOn ctx.recorded.server :=
      fun call hcall => Call.quietOn_of_isReading (hcalls call hcall)
    exact (Context.quiet_perform hquiet (s, log)).commandsIn_recorded
  · have hserver' : ctx.recorded.server.PlainErrors := hserver.recorded
    have hnames' : ctx.recorded.server.AnswersByName := Naming.answersByName_recorded hnames
    refine ⟨fun call hcall s log e t log' hrun he => ?_, Lifecycle.verifies_roles hserver,
      Lifecycle.verifies_schemas hserver, Lifecycle.verifies_extensions hserver hnames,
      Lifecycle.verifies_rules hserver⟩
    exact (Call.rejectsQuietly hserver' hnames' hcall _ _ _ hrun he).commandsIn_recorded

/-! ## A role that an old server cannot have -/

/-- The errors of a server in memory are about connections and queries. -/
theorem Memory.plainErrors {κ : Type} (m : Memory κ) : m.server.PlainErrors where
  connect {database s e} h := by
    simp only [server] at h
    split at h
    · cases h
    · exact Except.error.inj h ▸ rfl
  query h := nomatch h

/-- A context of that server if it has no row-level security yet. -/
def oldContext : Context (Store Catalog) :=
  smallHost.context (fun _ => false) ⟨⟨9, 4, 0⟩⟩

/-- A role that should bypass row-level security. -/
def exemptRole : DeclaredRole :=
  { DeclaredRole.named "app" with bypassRowLevelSecurity := some true }

/-- A role that should bypass row-level security is refused by a server that has none, and no
command is given.  None is given either if the context may not be changed. -/
theorem rejections_have_no_effect_old :
    oldContext.server.PlainErrors ∧ oldContext.server.AnswersByName ∧
    (∃ e t log', (Call.run oldContext.recorded (.role (.create exemptRole))).result
        (⟨.empty, none⟩, []) = (.error (.failed e), t, log') ∧
      e.isRejection = true ∧ commandsIn log' = []) ∧
    commandsIn (({ oldContext with readOnly := true } : Context _).recorded.perform
      [.role (.create exemptRole), .apply ⟨[exemptRole], [], [], []⟩] (⟨.empty, none⟩, [])).2 =
        [] := by
  have hserver : oldContext.server.PlainErrors := Memory.plainErrors _
  have hnames : oldContext.server.AnswersByName := smallHost.answersByName _
  have hrun : (Call.run oldContext.recorded (.role (.create exemptRole))).result
      (⟨.empty, none⟩, []) = (.error (.failed (.unsupported
        "row-level security (BYPASSRLS)" "9.4.0")), _) :=
    Run.result_of_failure? (by decide +kernel)
  exact ⟨hserver, hnames, ⟨_, _, _, hrun, rfl,
    ((rejections_have_no_effect oldContext).2.2 hserver hnames).1 _ rfl _ _ _ _ _ hrun rfl⟩,
    (rejections_have_no_effect { oldContext with readOnly := true }).1 rfl _ _ _⟩

end Accord
