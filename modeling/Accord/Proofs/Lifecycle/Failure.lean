import Accord.Proofs.Catalog.Memory
import Accord.Proofs.Lifecycle.Course
import Accord.Proofs.Session.Atomicity

/-!
# What a failure leaves behind

When a creation or an update fails with an error that does not ask for reading the catalog again,
either nothing was committed, or the whole plan was: then it is the reading after the commit that
failed (`Lifecycle.unchanged_or_unverified`).
-/

namespace Accord

variable {σ δ ο ω κ : Type}

/-! ## Servers -/

/-- A server has transactions on all databases, and only commands change what is committed. -/
structure Server.Commits (server : Server σ) (view : σ → Store κ)
    (effect : Option String → Statement → κ → Option κ) : Prop where
  transactional (database : Option String) :
    server.Transactional database view (effect database)
  connect {database : Option String} {s t : σ} {reply : Except Error Unit} :
    server.connect database s = (reply, t) → (view t).committed = (view s).committed
  query {database : Option String} {q : Query} {s t : σ} {reply : Except Error ResultTable} :
    server.query database q s = (reply, t) → (view t).committed = (view s).committed

theorem Server.Commits.quiet {server : Server σ} {view : σ → Store κ}
    {effect : Option String → Statement → κ → Option κ} (h : server.Commits view effect) {s t : σ}
    (hquiet : server.Quiet s t) : (view t).committed = (view s).committed := by
  obtain ⟨events, htrace, hcommands⟩ := hquiet
  induction htrace with
  | nil s => rfl
  | connect hs _ ih => exact (ih hcommands).trans (h.connect hs)
  | query hs _ ih => exact (ih hcommands).trans (h.query hs)
  | execute hs _ ih => exact nomatch hcommands

theorem Server.Commits.recorded {server : Server σ} {view : σ → Store κ}
    {effect : Option String → Statement → κ → Option κ} (h : server.Commits view effect) :
    server.recorded.Commits (fun s => view s.1) effect where
  transactional database := (h.transactional database).recorded
  connect hs := h.connect (Server.recorded_connect hs)
  query hs := h.query (Server.recorded_query hs)

/-! ## Write sections -/

/-- After a transaction, what is committed stays as it is while the object is read again. -/
theorem Writing.committed_of_applied {w : Writing σ ο} {session : Session σ} {view : σ → Store κ}
    {effect : Option String → Statement → κ → Option κ} {plan : Plan} {s t u : σ} {n : Nat}
    {r : Except Halt (Outcome ο)} {given : List Given}
    (hserver : session.server.Commits view effect) (hquiet : w.Quiet session)
    (htrace : session.server.Trace s (eventsOf session.database given) t)
    (ht : Transaction plan given (.ok n)) (hverify : (w.verify session n).result t = (r, u)) :
    effects (effect session.database) plan.ordered (view s).committed =
      some (view u).committed := by
  have hcommitted := (committed_of_transaction (hserver.transactional _) htrace ht).1 n rfl
  have hsame := hserver.quiet (hquiet.verify n t)
  rw [hverify] at hsame
  rw [hcommitted, ← hsame]

/-- When a section fails with an error that does not ask for reading again, either nothing was
committed, or the whole plan was and the object could not be verified. -/
theorem Writing.Course.committed_of_error {w : Writing σ ο} {session : Session σ}
    {view : σ → Store κ} {effect : Option String → Statement → κ → Option κ} {plan : Plan} {s t : σ}
    {e : Error} {given : List Given} (hserver : session.server.Commits view effect)
    (hquiet : w.Quiet session) (h : w.Course session plan s (.error (.failed e)) t given)
    (he : e.needsReread = false) :
    (.commit, .ok ()) ∉ given ∧ (view t).committed = (view s).committed ∨
    plan ≠ [] ∧ given = plan.carriedOut ∧
      effects (effect session.database) plan.ordered (view s).committed =
        some (view t).committed ∧
      ∃ n u, (w.verify session n).result u = (.error (.failed e), t) := by
  cases h with
  | failed htrace ht =>
    have hcommitted := committed_of_transaction (hserver.transactional _) htrace ht
    refine .inl ⟨ht.commit_not_mem_of_error, hcommitted.2 e rfl ?_⟩
    rintro detail rfl
    exact nomatch he
  | @applied given n u t r htrace ht hverify =>
    have hcommitted := committed_of_applied hserver hquiet htrace ht hverify
    by_cases hplan : plan = []
    · subst hplan
      rw [ht.given_of_ok]
      exact .inl ⟨List.not_mem_nil, (Option.some.inj hcommitted).symm⟩
    · exact .inr ⟨hplan, ht.given_of_ok, hcommitted, n, u, hverify⟩

/-! ## Creations and updates -/

/-- The creations and updates of a kind that fail with an error that does not ask for reading again:
if the record shows no commit that succeeded, the catalog is as it was; otherwise the whole plan was
committed, and the object could not be verified after that. -/
def Lifecycle.UnchangedOrUnverified (k : Lifecycle δ ο ω) (ctx : Context σ)
    (writing : String → Option ο → δ → Except Error (Writing (σ × List Event) ο))
    (view : σ → Store κ) (effect : Option String → Statement → κ → Option κ) : Prop :=
  ∀ id found desired s log e t log',
    (k.write ctx.recorded id found desired).result (s, log) = (.error (.failed e), t, log') →
    e.needsReread = false →
    ∃ given, commandsIn log' = commandsIn log ++ given ∧
      ((.commit, .ok ()) ∉ given ∧ (view t).committed = (view s).committed ∨
        ∃ w, ∃ plan : Plan, ∃ n u, writing id found desired = .ok w ∧ plan ≠ [] ∧
          given = plan.carriedOut ∧
          effects (effect (ctx.opened w.database).database) plan.ordered (view s).committed =
            some (view t).committed ∧
          (w.verify (ctx.recorded.opened w.database) n).result u = (.error (.failed e), t, log'))

namespace Lifecycle

theorem Writes.unchangedOrUnverified {k : Lifecycle δ ο ω} {ctx : Context σ}
    {writing : String → Option ο → δ → Except Error (Writing (σ × List Event) ο)}
    (h : k.Writes ctx.recorded writing) {view : σ → Store κ}
    {effect : Option String → Statement → κ → Option κ}
    (hserver : ctx.server.Commits view effect) :
    k.UnchangedOrUnverified ctx writing view effect := by
  intro id found desired s log e t log' hrun he
  rw [h.write] at hrun
  cases hw : writing id found desired with
  | error e' =>
    rw [hw] at hrun
    obtain ⟨-, hleft⟩ := Prod.mk.inj hrun
    obtain ⟨rfl, rfl⟩ := Prod.mk.inj hleft
    exact ⟨[], (List.append_nil _).symm, .inl ⟨List.not_mem_nil, rfl⟩⟩
  | ok w =>
    rw [hw] at hrun
    have hrun : (w.run ctx.recorded).result (s, log) = (.error (.failed e), t, log') := hrun
    have hquiet := h.quiet hw
    have hopening := hquiet.opening (s, log)
    rcases hresult : (w.opening ctx.recorded).result (s, log) with ⟨halt | plan, u⟩
    · rw [hresult] at hopening
      rw [Writing.run_of_opening_error hresult] at hrun
      obtain ⟨-, rfl⟩ := Prod.mk.inj hrun
      refine ⟨[], ?_, .inl ⟨List.not_mem_nil, hserver.recorded.quiet hopening⟩⟩
      rw [List.append_nil]
      exact hopening.commandsIn_recorded
    · rw [hresult] at hopening
      have hview := hserver.recorded.quiet hopening
      obtain ⟨given, hcourse⟩ := Writing.course_of_opening hresult
      rw [hrun] at hcourse
      refine ⟨given, ?_, ?_⟩
      · rw [hcourse.commandsIn_recorded hquiet, hopening.commandsIn_recorded]
      rcases hcourse.committed_of_error hserver.recorded hquiet he with
        ⟨hcommit, hsame⟩ | ⟨hplan, hgiven, heffects, n, v, hverify⟩
      · exact .inl ⟨hcommit, hsame.trans hview⟩
      · rw [hview] at heffects
        exact .inr ⟨w, plan, n, v, rfl, hplan, hgiven, heffects, hverify⟩

/-- For every kind of object: when a creation or an update fails with an error that does not ask for
reading again, the catalog is as it was unless it is the reading after the commit that failed. -/
theorem unchanged_or_unverified (ctx : Context σ) {view : σ → Store κ}
    {effect : Option String → Statement → κ → Option κ}
    (hserver : ctx.server.Commits view effect) :
    roles.UnchangedOrUnverified ctx (Role.writing ctx.recorded) view effect ∧
    schemas.UnchangedOrUnverified ctx (fun _ => Schema.writing ctx.recorded) view effect ∧
    extensions.UnchangedOrUnverified ctx (fun _ => Extension.writing ctx.recorded) view effect ∧
    rules.UnchangedOrUnverified ctx (fun _ => Rule.writing ctx.recorded) view effect :=
  ⟨(writes_roles ctx.recorded).unchangedOrUnverified hserver,
    (writes_schemas ctx.recorded).unchangedOrUnverified hserver,
    (writes_extensions ctx.recorded).unchangedOrUnverified hserver,
    (writes_rules ctx.recorded).unchangedOrUnverified hserver⟩

end Lifecycle

/-! ## A role that is created without saying so -/

/-- A server that carries out commands and answers no question. -/
def muteContext : Context (Store Catalog) :=
  { smallContext with
    server := { smallContext.server with query := fun _ _ s => (.error Memory.refusal, s) } }

theorem muteContext_commits : muteContext.server.Commits id
    fun database => Statement.effect smallHost (smallHost.databaseOf database) where
  transactional database := by
    have h := (smallHost.faithful (fun _ => false) ⟨⟨16, 0, 0⟩⟩).transactional database
    exact ⟨h.start, h.run, h.commit, h.rollback, h.failed⟩
  connect hs := (smallHost.faithful (fun _ => false) ⟨⟨16, 0, 0⟩⟩).connect hs
  query hs := by
    rw [← (Prod.mk.inj hs).2]

/-- A role is created for good, but it cannot be read again, and the error that says so does not ask
for reading the catalog again. -/
theorem created_but_unverified : Catalog.empty.roles "app" = none ∧ ∃ e t,
    (Lifecycle.roles.create muteContext (.named "app")).result ⟨.empty, none⟩ =
      (.error (.failed e), t) ∧
    e.needsReread = false ∧ (t.committed.roles "app").isSome = true := by
  refine ⟨rfl, Memory.refusal, _, Run.result_of_failure? ?_, rfl, ?_⟩ <;> decide +kernel

/-- The same creation as a case of the general result: the whole plan was committed. -/
theorem unchanged_or_unverified_mute :
    (muteContext.server.Commits id
      fun database => Statement.effect smallHost (smallHost.databaseOf database)) ∧
    ∃ e t log', ∃ plan : Plan,
      (Lifecycle.roles.create muteContext.recorded (.named "app")).result (⟨.empty, none⟩, []) =
        (.error (.failed e), t, log') ∧
      e.needsReread = false ∧ plan ≠ [] ∧ commandsIn log' = plan.carriedOut ∧
      effects (Statement.effect smallHost "main") plan.ordered .empty = some t.committed := by
  have hrun : (Lifecycle.roles.create muteContext.recorded (.named "app")).result
      (⟨.empty, none⟩, []) = (.error (.failed Memory.refusal), _) :=
    Run.result_of_failure? (by decide +kernel)
  have hcreated : (((Lifecycle.roles.create muteContext.recorded (.named "app")).result
      (⟨.empty, none⟩, [])).2.1.committed.roles "app").isSome = true := by
    decide +kernel
  obtain ⟨given, hgiven, ⟨-, hsame⟩ | ⟨w, plan, n, u, hw, hplan, rfl, heffects, -⟩⟩ :=
    (Lifecycle.unchanged_or_unverified muteContext muteContext_commits).1 "app" none (.named "app")
      _ _ _ _ _ hrun rfl
  · have hnone := congrArg (fun k : Catalog => (k.roles "app").isSome) hsame
    have hnever : true = false := hcreated.symm.trans hnone
    exact nomatch hnever
  · have hdatabase : w.database = "main" := by
      simp only [Lifecycle.Role.writing, Except.bind_ok] at hw
      obtain ⟨-, -, -, -, spec, -, plan, -, hw⟩ := hw
      rw [← Except.ok.inj hw]
      rfl
    rw [hdatabase] at heffects
    exact ⟨muteContext_commits, _, _, _, plan, hrun, rfl, hplan, hgiven, heffects⟩

end Accord
