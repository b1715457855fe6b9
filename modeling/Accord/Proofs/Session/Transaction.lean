import Accord.Proofs.Session.Trace
import Accord.Proofs.Statement.Order

/-!
# Applied plans as transactions

`Transaction plan given r` lists all ways in which a plan can be applied: which commands are given,
how the server replies to each of them, and what the application comes to.  Whatever the server
does, an application goes in one of these ways (`apply_transaction`).
-/

namespace Accord

variable {σ κ : Type}

/-- A command and the reply to it. -/
abbrev Given := Command × Except Error Unit

/-- The commands of statements that succeed. -/
def succeeded (l : List Statement) : List Given :=
  l.map fun c => (.run c, .ok ())

/-- The ways to apply a plan. -/
inductive Transaction (plan : Plan) : List Given → Except Halt Nat → Prop where
  | empty : plan = [] → Transaction plan [] (.ok 0)
  | notOpened (e : Error) : plan ≠ [] →
      Transaction plan [(.start, .error e)]
        (.error (.failed (.statement "opening transaction" e.detail)))
  | broken (done : List Statement) (c : Statement) (rest : List Statement) (e : Error)
      (reply : Except Error Unit) : plan.ordered = done ++ c :: rest →
      Transaction plan
        ((.start, .ok ()) :: (succeeded done ++ [(.run c, .error e), (.rollback, reply)]))
        (.error (.failed (.statement c.operation e.detail)))
  | notCommitted (e : Error) : plan ≠ [] →
      Transaction plan ((.start, .ok ()) :: (succeeded plan.ordered ++ [(.commit, .error e)]))
        (.error (.failed (.commit e.detail)))
  | committed : plan ≠ [] →
      Transaction plan ((.start, .ok ()) :: (succeeded plan.ordered ++ [(.commit, .ok ())]))
        (.ok plan.length)

/-- What is given for a plan when nothing fails. -/
def Plan.carriedOut (plan : Plan) : List Given :=
  if plan.isEmpty then []
  else (.start, .ok ()) :: (succeeded plan.ordered ++ [(.commit, .ok ())])

theorem Plan.carriedOut_of_ne {plan : Plan} (h : plan ≠ []) :
    plan.carriedOut = (.start, .ok ()) :: (succeeded plan.ordered ++ [(.commit, .ok ())]) := by
  unfold carriedOut
  rw [if_neg (mt List.isEmpty_iff.1 h)]

theorem Plan.carriedOut_eq_nil {plan : Plan} : plan.carriedOut = [] ↔ plan = [] := by
  unfold carriedOut
  cases plan <;> simp

namespace Transaction

variable {plan : Plan} {given : List Given} {r : Except Halt Nat}

theorem given_of_ok {n : Nat} (h : Transaction plan given (.ok n)) : given = plan.carriedOut := by
  cases h with
  | empty hplan =>
    subst hplan
    rfl
  | committed hplan => exact (Plan.carriedOut_of_ne hplan).symm

/-- If nothing fails, the application succeeds. -/
theorem ok_of_all_ok (h : Transaction plan given r) (hok : ∀ g ∈ given, g.2 = .ok ()) :
    r = .ok plan.length := by
  cases h with
  | empty hplan =>
    subst hplan
    rfl
  | notOpened e hplan => exact nomatch hok (.start, .error e) (by simp)
  | broken done c rest e reply hordered => exact nomatch hok (.run c, .error e) (by simp)
  | notCommitted e hplan => exact nomatch hok (.commit, .error e) (by simp)
  | committed hplan => rfl

/-- If nothing fails, the plan is carried out. -/
theorem given_of_all_ok (h : Transaction plan given r) (hok : ∀ g ∈ given, g.2 = .ok ()) :
    given = plan.carriedOut :=
  given_of_ok (ok_of_all_ok h hok ▸ h)

/-- An application that fails has not committed anything for certain. -/
theorem commit_not_mem_of_error {h : Halt} (ht : Transaction plan given (.error h)) :
    (.commit, .ok ()) ∉ given := by
  cases ht <;> simp [succeeded]

end Transaction

/-! ## What is given when a plan is applied -/

namespace Session

theorem trace_execute (session : Session σ) (c : Command) (s : σ) (given : List Given) (t : σ)
    (h : session.server.Trace (session.server.execute session.database c s).2
      (eventsOf session.database given) t) :
    session.server.Trace s
      (eventsOf session.database
        ((c, (session.server.execute session.database c s).1) :: given)) t :=
  .execute rfl h

/-- Statements succeed one by one, or they are given up to the first one that fails. -/
theorem runAll_trace (session : Session σ) (l : List Statement) (s : σ) :
    (∃ t, (session.runAll l).result s = (.ok (), t) ∧
      session.server.Trace s (eventsOf session.database (succeeded l)) t) ∨
    ∃ done c rest e reply t, l = done ++ c :: rest ∧
      (session.runAll l).result s =
        (.error (.failed (.statement c.operation e.detail)), t) ∧
      session.server.Trace s (eventsOf session.database
        (succeeded done ++ [(.run c, .error e), (.rollback, reply)])) t := by
  induction l generalizing s with
  | nil => exact .inl ⟨s, rfl, .nil s⟩
  | cons c l ih =>
    unfold runAll
    rw [Run.result_bind_of_ok (result_attempt session (.run c) s)]
    have hrun := trace_execute session (.run c) s
    cases hreply : (session.server.execute session.database (.run c) s).1 with
    | ok u =>
      rw [hreply] at hrun
      rcases ih (session.server.execute session.database (.run c) s).2 with
        ⟨t, hr, ht⟩ | ⟨done, d, rest, e, reply, t, rfl, hr, ht⟩
      · exact .inl ⟨t, hr, hrun _ _ ht⟩
      · exact .inr ⟨c :: done, d, rest, e, reply, t, rfl, hr, hrun _ _ ht⟩
    | error e =>
      rw [hreply] at hrun
      refine .inr ⟨[], c, l, e, _, _, rfl, ?_,
        hrun _ _ (trace_execute session .rollback _ [] _ (.nil _))⟩
      exact Run.result_bind_of_ok (result_attempt session .rollback _)

/-- Whatever the server does, a plan is applied in one of the ways of a transaction. -/
theorem apply_transaction (session : Session σ) (plan : Plan) (s : σ) :
    ∃ given r t, (session.apply plan).result s = (r, t) ∧
      session.server.Trace s (eventsOf session.database given) t ∧ Transaction plan given r := by
  unfold apply
  by_cases hplan : plan = []
  · refine ⟨[], .ok 0, s, ?_, .nil s, .empty hplan⟩
    rw [if_pos (List.isEmpty_iff.2 hplan), Run.result_pure]
  rw [if_neg (mt List.isEmpty_iff.1 hplan),
    Run.result_bind_of_ok (result_attempt session .start s)]
  have hstart := trace_execute session .start s
  cases hreply : (session.server.execute session.database .start s).1 with
  | error e =>
    rw [hreply] at hstart
    exact ⟨_, _, _, rfl, hstart _ _ (.nil _), .notOpened e hplan⟩
  | ok u =>
    rw [hreply] at hstart
    generalize (session.server.execute session.database .start s).2 = s₁ at hstart
    rcases runAll_trace session plan.ordered s₁ with
      ⟨t, hr, ht⟩ | ⟨done, c, rest, e, reply, t, hdone, hr, ht⟩
    · have hcommit := ht.trans (trace_execute session .commit t [] _ (.nil _))
      dsimp only
      rw [Run.result_bind_of_ok hr, Run.result_bind_of_ok (result_attempt session .commit t)]
      unfold eventsOf at hcommit
      rw [← List.map_append] at hcommit
      cases hlast : (session.server.execute session.database .commit t).1 with
      | ok u =>
        rw [hlast] at hcommit
        exact ⟨_, _, _, rfl, hstart _ _ hcommit, .committed hplan⟩
      | error e =>
        rw [hlast] at hcommit
        exact ⟨_, _, _, rfl, hstart _ _ hcommit, .notCommitted e hplan⟩
    · refine ⟨_, _, t, ?_, hstart _ _ ht, .broken done c rest e reply hdone⟩
      dsimp only
      rw [Run.result_bind_of_error hr]

end Session

end Accord
