import Accord.Proofs.Session.Store
import Accord.Proofs.Session.Transaction

/-!
# All or nothing

On a server with transactions a plan takes effect as a whole or not at all
(`committed_of_transaction`), and `AllOrNothing` says how the commands that are given and the result
go together.
-/

namespace Accord

variable {σ κ : Type}

/-! ## What is committed -/

section Committed

variable {server : Server σ} {database : Option String} {view : σ → Store κ}
  {effect : Statement → κ → Option κ} {s t : σ}

/-- A server with transactions that keeps a record still has transactions. -/
theorem Server.Transactional.recorded (h : server.Transactional database view effect) :
    server.recorded.Transactional database (fun s => view s.1) effect where
  start hs := h.start (Server.recorded_execute hs)
  run hs := h.run (Server.recorded_execute hs)
  commit hs := h.commit (Server.recorded_execute hs)
  rollback hs := h.rollback (Server.recorded_execute hs)
  failed hc hs := h.failed hc (Server.recorded_execute hs)

theorem Server.Trace.execute_inv {c : Command} {reply : Except Error Unit} {given : List Given}
    (h : server.Trace s (eventsOf database ((c, reply) :: given)) t) :
    ∃ u, server.execute database c s = (reply, u) ∧
      server.Trace u (eventsOf database given) t := by
  cases h with
  | execute hs ht => exact ⟨_, hs, ht⟩

/-- Statements that succeed work on the open transaction one after the other. -/
theorem working_of_succeeded (hserver : server.Transactional database view effect)
    {l : List Statement} {given : List Given} {k : κ}
    (h : server.Trace s (eventsOf database (succeeded l ++ given)) t)
    (hk : (view s).working = some k) :
    ∃ k' u, effects effect l k = some k' ∧ view u = ⟨(view s).committed, some k'⟩ ∧
      server.Trace u (eventsOf database given) t := by
  induction l generalizing s k with
  | nil =>
    refine ⟨k, s, rfl, ?_, h⟩
    rw [← hk]
  | cons c l ih =>
    obtain ⟨u, hc, hu⟩ := h.execute_inv
    obtain ⟨k₁, hk₁, hview⟩ := hserver.run hc hk
    obtain ⟨k', v, hk', hv, hrest⟩ := ih hu (by rw [hview])
    refine ⟨k', v, ?_, ?_, hrest⟩
    · unfold effects
      rw [List.foldlM_cons, hk₁]
      exact hk'
    · rw [hv, hview]

/-- A plan that is applied is committed as a whole; one that fails before the commit changes
nothing. -/
theorem committed_of_transaction (hserver : server.Transactional database view effect)
    {plan : Plan} {given : List Given} {r : Except Halt Nat}
    (h : server.Trace s (eventsOf database given) t) (ht : Transaction plan given r) :
    (∀ n, r = .ok n → effects effect plan.ordered (view s).committed = some (view t).committed) ∧
    (∀ e, r = .error (.failed e) → (∀ detail, e ≠ .commit detail) →
      (view t).committed = (view s).committed) := by
  cases ht with
  | empty hplan =>
    cases h
    subst hplan
    exact ⟨fun _ _ => rfl, fun _ _ _ => rfl⟩
  | notOpened e hplan =>
    obtain ⟨u, hstart, hnil⟩ := h.execute_inv
    cases hnil
    exact ⟨fun n hn => by simp at hn, fun _ _ _ => hserver.failed (by decide) hstart⟩
  | broken done c rest e reply hordered =>
    obtain ⟨u, hstart, hu⟩ := h.execute_inv
    have hview := hserver.start hstart
    obtain ⟨k, v, -, hv, hrest⟩ := working_of_succeeded hserver hu (by rw [hview])
    obtain ⟨w, hfail, hw⟩ := hrest.execute_inv
    obtain ⟨x, hback, hnil⟩ := hw.execute_inv
    cases hnil
    refine ⟨fun n hn => by simp at hn, fun _ _ _ => ?_⟩
    rw [hserver.rollback hback, hserver.failed (by simp) hfail, hv, hview]
  | notCommitted e hplan =>
    refine ⟨fun n hn => by simp at hn, fun e' he hne => ?_⟩
    simp only [Except.error.injEq, Halt.failed.injEq] at he
    exact absurd he.symm (hne _)
  | committed hplan =>
    obtain ⟨u, hstart, hu⟩ := h.execute_inv
    have hview := hserver.start hstart
    obtain ⟨k, v, hk, hv, hrest⟩ := working_of_succeeded hserver hu (by rw [hview])
    obtain ⟨w, hcommit, hnil⟩ := hrest.execute_inv
    cases hnil
    refine ⟨fun _ _ => ?_, fun e he => by simp at he⟩
    rw [hserver.commit hcommit (by rw [hv]), ← hk]

/-- After a plan that was applied no transaction is open. -/
theorem idle_of_transaction (hserver : server.Transactional database view effect) {plan : Plan}
    {given : List Given} {n : Nat} (h : server.Trace s (eventsOf database given) t)
    (ht : Transaction plan given (.ok n)) (hs : (view s).working = none) :
    (view t).working = none := by
  cases ht with
  | empty hplan =>
    cases h
    exact hs
  | committed hplan =>
    obtain ⟨u, hstart, hu⟩ := h.execute_inv
    have hview := hserver.start hstart
    obtain ⟨k, v, -, hv, hrest⟩ := working_of_succeeded hserver hu (by rw [hview])
    obtain ⟨w, hcommit, hnil⟩ := hrest.execute_inv
    cases hnil
    rw [hserver.commit hcommit (by rw [hv])]

end Committed

/-! ## Commands and result -/

/-- How the commands that are given for a plan and the result go together. -/
structure AllOrNothing (plan : Plan) (given : List Given) (r : Except Halt Nat) : Prop where
  /-- Nothing is given for an empty plan. -/
  empty : plan = [] → given = []
  /-- For any other plan a transaction is opened, and a prefix of the ordered statements is run
  before it is closed, if it is closed at all. -/
  run : plan ≠ [] → ∃ l close, l <+: plan.ordered ∧
    given.map Prod.fst = .start :: (l.map Command.run ++ close) ∧
    (close = [] ∨ close = [.rollback] ∨ close = [.commit])
  /-- It is rolled back if and only if a statement fails. -/
  rollback : .rollback ∈ given.map Prod.fst ↔ ∃ c e, (Command.run c, Except.error e) ∈ given
  /-- It is committed if and only if all statements succeed. -/
  commit : .commit ∈ given.map Prod.fst ↔ (.start, .ok ()) :: succeeded plan.ordered <+: given
  /-- It is neither if and only if there is no plan, or the transaction is not opened. -/
  neither : .rollback ∉ given.map Prod.fst ∧ .commit ∉ given.map Prod.fst ↔
    plan = [] ∨ ∃ e, (Command.start, Except.error e) ∈ given
  /-- The result is the length of the plan if there is none to apply or its commit succeeds. -/
  ok (n : Nat) : r = .ok n ↔ (plan = [] ∨ (.commit, .ok ()) ∈ given) ∧ n = plan.length
  /-- A statement that fails is named in the error. -/
  statement (c : Statement) (e : Error) : (Command.run c, Except.error e) ∈ given →
    r = .error (.failed (.statement c.operation e.detail))
  /-- The error is that of a commit if and only if the commit fails. -/
  commitError : (∃ detail, r = .error (.failed (.commit detail))) ↔
    ∃ e, (Command.commit, Except.error e) ∈ given

theorem map_fst_succeeded (l : List Statement) :
    (succeeded l).map Prod.fst = l.map Command.run := by
  simp [succeeded]

theorem mem_succeeded {l : List Statement} {g : Given} :
    g ∈ succeeded l ↔ ∃ c ∈ l, g = (.run c, .ok ()) := by
  simp [succeeded, eq_comm]

/-- A statement that fails stands where one that succeeds would have to. -/
theorem not_succeeded_prefix {done rest : List Statement} {c : Statement} {e : Error}
    {given : List Given} :
    ¬ succeeded (done ++ c :: rest) <+: succeeded done ++ (.run c, .error e) :: given := by
  unfold succeeded
  rw [List.map_append, List.prefix_append_right_inj, List.map_cons, List.cons_prefix_cons]
  simp

theorem Transaction.allOrNothing {plan : Plan} {given : List Given} {r : Except Halt Nat}
    (h : Transaction plan given r) : AllOrNothing plan given r := by
  cases h with
  | empty hplan =>
    constructor
    case run => exact fun h => absurd hplan h
    case ok => simp [hplan, eq_comm]
    all_goals simp [hplan]
  | notOpened e hplan =>
    constructor
    case run => exact fun _ => ⟨[], [], List.nil_prefix, rfl, .inl rfl⟩
    all_goals simp [hplan]
  | broken done c rest e reply hordered =>
    have hplan : plan ≠ [] := by
      rintro rfl
      rw [Plan.ordered_eq_nil.2 rfl] at hordered
      simp at hordered
    constructor
    case run =>
      refine fun _ => ⟨done ++ [c], [.rollback], ⟨rest, by simp [hordered]⟩, ?_, .inr (.inl rfl)⟩
      simp [map_fst_succeeded]
    case commit =>
      rw [hordered, List.cons_prefix_cons]
      simp [map_fst_succeeded, not_succeeded_prefix]
    all_goals simp [hplan, map_fst_succeeded, mem_succeeded]
  | notCommitted e hplan =>
    constructor
    case run => exact fun _ => ⟨plan.ordered, [.commit], List.prefix_rfl,
      by simp [map_fst_succeeded], .inr (.inr rfl)⟩
    case commit => simp [map_fst_succeeded]
    all_goals simp [hplan, map_fst_succeeded, mem_succeeded]
  | committed hplan =>
    constructor
    case run => exact fun _ => ⟨plan.ordered, [.commit], List.prefix_rfl,
      by simp [map_fst_succeeded], .inr (.inr rfl)⟩
    case commit => simp [map_fst_succeeded]
    case ok => simp [hplan, eq_comm]
    all_goals simp [hplan, map_fst_succeeded, mem_succeeded]

/-- Applying a plan is all or nothing, wherever the server fails. -/
theorem apply_all_or_nothing (server : Server σ) (database : Option String) (plan : Plan) (s : σ)
    (log : List Event) :
    ∃ given r t,
      (Session.apply ⟨server.recorded, database⟩ plan).result (s, log) =
        (r, t, log ++ eventsOf database given) ∧
      plan.ordered.Perm plan ∧ Plan.Ascends plan.ordered ∧
      Transaction plan given r ∧ AllOrNothing plan given r ∧
      ∀ (κ : Type) (view : σ → Store κ) (effect : Statement → κ → Option κ),
        server.Transactional database view effect →
        (∀ n, r = .ok n →
          effects effect plan.ordered (view s).committed = some (view t).committed) ∧
        (∀ e, r = .error (.failed e) → (∀ detail, e ≠ .commit detail) →
          (view t).committed = (view s).committed) := by
  obtain ⟨given, r, ⟨t, log'⟩, hr, htrace, ht⟩ :=
    Session.apply_transaction ⟨server.recorded, database⟩ plan (s, log)
  obtain ⟨htrace, hlog⟩ := htrace.of_recorded
  obtain rfl : log' = log ++ eventsOf database given := hlog
  exact ⟨given, r, t, hr, plan.ordered_perm, plan.ascends_ordered, ht, ht.allOrNothing,
    fun _ _ _ hserver => committed_of_transaction hserver htrace ht⟩

/-- A server in memory that keeps the statements it has run and refuses to drop a role and to roll
back. -/
def stubbornServer : Memory (List Statement) where
  opens _ := true
  effect _ c l := some (l ++ [c])
  answer _ _ _ := .none
  refuses c := c = .rollback ∨ c = .run (.dropRole "a")

/-- When both a statement and the rollback fail, nothing is committed. -/
theorem apply_all_or_nothing_stubborn :
    stubbornServer.server.Transactional none id (stubbornServer.effect none) ∧
    ∃ given r t,
      (Session.apply ⟨stubbornServer.server.recorded, none⟩
        [.dropRole "a", .dropOwned "a"]).result (⟨[], none⟩, []) =
        (r, t, eventsOf none given) ∧
      given.map Prod.fst =
        [.start, .run (.dropOwned "a"), .run (.dropRole "a"), .rollback] ∧
      r = .error (.failed (.statement "dropping role \"a\"" "refused")) ∧
      t.committed = [] := by
  have hserver := Memory.transactional stubbornServer none
  obtain ⟨given, r, t, hr, -, -, -, hall, hstore⟩ := apply_all_or_nothing stubbornServer.server none
    [.dropRole "a", .dropOwned "a"] ⟨[], none⟩ []
  have hrun : (Session.apply ⟨stubbornServer.server.recorded, none⟩
      [.dropRole "a", .dropOwned "a"]).result (⟨[], none⟩, []) =
      (.error (.failed (.statement "dropping role \"a\"" "refused")),
        ⟨[], some [.dropOwned "a"]⟩, eventsOf none [(.start, .ok ()),
          (.run (.dropOwned "a"), .ok ()), (.run (.dropRole "a"), .error Memory.refusal),
          (.rollback, .error Memory.refusal)]) := by
    rfl
  have hgiven := congrArg (fun x => commandsIn x.2.2) (hrun.symm.trans hr)
  simp only [List.nil_append, commandsIn_eventsOf] at hgiven
  subst hgiven
  have hr' := congrArg Prod.fst (hrun.symm.trans hr)
  exact ⟨hserver, _, r, t, hr, rfl, hr'.symm,
    (hstore _ id _ hserver).2 _ hr'.symm (by simp)⟩

end Accord
