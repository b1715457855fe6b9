import Accord.Proofs.Session.Asking
import Accord.Proofs.Session.Transaction

/-!
# Which commands an operation gives

`Run.GivesOnly P` says of an operation that all commands it gives are of some sort, however it ends.
There is one rule for each way to build an operation; applying a plan gives the statements of the
plan and opens and closes a transaction.
-/

namespace Accord

variable {σ α β : Type} {P : Command → Prop}

/-- All commands that the operation gives are of some sort, however it ends. -/
def Run.GivesOnly (P : Command → Prop) (m : Run σ α) (server : Server σ) : Prop :=
  ∀ s, ∃ events, server.Trace s events (m.result s).2 ∧ ∀ g ∈ commandsIn events, P g.1

namespace Run

variable {server : Server σ}

theorem QuietOn.givesOnly {m : Run σ α} (h : m.QuietOn server) : m.GivesOnly P server := by
  intro s
  obtain ⟨events, htrace, hquiet⟩ := h s
  refine ⟨events, htrace, ?_⟩
  rw [hquiet]
  exact fun g hg => absurd hg List.not_mem_nil

namespace GivesOnly

theorem quietOn {m : Run σ α} (h : m.GivesOnly (fun _ => False) server) : m.QuietOn server := by
  intro s
  obtain ⟨events, htrace, hnever⟩ := h s
  exact ⟨events, htrace, List.eq_nil_iff_forall_not_mem.2 hnever⟩

/-- The commands that are new in a record. -/
theorem of_recorded {m : Run (σ × List Event) α} (h : m.GivesOnly P server.recorded)
    {s t : σ × List Event} {r : Except Halt α} (hrun : m.result s = (r, t)) :
    ∃ events, t.2 = s.2 ++ events ∧ ∀ g ∈ commandsIn events, P g.1 := by
  obtain ⟨events, htrace, hgives⟩ := h s
  rw [hrun] at htrace
  exact ⟨events, htrace.of_recorded.2, hgives⟩

theorem pure (a : α) : (Pure.pure a : Run σ α).GivesOnly P server :=
  (quietOn_pure server a).givesOnly

/-- The second step is judged for the results of the first one only. -/
theorem bind_of {m : Run σ α} {f : α → Run σ β} (h : m.GivesOnly P server)
    (hf : ∀ s a t, m.result s = (.ok a, t) → (f a).GivesOnly P server) :
    (m >>= f).GivesOnly P server := by
  intro s
  obtain ⟨events, htrace, hgives⟩ := h s
  rcases hm : m.result s with ⟨halt | a, t⟩
  · rw [hm] at htrace
    rw [result_bind_of_error hm]
    exact ⟨events, htrace, hgives⟩
  · rw [hm] at htrace
    rw [result_bind_of_ok hm]
    obtain ⟨events', htrace', hgives'⟩ := hf s a t hm t
    refine ⟨events ++ events', htrace.trans htrace', fun g hg => ?_⟩
    rw [commandsIn_append, List.mem_append] at hg
    exact hg.elim (hgives g) (hgives' g)

theorem bind {m : Run σ α} {f : α → Run σ β} (h : m.GivesOnly P server)
    (hf : ∀ a, (f a).GivesOnly P server) : (m >>= f).GivesOnly P server :=
  h.bind_of fun _ a _ _ => hf a

/-- A check in front of an operation gives no command. -/
theorem liftM_bind {x : Except Error α} {f : α → Run σ β}
    (hf : ∀ a, x = .ok a → (f a).GivesOnly P server) :
    ((liftM x : Run σ α) >>= f).GivesOnly P server :=
  (quietOn_ofExcept server x).givesOnly.bind_of fun _ a _ h => hf a (result_ofExcept.1 h).1

end GivesOnly

end Run

/-- Applying a plan gives the statements of the plan, and opens and closes a transaction. -/
theorem Session.givesOnly_apply {session : Session σ} {plan : Plan}
    (hplan : ∀ c ∈ plan, P (.run c)) (hcontrol : ∀ c, (∀ s, c ≠ .run s) → P c) :
    (session.apply plan).GivesOnly P session.server := by
  intro s
  obtain ⟨given, r, t, hresult, htrace, ht⟩ := session.apply_transaction plan s
  refine ⟨eventsOf session.database given, hresult ▸ htrace, ?_⟩
  rw [commandsIn_eventsOf]
  have hordered : ∀ c ∈ plan.ordered, P (.run c) := fun c hc => hplan c (Plan.mem_ordered.1 hc)
  have hsucceeded : ∀ l : List Statement, (∀ c ∈ l, P (.run c)) → ∀ g ∈ succeeded l, P g.1 := by
    intro l hl g hg
    obtain ⟨c, hc, rfl⟩ := List.mem_map.1 hg
    exact hl c hc
  have hstart : P .start := hcontrol _ fun _ => nofun
  have hcommit : P .commit := hcontrol _ fun _ => nofun
  have hrollback : P .rollback := hcontrol _ fun _ => nofun
  cases ht with
  | empty => exact fun g hg => absurd hg List.not_mem_nil
  | notOpened e => simpa using hstart
  | broken done c rest e reply hdone =>
    rw [hdone] at hordered
    simp only [List.forall_mem_cons, List.forall_mem_append] at hordered ⊢
    exact ⟨hstart, hsucceeded done hordered.1, hordered.2.1, hrollback, by simp⟩
  | notCommitted e =>
    simp only [List.forall_mem_cons, List.forall_mem_append]
    exact ⟨hstart, hsucceeded _ hordered, hcommit, by simp⟩
  | committed =>
    simp only [List.forall_mem_cons, List.forall_mem_append]
    exact ⟨hstart, hsucceeded _ hordered, hcommit, by simp⟩

end Accord
