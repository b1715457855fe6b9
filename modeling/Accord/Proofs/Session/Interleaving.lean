import Accord.Proofs.Session.Run

/-!
# Interleaved operations

Operations that share a lock take turns.  A `Process` is an operation in sections; each section is
run at once, and between two of them others may have their turn.  A `System` is a server with some
clients that each run a process, and a schedule says whose turn it is, step by step.

`System.run_after` finds, for a client whose process has come to a result, the step at which its
next section was run.  Applied once for each section, it takes the process apart.
-/

namespace Accord

variable {ι σ α β : Type}

/-- An operation in sections, or what it has come to. -/
inductive Process (σ α : Type) where
  | done (r : Except Halt α)
  /-- A section: what is left after it, and the state of the server. -/
  | next (rest : σ → Process σ α) (state : σ → σ)

namespace Process

/-- A section, and what comes after it unless it halts. -/
def after (m : Run σ β) (rest : β → Process σ α) : Process σ α :=
  .next
    (fun s =>
      match (m.result s).1 with
      | .ok b => rest b
      | .error h => .done (.error h))
    fun s => (m.result s).2

/-- What a process comes to that has the server for itself. -/
def finish : Process σ α → σ → Except Halt α × σ
  | .done r, s => (r, s)
  | .next rest state, s => (rest s).finish (state s)

/-- What a process has come to, if it has succeeded. -/
def value? : Process σ α → Option α
  | .done (.ok a) => some a
  | _ => none

theorem value?_eq_some {p : Process σ α} {a : α} : p.value? = some a ↔ p = .done (.ok a) := by
  rcases p with ⟨h | b⟩ | _ <;> simp [value?]

/-- With the server for itself, a process is an operation like any other. -/
theorem finish_after {m : Run σ β} {rest : β → Process σ α} {f : β → Run σ α}
    (h : ∀ b s, (rest b).finish s = (f b).result s) (s : σ) :
    (after m rest).finish s = (m >>= f).result s := by
  show Process.finish (match (m.result s).1 with
    | .ok b => rest b
    | .error h => .done (.error h)) (m.result s).2 = _
  rw [Run.result_bind]
  rcases m.result s with ⟨e | b, t⟩
  · rfl
  · exact h b t

end Process

/-- A server and what is left of the operations of its clients. -/
structure System (ι σ α : Type) where
  server : σ
  clients : ι → Process σ α

namespace System

variable [DecidableEq ι]

/-- A client runs its next section, if there is one. -/
def step (w : System ι σ α) (i : ι) : System ι σ α :=
  match w.clients i with
  | .done _ => w
  | .next rest state =>
    ⟨state w.server, fun j => if j = i then rest w.server else w.clients j⟩

/-- The clients have their turns as a schedule says. -/
def run (w : System ι σ α) (schedule : List ι) : System ι σ α :=
  schedule.foldl step w

variable {w : System ι σ α} {i j : ι} {schedule : List ι}

theorem run_append (w : System ι σ α) (l l' : List ι) : w.run (l ++ l') = (w.run l).run l' :=
  List.foldl_append

theorem run_append_cons (w : System ι σ α) (l : List ι) (i : ι) (l' : List ι) :
    w.run (l ++ i :: l') = (w.run (l ++ [i])).run l' := by
  rw [List.append_cons, run_append]

/-! ## Steps -/

theorem step_next {rest : σ → Process σ α} {state : σ → σ}
    (h : w.clients i = .next rest state) :
    w.step i = ⟨state w.server, fun j => if j = i then rest w.server else w.clients j⟩ := by
  unfold step
  rw [h]

/-- The step of a client leaves the processes of all others as they are. -/
theorem step_clients_of_ne (hj : j ≠ i) : (w.step i).clients j = w.clients j := by
  cases hp : w.clients i with
  | done r =>
    unfold step
    rw [hp]
  | next rest state =>
    rw [step_next hp]
    exact if_neg hj

/-- A process that has come to a result stays there. -/
theorem step_done {r : Except Halt α} (h : w.clients j = .done r) (i : ι) :
    (w.step i).clients j = .done r := by
  by_cases hj : j = i
  · subst hj
    unfold step
    rw [h]
    exact h
  · rw [step_clients_of_ne hj, h]

/-! ## Runs -/

theorem run_clients_of_not_mem (h : j ∉ schedule) : (w.run schedule).clients j = w.clients j := by
  induction schedule generalizing w with
  | nil => rfl
  | cons i schedule ih =>
    rw [List.mem_cons, not_or] at h
    calc ((w.step i).run schedule).clients j = (w.step i).clients j := ih h.2
      _ = w.clients j := step_clients_of_ne h.1

theorem run_done {r : Except Halt α} (h : w.clients j = .done r) (schedule : List ι) :
    (w.run schedule).clients j = .done r := by
  induction schedule generalizing w with
  | nil => exact h
  | cons i schedule ih => exact ih (step_done h i)

/-- A client whose process starts with a section and has succeeded has run this section at some
step. -/
theorem run_after {m : Run σ β} {rest : β → Process σ α} {a : α}
    (hstart : w.clients i = .after m rest) (hdone : (w.run schedule).clients i = .done (.ok a)) :
    ∃ before later b, schedule = before ++ i :: later ∧ i ∉ before ∧
      m.result (w.run before).server = (.ok b, (w.run (before ++ [i])).server) ∧
      (w.run (before ++ [i])).clients i = rest b := by
  have hmem : i ∈ schedule := by
    refine Classical.byContradiction fun hnot => ?_
    rw [run_clients_of_not_mem hnot, hstart] at hdone
    exact nomatch hdone
  obtain ⟨before, later, rfl, hbefore⟩ := List.eq_append_cons_of_mem hmem
  have hwaiting : (w.run before).clients i = .after m rest := by
    rw [run_clients_of_not_mem hbefore, hstart]
  have hstep : w.run (before ++ [i]) = _ := (run_append w before [i]).trans (step_next hwaiting)
  have hclient := congrArg (fun w => w.clients i) hstep
  simp only [if_pos] at hclient
  rw [run_append_cons] at hdone
  cases hm : (m.result (w.run before).server).1 with
  | error h =>
    rw [hm] at hclient
    rw [run_done hclient] at hdone
    exact nomatch hdone
  | ok b =>
    rw [hm] at hclient
    refine ⟨before, later, b, rfl, hbefore, Prod.ext hm ?_, hclient⟩
    rw [hstep]

end System

end Accord
