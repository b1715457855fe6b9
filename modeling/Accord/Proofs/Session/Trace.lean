import Accord.Proofs.Session.Run
import Accord.Session.Context
import Accord.Session.Transaction

/-!
# What passes between an operation and its server

Whatever an operation does to a server, it does by opening sessions, asking questions and giving
commands.  An `Event` is one of these together with the reply, and a `Trace` is a run of the server
through some events.  A trace without commands is quiet.

`Server.recorded` is a server that keeps such a record by itself, so that what an operation really
did can be read off the state that it leaves.
-/

namespace Accord

variable {σ α : Type}

/-- One exchange with a server. -/
inductive Event where
  | connect (database : Option String) (reply : Except Error Unit)
  | query (database : Option String) (q : Query) (reply : Except Error ResultTable)
  | execute (database : Option String) (c : Command) (reply : Except Error Unit)

/-- The command of an event with the reply to it, if the event is about a command. -/
def Event.given? : Event → Option (Command × Except Error Unit)
  | .execute _ c reply => some (c, reply)
  | _ => none

/-- The commands of some events with the replies to them. -/
def commandsIn (events : List Event) : List (Command × Except Error Unit) :=
  events.filterMap Event.given?

theorem commandsIn_append (l l' : List Event) :
    commandsIn (l ++ l') = commandsIn l ++ commandsIn l' :=
  List.filterMap_append

/-- Whether the event is a connection or a command that failed. -/
def Event.broken : Event → Bool
  | .connect _ (.error _) => true
  | .execute _ _ (.error _) => true
  | _ => false

theorem ok_of_mem_commandsIn {events : List Event} (h : ∀ e ∈ events, e.broken = false)
    {g : Command × Except Error Unit} (hg : g ∈ commandsIn events) : g.2 = .ok () := by
  obtain ⟨e, he, hgiven⟩ := List.mem_filterMap.1 hg
  have hbroken := h e he
  rcases e with _ | _ | ⟨database, c, e | u⟩
  · exact nomatch hgiven
  · exact nomatch hgiven
  · exact nomatch hbroken
  · rw [← Option.some.inj hgiven]

/-- The events of some commands in a session. -/
def eventsOf (database : Option String) (given : List (Command × Except Error Unit)) :
    List Event :=
  given.map fun g => .execute database g.1 g.2

theorem commandsIn_eventsOf (database : Option String)
    (given : List (Command × Except Error Unit)) :
    commandsIn (eventsOf database given) = given := by
  induction given with
  | nil => rfl
  | cons g given ih =>
    show g :: commandsIn (eventsOf database given) = g :: given
    rw [ih]

/-! ## Traces -/

namespace Server

/-- The server goes from one state to another one through some events. -/
inductive Trace (server : Server σ) : σ → List Event → σ → Prop where
  | nil (s : σ) : Trace server s [] s
  | connect {s t u : σ} {database : Option String} {reply : Except Error Unit} {l : List Event} :
      server.connect database s = (reply, t) → Trace server t l u →
      Trace server s (.connect database reply :: l) u
  | query {s t u : σ} {database : Option String} {q : Query} {reply : Except Error ResultTable}
      {l : List Event} :
      server.query database q s = (reply, t) → Trace server t l u →
      Trace server s (.query database q reply :: l) u
  | execute {s t u : σ} {database : Option String} {c : Command} {reply : Except Error Unit}
      {l : List Event} :
      server.execute database c s = (reply, t) → Trace server t l u →
      Trace server s (.execute database c reply :: l) u

theorem Trace.trans {server : Server σ} {s t u : σ} {l l' : List Event}
    (h : Trace server s l t) (h' : Trace server t l' u) : Trace server s (l ++ l') u := by
  induction h with
  | nil s => exact h'
  | connect hs _ ih => exact .connect hs (ih h')
  | query hs _ ih => exact .query hs (ih h')
  | execute hs _ ih => exact .execute hs (ih h')

/-- The server goes from one state to another one without getting a command. -/
def Quiet (server : Server σ) (s t : σ) : Prop :=
  ∃ l, Trace server s l t ∧ commandsIn l = []

namespace Quiet

variable {server : Server σ} {s t u : σ}

theorem refl (s : σ) : Quiet server s s :=
  ⟨[], .nil s, rfl⟩

theorem trans (h : Quiet server s t) (h' : Quiet server t u) : Quiet server s u := by
  obtain ⟨l, hl, hc⟩ := h
  obtain ⟨l', hl', hc'⟩ := h'
  refine ⟨l ++ l', hl.trans hl', ?_⟩
  rw [commandsIn_append, hc, hc', List.append_nil]

theorem connect {database : Option String} {reply : Except Error Unit}
    (h : server.connect database s = (reply, t)) : Quiet server s t :=
  ⟨_, .connect h (.nil t), rfl⟩

theorem query {database : Option String} {q : Query} {reply : Except Error ResultTable}
    (h : server.query database q s = (reply, t)) : Quiet server s t :=
  ⟨_, .query h (.nil t), rfl⟩

end Quiet

/-! ## Servers that keep a record -/

/-- The server with a record of all events behind its state. -/
def recorded (server : Server σ) : Server (σ × List Event) where
  connect database s :=
    let r := server.connect database s.1
    (r.1, r.2, s.2 ++ [.connect database r.1])
  execute database c s :=
    let r := server.execute database c s.1
    (r.1, r.2, s.2 ++ [.execute database c r.1])
  query database q s :=
    let r := server.query database q s.1
    (r.1, r.2, s.2 ++ [.query database q r.1])

theorem recorded_connect {server : Server σ} {database : Option String} {s t : σ × List Event}
    {reply : Except Error Unit} (h : server.recorded.connect database s = (reply, t)) :
    server.connect database s.1 = (reply, t.1) := by
  obtain ⟨rfl, rfl⟩ := Prod.mk.inj h
  rfl

theorem recorded_query {server : Server σ} {database : Option String} {q : Query}
    {s t : σ × List Event} {reply : Except Error ResultTable}
    (h : server.recorded.query database q s = (reply, t)) :
    server.query database q s.1 = (reply, t.1) := by
  obtain ⟨rfl, rfl⟩ := Prod.mk.inj h
  rfl

theorem recorded_execute {server : Server σ} {database : Option String} {c : Command}
    {s t : σ × List Event} {reply : Except Error Unit}
    (h : server.recorded.execute database c s = (reply, t)) :
    server.execute database c s.1 = (reply, t.1) := by
  obtain ⟨rfl, rfl⟩ := Prod.mk.inj h
  rfl

/-- The record grows by the events, and the server behind it goes through them. -/
theorem Trace.of_recorded {server : Server σ} {s t : σ × List Event} {l : List Event}
    (h : Trace server.recorded s l t) : Trace server s.1 l t.1 ∧ t.2 = s.2 ++ l := by
  induction h with
  | nil s => exact ⟨.nil _, (List.append_nil _).symm⟩
  | connect hst _ ih =>
    obtain ⟨rfl, rfl⟩ := Prod.mk.inj hst
    exact ⟨.connect rfl ih.1, by rw [ih.2, List.append_assoc]; rfl⟩
  | query hst _ ih =>
    obtain ⟨rfl, rfl⟩ := Prod.mk.inj hst
    exact ⟨.query rfl ih.1, by rw [ih.2, List.append_assoc]; rfl⟩
  | execute hst _ ih =>
    obtain ⟨rfl, rfl⟩ := Prod.mk.inj hst
    exact ⟨.execute rfl ih.1, by rw [ih.2, List.append_assoc]; rfl⟩

/-- After a quiet run there are no new commands in the record. -/
theorem Quiet.commandsIn_recorded {server : Server σ} {s t : σ × List Event}
    (h : Quiet server.recorded s t) : commandsIn t.2 = commandsIn s.2 := by
  obtain ⟨l, hl, hc⟩ := h
  rw [hl.of_recorded.2, commandsIn_append, hc, List.append_nil]

end Server

/-- The context with a server that keeps a record. -/
def Context.recorded (ctx : Context σ) : Context (σ × List Event) where
  server := ctx.server.recorded
  dialect := ctx.dialect
  facts := ctx.facts
  readOnly := ctx.readOnly
  lock := ctx.lock

/-! ## Steps of operations -/

section Steps

variable {s t : σ}

theorem Context.result_hold {ctx : Context σ} {side : Side} {a : Unit} :
    (ctx.hold side).result s = (.ok a, t) ↔ ctx.lock.grants side = true ∧ t = s := by
  unfold Context.hold
  by_cases h : ctx.lock.grants side = true
  · rw [if_pos h]
    simp [h, eq_comm]
  · rw [if_neg h]
    simp [h]

theorem Session.result_connect {server : Server σ} {database : Option String}
    {session : Session σ} :
    (Session.connect server database).result s = (.ok session, t) ↔
      server.connect database s = (.ok (), t) ∧ session = ⟨server, database⟩ := by
  unfold Session.connect
  rw [Run.result_bind_ok]
  constructor
  · rintro ⟨a, s', h, h'⟩
    obtain ⟨rfl, rfl⟩ := Run.result_pure_ok.1 h'
    exact ⟨Run.result_reaction.1 h, rfl⟩
  · rintro ⟨h, rfl⟩
    exact ⟨(), t, Run.result_reaction.2 h, rfl⟩

theorem Session.result_query {session : Session σ} {q : Query} {r : ResultTable} :
    (session.query q).result s = (.ok r, t) ↔
      session.server.query session.database q s = (.ok r, t) :=
  Run.result_reaction

theorem Session.result_attempt (session : Session σ) (c : Command) (s : σ) :
    (session.attempt c).result s =
      (.ok (session.server.execute session.database c s).1,
        (session.server.execute session.database c s).2) :=
  rfl

theorem Session.result_exists? {session : Session σ} {q : Query} {b : Bool} :
    (session.exists? q).result s = (.ok b, t) ↔
      ∃ r : ResultTable, session.server.query session.database q s = (.ok r, t) ∧
        b = !r.isEmpty := by
  unfold Session.exists?
  rw [Run.result_bind_ok]
  constructor
  · rintro ⟨r, s', h, h'⟩
    obtain ⟨rfl, rfl⟩ := Run.result_pure_ok.1 h'
    exact ⟨r, Session.result_query.1 h, rfl⟩
  · rintro ⟨r, h, rfl⟩
    exact ⟨r, t, Session.result_query.2 h, rfl⟩

end Steps

end Accord
