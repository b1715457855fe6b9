import Accord.Proofs.Session.Reading
import Accord.Proofs.Session.Related

/-!
# Operations that only ask

`Asks m` says of an operation on all servers that it is built from opening sessions and asking
questions, so that it never gives a command.  Two things follow for every such operation by one
induction each: it is quiet, however it ends (`Asks.quiet`), and it cannot tell apart servers that
give the same answers (`Asks.alike`).

While nobody changes anything, a server is steady: each connection has one reply and each question
one answer (`Server.Steady`).
-/

namespace Accord

variable {σ τ α β : Type}

/-! ## Operations without commands -/

/-- The operation gives no command, however it ends. -/
def Run.QuietOn (m : Run σ α) (server : Server σ) : Prop :=
  ∀ s, server.Quiet s (m.result s).2

namespace Run

theorem QuietOn.of_result {m : Run σ α} {server : Server σ} {r : Except Halt α} {s t : σ}
    (h : m.QuietOn server) (hrun : m.result s = (r, t)) : server.Quiet s t := by
  have hs := h s
  rwa [hrun] at hs

theorem quietOn_pure (server : Server σ) (a : α) : (pure a : Run σ α).QuietOn server :=
  fun s => .refl s

theorem quietOn_throw (server : Server σ) (h : Halt) : (throw h : Run σ α).QuietOn server :=
  fun s => .refl s

theorem quietOn_connect (server : Server σ) (database : Option String) :
    (reaction (server.connect database)).QuietOn server := by
  intro s
  rw [result_reaction_snd]
  exact .connect rfl

theorem quietOn_query (server : Server σ) (database : Option String) (q : Query) :
    (reaction (server.query database q)).QuietOn server := by
  intro s
  rw [result_reaction_snd]
  exact .query rfl

theorem QuietOn.bind {server : Server σ} {m : Run σ α} {f : α → Run σ β} (h : m.QuietOn server)
    (hf : ∀ a, (f a).QuietOn server) : (m >>= f).QuietOn server := by
  intro s
  have hs := h s
  rw [result_bind]
  revert hs
  rcases m.result s with ⟨e | a, t⟩
  · exact fun hs => hs
  · exact fun hs => hs.trans (hf a t)

theorem quietOn_ofExcept (server : Server σ) (x : Except Error α) :
    (ofExcept x : Run σ α).QuietOn server := by
  cases x with
  | ok a => exact quietOn_pure server a
  | error e => exact quietOn_throw server (.failed e)

end Run

theorem Context.quietOn_hold (ctx : Context σ) (side : Side) :
    (ctx.hold side).QuietOn ctx.server := by
  unfold hold
  split
  · exact Run.quietOn_pure ctx.server ()
  · exact Run.quietOn_throw ctx.server .waiting

/-! ## Servers with the same answers -/

/-- Two servers give the same answers in states that `R` relates. -/
structure Server.SameAnswers (R : σ → τ → Prop) (server : Server σ) (server' : Server τ) :
    Prop where
  connect {s : σ} {t : τ} (database : Option String) : R s t →
    (server.connect database s).1 = (server'.connect database t).1 ∧
      R (server.connect database s).2 (server'.connect database t).2
  query {s : σ} {t : τ} (database : Option String) (q : Query) : R s t →
    (server.query database q s).1 = (server'.query database q t).1 ∧
      R (server.query database q s).2 (server'.query database q t).2

/-- In the states of `I` each connection has one reply and each question one answer, and neither
leads out of these states. -/
structure Server.Steady (server : Server σ) (I : σ → Prop)
    (reply : Option String → Except Error Unit)
    (answer : Option String → Query → Except Error ResultTable) : Prop where
  connect {s : σ} (database : Option String) : I s →
    (server.connect database s).1 = reply database ∧ I (server.connect database s).2
  query {s : σ} (database : Option String) (q : Query) : I s →
    (server.query database q s).1 = answer database q ∧ I (server.query database q s).2

namespace Server.Steady

variable {server : Server σ} {server' : Server τ} {I : σ → Prop} {J : τ → Prop}
  {reply : Option String → Except Error Unit}
  {answer : Option String → Query → Except Error ResultTable}

theorem recorded (h : server.Steady I reply answer) :
    server.recorded.Steady (fun s => I s.1) reply answer where
  connect database hs := h.connect database hs
  query database q hs := h.query database q hs

theorem sameAnswers (h : server.Steady I reply answer) (h' : server'.Steady J reply answer) :
    server.SameAnswers (fun s t => I s ∧ J t) server' where
  connect database hst := by
    obtain ⟨hreply, hs⟩ := h.connect database hst.1
    obtain ⟨hreply', ht⟩ := h'.connect database hst.2
    exact ⟨hreply.trans hreply'.symm, hs, ht⟩
  query database q hst := by
    obtain ⟨hanswer, hs⟩ := h.query database q hst.1
    obtain ⟨hanswer', ht⟩ := h'.query database q hst.2
    exact ⟨hanswer.trans hanswer'.symm, hs, ht⟩

end Server.Steady

/-! ## Operations -/

/-- Operations that are built from opening sessions and asking questions. -/
inductive Asks : {α : Type} → ((σ : Type) → Server σ → Run σ α) → Prop where
  | pure {α : Type} (a : α) : Asks fun _ _ => Pure.pure a
  | throw {α : Type} (h : Halt) : Asks fun σ _ => (throw h : Run σ α)
  | bind {α β : Type} {m : (σ : Type) → Server σ → Run σ α}
      {f : α → (σ : Type) → Server σ → Run σ β} : Asks m → (∀ a, Asks (f a)) →
      Asks fun σ server => m σ server >>= fun a => f a σ server
  | connect (database : Option String) : Asks fun _ server => Run.reaction (server.connect database)
  | query (database : Option String) (q : Query) :
      Asks fun _ server => Run.reaction (server.query database q)

namespace Asks

/-! ## Building blocks -/

theorem ofExcept (x : Except Error α) : Asks fun σ _ => (Run.ofExcept x : Run σ α) := by
  cases x with
  | ok a => exact .pure a
  | error e => exact .throw (.failed e)

theorem liftM_bind (x : Except Error α) {f : α → (σ : Type) → Server σ → Run σ β}
    (h : ∀ a, Asks (f a)) : Asks fun σ server => (liftM x : Run σ α) >>= fun a => f a σ server :=
  .bind (ofExcept x) h

theorem ite {c : Prop} [Decidable c] {m m' : (σ : Type) → Server σ → Run σ α} (h : Asks m)
    (h' : Asks m') : Asks fun σ server => if c then m σ server else m' σ server := by
  by_cases hc : c
  · simpa only [if_pos hc] using h
  · simpa only [if_neg hc] using h'

/-- What is done in a session that is opened first. -/
theorem connect_bind {database : Option String}
    {f : (σ : Type) → Server σ → Session σ → Run σ α}
    (h : Asks fun σ server => f σ server ⟨server, database⟩) :
    Asks fun σ server => Session.connect server database >>= f σ server := by
  simp only [Session.connect, bind_assoc, pure_bind]
  exact .bind (.connect database) fun _ => h

theorem exists? (database : Option String) (q : Query) :
    Asks fun _ server => Session.exists? ⟨server, database⟩ q :=
  .bind (.query database q) fun _ => .pure _

/-! ## Reading in a session -/

theorem role? (database : Option String) (name : String) (dialect : Dialect) (withHash : Bool) :
    Asks fun _ server => Session.role? ⟨server, database⟩ name dialect withHash := by
  unfold Session.role?
  refine .bind (.query database _) fun table => ?_
  cases table.first? with
  | none => exact .pure none
  | some row =>
    refine liftM_bind _ fun state => ite ?_ (.pure _)
    refine .bind (.query database _) fun hashes => ?_
    exact liftM_bind _ fun hash => .pure _

theorem knownRole? (database : Option String) (ctx : Context σ) (name : String)
    (lastKnown : Option DeclaredRole) :
    Asks fun _ server => Session.knownRole? ⟨server, database⟩ (ctx.on server) name lastKnown :=
  .bind (role? database name ctx.dialect ctx.facts.isSuperuser) fun seen =>
    .pure (seen.map (Session.known ctx lastKnown))

theorem schema? (database : Option String) (within name : String) :
    Asks fun _ server => Session.schema? ⟨server, database⟩ within name := by
  unfold Session.schema?
  refine .bind (.query database _) fun table => ?_
  cases table.first? with
  | none => exact .pure none
  | some row =>
    refine liftM_bind _ fun found => liftM_bind _ fun owner => ?_
    refine .bind (.query database _) fun grants => ?_
    exact liftM_bind _ fun policies => .pure _

theorem rule? (database : Option String) (key : RuleKey) :
    Asks fun _ server => Session.rule? ⟨server, database⟩ key :=
  .bind (.query database _) fun _ => ofExcept _

theorem extension? (database : Option String) (within name : String) :
    Asks fun _ server => Session.extension? ⟨server, database⟩ within name := by
  unfold Session.extension?
  refine .bind (.query database _) fun table => ?_
  cases table.first? with
  | none => exact .pure none
  | some row => exact liftM_bind _ fun found => .pure _

/-! ## Asking gives no command -/

theorem quiet {m : (σ : Type) → Server σ → Run σ α} (h : Asks m) (server : Server σ) :
    (m σ server).QuietOn server := by
  induction h with
  | pure a => exact Run.quietOn_pure server a
  | throw h => exact Run.quietOn_throw server h
  | bind _ _ ihm ihf => exact ihm.bind ihf
  | connect database => exact Run.quietOn_connect server database
  | query database q => exact Run.quietOn_query server database q

/-! ## Asking tells servers apart by their answers only -/

theorem alike {R : σ → τ → Prop} {server : Server σ} {server' : Server τ}
    {m : (σ : Type) → Server σ → Run σ α} (h : Asks m) (hsame : server.SameAnswers R server') :
    Run.Alike R Eq (m σ server) (m τ server') := by
  induction h with
  | pure a => exact Run.alike_pure rfl
  | throw h => exact Run.alike_throw h
  | bind _ _ ihm ihf => exact ihm.bind_eq ihf
  | connect database =>
    refine Run.alike_reaction fun s t hst => ?_
    obtain ⟨hreply, hleft⟩ := hsame.connect database hst
    exact ⟨hreply ▸ .refl _, hleft⟩
  | query database q =>
    refine Run.alike_reaction fun s t hst => ?_
    obtain ⟨hreply, hleft⟩ := hsame.query database q hst
    exact ⟨hreply ▸ .refl _, hleft⟩

/-- In a steady state asking twice comes to the same. -/
theorem result_steady {server : Server σ} {I : σ → Prop}
    {reply : Option String → Except Error Unit}
    {answer : Option String → Query → Except Error ResultTable}
    {m : (σ : Type) → Server σ → Run σ α} (h : Asks m) (hsteady : server.Steady I reply answer)
    {s t : σ} (hs : I s) (ht : I t) : ((m σ server).result s).1 = ((m σ server).result t).1 :=
  (h.alike (hsteady.sameAnswers hsteady) s t ⟨hs, ht⟩).1.eq

end Asks

/-! ## Reading gives no command -/

namespace Session

variable {session : Session σ} {s t : σ}

theorem quiet_knownRole? {ctx : Context σ} {name : String} {lastKnown : Option DeclaredRole}
    {found : Option ObservedRole}
    (h : (session.knownRole? ctx name lastKnown).result s = (.ok found, t)) :
    session.server.Quiet s t :=
  ((Asks.knownRole? session.database ctx name lastKnown).quiet session.server).of_result h

theorem quiet_schema? {database name : String} {found : Option ObservedSchema}
    (h : (session.schema? database name).result s = (.ok found, t)) :
    session.server.Quiet s t :=
  ((Asks.schema? session.database database name).quiet session.server).of_result h

theorem quiet_rule? {key : RuleKey} {found : Option Rule}
    (h : (session.rule? key).result s = (.ok found, t)) : session.server.Quiet s t :=
  ((Asks.rule? session.database key).quiet session.server).of_result h

theorem quiet_extension? {database name : String} {found : Option InstalledExtension}
    (h : (session.extension? database name).result s = (.ok found, t)) :
    session.server.Quiet s t :=
  ((Asks.extension? session.database database name).quiet session.server).of_result h

end Session

end Accord
