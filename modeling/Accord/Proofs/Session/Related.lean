import Accord.Proofs.Session.Run
import Accord.Proofs.Statement.Secrecy
import Accord.Session.Context
import Accord.Session.Transaction

/-!
# Operations on two servers

`Run.Alike R P m m'` says that an operation on one server and an operation on another one cannot be
told apart: from states that `R` relates they come to the same failure, or to results that `P`
relates, and they leave states that `R` relates.  There is one rule for each way to build an
operation.

`Server.SameButHashes R` says this of the servers themselves: they react alike to commands that
differ in the texts of passwords only, and what they answer differs in the hashes of passwords only.
-/

namespace Accord

variable {σ τ α α' β β' : Type}

/-! ## Operations -/

/-- Two operations on two servers cannot be told apart. -/
def Run.Alike (R : σ → τ → Prop) (P : α → α' → Prop) (m : Run σ α) (m' : Run τ α') : Prop :=
  ∀ s t, R s t → SameOutcome P (m.result s).1 (m'.result t).1 ∧ R (m.result s).2 (m'.result t).2

namespace Run

variable {R : σ → τ → Prop} {P : α → α' → Prop} {Q : β → β' → Prop}

theorem alike_pure {a : α} {a' : α'} (h : P a a') :
    Alike R P (pure a : Run σ α) (pure a' : Run τ α') :=
  fun _ _ hst => ⟨.ok h, hst⟩

theorem alike_throw (e : Halt) : Alike R P (throw e : Run σ α) (throw e : Run τ α') :=
  fun _ _ hst => ⟨.error e, hst⟩

theorem Alike.bind {m : Run σ α} {m' : Run τ α'} {f : α → Run σ β} {f' : α' → Run τ β'}
    (h : Alike R P m m') (hf : ∀ a a', P a a' → Alike R Q (f a) (f' a')) :
    Alike R Q (m >>= f) (m' >>= f') := by
  intro s t hst
  obtain ⟨houtcome, hleft⟩ := h s t hst
  rw [result_bind, result_bind]
  revert houtcome hleft
  rcases m.result s with ⟨x, s'⟩
  rcases m'.result t with ⟨x', t'⟩
  rintro (⟨ha⟩ | ⟨e⟩) hleft
  · exact hf _ _ ha s' t' hleft
  · exact ⟨.error e, hleft⟩

theorem Alike.bind_eq {m : Run σ α} {m' : Run τ α} {f : α → Run σ β} {f' : α → Run τ β'}
    (h : Alike R Eq m m') (hf : ∀ a, Alike R Q (f a) (f' a)) :
    Alike R Q (m >>= f) (m' >>= f') := by
  refine h.bind ?_
  rintro a _ rfl
  exact hf a

theorem Alike.mono {P' : α → α' → Prop} {m : Run σ α} {m' : Run τ α'} (h : Alike R P m m')
    (hP : ∀ a a', P a a' → P' a a') : Alike R P' m m' :=
  fun s t hst => (h s t hst).imp_left fun ho => ho.mono hP

theorem alike_attempt {f : σ → Except Error α × σ} {f' : τ → Except Error α' × τ}
    {O : Except Error α → Except Error α' → Prop}
    (h : ∀ s t, R s t → O (f s).1 (f' t).1 ∧ R (f s).2 (f' t).2) :
    Alike R O (attempt f) (attempt f') :=
  fun s t hst => (h s t hst).imp_left .ok

theorem alike_ofExcept {x : Except Error α} {x' : Except Error α'} (h : SameOutcome P x x') :
    Alike R P (ofExcept x) (ofExcept x') := by
  cases h with
  | ok ha => exact alike_pure ha
  | error e => exact alike_throw (.failed e)

theorem alike_liftM {x : Except Error α} {x' : Except Error α'} (h : SameOutcome P x x') :
    Alike R P (liftM x : Run σ α) (liftM x' : Run τ α') :=
  alike_ofExcept h

theorem alike_liftM_bind (x : Except Error α) {f : α → Run σ β} {f' : α → Run τ β'}
    (hf : ∀ a, Alike R Q (f a) (f' a)) :
    Alike R Q ((liftM x : Run σ α) >>= f) ((liftM x : Run τ α) >>= f') :=
  (alike_liftM (.refl x)).bind_eq hf

theorem alike_reaction {f : σ → Except Error α × σ} {f' : τ → Except Error α' × τ}
    (h : ∀ s t, R s t → SameOutcome P (f s).1 (f' t).1 ∧ R (f s).2 (f' t).2) :
    Alike R P (reaction f) (reaction f') :=
  (alike_attempt h).bind fun _ _ => alike_ofExcept

end Run

/-! ## Servers -/

/-- The context with another server. -/
def Context.on (ctx : Context σ) (server : Server τ) : Context τ :=
  { server, dialect := ctx.dialect, facts := ctx.facts, readOnly := ctx.readOnly, lock := ctx.lock }

/-- The value without its text. -/
def Json.hideText : Json → Json
  | .text _ => .text ""
  | v => v

/-- The table without the texts in it. -/
def ResultTable.hideTexts (table : ResultTable) : ResultTable :=
  ⟨table.columns, table.rows.map fun values => values.map Json.hideText⟩

/-- What the answer to a question says besides the hashes of passwords. -/
def Query.hideHashes : Query → ResultTable → ResultTable
  | .passwordHash _, table => table.hideTexts
  | _, table => table

/-- The command without the text of the password in it. -/
def Command.hidePassword : Command → Command
  | .run c => .run c.hidePassword
  | c => c

/-- Two servers react alike, in states that `R` relates, to commands that differ in the texts of
passwords only, and their answers differ in nothing but the hashes of passwords. -/
structure Server.SameButHashes (R : σ → τ → Prop) (server : Server σ) (server' : Server τ) :
    Prop where
  connect {s : σ} {t : τ} (database : Option String) : R s t →
    (server.connect database s).1 = (server'.connect database t).1 ∧
      R (server.connect database s).2 (server'.connect database t).2
  execute {s : σ} {t : τ} (database : Option String) {c c' : Command} :
    c.hidePassword = c'.hidePassword → R s t →
      (server.execute database c s).1 = (server'.execute database c' t).1 ∧
        R (server.execute database c s).2 (server'.execute database c' t).2
  query {s : σ} {t : τ} (database : Option String) (q : Query) : R s t →
    (server.query database q s).1.map q.hideHashes =
        (server'.query database q t).1.map q.hideHashes ∧
      R (server.query database q s).2 (server'.query database q t).2

/-- Two sessions are open on the same database of such servers. -/
structure Session.SameButHashes (R : σ → τ → Prop) (session : Session σ) (session' : Session τ) :
    Prop where
  server : session.server.SameButHashes R session'.server
  database : session.database = session'.database

namespace Session

variable {R : σ → τ → Prop}

theorem alike_connect {server : Server σ} {server' : Server τ}
    (h : server.SameButHashes R server') (database : Option String) :
    Run.Alike R (SameButHashes R) (connect server database) (connect server' database) := by
  unfold connect
  have hreaction : Run.Alike R Eq (Run.reaction (server.connect database))
      (Run.reaction (server'.connect database)) := by
    apply Run.alike_reaction
    intro s t hst
    obtain ⟨hreply, hleft⟩ := h.connect database hst
    exact ⟨hreply ▸ .refl _, hleft⟩
  exact hreaction.bind_eq fun _ => Run.alike_pure ⟨h, rfl⟩

namespace SameButHashes

variable {session : Session σ} {session' : Session τ}

theorem attempt (h : session.SameButHashes R session') {c c' : Command}
    (hc : c.hidePassword = c'.hidePassword) :
    Run.Alike R Eq (session.attempt c) (session'.attempt c') := by
  apply Run.alike_attempt
  intro s t hst
  rw [← h.database]
  exact h.server.execute session.database hc hst

theorem query (h : session.SameButHashes R session') (q : Query) :
    Run.Alike R (fun table table' => q.hideHashes table = q.hideHashes table')
      (session.query q) (session'.query q) := by
  apply Run.alike_reaction
  intro s t hst
  rw [← h.database]
  exact (h.server.query session.database q hst).imp_left .of_map_eq

/-- A question that is not about hashes gets the same answer. -/
theorem query_eq (h : session.SameButHashes R session') {q : Query}
    (hq : ∀ table, q.hideHashes table = table) :
    Run.Alike R Eq (session.query q) (session'.query q) := by
  refine (h.query q).mono fun table table' htable => ?_
  rwa [hq, hq] at htable

theorem exists? (h : session.SameButHashes R session') {q : Query}
    (hq : ∀ table, q.hideHashes table = table) :
    Run.Alike R Eq (session.exists? q) (session'.exists? q) :=
  (h.query_eq hq).bind_eq fun _ => Run.alike_pure rfl

/-- Statements that differ in the texts of passwords only are run alike. -/
theorem runAll (h : session.SameButHashes R session') {l l' : List Statement}
    (hl : Plan.SameButPasswords l l') :
    Run.Alike R Eq (session.runAll l) (session'.runAll l') := by
  induction l generalizing l' with
  | nil =>
    obtain rfl := List.map_eq_nil_iff.1 hl.symm
    exact Run.alike_pure rfl
  | cons c l ih =>
    obtain ⟨c', l', rfl, hc, hrest⟩ := List.map_eq_cons_iff.1 hl.symm
    unfold Session.runAll
    have hrun : (Command.run c).hidePassword = (Command.run c').hidePassword :=
      congrArg Command.run hc.symm
    refine (h.attempt hrun).bind_eq fun reply => ?_
    cases reply with
    | ok u => exact ih hrest.symm
    | error e =>
      have hoperation : c.operation = c'.operation := by
        rw [← c.operation_hidePassword, ← hc, c'.operation_hidePassword]
      rw [hoperation]
      exact (h.attempt rfl).bind_eq fun _ => Run.alike_throw _

theorem apply (h : session.SameButHashes R session') {plan plan' : Plan}
    (hplan : plan.SameButPasswords plan') :
    Run.Alike R Eq (session.apply plan) (session'.apply plan') := by
  unfold Session.apply
  rw [hplan.isEmpty_eq, hplan.length_eq]
  by_cases hempty : plan'.isEmpty = true
  · rw [if_pos hempty, if_pos hempty]
    exact Run.alike_pure rfl
  · rw [if_neg hempty, if_neg hempty]
    refine (h.attempt rfl).bind_eq fun started => ?_
    cases started with
    | error e => exact Run.alike_throw _
    | ok u =>
      refine (h.runAll hplan.ordered).bind_eq fun _ => ?_
      refine (h.attempt rfl).bind_eq fun committed => ?_
      cases committed with
      | error e => exact Run.alike_throw _
      | ok u => exact Run.alike_pure rfl

end SameButHashes

end Session

end Accord
