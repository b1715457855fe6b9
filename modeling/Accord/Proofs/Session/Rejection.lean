import Accord.Proofs.Session.Asking
import Accord.Proofs.Session.Transaction

/-!
# Rejections

An operation rejects what it is asked for if it fails with a validation error, a missing feature or
a configuration error.  A server never rejects anything by itself: its errors are about connections
and queries, and so are those of reading its answers.  Applying a plan does not reject either.  So
an operation that is quiet until it applies a plan, and does not reject anything afterwards, rejects
quietly (`Run.RejectsQuietly`).
-/

namespace Accord

variable {σ α β : Type}

/-- Whether the error is about a value outside its domain. -/
def Error.isInvalid : Error → Bool
  | .validation _ => true
  | _ => false

/-- Whether the error is about a missing feature. -/
def Error.isUnsupported : Error → Bool
  | .unsupported _ _ => true
  | _ => false

/-- Whether the error rejects what was asked for. -/
def Error.isRejection : Error → Bool
  | .validation _ | .unsupported _ _ | .config _ => true
  | _ => false

/-- Whether the error is about a connection or a query. -/
def Error.isOfServer : Error → Bool
  | .connectionFailed _ | .queryFailed _ => true
  | _ => false

theorem Error.isRejection_of_isOfServer {e : Error} (h : e.isOfServer = true) :
    e.isRejection = false := by
  cases e <;> first | rfl | cases h

/-- The errors of the server are about connections and queries. -/
structure Server.PlainErrors (server : Server σ) : Prop where
  connect {database : Option String} {s : σ} {e : Error} :
    (server.connect database s).1 = .error e → e.isOfServer = true
  query {database : Option String} {q : Query} {s : σ} {e : Error} :
    (server.query database q s).1 = .error e → e.isOfServer = true

theorem Server.PlainErrors.recorded {server : Server σ} (h : server.PlainErrors) :
    server.recorded.PlainErrors where
  connect he := h.connect he
  query he := h.query he

/-! ## Failures of some sort -/

/-- The outcome is a result, or a failure of some sort. -/
def FailsOnly (P : Error → Prop) (x : Except Error α) : Prop :=
  ∀ e, x = .error e → P e

namespace FailsOnly

variable {P Q : Error → Prop}

theorem ok (a : α) : FailsOnly P (.ok a) :=
  fun _ h => nomatch h

theorem error {e : Error} (h : P e) : FailsOnly P (.error e : Except Error α) :=
  fun _ he => Except.error.inj he ▸ h

theorem mono {x : Except Error α} (h : FailsOnly P x) (hPQ : ∀ e, P e → Q e) : FailsOnly Q x :=
  fun e he => hPQ e (h e he)

theorem bind {x : Except Error α} {f : α → Except Error β} (h : FailsOnly P x)
    (hf : ∀ a, FailsOnly P (f a)) : FailsOnly P (x >>= f) := by
  cases x with
  | ok a => exact hf a
  | error e => exact .error (h e rfl)

theorem mapM {f : α → Except Error β} (hf : ∀ a, FailsOnly P (f a)) (l : List α) :
    FailsOnly P (l.mapM f) := by
  induction l with
  | nil => exact .ok []
  | cons a l ih =>
    rw [List.mapM_cons]
    exact (hf a).bind fun b => ih.bind fun bs => .ok (b :: bs)

theorem foldlM {f : β → α → Except Error β} (hf : ∀ b a, FailsOnly P (f b a)) (l : List α)
    (b : β) : FailsOnly P (l.foldlM f b) := by
  induction l generalizing b with
  | nil => exact .ok b
  | cons a l ih => exact (hf b a).bind ih

end FailsOnly

/-! ## Missing features -/

/-- The outcome is that a feature is missing. -/
def Unsupported (x : Except Error α) : Prop :=
  ∃ feature version, x = .error (.unsupported feature version)

theorem not_unsupported_ok (a : α) : ¬Unsupported (.ok a : Except Error α) :=
  fun ⟨_, _, h⟩ => nomatch h

theorem Dialect.unsupported_require {dialect : Dialect} {f : Feature} :
    Unsupported (dialect.require f) ↔ dialect.supports f = false := by
  unfold require
  cases dialect.supports f with
  | true => exact iff_of_false (not_unsupported_ok ()) fun h => nomatch h
  | false => exact iff_of_true ⟨_, _, rfl⟩ rfl

theorem unsupported_bind {x : Except Error α} {f : α → Except Error β} :
    Unsupported (x >>= f) ↔ Unsupported x ∨ ∃ a, x = .ok a ∧ Unsupported (f a) := by
  cases x with
  | ok a =>
    show Unsupported (f a) ↔ _
    simp [not_unsupported_ok]
  | error e =>
    constructor
    · rintro ⟨feature, version, h⟩
      exact .inl ⟨feature, version, congrArg Except.error (Except.error.inj h)⟩
    · rintro (⟨feature, version, h⟩ | ⟨a, h, -⟩)
      · exact ⟨feature, version, congrArg Except.error (Except.error.inj h)⟩
      · exact nomatch h

/-- Where only features can be missing, an outcome is a result or a feature is missing. -/
theorem FailsOnly.ok_iff_not_unsupported {x : Except Error α}
    (h : FailsOnly (fun e => e.isUnsupported = true) x) : (∃ a, x = .ok a) ↔ ¬Unsupported x := by
  cases x with
  | ok a => exact iff_of_true ⟨a, rfl⟩ (not_unsupported_ok a)
  | error e =>
    refine iff_of_false (fun ⟨a, ha⟩ => nomatch ha) (Classical.not_not.2 ?_)
    have he := h e rfl
    cases e with
    | unsupported feature version => exact ⟨feature, version, rfl⟩
    | _ => exact nomatch he

theorem unsupported_mapM {f : α → Except Error β}
    (hf : ∀ a, FailsOnly (fun e => e.isUnsupported = true) (f a)) {l : List α} :
    Unsupported (l.mapM f) ↔ ∃ a ∈ l, Unsupported (f a) := by
  induction l with
  | nil => exact iff_of_false (not_unsupported_ok []) (fun ⟨a, ha, _⟩ => nomatch ha)
  | cons a l ih =>
    rw [List.mapM_cons]
    simp only [unsupported_bind, ih, List.mem_cons, or_and_right, exists_or, exists_eq_left]
    by_cases ha : Unsupported (f a)
    · simp [ha]
    · obtain ⟨b, hb⟩ := (hf a).ok_iff_not_unsupported.2 ha
      simp [hb, pure, Except.pure, not_unsupported_ok]

namespace Run

variable {P Q : Error → Prop}

/-- All failures of the operation are of some sort. -/
def FailsOnly (P : Error → Prop) (m : Run σ α) : Prop :=
  ∀ s e t, m.result s = (.error (.failed e), t) → P e

namespace FailsOnly

theorem mono {m : Run σ α} (h : m.FailsOnly P) (hPQ : ∀ e, P e → Q e) : m.FailsOnly Q :=
  fun s e t hrun => hPQ e (h s e t hrun)

theorem pure (a : α) : (Pure.pure a : Run σ α).FailsOnly P :=
  fun _ _ _ h => nomatch h

theorem throw {e : Error} (h : P e) : (throw (.failed e) : Run σ α).FailsOnly P := by
  intro s e' t hrun
  rw [result_throw] at hrun
  cases hrun
  exact h

theorem ofExcept {x : Except Error α} (h : Accord.FailsOnly P x) :
    (Run.ofExcept x : Run σ α).FailsOnly P := by
  cases x with
  | ok a => exact .pure a
  | error e => exact .throw (h e rfl)

theorem reaction {f : σ → Except Error α × σ} (h : ∀ s, Accord.FailsOnly P (f s).1) :
    (Run.reaction f).FailsOnly P := by
  intro s e t hrun
  unfold Run.reaction at hrun
  rw [result_bind_of_ok (result_attempt f s)] at hrun
  exact ofExcept (h s) _ e t hrun

/-- The second step is judged for the results of the first one only. -/
theorem bind_of {m : Run σ α} {f : α → Run σ β} (h : m.FailsOnly P)
    (hf : ∀ s a t, m.result s = (.ok a, t) → (f a).FailsOnly P) : (m >>= f).FailsOnly P := by
  intro s e u hrun
  rcases hm : m.result s with ⟨halt | a, t⟩
  · rw [result_bind_of_error hm] at hrun
    cases hrun
    exact h s e u hm
  · rw [result_bind_of_ok hm] at hrun
    exact hf s a t hm t e u hrun

theorem bind {m : Run σ α} {f : α → Run σ β} (h : m.FailsOnly P)
    (hf : ∀ a, (f a).FailsOnly P) : (m >>= f).FailsOnly P :=
  h.bind_of fun _ a _ _ => hf a

end FailsOnly

end Run

theorem Context.failsOnly_hold {P : Error → Prop} (ctx : Context σ) (side : Side) :
    (ctx.hold side).FailsOnly P := by
  unfold hold
  split
  · exact .pure ()
  · exact fun _ _ _ h => nomatch h

/-! ## Reading answers -/

/-- All failures are about connections and queries. -/
abbrev FailsAsServer (x : Except Error α) : Prop :=
  FailsOnly (fun e => e.isOfServer = true) x

theorem failsAsServer_badRow (cause : BadRow) : FailsAsServer (badRow cause : Except Error α) :=
  .error rfl

namespace Row

theorem failsAsServer_value (row : Row) (column : String) : FailsAsServer (row.value column) := by
  unfold value
  split
  · exact .ok _
  · exact failsAsServer_badRow _

theorem failsAsServer_text? (row : Row) (column : String) : FailsAsServer (row.text? column) := by
  refine (row.failsAsServer_value column).bind fun v => ?_
  split
  · exact .ok none
  · exact .ok _
  · exact failsAsServer_badRow _

theorem failsAsServer_text (row : Row) (column : String) : FailsAsServer (row.text column) := by
  refine (row.failsAsServer_text? column).bind fun v => ?_
  split
  · exact .ok _
  · exact failsAsServer_badRow _

theorem failsAsServer_bool? (row : Row) (column : String) : FailsAsServer (row.bool? column) := by
  refine (row.failsAsServer_value column).bind fun v => ?_
  split
  · exact .ok none
  · exact .ok _
  · exact failsAsServer_badRow _

theorem failsAsServer_bool (row : Row) (column : String) : FailsAsServer (row.bool column) := by
  refine (row.failsAsServer_bool? column).bind fun v => ?_
  split
  · exact .ok _
  · exact failsAsServer_badRow _

theorem failsAsServer_integer (row : Row) (column : String) :
    FailsAsServer (row.integer column) := by
  refine (row.failsAsServer_value column).bind fun v => ?_
  split
  · split
    · exact .ok _
    · exact failsAsServer_badRow _
  · exact failsAsServer_badRow _

theorem failsAsServer_texts (row : Row) (column : String) : FailsAsServer (row.texts column) := by
  refine (row.failsAsServer_value column).bind fun v => ?_
  split
  · exact .ok []
  · refine .mapM (fun item => ?_) _
    unfold textItem
    split
    · exact .ok _
    · exact failsAsServer_badRow _
  · exact failsAsServer_badRow _

theorem failsAsServer_connectionLimit (row : Row) : FailsAsServer row.connectionLimit := by
  refine (row.failsAsServer_integer _).bind fun limit => ?_
  split
  · exact failsAsServer_badRow _
  · split
    · exact failsAsServer_badRow _
    · exact .ok limit

theorem failsAsServer_rulePrivilege (row : Row) : FailsAsServer row.rulePrivilege := by
  refine (row.failsAsServer_text _).bind fun raw => ?_
  split
  · exact .ok _
  · exact failsAsServer_badRow _

end Row

theorem ObservedRole.failsAsServer_ofRow (row : Row) : FailsAsServer (ofRow row) := by
  unfold ofRow
  refine row.failsAsServer_connectionLimit.bind fun _ => ?_
  refine (row.failsAsServer_text _).bind fun _ => ?_
  iterate 6 refine (row.failsAsServer_bool _).bind fun _ => ?_
  refine (row.failsAsServer_text _).bind fun _ => ?_
  refine (row.failsAsServer_bool? _).bind fun _ => ?_
  exact (row.failsAsServer_texts _).bind fun _ => .ok _

theorem failsAsServer_passwordHashOf (result : ResultTable) :
    FailsAsServer (passwordHashOf result) := by
  unfold passwordHashOf
  split
  · exact .ok none
  · exact Row.failsAsServer_text? _ _

theorem Policies.failsAsServer_ofResult (result : ResultTable) :
    FailsAsServer (ofResult result) := by
  refine .foldlM (fun policies row => ?_) _ _
  refine (row.failsAsServer_text _).bind fun raw => ?_
  split
  · exact .ok policies
  · refine (row.failsAsServer_text _).bind fun grantee => ?_
    exact (row.failsAsServer_bool _).bind fun grantable => .ok _

theorem Rule.failsAsServer_ofResult (key : RuleKey) (result : ResultTable) :
    FailsAsServer (ofResult key result) := by
  unfold ofResult
  split
  · exact .ok none
  · exact (FailsOnly.mapM Row.failsAsServer_rulePrivilege _).bind fun _ => .ok _

theorem InstalledExtension.failsAsServer_ofRow (database : String) (row : Row) :
    FailsAsServer (ofRow database row) := by
  unfold ofRow
  iterate 3 refine (row.failsAsServer_text _).bind fun _ => ?_
  exact (row.failsAsServer_text? _).bind fun _ => .ok _

/-! ## Reading in a session -/

/-- All failures of the operation are about connections and queries. -/
abbrev Run.FailsAsServer (m : Run σ α) : Prop :=
  m.FailsOnly fun e => e.isOfServer = true

theorem Context.failsAsServer_session {ctx : Context σ} (h : ctx.server.PlainErrors)
    (database : String) : (ctx.session database).FailsAsServer :=
  .bind (.reaction fun _ _ => h.connect) fun _ => .pure _

namespace Session

variable {session : Session σ}

theorem failsAsServer_query (h : session.server.PlainErrors) (q : Query) :
    (session.query q).FailsAsServer :=
  .reaction fun _ _ => h.query

theorem failsAsServer_exists? (h : session.server.PlainErrors) (q : Query) :
    (session.exists? q).FailsAsServer :=
  (failsAsServer_query h q).bind fun _ => .pure _

theorem failsAsServer_knownRole? (h : session.server.PlainErrors) (ctx : Context σ) (name : String)
    (lastKnown : Option DeclaredRole) : (session.knownRole? ctx name lastKnown).FailsAsServer := by
  have hrole : (session.role? name ctx.dialect ctx.facts.isSuperuser).FailsAsServer := by
    refine (failsAsServer_query h _).bind fun table => ?_
    split
    · exact .pure none
    · refine .bind (.ofExcept (ObservedRole.failsAsServer_ofRow _)) fun state => ?_
      split
      · refine (failsAsServer_query h _).bind fun hashes => ?_
        exact .bind (.ofExcept (failsAsServer_passwordHashOf hashes)) fun _ => .pure _
      · exact .pure _
  exact hrole.bind fun _ => .pure _

theorem failsAsServer_schema? (h : session.server.PlainErrors) (database name : String) :
    (session.schema? database name).FailsAsServer := by
  refine (failsAsServer_query h _).bind fun table => ?_
  split
  · exact .pure none
  · next row _ =>
    refine .bind (.ofExcept (row.failsAsServer_text _)) fun found => ?_
    refine .bind (.ofExcept (row.failsAsServer_text _)) fun owner => ?_
    refine (failsAsServer_query h _).bind fun grants => ?_
    exact .bind (.ofExcept (Policies.failsAsServer_ofResult grants)) fun _ => .pure _

theorem failsAsServer_rule? (h : session.server.PlainErrors) (key : RuleKey) :
    (session.rule? key).FailsAsServer :=
  (failsAsServer_query h _).bind fun table => .ofExcept (Rule.failsAsServer_ofResult key table)

theorem failsAsServer_extension? (h : session.server.PlainErrors) (database name : String) :
    (session.extension? database name).FailsAsServer := by
  refine (failsAsServer_query h _).bind fun table => ?_
  split
  · exact .pure none
  · exact .bind (.ofExcept (InstalledExtension.failsAsServer_ofRow _ _)) fun _ => .pure _

end Session

/-! ## Quiet rejections -/

/-- The operation does not reject what it is asked for. -/
abbrev Run.NeverRejects (m : Run σ α) : Prop :=
  m.FailsOnly fun e => e.isRejection = false

theorem Run.FailsOnly.neverRejects {m : Run σ α} (h : m.FailsAsServer) : m.NeverRejects :=
  h.mono fun _ => Error.isRejection_of_isOfServer

/-- The errors of a transaction are about a statement or about the commit. -/
theorem Session.neverRejects_apply (session : Session σ) (plan : Plan) :
    (session.apply plan).NeverRejects := by
  intro s e t hrun
  obtain ⟨given, r, t', hresult, -, ht⟩ := session.apply_transaction plan s
  obtain ⟨rfl, -⟩ := Prod.mk.inj (hrun.symm.trans hresult)
  cases ht <;> rfl

/-- The operation gives no command if it rejects what it is asked for. -/
def Run.RejectsQuietly (m : Run σ α) (server : Server σ) : Prop :=
  ∀ s e t, m.result s = (.error (.failed e), t) → e.isRejection = true → server.Quiet s t

namespace Run

variable {server : Server σ}

theorem QuietOn.rejectsQuietly {m : Run σ α} (h : m.QuietOn server) : m.RejectsQuietly server :=
  fun _ _ _ hrun _ => h.of_result hrun

theorem FailsOnly.rejectsQuietly {m : Run σ α} (h : m.NeverRejects) : m.RejectsQuietly server := by
  intro s e t hrun he
  rw [h s e t hrun] at he
  exact nomatch he

theorem RejectsQuietly.bind {m : Run σ α} {f : α → Run σ β} (h : m.QuietOn server)
    (hf : ∀ a, (f a).RejectsQuietly server) : (m >>= f).RejectsQuietly server := by
  intro s e u hrun he
  have hs := h s
  rcases hm : m.result s with ⟨halt | a, t⟩
  · rw [hm] at hs
    rw [result_bind_of_error hm] at hrun
    obtain ⟨-, rfl⟩ := Prod.mk.inj hrun
    exact hs
  · rw [hm] at hs
    rw [result_bind_of_ok hm] at hrun
    exact hs.trans (hf a t e u hrun he)

/-- A check in front of an operation rejects quietly. -/
theorem RejectsQuietly.liftM_bind {x : Except Error α} {f : α → Run σ β}
    (hf : ∀ a, x = .ok a → (f a).RejectsQuietly server) :
    ((liftM x : Run σ α) >>= f).RejectsQuietly server := by
  cases x with
  | ok a => exact hf a rfl
  | error e => exact (quietOn_throw server (.failed e)).rejectsQuietly

end Run

end Accord
