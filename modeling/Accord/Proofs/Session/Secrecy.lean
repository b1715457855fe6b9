import Accord.Lifecycle.Role
import Accord.Proofs.Role.Secrecy

/-!
# Reading on two servers

What is read on two servers that only differ in the hashes of passwords.  Schemas, rules and
extensions are the same on both, and roles differ in nothing but what is known of their passwords
(`Session.SameButHashes.knownRole?`).
-/

namespace Accord

variable {σ τ : Type} {R : σ → τ → Prop}

/-! ## Hashes of passwords -/

/-- The row without the texts in it. -/
def Row.hideTexts (row : Row) : Row :=
  { row with values := row.values.map Json.hideText }

theorem ResultTable.first?_hideTexts (table : ResultTable) :
    table.hideTexts.first? = table.first?.map Row.hideTexts := by
  rcases table with ⟨columns, _ | ⟨values, rows⟩⟩ <;> rfl

theorem Row.value_hideTexts (row : Row) (column : String) :
    row.hideTexts.value column = (row.value column).map Json.hideText := by
  unfold value hideTexts
  dsimp only
  cases hi : row.columns.idxOf? column with
  | none => rfl
  | some i =>
    rw [Option.bind_some, Option.bind_some, List.getElem?_map]
    cases row.values[i]? <;> rfl

theorem Row.text?_hideTexts (row : Row) (column : String) :
    row.hideTexts.text? column = (row.text? column).map (Option.map fun _ => "") := by
  unfold text?
  rw [value_hideTexts]
  cases row.value column with
  | error e => rfl
  | ok v => cases v <;> rfl

theorem passwordHashOf_hideTexts (table : ResultTable) :
    passwordHashOf table.hideTexts = (passwordHashOf table).map (Option.map fun _ => "") := by
  unfold passwordHashOf
  rw [ResultTable.first?_hideTexts]
  cases table.first? with
  | none => rfl
  | some row => exact row.text?_hideTexts "passwd"

/-! ## Reading in a session -/

namespace Session.SameButHashes

variable {session : Session σ} {session' : Session τ}

theorem role? (h : session.SameButHashes R session') (name : String) (dialect : Dialect)
    (withHash : Bool) :
    Run.Alike R (Option.Rel fun r r' => r.hidePassword = r'.hidePassword)
      (session.role? name dialect withHash) (session'.role? name dialect withHash) := by
  unfold Session.role?
  refine (h.query_eq fun _ => rfl).bind_eq fun table => ?_
  cases table.first? with
  | none => exact Run.alike_pure .none
  | some row =>
    refine Run.alike_liftM_bind _ fun state => ?_
    cases withHash with
    | false => exact Run.alike_pure (.some rfl)
    | true =>
      refine (h.query (.passwordHash name)).bind fun table table' htable => ?_
      have hhash : (passwordHashOf table).map (Option.map fun _ => "") =
          (passwordHashOf table').map (Option.map fun _ => "") := by
        rw [← passwordHashOf_hideTexts, ← passwordHashOf_hideTexts]
        exact congrArg passwordHashOf htable
      exact (Run.alike_liftM (.of_map_eq hhash)).bind fun _ _ _ => Run.alike_pure (.some rfl)

theorem knownRole? (h : session.SameButHashes R session') (ctx : Context σ) (server : Server τ)
    (name : String) {last last' : Option DeclaredRole}
    (hlast : Option.Rel DeclaredRole.SameButPassword last last') :
    Run.Alike R
      (Option.Rel (ObservedRole.SameButPasswords (last.bind DeclaredRole.password)
        (last'.bind DeclaredRole.password)))
      (session.knownRole? ctx name last) (session'.knownRole? (ctx.on server) name last') := by
  have hbypass : last.bind DeclaredRole.bypassRowLevelSecurity =
      last'.bind DeclaredRole.bypassRowLevelSecurity := by
    cases hlast with
    | none => rfl
    | some hspec =>
      obtain ⟨password, rfl⟩ := hspec.exists_eq
      rfl
  unfold Session.knownRole?
  refine (h.role? name ctx.dialect ctx.facts.isSuperuser).bind fun found found' hfound => ?_
  apply Run.alike_pure
  cases hfound with
  | none => exact .none
  | some hr =>
    refine .some ⟨?_, rfl, rfl⟩
    rw [hbypass]
    exact congrArg (fun o : ObservedRole => { o with
      bypassRowLevelSecurity := if ctx.dialect.supports .rowLevelSecurity then
        o.bypassRowLevelSecurity
      else some ((last'.bind DeclaredRole.bypassRowLevelSecurity).getD false) }) hr

theorem schema? (h : session.SameButHashes R session') (database name : String) :
    Run.Alike R Eq (session.schema? database name) (session'.schema? database name) := by
  unfold Session.schema?
  refine (h.query_eq fun _ => rfl).bind_eq fun table => ?_
  cases table.first? with
  | none => exact Run.alike_pure rfl
  | some row =>
    refine Run.alike_liftM_bind _ fun found => ?_
    refine Run.alike_liftM_bind _ fun owner => ?_
    refine (h.query_eq fun _ => rfl).bind_eq fun grants => ?_
    refine Run.alike_liftM_bind _ fun policies => ?_
    exact Run.alike_pure rfl

theorem rule? (h : session.SameButHashes R session') (key : RuleKey) :
    Run.Alike R Eq (session.rule? key) (session'.rule? key) := by
  unfold Session.rule?
  refine (h.query_eq fun _ => rfl).bind_eq fun table => ?_
  exact Run.alike_ofExcept (.refl _)

theorem extension? (h : session.SameButHashes R session') (database name : String) :
    Run.Alike R Eq (session.extension? database name) (session'.extension? database name) := by
  unfold Session.extension?
  refine (h.query_eq fun _ => rfl).bind_eq fun table => ?_
  cases table.first? with
  | none => exact Run.alike_pure rfl
  | some row =>
    refine Run.alike_liftM_bind _ fun found => ?_
    exact Run.alike_pure rfl

end Session.SameButHashes

end Accord
