import Accord.Proofs.Role.Convergence
import Accord.Proofs.Role.Part
import Accord.Proofs.Statement.Tokens

/-!
# Names and texts in statements about roles

The statement that creates a role and the statements for changes of a role carry the names and texts
of the declaration.  Their form depends on the rest of it, and on no more of a text than whether it
is there, whether an expiry is empty, and whether a password stands for having none.
-/

namespace Accord

open Sql

/-- The text of a declared password, unless it stands for having none. -/
def DeclaredRole.passwordArguments (spec : DeclaredRole) : List Token :=
  if spec.removesPassword then [] else (spec.password.map Token.text).toList

/-- The names and texts in the statement that creates a role. -/
def DeclaredRole.creationArguments (spec : DeclaredRole) : List Token :=
  .name spec.name :: (if spec.validUntil = "" then [] else [.text spec.validUntil])
    ++ spec.passwordArguments

/-- The names and texts in the statement for a change. -/
def RoleChange.arguments (spec : DeclaredRole) : RoleChange → List Token
  | .rename old new => [.name old, .name new]
  | .attribute _ => [.name spec.name]
  | .password => .name spec.name :: spec.passwordArguments
  | .validUntil expiry => [.name spec.name, .text expiry]
  | .revokeMembership group | .grantMembership group => [.name group, .name spec.name]

/-- The change without the names and texts in it. -/
def RoleChange.form : RoleChange → RoleChange
  | .rename .. => .rename "" ""
  | .validUntil _ => .validUntil ""
  | .revokeMembership _ => .revokeMembership ""
  | .grantMembership _ => .grantMembership ""
  | c => c

theorem RoleChange.eq_of_form_attribute {c : RoleChange} {a : AttributeValue}
    (h : c.form = .attribute a) : c = .attribute a := by
  cases c <;> first | exact h | cases h

/-- Two declarations differ in nothing but names and texts.  Whether there is an expiry or a
password, and whether the password is removed, is the same for both. -/
structure DeclaredRole.SameForm (spec spec' : DeclaredRole) : Prop where
  flag : spec.flag = spec'.flag
  connectionLimit : spec.connectionLimit = spec'.connectionLimit
  encryptedPassword : spec.encryptedPassword = spec'.encryptedPassword
  expiry : spec.validUntil = "" ↔ spec'.validUntil = ""
  password : spec.password.isSome = spec'.password.isSome
  removesPassword : spec.removesPassword = spec'.removesPassword

namespace DeclaredRole

variable {spec spec' : DeclaredRole} {dialect : Dialect} {clause : Option PasswordClause}

/-! ## Passwords -/

theorem arguments_passwordClause (h : spec.passwordClause dialect = .ok clause) :
    (clause.map PasswordClause.arguments).getD [] = spec.passwordArguments := by
  have hclause := passwordClause_ok.1 h
  unfold passwordArguments
  cases hp : spec.password with
  | none =>
    have hkeeps : spec.removesPassword = false := by simp [removesPassword, hp]
    rw [hp] at hclause
    dsimp only at hclause
    rw [hclause, hkeeps]
    rfl
  | some p =>
    rw [hp] at hclause
    dsimp only at hclause
    by_cases hremoves : spec.removesPassword = true
    · rw [if_pos hremoves] at hclause
      rw [if_pos hremoves, hclause]
      rfl
    · rw [if_neg hremoves] at hclause
      rw [if_neg hremoves]
      by_cases hencrypted : spec.encryptedPassword = true
      · rw [if_pos hencrypted] at hclause
        rw [hclause]
        rfl
      · rw [if_neg hencrypted] at hclause
        rw [hclause.2]
        rfl

theorem SameForm.passwordClause (h : spec.SameForm spec') (dialect : Dialect) :
    SameOutcome (fun c c' => c.map PasswordClause.form = c'.map PasswordClause.form)
      (spec.passwordClause dialect) (spec'.passwordClause dialect) := by
  have hpassword := h.password
  unfold DeclaredRole.passwordClause
  rw [h.removesPassword, h.encryptedPassword]
  cases hp : spec.password with
  | none =>
    cases hp' : spec'.password with
    | none => exact .ok rfl
    | some p' => simp [hp, hp'] at hpassword
  | some p =>
    cases hp' : spec'.password with
    | none => simp [hp, hp'] at hpassword
    | some p' =>
      dsimp only
      by_cases hremoves : spec'.removesPassword = true
      · rw [if_pos hremoves, if_pos hremoves]
        exact .ok rfl
      · rw [if_neg hremoves, if_neg hremoves]
        by_cases hencrypted : spec'.encryptedPassword = true
        · rw [if_pos hencrypted, if_pos hencrypted]
          exact .ok rfl
        · rw [if_neg hencrypted, if_neg hencrypted]
          exact SameOutcome.bind_eq fun _ => .ok rfl

/-! ## Creating a role -/

theorem isQuoted_of_leadsTo {s : RoleSetting} (h : s.LeadsTo spec) : s.IsQuoted := by
  cases s with
  | other what option sensitive => exact h
  | _ => trivial

theorem arguments_settings (spec : DeclaredRole) (clause : Option PasswordClause) :
    (spec.settings clause).flatMap RoleSetting.arguments =
      (if spec.validUntil = "" then [] else [.text spec.validUntil])
        ++ (clause.map PasswordClause.arguments).getD [] := by
  unfold settings
  cases spec.bypassRowLevelSecurity <;> cases clause <;>
    by_cases hexpiry : spec.validUntil = "" <;> simp [RoleSetting.arguments, hexpiry]

theorem SameForm.settings (h : spec.SameForm spec') {clause' : Option PasswordClause}
    (hclause : clause'.map PasswordClause.form = clause.map PasswordClause.form) :
    (spec'.settings clause').map RoleSetting.form =
      (spec.settings clause).map RoleSetting.form := by
  have hflag : ∀ f, spec'.flag f = spec.flag f := fun f => (congrFun h.flag f).symm
  have hbypass : spec'.bypassRowLevelSecurity = spec.bypassRowLevelSecurity :=
    hflag .bypassRowLevelSecurity
  have hexpiry : ∀ r : DeclaredRole,
      (if r.validUntil = "" then [] else [RoleSetting.validUntil r.validUntil]).map
        RoleSetting.form = if r.validUntil = "" then [] else [.validUntil ""] := by
    intro r
    by_cases hr : r.validUntil = "" <;> simp [hr, RoleSetting.form]
  have hpassword : ∀ c : Option PasswordClause,
      (c.map RoleSetting.password).toList.map RoleSetting.form =
        ((c.map PasswordClause.form).map RoleSetting.password).toList := by
    intro c
    cases c <;> rfl
  unfold DeclaredRole.settings
  simp only [List.map_append, hexpiry]
  simp only [hpassword, hclause, hbypass, h.expiry, h.connectionLimit,
    Option.some.inj (hflag .superuser),
    Option.some.inj (hflag .createDatabase), Option.some.inj (hflag .createRole),
    Option.some.inj (hflag .inherit), Option.some.inj (hflag .login),
    Option.some.inj (hflag .replication)]

/-- The statement that creates a role carries its names and texts, and nothing else in it depends on
them. -/
theorem creation_form {c : Statement} (hc : spec.creation dialect = .ok c) :
    c.IsQuoted ∧ c.arguments = spec.creationArguments ∧
      ∀ spec', spec.SameForm spec' → ∃ c', spec'.creation dialect = .ok c' ∧ c'.form = c.form := by
  obtain ⟨hsupports, password, hpassword, rfl⟩ := creation_eq_ok.1 hc
  refine ⟨fun s hs => isQuoted_of_leadsTo (leadsTo_of_mem_settings hs), ?_, fun spec' h => ?_⟩
  · unfold creationArguments
    rw [← arguments_passwordClause hpassword, List.cons_append, ← arguments_settings]
    rfl
  · obtain ⟨clause', hclause', hform⟩ := (h.passwordClause dialect).exists_of_ok hpassword
    have hbypass : spec.bypassRowLevelSecurity = spec'.bypassRowLevelSecurity :=
      congrFun h.flag .bypassRowLevelSecurity
    rw [hbypass] at hsupports
    refine ⟨_, creation_eq_ok.2 ⟨hsupports, clause', hclause', rfl⟩, ?_⟩
    exact congrArg (Statement.createRole "" _) (h.settings hform.symm)

/-! ## Changing a role -/

theorem arguments_statement? {change : RoleChange} {c : Statement}
    (hc : change.statement? spec dialect = .ok (some c)) :
    c.IsQuoted ∧ c.arguments = change.arguments spec := by
  have hcases := statement?_cases hc
  rcases change with ⟨old, new⟩ | (⟨f, on⟩ | limit) | _ | e | g | g
  case password =>
    obtain ⟨clause, hclause, rfl⟩ := hcases
    exact ⟨trivial, congrArg (Token.name spec.name :: ·) (arguments_passwordClause hclause)⟩
  all_goals
    dsimp only at hcases
    rw [hcases]
    exact ⟨trivial, rfl⟩

theorem SameForm.statement? (h : spec.SameForm spec') (dialect : Dialect)
    {change change' : RoleChange} (hform : change'.form = change.form) :
    SameOutcome (fun c c' => c.map Statement.form = c'.map Statement.form)
      (change.statement? spec dialect) (change'.statement? spec' dialect) := by
  rcases change with ⟨old, new⟩ | (⟨f, on⟩ | limit) | _ | e | g | g
  case attribute.flag =>
    obtain rfl := RoleChange.eq_of_form_attribute hform
    simp only [RoleChange.statement?]
    by_cases hf : f = .bypassRowLevelSecurity
    · rw [if_pos hf, if_pos hf]
      exact SameOutcome.bind_eq fun _ => .ok rfl
    · rw [if_neg hf, if_neg hf]
      exact .ok rfl
  case attribute.connectionLimit =>
    obtain rfl := RoleChange.eq_of_form_attribute hform
    exact .ok rfl
  case password =>
    cases change' with
    | password =>
      refine (h.passwordClause dialect).bind fun clause clause' hclause => .ok ?_
      have hmap := congrArg (Option.map fun c => Statement.alterRole "" (.password c)) hclause
      rw [Option.map_map, Option.map_map] at hmap ⊢
      exact hmap
    | _ => cases hform
  all_goals cases change' <;> first | exact .ok rfl | cases hform

/-- The statement for a change carries its names and texts, and nothing else in it depends on
them. -/
theorem statement?_form {change : RoleChange} {c : Statement}
    (hc : change.statement? spec dialect = .ok (some c)) :
    c.IsQuoted ∧ c.arguments = change.arguments spec ∧
      ∀ (change' : RoleChange) (spec' : DeclaredRole), change'.form = change.form →
        spec.SameForm spec' →
          ∃ c', change'.statement? spec' dialect = .ok (some c') ∧ c'.form = c.form := by
  obtain ⟨hquoted, harguments⟩ := arguments_statement? hc
  refine ⟨hquoted, harguments, fun change' spec' hform hspec => ?_⟩
  obtain ⟨s', hs', hsame⟩ := (hspec.statement? dialect hform).exists_of_ok hc
  obtain ⟨c', rfl, hc'⟩ : ∃ c', s' = some c' ∧ c'.form = c.form :=
    Option.map_eq_some_iff.1 hsame.symm
  exact ⟨c', hs', hc'⟩

end DeclaredRole

/-! ## What the server reads -/

/-- Nothing that is quoted gets out of its quotes.

In every statement but one that was given in words of its own, under either setting of the server,
the quoted tokens are the names and texts of the statement, and all other tokens are the same for
all names and texts.  The statements that create or change a role have the names and texts of the
declaration in them, and the rest of their form depends on the rest of the declaration. -/
theorem Statement.quotes_never_escape :
    (∀ s : Statement, s.IsQuoted → ∀ conforming : Bool,
      ∃ ts, Sql.lex conforming s.sql = some ts ∧ ts.filter Token.isQuoted = s.arguments ∧
        ∀ (s' : Statement) (conforming' : Bool), s'.form = s.form →
          ∃ ts', Sql.lex conforming' s'.sql = some ts' ∧
            ts'.map Token.hide = ts.map Token.hide) ∧
    (∀ (spec : DeclaredRole) (dialect : Dialect) (c : Statement),
      spec.creation dialect = .ok c → c.IsQuoted ∧ c.arguments = spec.creationArguments ∧
        ∀ spec', spec.SameForm spec' →
          ∃ c', spec'.creation dialect = .ok c' ∧ c'.form = c.form) ∧
    ∀ (spec : DeclaredRole) (dialect : Dialect) (change : RoleChange) (c : Statement),
      change.statement? spec dialect = .ok (some c) →
        c.IsQuoted ∧ c.arguments = change.arguments spec ∧
          ∀ (change' : RoleChange) (spec' : DeclaredRole), change'.form = change.form →
            spec.SameForm spec' →
              ∃ c', change'.statement? spec' dialect = .ok (some c') ∧ c'.form = c.form :=
  ⟨fun _ hs conforming => lex_sql hs conforming,
    fun _ _ _ hc => DeclaredRole.creation_form hc,
    fun _ _ _ _ hc => DeclaredRole.statement?_form hc⟩

/-- A role whose name, expiry and password try to end their quotes. -/
def intruder : DeclaredRole :=
  { DeclaredRole.named "x\"; DROP ROLE y; --" with
    validUntil := "'; DROP ROLE y; --", password := some "\\'; DROP ROLE y; --" }

/-- The server reads one statement, with the name and the texts as they are. -/
theorem quotes_never_escape_intruder : ∃ c ts,
    intruder.creation ⟨⟨16, 0, 0⟩⟩ = .ok c ∧ Sql.lex false c.sql = some ts ∧
      ts.filter Token.isQuoted = [.name "x\"; DROP ROLE y; --", .text "'; DROP ROLE y; --",
        .text "\\'; DROP ROLE y; --"] ∧
      .symbol ';' ∉ ts := by
  have hcreated : (intruder.creation ⟨⟨16, 0, 0⟩⟩).toOption.map Statement.tokens = some
      (words ["CREATE", "ROLE"] ++ [.name "x\"; DROP ROLE y; --"] ++ words ["WITH", "NOSUPERUSER",
        "NOCREATEDB", "NOCREATEROLE", "INHERIT", "NOLOGIN", "NOREPLICATION", "CONNECTION", "LIMIT"]
        ++ [.symbol '-', .number "1"] ++ words ["VALID", "UNTIL"] ++ [.text "'; DROP ROLE y; --"]
        ++ words ["ENCRYPTED", "PASSWORD"] ++ [.text "\\'; DROP ROLE y; --"]) := by
    decide +kernel
  obtain ⟨c, hc, htokens⟩ := Option.map_eq_some_iff.1 hcreated
  have hc := Except.eq_ok_of_toOption hc
  obtain ⟨hread, hcreation, -⟩ := Statement.quotes_never_escape
  obtain ⟨hquoted, harguments, -⟩ := hcreation intruder _ c hc
  obtain ⟨ts, hlex, hts, -⟩ := hread c hquoted false
  refine ⟨c, ts, hc, hlex, ?_, ?_⟩
  · rw [hts, harguments]
    decide +kernel
  · have hreads := lex_of_reads (Statement.reads_sql hquoted) false
    obtain rfl := Option.some.inj (hlex.symm.trans hreads)
    rw [htokens]
    decide +kernel

end Accord
