import Accord.Proofs.Sql.Lexer
import Accord.Statement.Basic

/-!
# What the server reads in a statement

`Statement.tokens` is what the server makes of a statement (`Statement.reads_sql`), whatever the
names and texts in it are.  They stand in it as they are, each as one token, and no other token
depends on them (`Statement.tokens_form`).  So nothing that is quoted is ever taken for a keyword or
for punctuation.
-/

namespace Accord

open Sql

/-! ## Tokens of statements -/

/-- Some keywords. -/
def Sql.words (l : List String) : List Token :=
  l.map .word

namespace Sql.Token

/-- Whether the token was given in quotes. -/
@[simp]
def isQuoted : Token → Bool
  | .name _ | .text _ => true
  | _ => false

/-- The token without what was given in quotes. -/
@[simp]
def hide : Token → Token
  | .name _ => .name ""
  | .text _ => .text ""
  | t => t

end Sql.Token

/-- What the server reads of a password clause. -/
def PasswordClause.tokens : PasswordClause → List Token
  | .clear => words ["PASSWORD", "NULL"]
  | .encrypted password => words ["ENCRYPTED", "PASSWORD"] ++ [.text password]
  | .unencrypted password => words ["UNENCRYPTED", "PASSWORD"] ++ [.text password]

/-- What the server reads of a setting; nothing of one in words of its own. -/
def RoleSetting.tokens : RoleSetting → List Token
  | .flag f on => words [Sql.switch f.keyword on]
  | .connectionLimit limit => words ["CONNECTION", "LIMIT"] ++ Token.ofInt limit
  | .validUntil expiry => words ["VALID", "UNTIL"] ++ [.text expiry]
  | .password clause => clause.tokens
  | .other .. => []

/-- Privileges between commas. -/
def Privilege.tokens (l : List Privilege) : List Token :=
  (l.map fun p => Token.word p.sql).intersperse (.symbol ',')

namespace Statement

/-- What the server reads; nothing of a statement in words of its own. -/
def tokens : Statement → List Token
  | .createRole name spelled settings =>
    words ["CREATE", "ROLE"] ++ [.name name] ++ words (if spelled then ["WITH"] else [])
      ++ settings.flatMap RoleSetting.tokens
  | .renameRole old new =>
    words ["ALTER", "ROLE"] ++ [.name old] ++ words ["RENAME", "TO"] ++ [.name new]
  | .alterRole role setting =>
    words ["ALTER", "ROLE"] ++ [.name role] ++ words ["WITH"] ++ setting.tokens
  | .grantMembership group role => words ["GRANT"] ++ [.name group] ++ words ["TO"] ++ [.name role]
  | .revokeMembership group role =>
    words ["REVOKE"] ++ [.name group] ++ words ["FROM"] ++ [.name role]
  | .reassignOwned role heir =>
    words ["REASSIGN", "OWNED", "BY"] ++ [.name role] ++ words ["TO"]
      ++ (match heir with
        | none => words ["CURRENT_USER"]
        | some user => [.name user])
  | .dropOwned role => words ["DROP", "OWNED", "BY"] ++ [.name role]
  | .dropRole role => words ["DROP", "ROLE"] ++ [.name role]
  | .createSchema name owner tolerant =>
    words ["CREATE", "SCHEMA"] ++ words (if tolerant then ["IF", "NOT", "EXISTS"] else [])
      ++ [.name name]
      ++ (match owner with
        | none => []
        | some owner => words ["AUTHORIZATION"] ++ [.name owner])
  | .renameSchema old new =>
    words ["ALTER", "SCHEMA"] ++ [.name old] ++ words ["RENAME", "TO"] ++ [.name new]
  | .alterSchemaOwner schema owner =>
    words ["ALTER", "SCHEMA"] ++ [.name schema] ++ words ["OWNER", "TO"] ++ [.name owner]
  | .grantSchema schema role privilege withGrantOption =>
    words ["GRANT", privilege.sql, "ON", "SCHEMA"] ++ [.name schema] ++ words ["TO"] ++ [.name role]
      ++ words (if withGrantOption then ["WITH", "GRANT", "OPTION"] else [])
  | .revokeSchema schema role privilege =>
    words ["REVOKE", privilege.sql, "ON", "SCHEMA"] ++ [.name schema] ++ words ["FROM"]
      ++ [.name role]
  | .revokeAllSchema schema role =>
    words ["REVOKE", "ALL", "ON", "SCHEMA"] ++ [.name schema] ++ words ["FROM"] ++ [.name role]
  | .dropSchema name cascade =>
    words ["DROP", "SCHEMA"] ++ [.name name] ++ words [if cascade then "CASCADE" else "RESTRICT"]
  | .grantDefaults owner schema type privileges role =>
    words ["ALTER", "DEFAULT", "PRIVILEGES", "FOR", "ROLE"] ++ [.name owner]
      ++ words ["IN", "SCHEMA"] ++ [.name schema] ++ words ["GRANT"] ++ Privilege.tokens privileges
      ++ words ["ON"] ++ words [type.plural] ++ words ["TO"] ++ [.name role]
  | .revokeDefaults owner schema type privileges role =>
    words ["ALTER", "DEFAULT", "PRIVILEGES", "FOR", "ROLE"] ++ [.name owner]
      ++ words ["IN", "SCHEMA"] ++ [.name schema] ++ words ["REVOKE"]
      ++ (match privileges with
        | none => words ["ALL"]
        | some l => Privilege.tokens l)
      ++ words ["ON"] ++ words [type.plural] ++ words ["FROM"] ++ [.name role]
  | .createExtension name schema version =>
    words ["CREATE", "EXTENSION"] ++ [.name name]
      ++ (match schema with
        | none => []
        | some schema => words ["SCHEMA"] ++ [.name schema])
      ++ (match version with
        | none => []
        | some version => words ["VERSION"] ++ [.text version])
  | .moveExtension name schema =>
    words ["ALTER", "EXTENSION"] ++ [.name name] ++ words ["SET", "SCHEMA"] ++ [.name schema]
  | .updateExtension name version =>
    words ["ALTER", "EXTENSION"] ++ [.name name] ++ words ["UPDATE", "TO"] ++ [.text version]
  | .dropExtension name => words ["DROP", "EXTENSION"] ++ [.name name]
  | .verbatim .. => []

end Statement

/-! ## Reading statements -/

/-- Nothing in the setting is in the words of the server. -/
def RoleSetting.IsQuoted : RoleSetting → Prop
  | .other .. => False
  | _ => True

/-- Nothing in the statement is in the words of the server. -/
def Statement.IsQuoted : Statement → Prop
  | .createRole _ _ settings => ∀ s ∈ settings, s.IsQuoted
  | .alterRole _ setting => setting.IsQuoted
  | .verbatim .. => False
  | _ => True

theorem RoleSetting.reads_option {s : RoleSetting} (h : s.IsQuoted) : Reads s.option s.tokens := by
  have hpassword : ∀ {keywords : String} {ts : List Token} (password : String),
      ReadsOpen keywords ts → Reads (keywords ++ literal password) (ts ++ [.text password]) :=
    fun password hkeywords => hkeywords.append (reads_literal password)
  cases s with
  | flag f on =>
    cases f <;> cases on <;> exact reads_of_lex (by decide +kernel)
  | connectionLimit limit =>
    have hkeywords : ReadsOpen "CONNECTION LIMIT " (words ["CONNECTION", "LIMIT"]) :=
      readsOpen_of_lex (by decide +kernel)
    exact hkeywords.append (reads_int limit)
  | validUntil expiry => exact hpassword expiry (readsOpen_of_lex (by decide +kernel))
  | password clause =>
    cases clause with
    | clear => exact reads_of_lex (by decide +kernel)
    | encrypted password => exact hpassword password (readsOpen_of_lex (by decide +kernel))
    | unencrypted password => exact hpassword password (readsOpen_of_lex (by decide +kernel))
  | other what option sensitive => exact h.elim

theorem Sql.readsOpen_blank : ReadsOpen " " [] :=
  readsOpen_of_lex (by decide +kernel)

/-- Settings are read one after another. -/
theorem RoleSetting.reads_options {settings : List RoleSetting} (h : ∀ s ∈ settings, s.IsQuoted) :
    Reads (String.intercalate " " (settings.map option)) (settings.flatMap tokens) := by
  cases settings with
  | nil => exact reads_of_lex (by decide +kernel)
  | cons s settings =>
    induction settings generalizing s with
    | nil =>
      rw [List.map_singleton, String.intercalate_singleton, List.flatMap_singleton]
      exact reads_option (h s (List.mem_cons_self ..))
    | cons s' settings ih =>
      have hfirst := reads_option (h s (List.mem_cons_self ..))
      have hblank := hfirst.append_open readsOpen_blank (by decide +kernel)
      rw [List.append_nil] at hblank
      rw [List.map_cons, List.map_cons, String.intercalate_cons_cons, List.flatMap_cons]
      exact hblank.append (ih s' fun t ht => h t (List.mem_cons_of_mem _ ht))

/-- Privileges are read with the commas between them. -/
theorem Statement.reads_privilegeList (l : List Privilege) :
    Reads (privilegeList l) (Privilege.tokens l) := by
  have hprivilege : ∀ p : Privilege, Reads p.sql [.word p.sql] := by
    intro p
    cases p <;> exact reads_of_lex (by decide +kernel)
  have hcomma : ReadsOpen "," [.symbol ','] := by
    intro conforming before rest
    exact LexState.lex_start.trans (LexState.lex_finish rfl fun c hc => rfl)
  cases l with
  | nil => exact reads_of_lex (by decide +kernel)
  | cons p l =>
    induction l generalizing p with
    | nil => exact hprivilege p
    | cons p' l ih =>
      unfold privilegeList
      rw [List.map_cons, List.map_cons, String.intercalate_cons_cons]
      exact ((hprivilege p).append_open hcomma (by decide +kernel)).append (ih p')

namespace Statement

/-- A clause that may be left out. -/
theorem reads_clause {keyword : String} {quote : String → String} {ts : List Token}
    {token : String → Token} (hkeyword : ReadsOpen keyword ts)
    (hquote : ∀ x, Reads (quote x) [token x]) (x : Option String) :
    Reads (clause keyword quote x)
      (match x with
        | none => []
        | some x => ts ++ [token x]) := by
  cases x with
  | none => exact fun conforming before rest _ => by rw [List.append_nil]; rfl
  | some x => exact hkeyword.append (hquote x)

theorem separated_clause {keyword : String} {quote : String → String}
    (h : keyword.toList.head?.any isSeparator = true) (x : Option String) :
    Separated (clause keyword quote x).toList := by
  cases x with
  | none => exact fun c hc => by cases hc
  | some x =>
    obtain ⟨d, hd, hsep⟩ := (Option.any_eq_true _ _).1 h
    intro c hc
    rw [clause, String.toList_append, List.head?_append, hd, Option.some_or] at hc
    exact Option.some.inj hc ▸ hsep

/-- The beginning of a statement about default privileges. -/
theorem reads_creator (owner schema : String) :
    Reads ("ALTER DEFAULT PRIVILEGES FOR ROLE " ++ identifier owner ++ " IN SCHEMA "
        ++ identifier schema)
      (words ["ALTER", "DEFAULT", "PRIVILEGES", "FOR", "ROLE"] ++ [.name owner]
        ++ words ["IN", "SCHEMA"] ++ [.name schema]) :=
  (reads_name (by decide +kernel) owner).name (by decide +kernel) schema

/-- The end of a statement about default privileges. -/
theorem reads_default {piece keyword list : String} {ts ts' listed : List Token}
    (hpiece : ReadsOpen piece ts) (hlist : Reads list listed) (type : ObjectType)
    (hkeyword : (∀ conforming, lex conforming keyword = some ts' ∧
      lastReading conforming keyword = some .between) ∧
        keyword.toList.head?.any isSeparator = true) (role : String) :
    Reads (piece ++ list ++ " ON " ++ type.plural ++ keyword ++ identifier role)
      (ts ++ listed ++ words ["ON"] ++ words [type.plural] ++ ts' ++ [.name role]) := by
  have hon : ReadsOpen " ON " (words ["ON"]) := readsOpen_of_lex (by decide +kernel)
  have htype : Reads type.plural (words [type.plural]) := by
    cases type <;> exact reads_of_lex (by decide +kernel)
  have hobjects := ((hpiece.append hlist).append_open hon (by decide +kernel)).append htype
  exact hobjects.name hkeyword role

/-- A statement is read as its tokens, whatever stands in quotes. -/
theorem reads_sql {s : Statement} (h : s.IsQuoted) : Reads s.sql s.tokens := by
  cases s with
  | createRole name spelled settings =>
    have hwith : ReadsOpen ((if spelled then " WITH" else "") ++ " ")
        (words (if spelled then ["WITH"] else [])) := by
      cases spelled <;> exact readsOpen_of_lex (by decide +kernel)
    have hname : Reads ("CREATE ROLE " ++ identifier name)
      (words ["CREATE", "ROLE"] ++ [.name name]) := reads_name (by decide +kernel) name
    have hrole := hname.append_open hwith (by cases spelled <;> decide +kernel)
    have hall := hrole.append (RoleSetting.reads_options h)
    rwa [← String.append_assoc] at hall
  | renameRole old new => exact (reads_name (by decide +kernel) old).name (by decide +kernel) new
  | alterRole role setting =>
    have hrole : Reads ("ALTER ROLE " ++ identifier role)
      (words ["ALTER", "ROLE"] ++ [.name role]) := reads_name (by decide +kernel) role
    have hwith : ReadsOpen " WITH " (words ["WITH"]) := readsOpen_of_lex (by decide +kernel)
    exact (hrole.append_open hwith (by decide +kernel)).append (RoleSetting.reads_option h)
  | grantMembership group role =>
    exact (reads_name (by decide +kernel) group).name (by decide +kernel) role
  | revokeMembership group role =>
    exact (reads_name (by decide +kernel) group).name (by decide +kernel) role
  | reassignOwned role heir =>
    cases heir with
    | none =>
      have hrole : Reads ("REASSIGN OWNED BY " ++ identifier role)
        (words ["REASSIGN", "OWNED", "BY"] ++ [.name role]) := reads_name (by decide +kernel) role
      have hto : ReadsOpen " TO " (words ["TO"]) := readsOpen_of_lex (by decide +kernel)
      exact (hrole.append_open hto (by decide +kernel)).append (reads_of_lex (by decide +kernel))
    | some user => exact (reads_name (by decide +kernel) role).name (by decide +kernel) user
  | dropOwned role => exact reads_name (by decide +kernel) role
  | dropRole role => exact reads_name (by decide +kernel) role
  | createSchema name owner tolerant =>
    have hname : Reads ("CREATE SCHEMA " ++ (if tolerant then "IF NOT EXISTS " else "")
        ++ identifier name) (words ["CREATE", "SCHEMA"]
          ++ words (if tolerant then ["IF", "NOT", "EXISTS"] else []) ++ [.name name]) := by
      cases tolerant <;> exact reads_name (by decide +kernel) name
    exact hname.append (reads_clause (readsOpen_of_lex (by decide +kernel)) reads_identifier owner)
      (separated_clause (by decide +kernel) owner)
  | renameSchema old new => exact (reads_name (by decide +kernel) old).name (by decide +kernel) new
  | alterSchemaOwner schema owner =>
    exact (reads_name (by decide +kernel) schema).name (by decide +kernel) owner
  | grantSchema schema role privilege withGrantOption =>
    have hschema : Reads ("GRANT " ++ privilege.sql ++ " ON SCHEMA " ++ identifier schema)
        (words ["GRANT", privilege.sql, "ON", "SCHEMA"] ++ [.name schema]) := by
      cases privilege <;> exact reads_name (by decide +kernel) schema
    have hoption : Reads (if withGrantOption then " WITH GRANT OPTION" else "")
        (words (if withGrantOption then ["WITH", "GRANT", "OPTION"] else [])) := by
      cases withGrantOption <;> exact reads_of_lex (by decide +kernel)
    refine (hschema.name (by decide +kernel) role).append hoption ?_
    cases withGrantOption <;> decide +kernel
  | revokeSchema schema role privilege =>
    have hschema : Reads ("REVOKE " ++ privilege.sql ++ " ON SCHEMA " ++ identifier schema)
        (words ["REVOKE", privilege.sql, "ON", "SCHEMA"] ++ [.name schema]) := by
      cases privilege <;> exact reads_name (by decide +kernel) schema
    exact hschema.name (by decide +kernel) role
  | revokeAllSchema schema role =>
    exact (reads_name (by decide +kernel) schema).name (by decide +kernel) role
  | dropSchema name cascade =>
    have hname : Reads ("DROP SCHEMA " ++ identifier name)
      (words ["DROP", "SCHEMA"] ++ [.name name]) := reads_name (by decide +kernel) name
    cases cascade <;> exact hname.append (reads_of_lex (by decide +kernel)) (by decide +kernel)
  | grantDefaults owner schema type privileges role =>
    have hgrant : ReadsOpen " GRANT " (words ["GRANT"]) := readsOpen_of_lex (by decide +kernel)
    exact reads_default ((reads_creator owner schema).append_open hgrant (by decide +kernel))
      (reads_privilegeList privileges) type (by decide +kernel) role
  | revokeDefaults owner schema type privileges role =>
    have hrevoke : ReadsOpen " REVOKE " (words ["REVOKE"]) := readsOpen_of_lex (by decide +kernel)
    have hpiece := (reads_creator owner schema).append_open hrevoke (by decide +kernel)
    cases privileges with
    | none =>
      exact reads_default hpiece (reads_of_lex (by decide +kernel)) type (by decide +kernel) role
    | some l => exact reads_default hpiece (reads_privilegeList l) type (by decide +kernel) role
  | createExtension name schema version =>
    have hname : Reads ("CREATE EXTENSION " ++ identifier name)
      (words ["CREATE", "EXTENSION"] ++ [.name name]) := reads_name (by decide +kernel) name
    have hin : ReadsOpen " SCHEMA " (words ["SCHEMA"]) := readsOpen_of_lex (by decide +kernel)
    have hat : ReadsOpen " VERSION " (words ["VERSION"]) := readsOpen_of_lex (by decide +kernel)
    have hschema := hname.append (reads_clause hin reads_identifier schema)
      (separated_clause (by decide +kernel) schema)
    exact hschema.append (reads_clause hat reads_literal version)
      (separated_clause (by decide +kernel) version)
  | moveExtension name schema =>
    exact (reads_name (by decide +kernel) name).name (by decide +kernel) schema
  | updateExtension name version =>
    have hname : Reads ("ALTER EXTENSION " ++ identifier name)
      (words ["ALTER", "EXTENSION"] ++ [.name name]) := reads_name (by decide +kernel) name
    have hto : ReadsOpen " UPDATE TO " (words ["UPDATE", "TO"]) :=
      readsOpen_of_lex (by decide +kernel)
    exact (hname.append_open hto (by decide +kernel)).append (reads_literal version)
  | dropExtension name => exact reads_name (by decide +kernel) name
  | verbatim phase operation sql sensitive => exact h.elim

end Statement

/-! ## What depends on the names and texts -/

/-- The clause without the text of its password. -/
def PasswordClause.form : PasswordClause → PasswordClause
  | .clear => .clear
  | .encrypted _ => .encrypted ""
  | .unencrypted _ => .unencrypted ""

/-- The setting without the texts in it. -/
def RoleSetting.form : RoleSetting → RoleSetting
  | .validUntil _ => .validUntil ""
  | .password clause => .password clause.form
  | s => s

namespace Statement

/-- The statement without the names and texts in it. -/
def form : Statement → Statement
  | .createRole _ spelled settings => .createRole "" spelled (settings.map RoleSetting.form)
  | .renameRole .. => .renameRole "" ""
  | .alterRole _ setting => .alterRole "" setting.form
  | .grantMembership .. => .grantMembership "" ""
  | .revokeMembership .. => .revokeMembership "" ""
  | .reassignOwned _ heir => .reassignOwned "" (heir.map fun _ => "")
  | .dropOwned _ => .dropOwned ""
  | .dropRole _ => .dropRole ""
  | .createSchema _ owner tolerant => .createSchema "" (owner.map fun _ => "") tolerant
  | .renameSchema .. => .renameSchema "" ""
  | .alterSchemaOwner .. => .alterSchemaOwner "" ""
  | .grantSchema _ _ privilege withGrantOption => .grantSchema "" "" privilege withGrantOption
  | .revokeSchema _ _ privilege => .revokeSchema "" "" privilege
  | .revokeAllSchema .. => .revokeAllSchema "" ""
  | .dropSchema _ cascade => .dropSchema "" cascade
  | .grantDefaults _ _ type privileges _ => .grantDefaults "" "" type privileges ""
  | .revokeDefaults _ _ type privileges _ => .revokeDefaults "" "" type privileges ""
  | .createExtension _ schema version =>
    .createExtension "" (schema.map fun _ => "") (version.map fun _ => "")
  | .moveExtension .. => .moveExtension "" ""
  | .updateExtension .. => .updateExtension "" ""
  | .dropExtension _ => .dropExtension ""
  | .verbatim phase operation sql sensitive => .verbatim phase operation sql sensitive

end Statement

/-- The texts in a password clause. -/
def PasswordClause.arguments : PasswordClause → List Token
  | .clear => []
  | .encrypted password | .unencrypted password => [.text password]

/-- The quoted tokens of a setting. -/
def RoleSetting.arguments : RoleSetting → List Token
  | .validUntil expiry => [.text expiry]
  | .password clause => clause.arguments
  | _ => []

namespace Statement

/-- The names and texts in a statement, in their order. -/
def arguments : Statement → List Token
  | .createRole name _ settings => .name name :: settings.flatMap RoleSetting.arguments
  | .renameRole old new => [.name old, .name new]
  | .alterRole role setting => .name role :: setting.arguments
  | .grantMembership group role => [.name group, .name role]
  | .revokeMembership group role => [.name group, .name role]
  | .reassignOwned role heir => .name role :: (heir.map Token.name).toList
  | .dropOwned role => [.name role]
  | .dropRole role => [.name role]
  | .createSchema name owner _ => .name name :: (owner.map Token.name).toList
  | .renameSchema old new => [.name old, .name new]
  | .alterSchemaOwner schema owner => [.name schema, .name owner]
  | .grantSchema schema role _ _ => [.name schema, .name role]
  | .revokeSchema schema role _ => [.name schema, .name role]
  | .revokeAllSchema schema role => [.name schema, .name role]
  | .dropSchema name _ => [.name name]
  | .grantDefaults owner schema _ _ role => [.name owner, .name schema, .name role]
  | .revokeDefaults owner schema _ _ role => [.name owner, .name schema, .name role]
  | .createExtension name schema version =>
    .name name :: (schema.map Token.name).toList ++ (version.map Token.text).toList
  | .moveExtension name schema => [.name name, .name schema]
  | .updateExtension name version => [.name name, .text version]
  | .dropExtension name => [.name name]
  | .verbatim .. => []

end Statement

/-! ### Tokens without quotes -/

/-- Nothing of it was given in quotes. -/
def Sql.Unquoted (ts : List Token) : Prop :=
  ∀ t ∈ ts, t.isQuoted = false

@[simp] theorem Sql.Unquoted.filter {ts : List Token} (h : Unquoted ts) :
    ts.filter Token.isQuoted = [] :=
  List.filter_eq_nil_iff.2 fun t ht => Bool.eq_false_iff.1 (h t ht)

@[simp] theorem Sql.Unquoted.map_hide {ts : List Token} (h : Unquoted ts) :
    ts.map Token.hide = ts := by
  have hkeep : ∀ t ∈ ts, t.hide = id t := by
    intro t ht
    have hquoted := h t ht
    cases t <;> first | rfl | cases hquoted
  rw [List.map_congr_left hkeep, List.map_id]

@[simp] theorem Sql.unquoted_words (l : List String) : Unquoted (words l) := by
  intro t ht
  obtain ⟨s, -, rfl⟩ := List.mem_map.1 ht
  rfl

@[simp] theorem Sql.unquoted_ofInt (n : Int) : Unquoted (Token.ofInt n) := by
  cases n <;> simp [Token.ofInt, Unquoted, Token.isQuoted]

@[simp] theorem Privilege.unquoted_tokens (l : List Privilege) : Unquoted (tokens l) := by
  cases l with
  | nil => exact fun t ht => absurd ht List.not_mem_nil
  | cons p l =>
    induction l generalizing p with
    | nil => exact Sql.unquoted_words [p.sql]
    | cons p' l ih =>
      intro t ht
      have hcons : tokens (p :: p' :: l) = .word p.sql :: .symbol ',' :: tokens (p' :: l) := rfl
      rw [hcons, List.mem_cons, List.mem_cons] at ht
      rcases ht with rfl | rfl | ht
      · rfl
      · rfl
      · exact ih p' t ht

/-! ### Settings and statements -/

theorem RoleSetting.filter_tokens (s : RoleSetting) :
    s.tokens.filter Token.isQuoted = s.arguments := by
  cases s with
  | password clause =>
    cases clause <;> simp [tokens, arguments, PasswordClause.tokens, PasswordClause.arguments]
  | _ => simp [tokens, arguments]

theorem RoleSetting.tokens_form (s : RoleSetting) : s.form.tokens = s.tokens.map Token.hide := by
  cases s with
  | password clause =>
    cases clause <;> simp [tokens, form, PasswordClause.tokens, PasswordClause.form]
  | _ => simp [tokens, form]

/-- What stands in quotes are the names and texts of the statement. -/
theorem Statement.filter_tokens (s : Statement) : s.tokens.filter Token.isQuoted = s.arguments := by
  cases s with
  | createRole name spelled settings =>
    have hsettings : (settings.flatMap RoleSetting.tokens).filter Token.isQuoted =
        settings.flatMap RoleSetting.arguments := by
      rw [List.filter_flatMap]
      exact congrArg (settings.flatMap ·) (funext fun s => s.filter_tokens)
    simp [tokens, arguments, List.filter_cons, hsettings]
  | alterRole role setting => simp [tokens, arguments, List.filter_cons, RoleSetting.filter_tokens]
  | reassignOwned role heir => cases heir <;> simp [tokens, arguments, List.filter_cons]
  | createSchema name owner tolerant => cases owner <;> simp [tokens, arguments, List.filter_cons]
  | revokeDefaults owner schema type privileges role =>
    cases privileges <;> simp [tokens, arguments, List.filter_cons]
  | createExtension name schema version =>
    cases schema <;> cases version <;> simp [tokens, arguments, List.filter_cons]
  | _ => simp [tokens, arguments, List.filter_cons]

/-- No other token depends on them. -/
theorem Statement.tokens_form (s : Statement) : s.form.tokens = s.tokens.map Token.hide := by
  cases s with
  | createRole name spelled settings =>
    have hsettings : (settings.map RoleSetting.form).flatMap RoleSetting.tokens =
        (settings.flatMap RoleSetting.tokens).map Token.hide := by
      rw [List.flatMap_map, List.map_flatMap]
      exact congrArg (settings.flatMap ·) (funext fun s => s.tokens_form)
    simp [tokens, form, hsettings]
  | alterRole role setting => simp [tokens, form, RoleSetting.tokens_form]
  | reassignOwned role heir => cases heir <;> simp [tokens, form]
  | createSchema name owner tolerant => cases owner <;> simp [tokens, form]
  | revokeDefaults owner schema type privileges role =>
    cases privileges <;> simp [tokens, form]
  | createExtension name schema version =>
    cases schema <;> cases version <;> simp [tokens, form]
  | _ => simp [tokens, form]

theorem RoleSetting.isQuoted_form {s : RoleSetting} : s.form.IsQuoted ↔ s.IsQuoted := by
  cases s <;> exact Iff.rfl

theorem Statement.isQuoted_form {s : Statement} : s.form.IsQuoted ↔ s.IsQuoted := by
  cases s with
  | createRole name spelled settings =>
    simp only [form, IsQuoted, List.forall_mem_map, RoleSetting.isQuoted_form]
  | alterRole role setting => exact RoleSetting.isQuoted_form
  | _ => exact Iff.rfl

/-- What the server reads in a statement: in quotes the names and texts of the statement as they
are, and besides what it reads in every statement of the same form, under either setting. -/
theorem Statement.lex_sql {s : Statement} (h : s.IsQuoted) (conforming : Bool) :
    ∃ ts, Sql.lex conforming s.sql = some ts ∧ ts.filter Token.isQuoted = s.arguments ∧
      ∀ (s' : Statement) (conforming' : Bool), s'.form = s.form →
        ∃ ts', Sql.lex conforming' s'.sql = some ts' ∧
          ts'.map Token.hide = ts.map Token.hide := by
  refine ⟨s.tokens, lex_of_reads (reads_sql h) conforming, s.filter_tokens, ?_⟩
  intro s' conforming' hform
  have hquoted : s'.IsQuoted := by
    rw [← isQuoted_form, hform, isQuoted_form]
    exact h
  refine ⟨s'.tokens, lex_of_reads (reads_sql hquoted) conforming', ?_⟩
  rw [← tokens_form, hform, tokens_form]

end Accord
