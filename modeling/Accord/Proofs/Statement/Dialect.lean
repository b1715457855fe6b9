import Accord.Proofs.Statement.Tokens
import Accord.Server.Feature

/-!
# Statements in the dialect of a server

A feature is known by its keywords (`Feature.keywords`), and a server has it from some version on or
up to some version (`Feature.Available`).  A statement is understood by a server if the features
whose keywords the server reads in it, outside of quotes and in capitals or not, are all available
(`Statement.UnderstoodBy`).  `Statement.needs` lists the features of a statement, and its tokens,
in which all keywords are in capitals, show no others (`Statement.among_subset`).
-/

namespace Accord

open Sql

/-! ## Versions and features -/

/-- The version is `major.minor` or a later one. -/
def Version.Since (v : Version) (major minor : Nat) : Prop :=
  major < v.major ∨ major = v.major ∧ minor ≤ v.minor

instance (v : Version) (major minor : Nat) : Decidable (v.Since major minor) :=
  inferInstanceAs (Decidable (_ ∨ _))

theorem Version.atLeast_iff {v : Version} {major minor : Nat} :
    v.atLeast major minor = true ↔ v.Since major minor := by
  simp [atLeast, Since]

/-- Which versions have a feature. -/
def Feature.Available (v : Version) : Feature → Prop
  | .createRoleWith => v.Since 8 1
  | .defaultPrivileges => v.Since 9 0
  | .extension => v.Since 9 1
  | .createSchemaIfNotExists => v.Since 9 3
  | .rowLevelSecurity => v.Since 9 5
  | .reassignOwnedCurrentUser => v.Since 9 5
  | .unencryptedPassword => ¬v.Since 10 0

theorem Dialect.supports_iff {dialect : Dialect} {f : Feature} :
    dialect.supports f = true ↔ f.Available dialect.version := by
  unfold supports
  cases f
  case unencryptedPassword =>
    rw [Feature.supportedBy, Bool.not_eq_true', Bool.eq_false_iff, ne_eq, Version.atLeast_iff]
    exact Iff.rfl
  all_goals exact Version.atLeast_iff

/-- The keywords of a feature.  A text uses the feature if it has all of one of the lists. -/
def Feature.keywords : Feature → List (List String)
  | .createRoleWith => [["CREATE", "ROLE", "WITH"]]
  | .defaultPrivileges => [["ALTER", "DEFAULT", "PRIVILEGES"]]
  | .extension => [["EXTENSION"]]
  | .createSchemaIfNotExists => [["CREATE", "SCHEMA", "IF", "NOT", "EXISTS"]]
  | .rowLevelSecurity => [["BYPASSRLS"], ["NOBYPASSRLS"]]
  | .reassignOwnedCurrentUser => [["REASSIGN", "TO", "CURRENT_USER"]]
  | .unencryptedPassword => [["UNENCRYPTED"]]

/-- The keyword that a word is; it need not be in capitals. -/
def Sql.capitals (w : String) : String :=
  .ofList (w.toList.map Char.toUpper)

/-- The feature is used in some tokens, outside of quotes. -/
def Sql.Uses (ts : List Token) (f : Feature) : Prop :=
  ∃ l ∈ f.keywords, ∀ w ∈ l, ∃ v, .word v ∈ ts ∧ capitals v = w

/-- Under either setting, a server of the version reads the statement, and it has all features that
it reads there. -/
def Statement.UnderstoodBy (c : Statement) (v : Version) : Prop :=
  ∀ conforming, ∃ ts, lex conforming c.sql = some ts ∧ ∀ f, Uses ts f → f.Available v

/-! ## What a statement needs -/

/-- The features that a setting needs. -/
def RoleSetting.needs : RoleSetting → List Feature
  | .flag .bypassRowLevelSecurity _ => [.rowLevelSecurity]
  | .password (.unencrypted _) => [.unencryptedPassword]
  | _ => []

/-- The features that a statement needs. -/
def Statement.needs : Statement → List Feature
  | .createRole _ spelled settings =>
    (if spelled then [.createRoleWith] else []) ++ settings.flatMap RoleSetting.needs
  | .alterRole _ setting => setting.needs
  | .reassignOwned _ none => [.reassignOwnedCurrentUser]
  | .createSchema _ _ tolerant => if tolerant then [.createSchemaIfNotExists] else []
  | .grantDefaults .. | .revokeDefaults .. => [.defaultPrivileges]
  | .createExtension .. | .moveExtension .. | .updateExtension .. | .dropExtension _ =>
    [.extension]
  | _ => []

/-! ## Keywords -/

/-- The keyword that a token is, if it is one. -/
def Sql.Token.keyword? : Token → Option String
  | .word w => some w
  | _ => none

/-- The keywords among some tokens. -/
def Sql.keywordsIn (ts : List Token) : List String :=
  ts.filterMap Token.keyword?

/-- All keywords are in capitals. -/
def Sql.InCapitals (ts : List Token) : Prop :=
  ∀ w ∈ keywordsIn ts, capitals w = w

instance (ts : List Token) : Decidable (InCapitals ts) :=
  inferInstanceAs (Decidable (∀ w ∈ keywordsIn ts, capitals w = w))

/-- The features whose keywords are all there. -/
def Feature.among (l : List String) : List Feature :=
  all.filter fun f => f.keywords.any fun words => words.all fun w => decide (w ∈ l)

/-- The features of whose keywords there is one. -/
def Feature.touchedBy (l : List String) : List Feature :=
  all.filter fun f => f.keywords.any fun words => words.any fun w => decide (w ∈ l)

section Keywords

variable {ts ts' : List Token} {l l' : List String} {f : Feature} {w : String}

@[simp] theorem Sql.keywordsIn_append : keywordsIn (ts ++ ts') = keywordsIn ts ++ keywordsIn ts' :=
  List.filterMap_append

@[simp] theorem Sql.keywordsIn_words (l : List String) : keywordsIn (words l) = l := by
  unfold keywordsIn words
  rw [List.filterMap_map]
  exact List.filterMap_some

@[simp] theorem Sql.keywordsIn_name (name : String) : keywordsIn [.name name] = [] :=
  rfl

theorem Sql.word_mem_iff : .word w ∈ ts ↔ w ∈ keywordsIn ts := by
  rw [keywordsIn, List.mem_filterMap]
  constructor
  · intro h
    exact ⟨_, h, rfl⟩
  · rintro ⟨t, ht, hw⟩
    cases t with
    | word w' => exact Option.some.inj hw ▸ ht
    | _ => cases hw

theorem Feature.mem_all (f : Feature) : f ∈ all := by
  cases f <;> decide

theorem Feature.mem_among : f ∈ among l ↔ ∃ words ∈ f.keywords, ∀ w ∈ words, w ∈ l := by
  simp [among, f.mem_all]

theorem Feature.mem_touchedBy : f ∈ touchedBy l ↔ ∃ words ∈ f.keywords, ∃ w ∈ words, w ∈ l := by
  simp [touchedBy, f.mem_all]

theorem Feature.mem_among_mono (hl : ∀ w ∈ l, w ∈ l') (h : f ∈ among l) : f ∈ among l' := by
  rw [mem_among] at h ⊢
  obtain ⟨words, hwords, hw⟩ := h
  exact ⟨words, hwords, fun w hmem => hl w (hw w hmem)⟩

/-- A feature that shows only with more keywords is touched by them. -/
theorem Feature.mem_among_append (h : f ∈ among (l ++ l')) : f ∈ among l ∨ f ∈ touchedBy l' := by
  obtain ⟨words, hwords, hw⟩ := mem_among.1 h
  by_cases hl : ∀ w ∈ words, w ∈ l
  · exact .inl (mem_among.2 ⟨words, hwords, hl⟩)
  · simp only [Classical.not_forall] at hl
    obtain ⟨w, hmem, hnot⟩ := hl
    have hw' := (List.mem_append.1 (hw w hmem)).resolve_left hnot
    exact .inr (mem_touchedBy.2 ⟨words, hwords, w, hmem, hw'⟩)

/-- Where all keywords are in capitals, no other keywords have to be looked for. -/
theorem Sql.Uses.mem_among (h : Uses ts f) (hts : InCapitals ts) :
    f ∈ Feature.among (keywordsIn ts) := by
  obtain ⟨l, hl, hwords⟩ := h
  refine Feature.mem_among.2 ⟨l, hl, fun w hw => ?_⟩
  obtain ⟨v, hv, hcapitals⟩ := hwords w hw
  have hkeyword := word_mem_iff.1 hv
  rw [← hcapitals, hts v hkeyword]
  exact hkeyword

theorem Sql.inCapitals_append : InCapitals (ts ++ ts') ↔ InCapitals ts ∧ InCapitals ts' := by
  simp only [InCapitals, keywordsIn_append, List.forall_mem_append]

theorem Sql.inCapitals_name (name : String) : InCapitals [.name name] :=
  fun _ h => absurd h List.not_mem_nil

theorem Sql.inCapitals_text (text : String) : InCapitals [.text text] :=
  fun _ h => absurd h List.not_mem_nil

end Keywords

theorem Privilege.keywordsIn_tokens (l : List Privilege) :
    ∀ w ∈ keywordsIn (tokens l), w ∈ all.map sql := by
  have hall : ∀ p : Privilege, p.sql ∈ all.map sql := by
    intro p
    cases p <;> decide +kernel
  cases l with
  | nil => exact fun w hw => absurd hw List.not_mem_nil
  | cons p l =>
    induction l generalizing p with
    | nil => exact fun w hw => List.mem_singleton.1 hw ▸ hall p
    | cons p' l ih =>
      intro w hw
      rcases List.mem_cons.1 hw with rfl | hw
      · exact hall p
      · exact ih p' w hw

/-! ## Keywords in capitals -/

theorem Privilege.inCapitals_tokens (l : List Privilege) : InCapitals (tokens l) := by
  have hall : ∀ w ∈ all.map sql, capitals w = w := by decide +kernel
  exact fun w hw => hall w (keywordsIn_tokens l w hw)

theorem RoleSetting.inCapitals (s : RoleSetting) : InCapitals s.tokens := by
  cases s with
  | flag g on => cases g <;> cases on <;> decide +kernel
  | connectionLimit limit =>
    refine inCapitals_append.2 ⟨by decide +kernel, ?_⟩
    cases limit <;> exact fun _ h => absurd h List.not_mem_nil
  | validUntil expiry => exact inCapitals_append.2 ⟨by decide +kernel, inCapitals_text expiry⟩
  | password clause =>
    cases clause with
    | clear => decide +kernel
    | encrypted p => exact inCapitals_append.2 ⟨by decide +kernel, inCapitals_text p⟩
    | unencrypted p => exact inCapitals_append.2 ⟨by decide +kernel, inCapitals_text p⟩
  | other what option sensitive => exact fun _ h => absurd h List.not_mem_nil

/-- All keywords of a statement are in capitals. -/
theorem Statement.inCapitals (s : Statement) : InCapitals s.tokens := by
  cases s with
  | createRole name spelled settings =>
    have hsettings : InCapitals (settings.flatMap RoleSetting.tokens) := by
      intro w hw
      rw [← word_mem_iff, List.mem_flatMap] at hw
      obtain ⟨s, -, hw⟩ := hw
      exact s.inCapitals w (word_mem_iff.1 hw)
    simp only [tokens, inCapitals_append, inCapitals_name, hsettings, and_true]
    cases spelled <;> decide +kernel
  | alterRole role setting =>
    simp only [tokens, inCapitals_append, inCapitals_name, setting.inCapitals, and_true]
    decide +kernel
  | reassignOwned role heir =>
    cases heir <;> simp only [tokens, inCapitals_append, inCapitals_name, and_true] <;>
      decide +kernel
  | createSchema name owner tolerant =>
    cases owner <;> cases tolerant <;>
      simp only [tokens, inCapitals_append, inCapitals_name, and_true] <;> decide +kernel
  | grantSchema schema role privilege withGrantOption =>
    simp only [tokens, inCapitals_append, inCapitals_name, and_true]
    cases privilege <;> cases withGrantOption <;> decide +kernel
  | revokeSchema schema role privilege =>
    simp only [tokens, inCapitals_append, inCapitals_name, and_true]
    cases privilege <;> decide +kernel
  | dropSchema name cascade =>
    simp only [tokens, inCapitals_append, inCapitals_name, and_true]
    cases cascade <;> decide +kernel
  | grantDefaults owner schema type privileges role =>
    simp only [tokens, inCapitals_append, inCapitals_name, Privilege.inCapitals_tokens, and_true]
    cases type <;> decide +kernel
  | revokeDefaults owner schema type privileges role =>
    cases privileges <;> cases type <;> simp only [tokens, inCapitals_append, inCapitals_name,
      Privilege.inCapitals_tokens, and_true] <;> decide +kernel
  | createExtension name schema version =>
    cases schema <;> cases version <;> simp only [tokens, inCapitals_append, inCapitals_name,
      inCapitals_text, and_true] <;> decide +kernel
  | _ =>
    simp only [tokens, inCapitals_append, inCapitals_name, inCapitals_text, and_true]
    decide +kernel

/-! ## What the keywords show -/

/-- The keywords of a setting belong to no other features than those that it needs. -/
theorem RoleSetting.touchedBy_subset (s : RoleSetting) :
    Feature.touchedBy (keywordsIn s.tokens) ⊆ s.needs := by
  cases s with
  | flag g on => cases g <;> cases on <;> decide +kernel
  | connectionLimit limit =>
    have hlimit : keywordsIn (connectionLimit limit).tokens = ["CONNECTION", "LIMIT"] := by
      cases limit <;> rfl
    rw [hlimit]
    show _ ⊆ []
    decide +kernel
  | validUntil expiry =>
    show Feature.touchedBy ["VALID", "UNTIL"] ⊆ []
    decide +kernel
  | password clause =>
    cases clause with
    | clear => decide +kernel
    | encrypted p =>
      show Feature.touchedBy ["ENCRYPTED", "PASSWORD"] ⊆ []
      decide +kernel
    | unencrypted p =>
      show Feature.touchedBy ["UNENCRYPTED", "PASSWORD"] ⊆ [.unencryptedPassword]
      decide +kernel
  | other what option sensitive =>
    show Feature.touchedBy [] ⊆ []
    decide +kernel

/-- Settings show what they need, besides what the words before them show. -/
theorem RoleSetting.among_append_subset {needs : List Feature} {l : List String}
    (h : Feature.among l ⊆ needs) (settings : List RoleSetting) :
    Feature.among (l ++ keywordsIn (settings.flatMap tokens)) ⊆
      needs ++ settings.flatMap RoleSetting.needs := by
  intro f hf
  rw [List.mem_append]
  refine (Feature.mem_among_append hf).imp (fun hl => h hl) fun htouched => ?_
  obtain ⟨words, hwords, w, hw, hkeyword⟩ := Feature.mem_touchedBy.1 htouched
  rw [← word_mem_iff, List.mem_flatMap] at hkeyword
  obtain ⟨s, hs, hkeyword⟩ := hkeyword
  refine List.mem_flatMap.2 ⟨s, hs, s.touchedBy_subset ?_⟩
  exact Feature.mem_touchedBy.2 ⟨words, hwords, w, hw, word_mem_iff.1 hkeyword⟩

/-- Statements about default privileges show nothing else. -/
theorem Feature.among_defaults_subset {verb preposition : String} {listed : List String}
    (type : ObjectType) (hverb : verb ∈ ["GRANT", "REVOKE"])
    (hpreposition : preposition ∈ ["TO", "FROM"])
    (hlisted : ∀ w ∈ listed, w ∈ "ALL" :: Privilege.all.map Privilege.sql) :
    among (["ALTER", "DEFAULT", "PRIVILEGES", "FOR", "ROLE", "IN", "SCHEMA"] ++ [verb] ++ listed ++
      ["ON"] ++ [type.plural] ++ [preposition]) ⊆ [.defaultPrivileges] := by
  have hall : among (["ALTER", "DEFAULT", "PRIVILEGES", "FOR", "ROLE", "IN", "SCHEMA"] ++
      ["GRANT", "REVOKE"] ++ ("ALL" :: Privilege.all.map Privilege.sql) ++ ["ON"] ++
      ObjectType.all.map ObjectType.plural ++ ["TO", "FROM"]) ⊆ [.defaultPrivileges] := by
    decide +kernel
  have htype : type.plural ∈ ObjectType.all.map ObjectType.plural := by
    cases type <;> decide +kernel
  refine fun f hf => hall (mem_among_mono (fun w hw => ?_) hf)
  simp only [List.mem_append] at hw ⊢
  rcases hw with ((((hw | hw) | hw) | hw) | hw) | hw
  · exact .inl (.inl (.inl (.inl (.inl hw))))
  · exact .inl (.inl (.inl (.inl (.inr (List.mem_singleton.1 hw ▸ hverb)))))
  · exact .inl (.inl (.inl (.inr (hlisted w hw))))
  · exact .inl (.inl (.inr hw))
  · exact .inl (.inr (List.mem_singleton.1 hw ▸ htype))
  · exact .inr (List.mem_singleton.1 hw ▸ hpreposition)

/-- The keywords of a statement show no more features than those that it needs. -/
theorem Statement.among_subset (s : Statement) : Feature.among (keywordsIn s.tokens) ⊆ s.needs := by
  cases s with
  | createRole name spelled settings =>
    have hspelled : Feature.among ("CREATE" :: "ROLE" :: if spelled then ["WITH"] else []) ⊆
        if spelled then [.createRoleWith] else [] := by
      cases spelled <;> decide +kernel
    have hkeywords : keywordsIn (createRole name spelled settings).tokens =
        ("CREATE" :: "ROLE" :: if spelled then ["WITH"] else []) ++
          keywordsIn (settings.flatMap RoleSetting.tokens) := by
      cases spelled <;> exact keywordsIn_append
    rw [hkeywords]
    exact RoleSetting.among_append_subset hspelled settings
  | renameRole old new =>
    show Feature.among ["ALTER", "ROLE", "RENAME", "TO"] ⊆ []
    decide +kernel
  | alterRole role setting =>
    have hwords : Feature.among ["ALTER", "ROLE", "WITH"] ⊆ [] := by decide +kernel
    have hsetting := RoleSetting.among_append_subset hwords [setting]
    rw [List.flatMap_singleton, List.flatMap_singleton] at hsetting
    have hkeywords : keywordsIn (alterRole role setting).tokens =
        ["ALTER", "ROLE", "WITH"] ++ keywordsIn setting.tokens := keywordsIn_append
    rw [hkeywords]
    exact hsetting
  | grantMembership group role =>
    show Feature.among ["GRANT", "TO"] ⊆ []
    decide +kernel
  | revokeMembership group role =>
    show Feature.among ["REVOKE", "FROM"] ⊆ []
    decide +kernel
  | reassignOwned role heir =>
    cases heir with
    | none =>
      show Feature.among ["REASSIGN", "OWNED", "BY", "TO", "CURRENT_USER"] ⊆
        [.reassignOwnedCurrentUser]
      decide +kernel
    | some user =>
      show Feature.among ["REASSIGN", "OWNED", "BY", "TO"] ⊆ []
      decide +kernel
  | dropOwned role =>
    show Feature.among ["DROP", "OWNED", "BY"] ⊆ []
    decide +kernel
  | dropRole role =>
    show Feature.among ["DROP", "ROLE"] ⊆ []
    decide +kernel
  | createSchema name owner tolerant =>
    have htolerant : ∀ tolerant : Bool, Feature.among (("CREATE" :: "SCHEMA" ::
        if tolerant then ["IF", "NOT", "EXISTS"] else []) ++ ["AUTHORIZATION"]) ⊆
        if tolerant then [.createSchemaIfNotExists] else [] := by decide +kernel
    refine fun f hf => htolerant tolerant (Feature.mem_among_mono (fun w hw => ?_) hf)
    cases owner with
    | none =>
      cases tolerant <;> exact List.mem_append_left _ hw
    | some owner => cases tolerant <;> exact hw
  | renameSchema old new =>
    show Feature.among ["ALTER", "SCHEMA", "RENAME", "TO"] ⊆ []
    decide +kernel
  | alterSchemaOwner schema owner =>
    show Feature.among ["ALTER", "SCHEMA", "OWNER", "TO"] ⊆ []
    decide +kernel
  | grantSchema schema role privilege withGrantOption =>
    show Feature.among (keywordsIn (grantSchema "" "" privilege withGrantOption).tokens) ⊆ []
    cases privilege <;> cases withGrantOption <;> decide +kernel
  | revokeSchema schema role privilege =>
    show Feature.among (keywordsIn (revokeSchema "" "" privilege).tokens) ⊆ []
    cases privilege <;> decide +kernel
  | revokeAllSchema schema role =>
    show Feature.among ["REVOKE", "ALL", "ON", "SCHEMA", "FROM"] ⊆ []
    decide +kernel
  | dropSchema name cascade =>
    show Feature.among (keywordsIn (dropSchema "" cascade).tokens) ⊆ []
    cases cascade <;> decide +kernel
  | grantDefaults owner schema type privileges role =>
    have hkeywords : keywordsIn (grantDefaults owner schema type privileges role).tokens =
        ["ALTER", "DEFAULT", "PRIVILEGES", "FOR", "ROLE", "IN", "SCHEMA"] ++ ["GRANT"] ++
          keywordsIn (Privilege.tokens privileges) ++ ["ON"] ++ [type.plural] ++ ["TO"] := by
      simp only [tokens, keywordsIn_append, keywordsIn_words, keywordsIn_name, List.append_nil]
      rfl
    rw [hkeywords]
    exact Feature.among_defaults_subset type (by decide) (by decide)
      fun w hw => List.mem_cons_of_mem _ (Privilege.keywordsIn_tokens privileges w hw)
  | revokeDefaults owner schema type privileges role =>
    have hkeywords : keywordsIn (revokeDefaults owner schema type privileges role).tokens =
        ["ALTER", "DEFAULT", "PRIVILEGES", "FOR", "ROLE", "IN", "SCHEMA"] ++ ["REVOKE"] ++
          (privileges.map fun l => keywordsIn (Privilege.tokens l)).getD ["ALL"] ++ ["ON"] ++
          [type.plural] ++ ["FROM"] := by
      cases privileges <;>
        simp only [tokens, keywordsIn_append, keywordsIn_words, keywordsIn_name,
          List.append_nil] <;> rfl
    rw [hkeywords]
    refine Feature.among_defaults_subset type (by decide) (by decide) ?_
    cases privileges with
    | none => decide +kernel
    | some l => exact fun w hw => List.mem_cons_of_mem _ (Privilege.keywordsIn_tokens l w hw)
  | createExtension name schema version =>
    have hwords : ∀ inSchema atVersion : Bool, Feature.among (["CREATE", "EXTENSION"] ++
        (if inSchema then ["SCHEMA"] else []) ++ if atVersion then ["VERSION"] else []) ⊆
        [.extension] := by decide +kernel
    have hkeywords : keywordsIn (createExtension name schema version).tokens =
        ["CREATE", "EXTENSION"] ++ (if schema.isSome then ["SCHEMA"] else []) ++
          if version.isSome then ["VERSION"] else [] := by
      cases schema <;> cases version <;> rfl
    rw [hkeywords]
    exact hwords _ _
  | moveExtension name schema =>
    show Feature.among ["ALTER", "EXTENSION", "SET", "SCHEMA"] ⊆ [.extension]
    decide +kernel
  | updateExtension name version =>
    show Feature.among ["ALTER", "EXTENSION", "UPDATE", "TO"] ⊆ [.extension]
    decide +kernel
  | dropExtension name =>
    show Feature.among ["DROP", "EXTENSION"] ⊆ [.extension]
    decide +kernel
  | verbatim phase operation sql sensitive =>
    show Feature.among [] ⊆ []
    decide +kernel

/-! ## Statements that fit a dialect -/

/-- Nothing in the statement is in words of its own, and the server has all features that it
needs. -/
structure Statement.Fits (c : Statement) (dialect : Dialect) : Prop where
  quoted : c.IsQuoted
  supported (f : Feature) : f ∈ c.needs → dialect.supports f = true

/-- A statement that fits is understood. -/
theorem Statement.Fits.understoodBy {c : Statement} {dialect : Dialect} (h : c.Fits dialect) :
    c.UnderstoodBy dialect.version := fun conforming =>
  ⟨c.tokens, lex_of_reads (reads_sql h.quoted) conforming, fun f hf =>
    Dialect.supports_iff.1 (h.supported f (c.among_subset (hf.mem_among c.inCapitals)))⟩

/-- A statement that needs no feature fits every dialect. -/
theorem Statement.fits_of_needs_eq_nil {c : Statement} {dialect : Dialect} (hquoted : c.IsQuoted)
    (h : c.needs = []) : c.Fits dialect where
  quoted := hquoted
  supported _ hf := absurd (h ▸ hf) List.not_mem_nil

/-- A statement that needs one feature fits a dialect that has it. -/
theorem Statement.fits_of_needs_eq_singleton {c : Statement} {dialect : Dialect} {f : Feature}
    (hquoted : c.IsQuoted) (h : c.needs = [f]) (hf : dialect.supports f = true) :
    c.Fits dialect where
  quoted := hquoted
  supported g hg := by
    rw [h, List.mem_singleton] at hg
    rwa [hg]

end Accord
