import Accord.Proofs.Lifecycle.Lookup
import Accord.Proofs.Lifecycle.Rejection

/-!
# Identities of declared objects

The parts of an identity are parted by hyphens, and a hyphen in a name is not marked.  So the
identity of a declared object is read back if and only if no name in its key has a hyphen; any other
identity has a wrong number of parts, and is refused before the server is asked for anything.  An
object whose names are plain and have no hyphens is never refused as invalid
(`Naming.identity_read_unless_hyphen`).
-/

namespace Accord

variable {σ α β δ ο ω κ ν : Type}

/-- No failure is about a value outside its domain. -/
abbrev Valid (x : Except Error α) : Prop :=
  FailsOnly (fun e => e.isInvalid = false) x

/-- No failure of the operation is about a value outside its domain. -/
abbrev Run.Valid (m : Run σ α) : Prop :=
  m.FailsOnly fun e => e.isInvalid = false

theorem Error.isInvalid_of_not_isRejection {e : Error} (h : e.isRejection = false) :
    e.isInvalid = false := by
  cases e <;> first | rfl | cases h

theorem Run.FailsOnly.valid {m : Run σ α} (h : m.FailsAsServer) : m.Valid :=
  h.neverRejects.mono fun _ => Error.isInvalid_of_not_isRejection

theorem FailsOnly.bind_of_ok {P : Error → Prop} {x : Except Error α} {f : α → Except Error β}
    {a : α} (h : x = .ok a) (hf : FailsOnly P (f a)) : FailsOnly P (x >>= f) := by
  rw [h]
  exact hf

theorem Context.valid_requireWritable (ctx : Context σ) : Accord.Valid ctx.requireWritable := by
  unfold requireWritable
  split
  · exact .error rfl
  · exact .ok ()

theorem Dialect.valid_require (dialect : Dialect) (f : Feature) :
    Accord.Valid (dialect.require f) := by
  unfold require
  split
  · exact .ok ()
  · exact .error rfl

/-! ## Keys -/

/-- A name that is accepted if it is normalized again. -/
def Accepted (name : String) : Prop :=
  ∀ what, ∃ again, normalizeName name what = .ok again

namespace Naming

variable {k : Lifecycle δ ο ω}

/-- No name of the key has a hyphen. -/
def HyphenFree (N : Naming k κ) (key : κ) : Prop :=
  ∀ name ∈ N.names key, Accord.HyphenFree name

/-- All names of the key are accepted if they are normalized again. -/
def Accepted (N : Naming k κ) (key : κ) : Prop :=
  ∀ name ∈ N.names key, Accord.Accepted name

/-- What becomes of an identity of the key of a declared object. -/
structure ReadUnlessHyphen (N : Naming k κ) (ctx : Context σ) (expected : List String)
    (desired : δ) (key : κ) (id : String) : Prop where
  /-- Names that are accepted again are read exactly if they have no hyphens. -/
  read_iff : N.Accepted key → ((∃ sought, N.sought id = .ok sought) ↔ N.HyphenFree key)
  /-- With a hyphen the object is refused before the server is asked for anything. -/
  refused : ¬N.HyphenFree key →
    N.sought id = .error (.validation (.identityFormat id expected)) ∧
    ∀ s, (k.pending ctx desired).result s =
        (.error (.failed (.validation (.identityFormat id expected))), s) ∧
      (k.converge ctx desired).result s =
        (.error (.failed (.validation (.identityFormat id expected))), s)
  /-- Plain names without hyphens are read as they are, and the object is not refused. -/
  plain : N.HyphenFree key → N.Plain key → N.sought id = .ok key ∧
    (ctx.server.PlainErrors → ctx.server.AnswersByName →
      (k.pending ctx desired).Valid ∧ (k.converge ctx desired).Valid)

/-- All objects that are accepted have an identity, which is read unless there is a hyphen. -/
def IdentityReadUnlessHyphen (N : Naming k κ) (ctx : Context σ) (normalize : δ → Except Error ν)
    (expected : List String) : Prop :=
  ∀ desired spec, normalize desired = .ok spec →
    ∃ key id, N.declared ctx.defaultDatabase desired = .ok key ∧ k.identity ctx desired = .ok id ∧
      N.ReadUnlessHyphen ctx expected desired key id

/-- How the identity of a key is read. -/
structure Encodes (N : Naming k κ) (ctx : Context σ) (expected : List String) (key : κ)
    (id : String) : Prop where
  hyphen : ¬N.HyphenFree key → N.sought id = .error (.validation (.identityFormat id expected))
  accepted : N.HyphenFree key → N.Accepted key → ∃ sought, N.sought id = .ok sought
  plain : N.HyphenFree key → N.Plain key → N.sought id = .ok key
  /-- The identity is read before the server is asked for anything. -/
  read (e : Error) : N.sought id = .error e →
    ∀ s, (k.read ctx id none).result s = (.error (.failed e), s)

/-- Plans for what may be found under the key are not refused as invalid. -/
structure Undisputed (N : Naming k κ) (ctx : Context σ) (desired : δ) (key : κ) (id : String) :
    Prop where
  read : N.sought id = .ok key → (k.read ctx id none).Valid
  plan {found : Option ο} : (∀ o, found = some o → N.key o = key) →
    Accord.Valid (k.plan ctx found desired)
  write {found : Option ο} : (∀ o, found = some o → N.key o = key) →
    (k.write ctx id found desired).Valid

theorem Encodes.readUnlessHyphen {N : Naming k κ} {ctx : Context σ} {expected : List String}
    {desired : δ} {key : κ} {id : String} (h : N.Encodes ctx expected key id)
    (hid : k.identity ctx desired = .ok id)
    (hkey : N.declared ctx.defaultDatabase desired = .ok key)
    (hlawful : ctx.server.AnswersByName → N.Lawful ctx)
    (hvalid : ctx.server.PlainErrors → ctx.server.AnswersByName →
      N.Undisputed ctx desired key id) :
    N.ReadUnlessHyphen ctx expected desired key id where
  read_iff haccepted := by
    refine ⟨fun ⟨sought, hsought⟩ => ?_, fun hfree => h.accepted hfree haccepted⟩
    exact Classical.byContradiction fun hfree => nomatch hsought.symm.trans (h.hyphen hfree)
  refused hfree := by
    have hrefused := h.hyphen hfree
    refine ⟨hrefused, fun s => ?_⟩
    have hread := h.read _ hrefused s
    have hlift : (liftM (k.identity ctx desired) : Run σ String).result s = (.ok id, s) := by
      rw [hid]
      rfl
    constructor
    · unfold Lifecycle.pending
      rw [Run.result_bind_of_ok hlift, Run.result_bind_of_error hread]
    · unfold Lifecycle.converge
      rw [Run.result_bind_of_ok hlift, Run.result_bind_of_error hread]
  plain hfree hplain := by
    have hsought := h.plain hfree hplain
    refine ⟨hsought, fun hserver hnames => ?_⟩
    have hundisputed := hvalid hserver hnames
    have hfound : ∀ {s found t}, (k.read ctx id none).result s = (.ok found, t) →
        ∀ o, found = some o → N.key o = key := by
      intro s found t hread o ho
      obtain ⟨sought, hsought', -, hkeys⟩ := (hlawful hnames).sought hkey hid hread
      rw [hkeys o ho]
      exact Except.ok.inj (hsought'.symm.trans hsought)
    have hlift : (liftM (k.identity ctx desired) : Run σ String).Valid := by
      rw [hid]
      exact .pure id
    have hsame : ∀ {s id' t}, (liftM (k.identity ctx desired) : Run σ String).result s =
        (.ok id', t) → id' = id := by
      intro s id' t hrun
      exact Except.ok.inj ((Run.result_liftM.1 hrun).1.symm.trans hid)
    constructor
    · refine hlift.bind_of fun s id' t hrun => ?_
      obtain rfl := hsame hrun
      refine (hundisputed.read hsought).bind_of fun s found t hread => ?_
      exact .ofExcept (hundisputed.plan (hfound hread))
    · refine hlift.bind_of fun s id' t hrun => ?_
      obtain rfl := hsame hrun
      refine (hundisputed.read hsought).bind_of fun s found t hread => ?_
      have hwrite := hundisputed.write (hfound hread)
      cases found <;> exact hwrite

end Naming

/-! ## Operations that are not refused -/

/-- A check in front of an operation that passes adds no failures. -/
theorem Run.FailsOnly.liftM_bind_of_ok {P : Error → Prop} {x : Except Error α} {f : α → Run σ β}
    {a : α} (h : x = .ok a) (hf : (f a).FailsOnly P) :
    Run.FailsOnly P ((liftM x : Run σ α) >>= f) := by
  rw [h]
  exact hf

section Operations

variable {ctx : Context σ}

theorem Context.valid_session_bind (h : ctx.server.PlainErrors) (database : String)
    {f : Session σ → Run σ α} (hf : (f (ctx.opened database)).Valid) :
    (ctx.session database >>= f).Valid :=
  (Run.FailsOnly.valid (failsAsServer_session h database)).bind_of fun _ _ _ hsession =>
    (result_session.1 hsession).2 ▸ hf

/-- Reading in a database, after asking whether there is one, is not refused. -/
theorem Context.valid_inDatabase (h : ctx.server.PlainErrors) (database : String)
    {read : Session σ → Run σ (Option α)} (hread : (read (ctx.opened database)).Valid) :
    Run.Valid (do
      ctx.hold .shared
      let s ← ctx.session ctx.defaultDatabase
      if ← s.exists? (.databaseExists database) then
        let s ← ctx.session database
        read s
      else return none) := by
  refine (ctx.failsOnly_hold .shared).bind fun _ => valid_session_bind h _ ?_
  refine (Run.FailsOnly.valid (Session.failsAsServer_exists? h _)).bind fun there => ?_
  cases there with
  | true => exact valid_session_bind h database hread
  | false => exact .pure none

theorem Lifecycle.Verifies.valid_write {k : Lifecycle δ ο ω}
    {writing : String → Option ο → δ → Except Error (Writing σ ο)} (h : k.Verifies ctx writing)
    (hserver : ctx.server.PlainErrors) {id : String} {found : Option ο} {desired : δ}
    (hwriting : Accord.Valid (writing id found desired))
    (hprepare : ∀ w, writing id found desired = .ok w →
      (w.prepare (ctx.opened w.database)).Valid) : (k.write ctx id found desired).Valid := by
  rw [h.1.write]
  refine (Run.FailsOnly.ofExcept hwriting).bind_of fun s w t hrun => ?_
  obtain ⟨hw, -⟩ := Run.result_ofExcept.1 hrun
  have hfails : w.FailsWith (fun e => e.isInvalid = false) (ctx.opened w.database) :=
    ⟨hprepare w hw, Run.FailsOnly.valid (h.2 hw).reread, (h.2 hw).failsOnly_replan⟩
  exact hfails.run hserver fun _ => Error.isInvalid_of_not_isRejection

end Operations

/-! ## Keys of two names -/

/-- Reads the identity of a database and an object in it. -/
def decodePair (expected : List String) (what id : String) : Except Error (String × String) := do
  let parts ← splitIdentity id expected
  let database ← normalizeName (parts.getD 0 "") "database"
  let name ← normalizeName (parts.getD 1 "") what
  return (database, name)

/-- Names without hyphens are normalized once more. -/
theorem decodePair_of_hyphenFree {expected : List String} {what database name : String}
    {key : String × String} (hlen : expected.length = 2)
    (hempty : ∀ part ∈ [database, name], part ≠ "")
    (hfree : ∀ part ∈ [database, name], HyphenFree part)
    (hdatabase : normalizeName database "database" = .ok key.1)
    (hname : normalizeName name what = .ok key.2) :
    decodePair expected what (joinIdentity [database, name]) = .ok key := by
  unfold decodePair
  exact Except.bind_ok.2 ⟨_,
    splitIdentity_of_hyphenFree hfree hempty (List.cons_ne_nil _ _) hlen.symm,
    Except.bind_ok.2 ⟨key.1, hdatabase, Except.bind_ok.2 ⟨key.2, hname, rfl⟩⟩⟩

namespace Naming

variable {k : Lifecycle δ ο ω}

theorem exists_hyphen {N : Naming k κ} {key : κ} (h : ¬N.HyphenFree key) :
    ∃ name ∈ N.names key, ¬Accord.HyphenFree name := by
  simpa only [HyphenFree, Classical.not_forall, exists_prop] using h

theorem encodes_pair {N : Naming k (String × String)} {ctx : Context σ} {expected : List String}
    {what : String} {key : String × String} (hlen : expected.length = 2)
    (hsought : N.sought = decodePair expected what) (hnames : N.names key = [key.1, key.2])
    (hdatabase : ∃ raw, normalizeName raw "database" = .ok key.1)
    (hname : ∃ raw, normalizeName raw what = .ok key.2)
    (hread : ∀ id e, N.sought id = .error e →
      ∀ s, (k.read ctx id none).result s = (.error (.failed e), s)) :
    N.Encodes ctx expected key (joinIdentity [key.1, key.2]) := by
  obtain ⟨rawDatabase, hdatabase⟩ := hdatabase
  obtain ⟨rawName, hname⟩ := hname
  have hempty : ∀ part ∈ [key.1, key.2], part ≠ "" := by
    simp [(normalizeName_ok hdatabase).2, (normalizeName_ok hname).2]
  refine ⟨fun hfree => ?_, fun hfree haccepted => ?_, fun hfree hplain => ?_, hread _⟩
  · obtain ⟨part, hpart, hhyphen⟩ := N.exists_hyphen hfree
    rw [hnames] at hpart
    rw [hsought, decodePair, splitIdentity_of_hyphen hpart hhyphen hlen.symm]
    rfl
  · rw [HyphenFree, hnames] at hfree
    rw [Accepted, hnames] at haccepted
    obtain ⟨database, hdatabase'⟩ := haccepted key.1 (by simp) "database"
    obtain ⟨name, hname'⟩ := haccepted key.2 (by simp) what
    rw [hsought]
    exact ⟨(database, name), decodePair_of_hyphenFree hlen hempty hfree hdatabase' hname'⟩
  · rw [HyphenFree, hnames] at hfree
    rw [Plain, hnames] at hplain
    rw [hsought]
    exact decodePair_of_hyphenFree hlen hempty hfree
      (normalizeName_of_plain hdatabase (hplain _ (by simp)) _)
      (normalizeName_of_plain hname (hplain _ (by simp)) _)

/-! ## Schemas -/

theorem encodes_schemas {ctx : Context σ} {desired : DeclaredSchema} {spec : NormalSchema}
    (h : desired.normalize ctx.defaultDatabase = .ok spec) :
    schemas.Encodes ctx schemaIdentity (spec.database, spec.name) spec.identity := by
  obtain ⟨-, hname, hdatabase, -⟩ := DeclaredSchema.normalize_ok h
  exact encodes_pair rfl rfl rfl ⟨_, hdatabase⟩ ⟨_, hname⟩ fun id e he s =>
    Run.result_liftM_bind_of_error he s

theorem undisputed_schemas {ctx : Context σ} (hserver : ctx.server.PlainErrors)
    {desired : DeclaredSchema} {spec : NormalSchema}
    (h : desired.normalize ctx.defaultDatabase = .ok spec) :
    schemas.Undisputed ctx desired (spec.database, spec.name) spec.identity := by
  have hplan : ∀ {found : Option ObservedSchema},
      (∀ o, found = some o → schemas.key o = (spec.database, spec.name)) →
      Valid (spec.planFrom ctx.facts.currentUser ctx.dialect found) := by
    intro found hfound
    cases found with
    | none => exact .ok _
    | some o =>
      have hdatabase : o.database = spec.database := congrArg Prod.fst (hfound o rfl)
      show Valid (spec.updatePlan o)
      rw [NormalSchema.updatePlan_ok.2 ⟨hdatabase, rfl⟩]
      exact .ok _
  refine ⟨fun hsought => ?_, fun {found} hfound => ?_, fun {found} hfound => ?_⟩
  · refine Run.FailsOnly.liftM_bind_of_ok hsought ?_
    exact Context.valid_inDatabase hserver _
      (Run.FailsOnly.valid (Session.failsAsServer_schema? hserver _ _))
  · rw [show Lifecycle.schemas.plan ctx found desired = _ from Lifecycle.Schema.plan_eq ..]
    exact .bind_of_ok h (hplan hfound)
  · refine (Lifecycle.verifies_schemas hserver).valid_write hserver ?_ fun w hw => ?_
    · refine (ctx.valid_requireWritable).bind fun _ => .bind_of_ok h ?_
      exact (hplan hfound).bind fun plan => .ok _
    · obtain ⟨-, spec, plan, -, -, rfl⟩ := Lifecycle.Schema.writing_ok.1 hw
      exact .pure plan

/-! ## Extensions -/

theorem encodes_extensions {ctx : Context σ} {desired spec : DeclaredExtension} {database : String}
    (h : desired.normalize ctx.defaultDatabase = .ok spec) (hspec : spec.database = some database) :
    extensions.Encodes ctx extensionIdentity (database, spec.name)
      (joinIdentity [database, spec.name]) := by
  obtain ⟨_, hspec', hname, hdatabase, -⟩ := DeclaredExtension.normalize_ok h
  obtain rfl := Option.some.inj (hspec.symm.trans hspec')
  exact encodes_pair rfl rfl rfl ⟨_, hdatabase⟩ ⟨_, hname⟩ fun id e he s =>
    Run.result_liftM_bind_of_error he s

theorem undisputed_extensions {ctx : Context σ} (hserver : ctx.server.PlainErrors)
    (hnames : ctx.server.AnswersByName) {desired spec : DeclaredExtension} {database : String}
    (h : desired.normalize ctx.defaultDatabase = .ok spec) (hspec : spec.database = some database) :
    extensions.Undisputed ctx desired (database, spec.name)
      (joinIdentity [database, spec.name]) := by
  have hplan : ∀ {found : Option InstalledExtension},
      (∀ o, found = some o → extensions.key o = (database, spec.name)) →
      Valid (spec.planFrom found) := by
    intro found hfound
    cases found with
    | none => exact .ok _
    | some o =>
      obtain ⟨hdatabase, hname⟩ := Prod.mk.inj (hfound o rfl)
      show Valid (spec.updatePlan o)
      rw [(DeclaredExtension.updatePlan_ok hspec).2 ⟨hname, hdatabase, rfl⟩]
      exact .ok _
  refine ⟨fun hsought => ?_, fun {found} hfound => ?_, fun {found} hfound => ?_⟩
  · refine Run.FailsOnly.liftM_bind_of_ok hsought ?_
    exact Context.valid_inDatabase hserver _
      (Run.FailsOnly.valid (Session.failsAsServer_extension? hserver _ _))
  · rw [show Lifecycle.extensions.plan ctx found desired = _ from Lifecycle.Extension.plan_eq ..]
    exact (ctx.dialect.valid_require _).bind fun _ => .bind_of_ok h (hplan hfound)
  · refine (Lifecycle.verifies_extensions hserver hnames).valid_write hserver ?_ fun w hw => ?_
    · refine (ctx.valid_requireWritable).bind fun _ => ?_
      refine (ctx.dialect.valid_require _).bind fun _ => .bind_of_ok h ?_
      have hof : spec.databaseOf = .ok database := by rw [DeclaredExtension.databaseOf, hspec]
      exact (hplan hfound).bind fun plan => .bind_of_ok hof (.ok _)
    · obtain ⟨-, -, spec, plan, database, -, -, -, rfl⟩ := Lifecycle.Extension.writing_ok.1 hw
      exact .pure plan

end Naming

/-! ## Rules -/

theorem ObjectType.hyphenFree_name (type : ObjectType) : HyphenFree type.name := by
  cases type <;> decide

theorem RuleKey.decode_of_hyphenFree {key again : RuleKey}
    (hempty : ∀ name ∈ [key.database, key.schema, key.owner, key.role], name ≠ "")
    (hfree : ∀ name ∈ [key.database, key.schema, key.owner, key.role], HyphenFree name)
    (hdatabase : normalizeName key.database "database" = .ok again.database)
    (hschema : normalizeName key.schema "schema" = .ok again.schema)
    (howner : normalizeName key.owner "owner" = .ok again.owner)
    (hrole : normalizeName key.role "role" = .ok again.role) (htype : again.type = key.type) :
    decode key.identity = .ok again := by
  have htypeName : key.type.name ≠ "" := by cases key.type <;> decide
  have hsplit : splitIdentity key.identity ruleIdentity =
      .ok [key.database, key.schema, key.owner, key.role, key.type.name] := by
    refine splitIdentity_of_hyphenFree ?_ ?_ (List.cons_ne_nil _ _) rfl
    · simpa [key.type.hyphenFree_name] using hfree
    · simpa [htypeName] using hempty
  have hnames : ofNames key.database key.schema key.owner key.role =
      .ok fun type => { again with type } := by
    unfold ofNames
    rw [hdatabase, hschema, howner, hrole]
    rfl
  unfold decode
  refine Except.bind_ok.2 ⟨_, hsplit, Except.bind_ok.2 ⟨_, hnames, ?_⟩⟩
  refine Except.bind_ok.2 ⟨_, ObjectType.parse_name key.type, ?_⟩
  rw [← htype]
  rfl

namespace Naming

theorem encodes_rules {ctx : Context σ} {desired : DeclaredRule} {rule : Rule}
    (h : desired.normalize ctx.defaultDatabase = .ok rule) :
    rules.Encodes ctx ruleIdentity rule.key rule.key.identity := by
  obtain ⟨-, -, -, hdatabase, hschema, howner, hrole⟩ := DeclaredRule.normalize_ok h
  have hempty : ∀ name ∈ rules.names rule.key, name ≠ "" := by
    simp [rules, (normalizeName_ok hdatabase).2, (normalizeName_ok hschema).2,
      (normalizeName_ok howner).2, (normalizeName_ok hrole).2]
  refine ⟨fun hfree => ?_, fun hfree haccepted => ?_, fun hfree hplain => ?_,
    fun e he s => Run.result_liftM_bind_of_error he s⟩
  · obtain ⟨name, hname, hhyphen⟩ := rules.exists_hyphen hfree
    have hpart : name ∈ [rule.key.database, rule.key.schema, rule.key.owner, rule.key.role,
        rule.key.type.name] := List.mem_append_left [rule.key.type.name] hname
    have hsplit : splitIdentity rule.key.identity ruleIdentity =
        .error (.validation (.identityFormat rule.key.identity ruleIdentity)) :=
      splitIdentity_of_hyphen hpart hhyphen rfl
    show RuleKey.decode _ = _
    unfold RuleKey.decode
    rw [hsplit]
    rfl
  · obtain ⟨database, hdatabase⟩ := haccepted rule.key.database (by simp [rules]) "database"
    obtain ⟨schema, hschema⟩ := haccepted rule.key.schema (by simp [rules]) "schema"
    obtain ⟨owner, howner⟩ := haccepted rule.key.owner (by simp [rules]) "owner"
    obtain ⟨role, hrole⟩ := haccepted rule.key.role (by simp [rules]) "role"
    exact ⟨{ rule.key with database, schema, owner, role },
      RuleKey.decode_of_hyphenFree hempty hfree hdatabase hschema howner hrole rfl⟩
  · have hagain : ∀ {raw what name}, normalizeName raw what = .ok name →
        name ∈ rules.names rule.key → normalizeName name what = .ok name :=
      fun h hname => normalizeName_of_plain h (hplain _ hname) _
    exact RuleKey.decode_of_hyphenFree hempty hfree (hagain hdatabase (by simp [rules]))
      (hagain hschema (by simp [rules])) (hagain howner (by simp [rules]))
      (hagain hrole (by simp [rules])) rfl

theorem undisputed_rules {ctx : Context σ} (hserver : ctx.server.PlainErrors)
    {desired : DeclaredRule} {rule : Rule}
    (h : desired.normalize ctx.defaultDatabase = .ok rule) :
    rules.Undisputed ctx desired rule.key rule.key.identity := by
  have hplan : ∀ {found : Option Rule}, (∀ o, found = some o → o.key = rule.key) →
      Valid (rule.plan found) := by
    intro found hfound
    cases found with
    | none => exact .ok _
    | some o =>
      simp only [Rule.plan, hfound o rfl, if_true]
      exact .ok _
  refine ⟨fun hsought => ?_, fun {found} hfound => ?_, fun {found} hfound => ?_⟩
  · refine Run.FailsOnly.liftM_bind_of_ok hsought ?_
    refine (ctx.failsOnly_hold .shared).bind fun _ => ?_
    exact Context.valid_session_bind hserver _
      (Run.FailsOnly.valid (Session.failsAsServer_rule? hserver _))
  · exact (ctx.dialect.valid_require _).bind fun _ => .bind_of_ok h (hplan hfound)
  · refine (Lifecycle.verifies_rules hserver).valid_write hserver ?_ fun w hw => ?_
    · refine (ctx.valid_requireWritable).bind fun _ => ?_
      exact (ctx.dialect.valid_require _).bind fun _ => .bind_of_ok h (.ok _)
    · obtain ⟨-, -, rule', hrule', rfl⟩ := Lifecycle.Rule.writing_ok.1 hw
      obtain rfl := Except.ok.inj (h.symm.trans hrule')
      cases found with
      | some old => exact .ofExcept (hplan hfound)
      | none =>
        refine (Run.FailsOnly.valid (Session.failsAsServer_rule? hserver _)).bind_of
          fun s before t hread => .ofExcept (hplan ?_)
        rintro o rfl
        exact Session.rule?_key hread

/-! ## All kinds with composite keys -/

/-- The identity of a declared schema, extension or rule is read back exactly if no name in its key
has a hyphen: then the object is not refused as invalid if its names are plain, and otherwise it is
refused for the format of its identity. -/
theorem identity_read_unless_hyphen (ctx : Context σ) :
    schemas.IdentityReadUnlessHyphen ctx (fun desired => desired.normalize ctx.defaultDatabase)
      schemaIdentity ∧
    extensions.IdentityReadUnlessHyphen ctx (fun desired => desired.normalize ctx.defaultDatabase)
      extensionIdentity ∧
    rules.IdentityReadUnlessHyphen ctx (fun desired => desired.normalize ctx.defaultDatabase)
      ruleIdentity := by
  refine ⟨fun desired spec h => ?_, fun desired spec h => ?_, fun desired rule h => ?_⟩
  · have hkey : schemas.declared ctx.defaultDatabase desired = .ok (spec.database, spec.name) :=
      Except.map_ok.2 ⟨spec, h, rfl⟩
    have hid : Lifecycle.schemas.identity ctx desired = .ok spec.identity :=
      Except.map_ok.2 ⟨spec, h, rfl⟩
    exact ⟨_, _, hkey, hid, (encodes_schemas h).readUnlessHyphen hid hkey lawful_schemas
      fun hserver _ => undisputed_schemas hserver h⟩
  · obtain ⟨database, hspec, -⟩ := DeclaredExtension.normalize_ok h
    have hkey : extensions.declared ctx.defaultDatabase desired = .ok (database, spec.name) :=
      extensions_declared_ok.2 ⟨spec, database, h, hspec, rfl⟩
    have hof : spec.databaseOf = .ok database := by rw [DeclaredExtension.databaseOf, hspec]
    have hid : Lifecycle.extensions.identity ctx desired =
        .ok (joinIdentity [database, spec.name]) :=
      Except.bind_ok.2 ⟨spec, h, Except.bind_ok.2 ⟨database, hof, rfl⟩⟩
    exact ⟨_, _, hkey, hid, (encodes_extensions h hspec).readUnlessHyphen hid hkey
      lawful_extensions fun hserver hnames => undisputed_extensions hserver hnames h hspec⟩
  · have hkey : rules.declared ctx.defaultDatabase desired = .ok rule.key :=
      Except.map_ok.2 ⟨rule, h, rfl⟩
    have hid : Lifecycle.rules.identity ctx desired = .ok rule.key.identity :=
      Except.map_ok.2 ⟨rule, h, rfl⟩
    exact ⟨_, _, hkey, hid, (encodes_rules h).readUnlessHyphen hid hkey
      (fun _ => lawful_rules ctx) fun hserver _ => undisputed_rules hserver h⟩

end Naming

/-! ## Two extensions -/

/-- An extension in the default database. -/
def DeclaredExtension.named (name : String) : DeclaredExtension :=
  ⟨name, none, none, none⟩

/-- The extension `uuid-ossp` is accepted, but its own identity is not read, so that it cannot be
planned. -/
theorem identity_of_uuid_ossp_refused :
    (DeclaredExtension.named "uuid-ossp").normalize "main" =
      .ok { DeclaredExtension.named "uuid-ossp" with database := some "main" } ∧
    Lifecycle.extensions.identity smallContext (.named "uuid-ossp") = .ok "main-uuid-ossp" ∧
    InstalledExtension.decodeKey "main-uuid-ossp" =
      .error (.validation (.identityFormat "main-uuid-ossp" extensionIdentity)) ∧
    ∀ s, (Lifecycle.extensions.pending smallContext (.named "uuid-ossp")).result s =
      (.error (.failed (.validation (.identityFormat "main-uuid-ossp" extensionIdentity))), s) := by
  have hid : Lifecycle.extensions.identity smallContext (.named "uuid-ossp") =
      .ok "main-uuid-ossp" := Except.eq_ok_of_toOption (by decide +kernel)
  have hsplit : splitIdentity "main-uuid-ossp" extensionIdentity =
      .error (.validation (.identityFormat "main-uuid-ossp" extensionIdentity)) := by
    have hjoin : joinIdentity ["main", "uuid-ossp"] = "main-uuid-ossp" := by decide +kernel
    have hmem : "uuid-ossp" ∈ ["main", "uuid-ossp"] := by simp
    have hhyphen : ¬HyphenFree "uuid-ossp" := by decide +kernel
    rw [← hjoin]
    exact splitIdentity_of_hyphen hmem hhyphen rfl
  have hdecode : InstalledExtension.decodeKey "main-uuid-ossp" =
      .error (.validation (.identityFormat "main-uuid-ossp" extensionIdentity)) := by
    rw [InstalledExtension.decodeKey, hsplit]
    rfl
  refine ⟨Except.eq_ok_of_toOption (by decide +kernel), hid, hdecode, fun s => ?_⟩
  refine (Run.result_bind_of_ok (Run.result_liftM.2 ⟨hid, rfl⟩)).trans ?_
  exact Run.result_bind_of_error (Run.result_liftM_bind_of_error hdecode s)

/-- The extension `hstore` is looked up by its own identity, and is not refused as invalid. -/
theorem identity_read_unless_hyphen_hstore :
    smallContext.server.PlainErrors ∧ smallContext.server.AnswersByName ∧
    Lifecycle.extensions.identity smallContext (.named "hstore") = .ok "main-hstore" ∧
    InstalledExtension.decodeKey "main-hstore" = .ok ("main", "hstore") ∧
    (Lifecycle.extensions.converge smallContext (.named "hstore")).Valid := by
  have hserver : smallContext.server.PlainErrors := Memory.plainErrors _
  have hnames : smallContext.server.AnswersByName := smallHost.answersByName _
  have hspec : (DeclaredExtension.named "hstore").normalize smallContext.defaultDatabase =
      .ok { DeclaredExtension.named "hstore" with database := some "main" } :=
    Except.eq_ok_of_toOption (by decide +kernel)
  have hid : Lifecycle.extensions.identity smallContext (.named "hstore") = .ok "main-hstore" :=
    Except.eq_ok_of_toOption (by decide +kernel)
  obtain ⟨key, id, hkey, hid', hread⟩ :=
    (Naming.identity_read_unless_hyphen smallContext).2.1 _ _ hspec
  obtain rfl : key = ("main", "hstore") :=
    Except.ok.inj (hkey.symm.trans (Except.eq_ok_of_toOption (by decide +kernel)))
  obtain rfl := Except.ok.inj (hid.symm.trans hid')
  have hfree : ∀ name ∈ ["main", "hstore"], HyphenFree name := by decide +kernel
  have hplain : ∀ name ∈ ["main", "hstore"], Plain name := by decide +kernel
  obtain ⟨hsought, hvalid⟩ := hread.plain hfree hplain
  exact ⟨hserver, hnames, hid, hsought, (hvalid hserver hnames).2⟩

end Accord
