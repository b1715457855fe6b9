import Accord.Proofs.Session.Run
import Accord.Proofs.Text.Word
import Accord.Rule.Basic

/-!
# Privileges as they are declared

A word of a declaration means a keyword if it is that keyword in any case, perhaps with blanks
around it (`Text.Means`).  The privileges of a declaration are those whose keywords its words mean,
and all that the type allows if one of the words means `ALL`.  So they hang neither on the order of
the words nor on their spelling, nor on how often a word comes (`privileges_as_declared`).
-/

namespace Accord

/-! ## Words for privileges -/

namespace Privilege

variable {p q : Privilege}

theorem sql_inj (h : p.sql = q.sql) : p = q := by
  revert h
  cases p <;> cases q <;> decide

theorem parse?_eq_some {raw : String} : parse? raw = some p ↔ p.sql = (Text.trim raw).toUpper := by
  unfold parse?
  constructor
  · intro h
    simpa using List.find?_some h
  · intro h
    rw [← h]
    cases p <;> rfl

theorem means_sql {word : String} : Text.Means word p.sql ↔ p.sql = (Text.trim word).toUpper :=
  Text.means_iff_toUpper (by cases p <;> decide +kernel)

theorem means_sql_self (p : Privilege) : Text.Means p.sql p.sql := by
  cases p <;> decide +kernel

/-- A word means the keyword of one privilege at most. -/
theorem eq_of_means {word : String} (hp : Text.Means word p.sql) (hq : Text.Means word q.sql) :
    p = q :=
  sql_inj ((means_sql.1 hp).trans (means_sql.1 hq).symm)

theorem not_means_all {word : String} (h : Text.Means word "ALL") : ¬Text.Means word p.sql := by
  intro hp
  have hall : p.sql.toLower = "ALL".toLower := hp.symm.trans h
  revert hall
  cases p <;> decide +kernel

end Privilege

namespace ObjectType

variable {type : ObjectType} {word : String} {p : Privilege}

/-- A word of a declaration names a privilege that an object of the type can have. -/
def Names (type : ObjectType) (word : String) (p : Privilege) : Prop :=
  p ∈ type.allowed ∧
    (Text.sameIgnoringCase (Text.trim word) "ALL" = true ∨ p.sql = (Text.trim word).toUpper)

/-- A word stands for all privileges of the type, or for one of them. -/
def Accepts (type : ObjectType) (word : String) : Prop :=
  Text.Means word "ALL" ∨ ∃ p ∈ type.allowed, Text.Means word p.sql

theorem names_iff :
    type.Names word p ↔ p ∈ type.allowed ∧ (Text.Means word "ALL" ∨ Text.Means word p.sql) := by
  rw [Names, Text.means_iff_sameIgnoringCase, Privilege.means_sql]

/-- The spelling of a word does not matter. -/
theorem accepts_congr {word' : String} (h : Text.folded word = Text.folded word') :
    type.Accepts word ↔ type.Accepts word' := by
  unfold Accepts Text.Means
  rw [h]

/-- What one word stands for. -/
theorem privileges_cases (type : ObjectType) (word : String) :
    (Text.Means word "ALL" ∧ type.privileges word = .ok type.allowed) ∨
    (∃ p ∈ type.allowed, Text.Means word p.sql ∧ type.privileges word = .ok [p]) ∨
    (¬type.Accepts word ∧
      type.privileges word = .error (.validation (.privilegeNotAllowed word type))) := by
  unfold privileges
  by_cases hall : Text.sameIgnoringCase (Text.trim word) "ALL" = true
  · rw [if_pos hall]
    exact .inl ⟨Text.means_iff_sameIgnoringCase.2 hall, rfl⟩
  · rw [if_neg hall]
    have hnotAll : ¬Text.Means word "ALL" := mt Text.means_iff_sameIgnoringCase.1 hall
    cases hq : Privilege.parse? word with
    | none =>
      refine .inr (.inr ⟨?_, rfl⟩)
      rintro (h | ⟨p, -, hp⟩)
      · exact hnotAll h
      · rw [Privilege.parse?_eq_some.2 (Privilege.means_sql.1 hp)] at hq
        cases hq
    | some q =>
      have hmeans := Privilege.means_sql.2 (Privilege.parse?_eq_some.1 hq)
      dsimp only
      by_cases hallowed : type.allowed.contains q = true
      · rw [if_pos hallowed]
        exact .inr (.inl ⟨q, List.contains_iff_mem.1 hallowed, hmeans, rfl⟩)
      · rw [if_neg hallowed]
        refine .inr (.inr ⟨?_, rfl⟩)
        rintro (h | ⟨p, hp, hpword⟩)
        · exact hnotAll h
        · obtain rfl := Privilege.eq_of_means hpword hmeans
          exact hallowed (List.contains_iff_mem.2 hp)

theorem exists_privileges_ok :
    (∃ l, type.privileges word = .ok l) ↔ type.Accepts word := by
  rcases type.privileges_cases word with ⟨hall, hok⟩ | ⟨p, hp, hmeans, hok⟩ | ⟨hnot, herror⟩
  · exact iff_of_true ⟨_, hok⟩ (.inl hall)
  · exact iff_of_true ⟨_, hok⟩ (.inr ⟨p, hp, hmeans⟩)
  · refine iff_of_false ?_ hnot
    rintro ⟨l, hl⟩
    exact nomatch hl.symm.trans herror

/-- The privileges that a word stands for are those that it names. -/
theorem mem_privileges {l : List Privilege} (h : type.privileges word = .ok l) (p : Privilege) :
    p ∈ l ↔ type.Names word p := by
  rw [names_iff]
  rcases type.privileges_cases word with ⟨hall, hok⟩ | ⟨q, hq, hmeans, hok⟩ | ⟨-, herror⟩
  · obtain rfl := Except.ok.inj (hok.symm.trans h)
    exact ⟨fun hp => ⟨hp, .inl hall⟩, fun hp => hp.1⟩
  · obtain rfl := Except.ok.inj (hok.symm.trans h)
    rw [List.mem_singleton]
    constructor
    · rintro rfl
      exact ⟨hq, .inr hmeans⟩
    · rintro ⟨-, hword | hword⟩
      · exact absurd hmeans (Privilege.not_means_all hword)
      · exact Privilege.eq_of_means hword hmeans
  · exact nomatch h.symm.trans herror

theorem mem_flatten_privileges {words : List String} {l : List (List Privilege)}
    (h : words.mapM type.privileges = .ok l) (p : Privilege) :
    p ∈ l.flatten ↔ ∃ word ∈ words, type.Names word p := by
  induction words generalizing l with
  | nil =>
    obtain rfl := Except.ok.inj h
    simp
  | cons word words ih =>
    rw [List.mapM_cons] at h
    obtain ⟨first, hfirst, h⟩ := Except.bind_ok.1 h
    obtain ⟨rest, hrest, h⟩ := Except.bind_ok.1 h
    obtain rfl := Except.ok.inj h
    rw [List.flatten_cons, List.mem_append, mem_privileges hfirst, ih hrest]
    simp

/-- A set of privileges is what all words name, if each of them is accepted. -/
theorem privilegeSet_ok {words : List String} {privileges : OrderedSet Privilege} :
    type.privilegeSet words = .ok privileges ↔
      (∀ word ∈ words, type.Accepts word) ∧
        ∀ p, p ∈ privileges ↔ ∃ word ∈ words, type.Names word p := by
  have hset : ∀ l, words.mapM type.privileges = .ok l →
      ((OrderedSet.ofList l.flatten = privileges) ↔
        ∀ p, p ∈ privileges ↔ ∃ word ∈ words, type.Names word p) := by
    intro l hl
    constructor
    · rintro rfl p
      rw [OrderedSet.mem_ofList, mem_flatten_privileges hl]
    · intro h
      ext p
      rw [OrderedSet.mem_ofList, mem_flatten_privileges hl, h]
  have haccepts : (∃ l, words.mapM type.privileges = .ok l) ↔
      ∀ word ∈ words, type.Accepts word := by
    rw [Except.exists_mapM_ok]
    exact forall₂_congr fun word _ => exists_privileges_ok
  unfold privilegeSet
  rw [Except.bind_ok, ← haccepts]
  constructor
  · rintro ⟨l, hl, hprivileges⟩
    exact ⟨⟨l, hl⟩, (hset l hl).1 (Except.ok.inj hprivileges)⟩
  · rintro ⟨⟨l, hl⟩, h⟩
    exact ⟨l, hl, congrArg Except.ok ((hset l hl).2 h)⟩

theorem parse?_eq_some {raw : String} : parse? raw = some type ↔ Text.Means raw type.name := by
  rw [Text.means_iff_toLower (by cases type <;> decide +kernel)]
  unfold parse?
  constructor
  · intro h
    simpa using List.find?_some h
  · intro h
    rw [← h]
    cases type <;> rfl

theorem parse_ok {raw : String} : parse raw = .ok type ↔ Text.Means raw type.name := by
  rw [← parse?_eq_some]
  unfold parse
  cases parse? raw with
  | none => simp
  | some type' => simp

end ObjectType

/-! ## Privileges of a declaration -/

/-- The type and the privileges that a declaration names. -/
def declaredPrivileges (objectType : String) (words : List String) :
    Except Error (ObjectType × OrderedSet Privilege) := do
  let type ← ObjectType.parse objectType
  return (type, ← type.privilegeSet words)

/-- They are the first thing that is read of a declared rule. -/
theorem DeclaredRule.normalize_eq (spec : DeclaredRule) (defaultDatabase : String) :
    spec.normalize defaultDatabase = do
      let d ← declaredPrivileges spec.objectType spec.privileges
      if d.2.isEmpty then throw (.validation .noPrivileges)
      let key ← RuleKey.ofNames (spec.database.getD defaultDatabase) spec.schema spec.owner
        spec.role
      return ⟨key d.1, d.2⟩ := by
  simp only [normalize, declaredPrivileges, bind_assoc, pure_bind]

section Declared

variable {objectType : String} {words : List String} {type : ObjectType}
  {privileges : OrderedSet Privilege}

theorem declaredPrivileges_ok :
    declaredPrivileges objectType words = .ok (type, privileges) ↔
      Text.Means objectType type.name ∧ (∀ word ∈ words, type.Accepts word) ∧
        ∀ p, p ∈ privileges ↔ ∃ word ∈ words, type.Names word p := by
  rw [← ObjectType.parse_ok, ← ObjectType.privilegeSet_ok]
  unfold declaredPrivileges
  rw [Except.bind_ok]
  constructor
  · rintro ⟨type', htype, h⟩
    obtain ⟨privileges', hprivileges, h⟩ := Except.bind_ok.1 h
    obtain ⟨rfl, rfl⟩ := Prod.mk.inj (Except.ok.inj h)
    exact ⟨htype, hprivileges⟩
  · rintro ⟨htype, hprivileges⟩
    exact ⟨type, htype, Except.bind_ok.2 ⟨privileges, hprivileges, rfl⟩⟩

/-- What each word names is named by it alone, once all words are accepted. -/
theorem exists_names (h : ∀ word ∈ words, type.Accepts word) (p : Privilege) :
    (∃ word ∈ words, type.Names word p) ↔ (∃ word ∈ words, Text.Means word p.sql) ∨
      (∃ word ∈ words, Text.Means word "ALL") ∧ p ∈ type.allowed := by
  constructor
  · rintro ⟨word, hword, hnames⟩
    obtain ⟨hp, hall | hmeans⟩ := ObjectType.names_iff.1 hnames
    · exact .inr ⟨⟨word, hword, hall⟩, hp⟩
    · exact .inl ⟨word, hword, hmeans⟩
  · rintro (⟨word, hword, hmeans⟩ | ⟨⟨word, hword, hall⟩, hp⟩)
    · rcases h word hword with hall | ⟨q, hq, hqmeans⟩
      · exact absurd hmeans (Privilege.not_means_all hall)
      · obtain rfl := Privilege.eq_of_means hqmeans hmeans
        exact ⟨word, hword, ObjectType.names_iff.2 ⟨hq, .inr hmeans⟩⟩
    · exact ⟨word, hword, ObjectType.names_iff.2 ⟨hp, .inl hall⟩⟩

/-- The order of the words, their spelling and how often they come make no difference. -/
theorem declaredPrivileges_of_same {objectType' : String} {words' : List String}
    (htype : Text.SameWords [objectType] [objectType']) (hwords : Text.SameWords words words')
    (h : declaredPrivileges objectType words = .ok (type, privileges)) :
    declaredPrivileges objectType' words' = .ok (type, privileges) := by
  obtain ⟨hname, haccepts, hmem⟩ := declaredPrivileges_ok.1 h
  have hname' : Text.Means objectType' type.name := by
    simpa using (htype.exists_means type.name).1 ⟨_, List.mem_singleton_self _, hname⟩
  have haccepts' : ∀ word ∈ words', type.Accepts word := by
    intro word' hword'
    obtain ⟨word, hword, hfolded⟩ := List.mem_map.1 (hwords.2 (List.mem_map_of_mem hword'))
    exact (ObjectType.accepts_congr hfolded).1 (haccepts word hword)
  refine declaredPrivileges_ok.2 ⟨hname', haccepts', fun p => ?_⟩
  rw [hmem, exists_names haccepts, exists_names haccepts', hwords.exists_means,
    hwords.exists_means]

/-- The keywords of some privileges of the type name these privileges again. -/
theorem declaredPrivileges_keywords
    (h : declaredPrivileges objectType words = .ok (type, privileges)) :
    declaredPrivileges objectType (privileges.toList.map Privilege.sql) =
      .ok (type, privileges) := by
  obtain ⟨hname, -, hmem⟩ := declaredPrivileges_ok.1 h
  have hallowed : ∀ p ∈ privileges, p ∈ type.allowed := by
    intro p hp
    obtain ⟨word, -, hnames⟩ := (hmem p).1 hp
    exact hnames.1
  refine declaredPrivileges_ok.2 ⟨hname, ?_, fun p => ⟨fun hp => ?_, ?_⟩⟩
  · intro word hword
    obtain ⟨p, hp, rfl⟩ := List.mem_map.1 hword
    exact .inr ⟨p, hallowed p hp, p.means_sql_self⟩
  · exact ⟨p.sql, List.mem_map_of_mem hp,
      ObjectType.names_iff.2 ⟨hallowed p hp, .inr p.means_sql_self⟩⟩
  · rintro ⟨word, hword, hnames⟩
    obtain ⟨q, hq, rfl⟩ := List.mem_map.1 hword
    obtain ⟨-, hall | hmeans⟩ := ObjectType.names_iff.1 hnames
    · exact absurd q.means_sql_self (Privilege.not_means_all hall)
    · obtain rfl := Privilege.eq_of_means q.means_sql_self hmeans
      exact hq

end Declared

/-- A declaration of privileges is read if it names a type, and if each of its words is `ALL` or
names a privilege of that type.  What is read are the privileges that are named, or all if one word
is `ALL`, whatever the order and the spelling; and their keywords are read as the same
privileges. -/
theorem privileges_as_declared :
    (∀ objectType words, (∃ d, declaredPrivileges objectType words = .ok d) ↔
      ∃ type : ObjectType, Text.Means objectType type.name ∧
        ∀ word ∈ words, Text.Means word "ALL" ∨ ∃ p ∈ type.allowed, Text.Means word p.sql) ∧
    ∀ objectType words type privileges,
      declaredPrivileges objectType words = .ok (type, privileges) →
      Text.Means objectType type.name ∧
      (∀ p, p ∈ privileges ↔ (∃ word ∈ words, Text.Means word p.sql) ∨
        (∃ word ∈ words, Text.Means word "ALL") ∧ p ∈ type.allowed) ∧
      (∀ objectType' words', Text.SameWords [objectType] [objectType'] →
        Text.SameWords words words' →
        declaredPrivileges objectType' words' = .ok (type, privileges)) ∧
      declaredPrivileges objectType (privileges.toList.map Privilege.sql) =
        .ok (type, privileges) := by
  refine ⟨fun objectType words => ⟨?_, ?_⟩, fun objectType words type privileges h => ?_⟩
  · rintro ⟨⟨type, privileges⟩, h⟩
    obtain ⟨hname, haccepts, -⟩ := declaredPrivileges_ok.1 h
    exact ⟨type, hname, haccepts⟩
  · rintro ⟨type, hname, haccepts⟩
    obtain ⟨l, hl⟩ := Except.exists_mapM_ok.2 fun word hword =>
      ObjectType.exists_privileges_ok.2 (haccepts word hword)
    refine ⟨(type, .ofList l.flatten), declaredPrivileges_ok.2 ⟨hname, haccepts, fun p => ?_⟩⟩
    rw [OrderedSet.mem_ofList, ObjectType.mem_flatten_privileges hl]
  · obtain ⟨hname, haccepts, hmem⟩ := declaredPrivileges_ok.1 h
    refine ⟨hname, fun p => (hmem p).trans (exists_names haccepts p), ?_,
      declaredPrivileges_keywords h⟩
    intro objectType' words' htype hwords
    exact declaredPrivileges_of_same htype hwords h

/-- A declaration with blanks, in several cases, and with a word that comes twice. -/
theorem privileges_as_declared_padded :
    declaredPrivileges " Table " ["select", "\u00a0Insert ", "SELECT"] =
      .ok (.table, .ofList [.select, .insert]) ∧
    declaredPrivileges "TABLE" ["INSERT", "Select"] =
      .ok (.table, .ofList [.select, .insert]) ∧
    declaredPrivileges " Table " ["SELECT", "INSERT"] =
      .ok (.table, .ofList [.select, .insert]) := by
  have hread : declaredPrivileges " Table " ["select", "\u00a0Insert ", "SELECT"] =
      .ok (.table, .ofList [.select, .insert]) :=
    Except.eq_ok_of_toOption (by decide +kernel)
  obtain ⟨-, -, hsame, hkeywords⟩ := privileges_as_declared.2 _ _ _ _ hread
  have hlist : (OrderedSet.ofList [Privilege.select, .insert]).toList.map Privilege.sql =
      ["SELECT", "INSERT"] := by decide +kernel
  have htable : Text.folded " Table " = "table" ∧ Text.folded "TABLE" = "table" := by
    decide +kernel
  have hselect : Text.folded "select" = "select" ∧ Text.folded "SELECT" = "select" ∧
      Text.folded "Select" = "select" := by decide +kernel
  have hinsert : Text.folded "\u00a0Insert " = "insert" ∧ Text.folded "INSERT" = "insert" := by
    decide +kernel
  rw [hlist] at hkeywords
  refine ⟨hread, hsame _ _ ?_ ?_, hkeywords⟩
  · simp [Text.SameWords, htable]
  · simp [Text.SameWords, hselect, hinsert]

end Accord
