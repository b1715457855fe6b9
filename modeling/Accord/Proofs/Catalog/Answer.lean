import Accord.Catalog.Query
import Accord.Catalog.Reading
import Accord.Proofs.Catalog.State
import Accord.Proofs.Schema.Shares
import Accord.Proofs.Session.Run

/-!
# What is answered about a catalog

`Catalog.Answers` says which tables answer a question truthfully.  The order of a list, and how
often something is repeated in it, is left to the server.

Reading such a table gives the object that is in the catalog: this is one lemma for each kind of
question.
-/

namespace Accord

/-! ## Tables -/

/-- The columns of an answer about a role. -/
def roleColumns : List String :=
  ["name", "superuser", "inherit", "create_role", "create_database", "login", "replication",
    "connection_limit", "valid_until", "bypass_row_level_security", "roles"]

/-- The columns of an answer about the grants on a schema. -/
def grantColumns : List String :=
  ["grantee", "privilege", "grantable"]

/-- The columns of an answer about an extension. -/
def extensionColumns : List String :=
  ["name", "schema", "version", "default_version"]

/-- The row of a role, with its groups in some order. -/
def RoleEntry.row (e : RoleEntry) (name : String) (bypass : Bool) (groups : List String) :
    List Json :=
  [.text name, .bool (e.has .superuser), .bool (e.has .inherit), .bool (e.has .createRole),
    .bool (e.has .createDatabase), .bool (e.has .login), .bool (e.has .replication),
    .int e.connectionLimit, .text e.expiry,
    if bypass then .bool (e.has .bypassRowLevelSecurity) else .null, .texts groups]

/-- A grant on a schema: to whom, of what, and whether it can be passed on. -/
structure SchemaGrant where
  role : String
  privilege : SchemaPrivilege
  grantable : Bool
deriving DecidableEq

/-- The row of a grant. -/
def SchemaGrant.row (g : SchemaGrant) : List Json :=
  [.text g.role, .text g.privilege.sql, .bool g.grantable]

/-- Some grants say who holds what on a schema without owning it. -/
structure SchemaEntry.Lists (e : SchemaEntry) (grants : List SchemaGrant) : Prop where
  base (role : String) (p : SchemaPrivilege) :
    .base p ∈ e.policy role ↔ ∃ grantable, ⟨role, p, grantable⟩ ∈ grants
  withGrant (role : String) (p : SchemaPrivilege) :
    .withGrant p ∈ e.policy role ↔ ⟨role, p, true⟩ ∈ grants

/-- A table answers a question truthfully, in a session on a database. -/
def Catalog.Answers (host : Host) (k : Catalog) (database : String) (table : ResultTable) :
    Query → Prop
  | .serverInfo => table = ⟨["server_version", "username", "database", "is_superuser"],
      [[.text host.facts.version, .text host.facts.currentUser, .text host.facts.database,
        .bool host.facts.isSuperuser]]⟩
  | .roleExists name => table.isEmpty = (k.roles name).isNone
  | .role name bypass =>
    table.columns = roleColumns ∧
      match k.roles name with
      | none => table.rows = []
      | some e => ∃ groups, (∀ g, g ∈ groups ↔ g ∈ e.groups) ∧
          table.rows = [e.row name bypass groups]
  | .passwordHash name => table.columns = ["passwd"] ∧
      table.rows = match k.roles name with
        | none => []
        | some e => if e.has .login then [[.ofOption .text e.password]] else []
  | .databaseExists name => table.isEmpty = !host.databases name
  | .schemaExists name => table.isEmpty = (k.schemas database name).isNone
  | .schema name => table.columns = ["name", "owner"] ∧
      table.rows = match k.schemas database name with
        | none => []
        | some e => [[.text name, .text e.owner]]
  | .schemaGrants name => table.columns = grantColumns ∧
      match k.schemas database name with
      | none => table.rows = []
      | some e => ∃ grants, e.Lists grants ∧ table.rows = grants.map SchemaGrant.row
  | .rule key => table.columns = ["privilege"] ∧
      ∃ privileges : List Privilege,
        (∀ p, p ∈ privileges ↔ p ∈ k.defaults { key with database }) ∧
        table.rows = privileges.map fun p => [.text p.sql]
  | .extensionExists name => table.isEmpty = (k.extensions database name).isNone
  | .extension name => table.columns = extensionColumns ∧
      table.rows = match k.extensions database name with
        | none => []
        | some e => [[.text name, .text e.schema, .text e.version,
            .ofOption .text (host.defaultVersion database name)]]

/-! ## Reading roles -/

/-- The role as it is read from the catalog. -/
def RoleEntry.read (e : RoleEntry) (name : String) (bypass : Bool) : ObservedRole where
  name
  superuser := e.has .superuser
  createDatabase := e.has .createDatabase
  createRole := e.has .createRole
  inherit := e.has .inherit
  login := e.has .login
  replication := e.has .replication
  connectionLimit := e.connectionLimit
  validUntil := e.expiry
  bypassRowLevelSecurity := if bypass then some (e.has .bypassRowLevelSecurity) else none
  roles := e.groups
  password := none
  passwordHash := none

theorem mapM_textItem (column : String) (l : List String) :
    (l.map Json.text).mapM (Row.textItem column) = .ok l := by
  induction l with
  | nil => rfl
  | cons s l ih =>
    rw [List.map_cons, List.mapM_cons, ih]
    rfl

theorem RoleEntry.ofRow_row (e : RoleEntry) (name : String) (bypass : Bool)
    {groups : List String} (hgroups : ∀ g, g ∈ groups ↔ g ∈ e.groups) :
    ObservedRole.ofRow ⟨roleColumns, e.row name bypass groups⟩ = .ok (e.read name bypass) := by
  have hroles : OrderedSet.ofList groups = e.groups :=
    OrderedSet.ext fun g => by rw [OrderedSet.mem_ofList, hgroups]
  obtain ⟨hlow, hhigh⟩ := e.limit_range
  have hinteger : Row.integer ⟨roleColumns, e.row name bypass groups⟩ "connection_limit" =
      .ok e.connectionLimit :=
    if_pos (by omega)
  have hlimit : Row.connectionLimit ⟨roleColumns, e.row name bypass groups⟩ =
      .ok e.connectionLimit := by
    unfold Row.connectionLimit
    rw [hinteger]
    show (if e.connectionLimit < -2147483648 then _ else _) = _
    rw [if_neg (by omega), if_neg (by omega)]
    rfl
  have hbypass : Row.bool? ⟨roleColumns, e.row name bypass groups⟩ "bypass_row_level_security" =
      .ok (if bypass then some (e.has .bypassRowLevelSecurity) else none) := by
    cases bypass <;> rfl
  have htexts : Row.texts ⟨roleColumns, e.row name bypass groups⟩ "roles" = .ok groups :=
    mapM_textItem "roles" groups
  unfold ObservedRole.ofRow
  rw [hlimit, hbypass, htexts]
  show Except.ok _ = _
  rw [hroles]
  rfl

theorem Json.text?_ofOption (column : String) (text : Option String) :
    Row.text? ⟨[column], [.ofOption .text text]⟩ column = .ok text := by
  have hvalue : Row.value ⟨[column], [.ofOption .text text]⟩ column =
      .ok (.ofOption .text text) := by
    simp [Row.value, List.idxOf?]
  unfold Row.text?
  rw [hvalue]
  cases text <;> rfl

theorem passwordHashOf_ok {table : ResultTable} (text : Option String)
    (hcolumns : table.columns = ["passwd"])
    (hrows : table.rows = [] ∨ table.rows = [[.ofOption .text text]]) :
    ∃ hash, passwordHashOf table = .ok hash := by
  obtain ⟨columns, rows⟩ := table
  subst hcolumns
  rcases hrows with rfl | rfl
  · exact ⟨none, rfl⟩
  · exact ⟨text, Json.text?_ofOption "passwd" text⟩

/-! ## Reading schemas -/

theorem SchemaPrivilege.parse?_sql (p : SchemaPrivilege) : parse? p.sql = some p := by
  cases p <;> decide +kernel

/-- The rights that a grant gives. -/
def SchemaGrant.rights (g : SchemaGrant) : SchemaRights :=
  .ofList (.base g.privilege :: if g.grantable then [.withGrant g.privilege] else [])

theorem SchemaGrant.base_mem_rights {g : SchemaGrant} {p : SchemaPrivilege} :
    .base p ∈ g.rights ↔ g.privilege = p := by
  unfold rights
  rw [OrderedSet.mem_ofList, List.mem_cons]
  cases g.grantable <;> simp [SchemaRight.base, SchemaRight.withGrant, eq_comm]

theorem SchemaGrant.withGrant_mem_rights {g : SchemaGrant} {p : SchemaPrivilege} :
    .withGrant p ∈ g.rights ↔ g.privilege = p ∧ g.grantable = true := by
  unfold rights
  rw [OrderedSet.mem_ofList, List.mem_cons]
  cases g.grantable <;> simp [SchemaRight.base, SchemaRight.withGrant, eq_comm]

/-- What a grant gives, and to whom. -/
def SchemaGrant.share (g : SchemaGrant) : Share :=
  (g.role, g.rights)

/-- What grants list is what they give. -/
theorem SchemaEntry.lists_iff {e : SchemaEntry} {grants : List SchemaGrant} :
    e.Lists grants ↔
      ∀ role r, r ∈ e.policy role ↔ ∃ g ∈ grants, g.role = role ∧ r ∈ g.rights := by
  have hbase : ∀ role p, (∃ g ∈ grants, g.role = role ∧ .base p ∈ g.rights) ↔
      ∃ grantable, ⟨role, p, grantable⟩ ∈ grants := by
    intro role p
    simp only [SchemaGrant.base_mem_rights]
    constructor
    · rintro ⟨⟨_, _, b⟩, hg, rfl, rfl⟩
      exact ⟨b, hg⟩
    · rintro ⟨b, hg⟩
      exact ⟨_, hg, rfl, rfl⟩
  have hwithGrant : ∀ role p, (∃ g ∈ grants, g.role = role ∧ .withGrant p ∈ g.rights) ↔
      ⟨role, p, true⟩ ∈ grants := by
    intro role p
    simp only [SchemaGrant.withGrant_mem_rights]
    constructor
    · rintro ⟨⟨_, _, _⟩, hg, rfl, rfl, rfl⟩
      exact hg
    · exact fun hg => ⟨_, hg, rfl, rfl, rfl⟩
  constructor
  · rintro h role ⟨p, b⟩
    cases b with
    | false => exact (h.base role p).trans (hbase role p).symm
    | true => exact (h.withGrant role p).trans (hwithGrant role p).symm
  · exact fun h => ⟨fun role p => (h role _).trans (hbase role p),
      fun role p => (h role _).trans (hwithGrant role p)⟩

namespace Policies

theorem addRow_of_some {raw role : String} {p : SchemaPrivilege}
    (hp : SchemaPrivilege.parse? raw = some p) (policies : Policies) (grantable : Bool) :
    policies.addRow ⟨grantColumns, [.text role, .text raw, .bool grantable]⟩ =
      .ok (policies.add role (SchemaGrant.mk role p grantable).rights) := by
  unfold addRow
  refine Except.bind_ok.2 ⟨raw, rfl, ?_⟩
  rw [hp]
  rfl

theorem addRow_of_none {raw role : String} (hp : SchemaPrivilege.parse? raw = none)
    (policies : Policies) (grantable : Bool) :
    policies.addRow ⟨grantColumns, [.text role, .text raw, .bool grantable]⟩ = .ok policies := by
  unfold addRow
  refine Except.bind_ok.2 ⟨raw, rfl, ?_⟩
  rw [hp]
  rfl

theorem addRow_row (policies : Policies) (g : SchemaGrant) :
    policies.addRow ⟨grantColumns, g.row⟩ = .ok (policies.add g.role g.rights) :=
  addRow_of_some (SchemaPrivilege.parse?_sql g.privilege) policies g.grantable

theorem foldlM_addRow (grants : List SchemaGrant) (policies : Policies) :
    (grants.map fun g => Row.mk grantColumns g.row).foldlM addRow policies =
      .ok (policies.addAll (grants.map SchemaGrant.share)) := by
  induction grants generalizing policies with
  | nil => rfl
  | cons g grants ih =>
    rw [List.map_cons, List.foldlM_cons, addRow_row]
    exact ih _

/-- The policies that are read are made of the shares that are granted. -/
theorem ofResult_row (grants : List SchemaGrant) :
    ofResult ⟨grantColumns, grants.map SchemaGrant.row⟩ =
      .ok (gather (grants.map SchemaGrant.share)) := by
  unfold ofResult ResultTable.toRows
  rw [List.map_map]
  exact foldlM_addRow grants ∅

theorem mem_gather_share {grants : List SchemaGrant} {role : String} {r : SchemaRight} :
    r ∈ (gather (grants.map SchemaGrant.share)).getD role ∅ ↔
      ∃ g ∈ grants, g.role = role ∧ r ∈ g.rights := by
  rw [mem_gather]
  constructor
  · rintro ⟨_, hshare, h⟩
    obtain ⟨g, hg, rfl⟩ := List.mem_map.1 hshare
    exact ⟨g, hg, h⟩
  · rintro ⟨g, hg, h⟩
    exact ⟨_, List.mem_map_of_mem hg, h⟩

/-- The policies that are read are the rights that are held without owning the schema. -/
theorem ofResult_lists {e : SchemaEntry} {grants : List SchemaGrant} (h : e.Lists grants) :
    ∃ policies : Policies,
      ofResult ⟨grantColumns, grants.map SchemaGrant.row⟩ = .ok policies ∧
      ∀ role, policies.getD role ∅ = e.policy role :=
  ⟨_, ofResult_row grants, fun role => OrderedSet.ext fun r =>
    mem_gather_share.trans (SchemaEntry.lists_iff.1 h role r).symm⟩

end Policies

/-! ## Reading rules and extensions -/

theorem Privilege.parse?_sql (p : Privilege) : parse? p.sql = some p := by
  cases p <;> decide +kernel

theorem Row.rulePrivilege_sql (p : Privilege) :
    Row.rulePrivilege ⟨["privilege"], [.text p.sql]⟩ = .ok p := by
  unfold Row.rulePrivilege
  refine Except.bind_ok.2 ⟨p.sql, rfl, ?_⟩
  rw [Privilege.parse?_sql]
  rfl

/-- The rule that is read is there if and only if it gives a privilege. -/
theorem Rule.ofResult_privileges (key : RuleKey) {privileges : List Privilege}
    {given : OrderedSet Privilege} (h : ∀ p, p ∈ privileges ↔ p ∈ given) :
    Rule.ofResult key ⟨["privilege"], privileges.map fun p => [.text p.sql]⟩ =
      .ok (if given.isEmpty then none else some ⟨key, given⟩) := by
  have hrows : (privileges.map fun p => Row.mk ["privilege"] [.text p.sql]).mapM
      Row.rulePrivilege = .ok privileges := by
    clear h
    induction privileges with
    | nil => rfl
    | cons p l ih =>
      rw [List.map_cons, List.mapM_cons, ih, Row.rulePrivilege_sql]
      rfl
  have hgiven : OrderedSet.ofList privileges = given :=
    OrderedSet.ext fun p => by rw [OrderedSet.mem_ofList, h]
  have hempty : given.isEmpty = privileges.isEmpty := by
    cases privileges with
    | nil =>
      rw [← hgiven]
      rfl
    | cons p l =>
      rw [List.isEmpty_cons, ← Bool.not_eq_true, OrderedSet.isEmpty, List.isEmpty_iff]
      intro hnil
      have hp : p ∈ given.toList := (h p).1 (List.mem_cons_self ..)
      rw [hnil] at hp
      exact absurd hp List.not_mem_nil
  unfold Rule.ofResult ResultTable.isEmpty ResultTable.toRows
  rw [hempty, List.map_map, List.isEmpty_map]
  by_cases hnil : privileges.isEmpty = true
  · rw [if_pos hnil, if_pos hnil]
    rfl
  · rw [if_neg hnil, if_neg hnil]
    show ((privileges.map fun p => Row.mk ["privilege"] [.text p.sql]).mapM Row.rulePrivilege >>=
      fun privileges => pure (some (Rule.mk key (.ofList privileges)))) = _
    rw [hrows, ← hgiven]
    rfl

/-- The extension as it is read from the catalog. -/
def ExtensionEntry.read (e : ExtensionEntry) (host : Host) (database name : String) :
    InstalledExtension where
  name
  database
  schema := e.schema
  version := e.version
  defaultVersion := host.defaultVersion database name

theorem InstalledExtension.ofRow_row (database name : String) (e : ExtensionEntry)
    (defaultVersion : Option String) :
    InstalledExtension.ofRow database ⟨extensionColumns,
        [.text name, .text e.schema, .text e.version, .ofOption .text defaultVersion]⟩ =
      .ok { name, database, schema := e.schema, version := e.version, defaultVersion } := by
  cases defaultVersion <;> rfl

end Accord
