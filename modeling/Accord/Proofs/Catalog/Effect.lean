import Accord.Proofs.Catalog.State

/-!
# What statements do to a catalog

`Statement.effect` is what a statement makes of a catalog when the server carries it out.  There is
no result where the server would have to refuse: when an object is created that exists, or changed
that does not, or when the statement is given in words that are not known here.
-/

namespace Accord

namespace Catalog

/-! ## Renaming and removal -/

/-- A role gets another name, and whatever refers to it follows. -/
def renameRole (old new : String) (k : Catalog) : Catalog where
  roles n := (k.roles (swapNames old new n)).map (RoleEntry.swap old new)
  schemas d n := (k.schemas d n).map fun e => ⟨swapNames old new e.owner, e.acl.swap old new⟩
  defaults key := k.defaults
    { key with owner := swapNames old new key.owner, role := swapNames old new key.role }
  extensions := k.extensions

/-- A schema of a database gets another name, and whatever refers to it follows. -/
def renameSchema (database old new : String) (k : Catalog) : Catalog where
  roles := k.roles
  schemas d n := k.schemas d (if d = database then swapNames old new n else n)
  defaults key := k.defaults
    { key with schema := if key.database = database then swapNames old new key.schema
        else key.schema }
  extensions d n := (k.extensions d n).map fun e =>
    { e with schema := if d = database then swapNames old new e.schema else e.schema }

/-- A role goes, and with it all memberships in it. -/
def dropRole (role : String) (k : Catalog) : Catalog :=
  { k with roles := fun n =>
      if n = role then none else (k.roles n).map fun e => { e with groups := e.groups.erase role } }

/-- The schemas of a role in a database get another owner. -/
def reassign (database role heir : String) (k : Catalog) : Catalog :=
  { k with schemas := fun d n => (k.schemas d n).map fun e =>
      if d = database ∧ e.owner = role then e.setOwner heir else e }

/-- What a role owns in a database goes, and what it was granted there. -/
def dropOwned (database role : String) (k : Catalog) : Catalog :=
  { k with
    schemas := fun d n => (k.schemas d n).bind fun e =>
      if d ≠ database then some e
      else if e.owner = role then none
      else some { e with acl := e.acl.revokeAll role }
    defaults := fun key =>
      if key.database = database ∧ (key.owner = role ∨ key.role = role) then ∅
      else k.defaults key }

/-- A schema goes with the extensions and the default privileges in it. -/
def dropSchema (database name : String) (k : Catalog) : Catalog :=
  { k with
    schemas := fun d n => if d = database ∧ n = name then none else k.schemas d n
    defaults := fun key =>
      if key.database = database ∧ key.schema = name then ∅ else k.defaults key
    extensions := fun d n => (k.extensions d n).filter fun e =>
      decide ¬(d = database ∧ e.schema = name) }

/-! ## Changes of one object -/

/-- Changes a role that there is. -/
def changeRole (k : Catalog) (role : String) (f : RoleEntry → Option RoleEntry) : Option Catalog :=
  (k.roles role).bind fun e => (f e).map fun e' => k.setRole role (some e')

/-- Changes a schema that there is. -/
def changeSchema (k : Catalog) (database name : String) (f : SchemaEntry → SchemaEntry) :
    Option Catalog :=
  (k.schemas database name).map fun e => k.setSchema database name (some (f e))

/-- Changes an extension that there is. -/
def changeExtension (k : Catalog) (database name : String)
    (f : ExtensionEntry → ExtensionEntry) : Option Catalog :=
  (k.extensions database name).map fun e => k.setExtension database name (some (f e))

end Catalog

/-- What a statement makes of a catalog, in a session on a database. -/
def Statement.effect (host : Host) (database : String) : Statement → Catalog → Option Catalog
  | .createRole name _ settings, k =>
    if (k.roles name).isSome then none
    else (settings.foldlM (RoleEntry.set host) RoleEntry.fresh).map fun e => k.setRole name (some e)
  | .renameRole old new, k =>
    if (k.roles old).isSome ∧ (k.roles new).isNone then some (k.renameRole old new) else none
  | .alterRole role setting, k => k.changeRole role fun e => e.set host setting
  | .grantMembership group role, k =>
    k.changeRole role fun e => some { e with groups := e.groups.insert group }
  | .revokeMembership group role, k =>
    k.changeRole role fun e => some { e with groups := e.groups.erase group }
  | .reassignOwned role heir, k =>
    if (k.roles role).isSome then some (k.reassign database role (heir.getD host.facts.currentUser))
    else none
  | .dropOwned role, k => if (k.roles role).isSome then some (k.dropOwned database role) else none
  | .dropRole role, k => if (k.roles role).isSome then some (k.dropRole role) else none
  | .createSchema name owner tolerant, k =>
    if (k.schemas database name).isSome then if tolerant then some k else none
    else some (k.setSchema database name (some ⟨owner.getD host.facts.currentUser, .empty⟩))
  | .renameSchema old new, k =>
    if (k.schemas database old).isSome ∧ (k.schemas database new).isNone then
      some (k.renameSchema database old new)
    else none
  | .alterSchemaOwner schema owner, k => k.changeSchema database schema fun e => e.setOwner owner
  | .grantSchema schema role p withGrantOption, k =>
    k.changeSchema database schema fun e => { e with acl := e.acl.grant role p withGrantOption }
  | .revokeSchema schema role p, k =>
    k.changeSchema database schema fun e => { e with acl := e.acl.revoke role p }
  | .revokeAllSchema schema role, k =>
    k.changeSchema database schema fun e => { e with acl := e.acl.revokeAll role }
  | .dropSchema name _, k =>
    if (k.schemas database name).isSome then some (k.dropSchema database name) else none
  | .grantDefaults owner schema type privileges role, k =>
    let key : RuleKey := { database, schema, owner, role, type }
    some (k.setDefaults key ((k.defaults key).insertAll privileges))
  | .revokeDefaults owner schema type privileges role, k =>
    let key : RuleKey := { database, schema, owner, role, type }
    some (k.setDefaults key
      (match privileges with
      | none => ∅
      | some l => (k.defaults key).filter fun p => decide (p ∉ l)))
  | .createExtension name schema version, k =>
    if (k.extensions database name).isSome then none
    else (version.or (host.defaultVersion database name)).map fun v =>
      k.setExtension database name (some ⟨schema.getD (host.defaultSchema database name), v⟩)
  | .moveExtension name schema, k =>
    k.changeExtension database name fun e => { e with schema }
  | .updateExtension name version, k =>
    k.changeExtension database name fun e => { e with version }
  | .dropExtension name, k =>
    if (k.extensions database name).isSome then some (k.setExtension database name none) else none
  | .verbatim .., _ => none

end Accord
