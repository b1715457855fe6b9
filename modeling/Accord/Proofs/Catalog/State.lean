import Accord.Ordered.Difference
import Accord.Role.Basic
import Accord.Rule.Basic
import Accord.Schema.Basic
import Accord.Server.Facts
import Accord.Statement.Basic

/-!
# Catalogs

A `Catalog` is what a server knows about roles, schemas, default privileges and extensions, and a
`Host` is what it knows besides.  Objects are kept under their names.  Whatever refers to a role or
to a schema follows it when it is renamed.
-/

namespace Accord

/-- What a server has decided for good. -/
structure Host where
  facts : ServerFacts
  /-- Whether there is a database. -/
  databases : String → Bool
  /-- How an expiry is reported that was set in some words. -/
  showExpiry : String → String
  /-- The report agrees with these words. -/
  showExpiry_matches (e : String) : expiryMatches (showExpiry e) e = true
  /-- What is stored for a password. -/
  hash : PasswordClause → Option String
  /-- The version of an extension that is installed when none is named. -/
  defaultVersion : String → String → Option String
  /-- The schema of an extension that is installed when none is named. -/
  defaultSchema : String → String → String

/-- The database that a session is on. -/
def Host.databaseOf (host : Host) (database : Option String) : String :=
  database.getD host.facts.database

/-- Two names change places. -/
def swapNames (a b name : String) : String :=
  if name = a then b else if name = b then a else name

theorem swapNames_swapNames (a b name : String) : swapNames a b (swapNames a b name) = name := by
  unfold swapNames
  by_cases ha : name = a
  · subst ha
    by_cases hb : b = name
    · simp [hb]
    · simp [hb]
  · by_cases hb : name = b
    · subst hb
      simp [ha]
    · simp [ha, hb]

/-! ## Roles -/

/-- A role in the catalog. -/
structure RoleEntry where
  has : RoleFlag → Bool
  connectionLimit : Int
  /-- The limit has 32 bits. -/
  limit_range : -2147483648 ≤ connectionLimit ∧ connectionLimit ≤ 2147483647
  /-- The expiry, as it is reported. -/
  expiry : String
  /-- The roles that the role is a member of. -/
  groups : OrderedSet String
  /-- What is stored for the password. -/
  password : Option String

namespace RoleEntry

/-- A role for which nothing is set. -/
def fresh : RoleEntry where
  has f := f = .inherit
  connectionLimit := -1
  limit_range := by decide
  expiry := Expiry.never
  groups := ∅
  password := none

/-- Changes one setting, if the server knows how to. -/
def set (host : Host) (e : RoleEntry) : RoleSetting → Option RoleEntry
  | .flag f on => some { e with has := fun g => if g = f then on else e.has g }
  | .connectionLimit limit =>
    if h : -2147483648 ≤ limit ∧ limit ≤ 2147483647 then
      some { e with connectionLimit := limit, limit_range := h }
    else none
  | .validUntil expiry => some { e with expiry := host.showExpiry expiry }
  | .password clause => some { e with password := host.hash clause }
  | .other .. => none

/-- The role when two other roles swap their names. -/
def swap (a b : String) (e : RoleEntry) : RoleEntry :=
  { e with groups := .ofList (e.groups.toList.map (swapNames a b)) }

end RoleEntry

/-! ## Schemas -/

/-- Who holds which rights on a schema. -/
structure Acl where
  rights : String → SchemaRights
  /-- All who hold any, and maybe others. -/
  grantees : List String
  listed (role : String) (r : SchemaRight) : r ∈ rights role → role ∈ grantees
  /-- Who may grant a privilege has it. -/
  held (role : String) (p : SchemaPrivilege) :
    .withGrant p ∈ rights role → .base p ∈ rights role

namespace Acl

/-- Nobody holds anything. -/
def empty : Acl where
  rights _ := ∅
  grantees := []
  listed _ _ h := absurd h (OrderedSet.not_mem_empty _)
  held _ _ h := absurd h (OrderedSet.not_mem_empty _)

/-- Sets the rights of one role. -/
def put (acl : Acl) (role : String) (rights : SchemaRights)
    (held : ∀ p, .withGrant p ∈ rights → .base p ∈ rights) : Acl where
  rights g := if g = role then rights else acl.rights g
  grantees := role :: acl.grantees
  listed g r h := by
    by_cases hg : g = role
    · exact hg ▸ List.mem_cons_self ..
    · rw [if_neg hg] at h
      exact List.mem_cons_of_mem _ (acl.listed g r h)
  held g p h := by
    by_cases hg : g = role
    · rw [if_pos hg] at h ⊢
      exact held p h
    · rw [if_neg hg] at h ⊢
      exact acl.held g p h

/-- Gives a privilege to a role, maybe with the option to grant it. -/
def grant (acl : Acl) (role : String) (p : SchemaPrivilege) (withGrantOption : Bool) : Acl :=
  acl.put role
    ((acl.rights role).union (.ofList (.base p :: if withGrantOption then [.withGrant p] else [])))
    (by
      intro q h
      rw [OrderedSet.mem_union, OrderedSet.mem_ofList] at h ⊢
      rcases h with h | h
      · exact .inl (acl.held role q h)
      · cases withGrantOption <;> simp_all [SchemaRight.base, SchemaRight.withGrant])

/-- Takes a privilege off a role, and the option to grant it. -/
def revoke (acl : Acl) (role : String) (p : SchemaPrivilege) : Acl :=
  acl.put role ((acl.rights role).filter fun r => decide (r.privilege ≠ p))
    (by
      intro q h
      rw [OrderedSet.mem_filter] at h ⊢
      exact ⟨acl.held role q h.1, h.2⟩)

/-- Takes everything off a role. -/
def revokeAll (acl : Acl) (role : String) : Acl :=
  acl.put role ∅ fun _ h => absurd h (OrderedSet.not_mem_empty _)

/-- Gives the rights of a role to another one. -/
def move (acl : Acl) (role heir : String) : Acl :=
  if role = heir then acl
  else
    (acl.revokeAll role).put heir ((acl.rights heir).union (acl.rights role))
      (by
        intro p h
        rw [OrderedSet.mem_union] at h ⊢
        exact h.imp (acl.held heir p) (acl.held role p))

/-- The rights when two roles swap their names. -/
def swap (a b : String) (acl : Acl) : Acl where
  rights g := acl.rights (swapNames a b g)
  grantees := acl.grantees.map (swapNames a b)
  listed g r h := List.mem_map.2 ⟨_, acl.listed _ r h, swapNames_swapNames a b g⟩
  held _ := acl.held _

end Acl

/-- A schema in the catalog. -/
structure SchemaEntry where
  owner : String
  acl : Acl

/-- The rights that a role holds without owning the schema. -/
def SchemaEntry.policy (e : SchemaEntry) (role : String) : SchemaRights :=
  if role = e.owner then ∅ else e.acl.rights role

/-- The schema with another owner, who gets the rights of the old one. -/
def SchemaEntry.setOwner (e : SchemaEntry) (owner : String) : SchemaEntry :=
  ⟨owner, e.acl.move e.owner owner⟩

/-! ## Extensions and catalogs -/

/-- An extension in the catalog. -/
structure ExtensionEntry where
  schema : String
  version : String

/-- The objects of a server; schemas and extensions by database and name. -/
structure Catalog where
  roles : String → Option RoleEntry
  schemas : String → String → Option SchemaEntry
  /-- The privileges that each rule gives. -/
  defaults : RuleKey → OrderedSet Privilege
  extensions : String → String → Option ExtensionEntry

namespace Catalog

/-- A catalog without any object. -/
def empty : Catalog where
  roles _ := none
  schemas _ _ := none
  defaults _ := ∅
  extensions _ _ := none

/-- Sets what there is under the name of a role. -/
def setRole (k : Catalog) (name : String) (e : Option RoleEntry) : Catalog :=
  { k with roles := fun n => if n = name then e else k.roles n }

/-- Sets what there is under the name of a schema. -/
def setSchema (k : Catalog) (database name : String) (e : Option SchemaEntry) : Catalog :=
  { k with schemas := fun d n => if d = database ∧ n = name then e else k.schemas d n }

/-- Sets the privileges that a rule gives. -/
def setDefaults (k : Catalog) (key : RuleKey) (privileges : OrderedSet Privilege) : Catalog :=
  { k with defaults := fun x => if x = key then privileges else k.defaults x }

/-- Sets what there is under the name of an extension. -/
def setExtension (k : Catalog) (database name : String) (e : Option ExtensionEntry) : Catalog :=
  { k with extensions := fun d n => if d = database ∧ n = name then e else k.extensions d n }

end Catalog

/-! ## Places -/

/-- Where an object is kept in a catalog. -/
inductive Place where
  | role (name : String)
  | schema (database name : String)
  | defaults (key : RuleKey)
  | extension (database name : String)
deriving DecidableEq

/-- Two catalogs have the same in a place. -/
def Catalog.AgreeAt (k k' : Catalog) : Place → Prop
  | .role name => k.roles name = k'.roles name
  | .schema database name => k.schemas database name = k'.schemas database name
  | .defaults key => k.defaults key = k'.defaults key
  | .extension database name => k.extensions database name = k'.extensions database name

/-- Two catalogs differ in one place at most. -/
def Catalog.DifferAt (k k' : Catalog) (p : Place) : Prop :=
  ∀ q, q ≠ p → k.AgreeAt k' q

namespace Catalog

variable {k k' k'' : Catalog} {p : Place}

theorem AgreeAt.refl (k : Catalog) (p : Place) : k.AgreeAt k p := by
  cases p <;> rfl

theorem AgreeAt.trans (h : k.AgreeAt k' p) (h' : k'.AgreeAt k'' p) : k.AgreeAt k'' p := by
  cases p <;> exact Eq.trans h h'

theorem DifferAt.refl (k : Catalog) (p : Place) : k.DifferAt k p :=
  fun q _ => .refl k q

theorem DifferAt.trans (h : k.DifferAt k' p) (h' : k'.DifferAt k'' p) : k.DifferAt k'' p :=
  fun q hq => (h q hq).trans (h' q hq)

theorem differAt_setRole (k : Catalog) (name : String) (e : Option RoleEntry) :
    k.DifferAt (k.setRole name e) (.role name) := by
  intro q hq
  cases q with
  | role n =>
    have hn : n ≠ name := fun h => hq (h ▸ rfl)
    exact (if_neg hn).symm
  | _ => rfl

theorem differAt_setSchema (k : Catalog) (database name : String) (e : Option SchemaEntry) :
    k.DifferAt (k.setSchema database name e) (.schema database name) := by
  intro q hq
  cases q with
  | schema d n =>
    have hn : ¬(d = database ∧ n = name) := fun ⟨hd, hn⟩ => hq (hd ▸ hn ▸ rfl)
    exact (if_neg hn).symm
  | _ => rfl

theorem differAt_setDefaults (k : Catalog) (key : RuleKey) (privileges : OrderedSet Privilege) :
    k.DifferAt (k.setDefaults key privileges) (.defaults key) := by
  intro q hq
  cases q with
  | defaults x =>
    have hx : x ≠ key := fun h => hq (h ▸ rfl)
    exact (if_neg hx).symm
  | _ => rfl

theorem differAt_setExtension (k : Catalog) (database name : String) (e : Option ExtensionEntry) :
    k.DifferAt (k.setExtension database name e) (.extension database name) := by
  intro q hq
  cases q with
  | extension d n =>
    have hn : ¬(d = database ∧ n = name) := fun ⟨hd, hn⟩ => hq (hd ▸ hn ▸ rfl)
    exact (if_neg hn).symm
  | _ => rfl

end Catalog

end Accord
