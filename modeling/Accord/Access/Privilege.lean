import Accord.Ordered.Set
import Accord.Text.Blank

/-!
# Privileges

Three kinds of right can be given away: privileges on the objects that a role creates later
(`Privilege`, limited by the `ObjectType`), privileges on a schema (`SchemaPrivilege`), and the
option to pass a schema privilege on (`SchemaRight`).  Keywords are read in any case and with blanks
around them.
-/

namespace Accord

/-! ## Object types -/

/-- The objects whose privileges can be set before they exist. -/
inductive ObjectType where
  | table
  | sequence
deriving DecidableEq, Repr

namespace ObjectType

/-- All object types. -/
def all : List ObjectType := [.table, .sequence]

/-- The name in documents and identities. -/
def name : ObjectType → String
  | .table => "table"
  | .sequence => "sequence"

/-- The keyword of statements. -/
def plural : ObjectType → String
  | .table => "TABLES"
  | .sequence => "SEQUENCES"

/-- The letter by which the catalog knows the type. -/
def code : ObjectType → String
  | .table => "r"
  | .sequence => "S"

/-- Reads a name. -/
def parse? (raw : String) : Option ObjectType :=
  all.find? fun t => t.name == (Text.trim raw).toLower

end ObjectType

/-! ## Privileges on future objects -/

/-- A privilege on objects that do not exist yet. -/
inductive Privilege where
  | select
  | insert
  | update
  | delete
  | truncate
  | references
  | trigger
  | usage
deriving DecidableEq, Repr

namespace Privilege

/-- All privileges, in ascending order. -/
def all : List Privilege :=
  [.select, .insert, .update, .delete, .truncate, .references, .trigger, .usage]

/-- The place of a privilege in the order. -/
def rank : Privilege → Nat
  | .select => 0
  | .insert => 1
  | .update => 2
  | .delete => 3
  | .truncate => 4
  | .references => 5
  | .trigger => 6
  | .usage => 7

theorem eq_of_rank_eq {a b : Privilege} : a.rank = b.rank → a = b := by
  cases a <;> cases b <;> decide

instance : Ord Privilege := ⟨compareOn rank⟩

instance : Std.TransOrd Privilege := inferInstanceAs (Std.TransCmp (compareOn rank))

instance : Std.LawfulEqOrd Privilege where
  compare_self := Nat.compare_eq_eq.2 rfl
  eq_of_compare h := eq_of_rank_eq (Nat.compare_eq_eq.1 h)

/-- The keyword of statements and documents. -/
def sql : Privilege → String
  | .select => "SELECT"
  | .insert => "INSERT"
  | .update => "UPDATE"
  | .delete => "DELETE"
  | .truncate => "TRUNCATE"
  | .references => "REFERENCES"
  | .trigger => "TRIGGER"
  | .usage => "USAGE"

/-- Reads a keyword. -/
def parse? (raw : String) : Option Privilege :=
  all.find? fun p => p.sql == (Text.trim raw).toUpper

end Privilege

/-- The privileges that an object of the type can have; these are what `ALL` stands for. -/
def ObjectType.allowed : ObjectType → List Privilege
  | .table => [.select, .insert, .update, .delete, .truncate, .references, .trigger]
  | .sequence => [.usage, .select, .update]

/-! ## Privileges on schemas -/

/-- A privilege on a schema. -/
inductive SchemaPrivilege where
  | create
  | usage
deriving DecidableEq, Repr

namespace SchemaPrivilege

/-- All schema privileges, in ascending order. -/
def all : List SchemaPrivilege := [.create, .usage]

/-- The place of a schema privilege in the order. -/
def rank : SchemaPrivilege → Nat
  | .create => 0
  | .usage => 1

/-- The keyword of statements and documents. -/
def sql : SchemaPrivilege → String
  | .create => "CREATE"
  | .usage => "USAGE"

/-- Reads a keyword. -/
def parse? (raw : String) : Option SchemaPrivilege :=
  all.find? fun p => p.sql == (Text.trim raw).toUpper

end SchemaPrivilege

/-- A schema privilege, or the option to grant it to others. -/
structure SchemaRight where
  privilege : SchemaPrivilege
  /-- Whether this is the option to grant the privilege, and not the privilege itself. -/
  grantOption : Bool
deriving DecidableEq, Repr

namespace SchemaRight

/-- The privilege itself. -/
def base (p : SchemaPrivilege) : SchemaRight := ⟨p, false⟩

/-- The option to grant the privilege to others. -/
def withGrant (p : SchemaPrivilege) : SchemaRight := ⟨p, true⟩

/-- The place of a right in the order: a privilege comes right before the option to grant it. -/
def rank (b : SchemaRight) : Nat :=
  2 * b.privilege.rank + (if b.grantOption then 1 else 0)

theorem eq_of_rank_eq {a b : SchemaRight} : a.rank = b.rank → a = b := by
  obtain ⟨p, g⟩ := a
  obtain ⟨q, k⟩ := b
  cases p <;> cases g <;> cases q <;> cases k <;> decide

instance : Ord SchemaRight := ⟨compareOn rank⟩

instance : Std.TransOrd SchemaRight := inferInstanceAs (Std.TransCmp (compareOn rank))

instance : Std.LawfulEqOrd SchemaRight where
  compare_self := Nat.compare_eq_eq.2 rfl
  eq_of_compare h := eq_of_rank_eq (Nat.compare_eq_eq.1 h)

end SchemaRight

/-- The rights that one grantee holds on one schema. -/
abbrev SchemaRights := OrderedSet SchemaRight

end Accord
