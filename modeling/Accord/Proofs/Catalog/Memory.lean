import Accord.Proofs.Catalog.Faithful
import Accord.Proofs.Schema.Convergence

/-!
# A faithful server in memory

`Catalog.answer` answers every question about a catalog, and a server in memory that answers in this
way is faithful (`Host.faithful`).
-/

namespace Accord

/-- All grants on a schema to those who do not own it. -/
def SchemaEntry.grants (e : SchemaEntry) : List SchemaGrant :=
  (OrderedSet.ofList e.acl.grantees).toList.flatMap fun role =>
    ((e.policy role).toList.filter fun r => !r.grantOption).map fun r =>
      ⟨role, r.privilege, decide (.withGrant r.privilege ∈ e.policy role)⟩

theorem SchemaEntry.mem_grants {e : SchemaEntry} {role : String} {p : SchemaPrivilege}
    {grantable : Bool} :
    ⟨role, p, grantable⟩ ∈ e.grants ↔
      role ∈ e.acl.grantees ∧ .base p ∈ e.policy role ∧
        grantable = decide (SchemaRight.withGrant p ∈ e.policy role) := by
  unfold grants
  rw [List.mem_flatMap]
  constructor
  · rintro ⟨role', hrole, h⟩
    obtain ⟨⟨q, b⟩, hr, heq⟩ := List.mem_map.1 h
    obtain ⟨hr, hb⟩ := List.mem_filter.1 hr
    obtain ⟨rfl, rfl, rfl⟩ := SchemaGrant.mk.inj heq
    obtain rfl : b = false := by simpa using hb
    exact ⟨OrderedSet.mem_ofList.1 hrole, hr, rfl⟩
  · rintro ⟨hrole, hp, rfl⟩
    exact ⟨role, OrderedSet.mem_ofList.2 hrole,
      List.mem_map.2 ⟨.base p, List.mem_filter.2 ⟨hp, rfl⟩, rfl⟩⟩

theorem SchemaEntry.mem_grantees {e : SchemaEntry} {role : String} {r : SchemaRight}
    (h : r ∈ e.policy role) : role ∈ e.acl.grantees := by
  unfold policy at h
  by_cases howner : role = e.owner
  · rw [if_pos howner] at h
    exact absurd h (OrderedSet.not_mem_empty r)
  · rw [if_neg howner] at h
    exact e.acl.listed role r h

theorem SchemaEntry.lists_grants (e : SchemaEntry) : e.Lists e.grants where
  base role p := by
    constructor
    · intro hp
      exact ⟨_, mem_grants.2 ⟨mem_grantees hp, hp, rfl⟩⟩
    · rintro ⟨grantable, h⟩
      exact (mem_grants.1 h).2.1
  withGrant role p := by
    constructor
    · intro hp
      have hbase : .base p ∈ e.policy role := e.closed_policy role p hp
      exact mem_grants.2 ⟨mem_grantees hp, hbase, (decide_eq_true hp).symm⟩
    · intro h
      exact of_decide_eq_true (mem_grants.1 h).2.2.symm

/-- The answer of those who only ask whether there is something. -/
def ResultTable.presence (there : Bool) : ResultTable :=
  ⟨["?column?"], if there then [[.int 1]] else []⟩

theorem ResultTable.isEmpty_presence (there : Bool) : (presence there).isEmpty = !there := by
  cases there <;> rfl

/-- The answer to a question, in a session on a database. -/
def Catalog.answer (host : Host) (k : Catalog) (database : String) : Query → ResultTable
  | .serverInfo => ⟨["server_version", "username", "database", "is_superuser"],
      [[.text host.facts.version, .text host.facts.currentUser, .text host.facts.database,
        .bool host.facts.isSuperuser]]⟩
  | .roleExists name => .presence (k.roles name).isSome
  | .role name bypass => ⟨roleColumns,
      match k.roles name with
      | none => []
      | some e => [e.row name bypass e.groups.toList]⟩
  | .passwordHash name => ⟨["passwd"],
      match k.roles name with
      | none => []
      | some e => if e.has .login then [[.ofOption .text e.password]] else []⟩
  | .databaseExists name => .presence (host.databases name)
  | .schemaExists name => .presence (k.schemas database name).isSome
  | .schema name => ⟨["name", "owner"],
      match k.schemas database name with
      | none => []
      | some e => [[.text name, .text e.owner]]⟩
  | .schemaGrants name => ⟨grantColumns,
      match k.schemas database name with
      | none => []
      | some e => e.grants.map SchemaGrant.row⟩
  | .rule key => ⟨["privilege"],
      (k.defaults { key with database }).toList.map fun p => [.text p.sql]⟩
  | .extensionExists name => .presence (k.extensions database name).isSome
  | .extension name => ⟨extensionColumns,
      match k.extensions database name with
      | none => []
      | some e => [[.text name, .text e.schema, .text e.version,
          .ofOption .text (host.defaultVersion database name)]]⟩

theorem Catalog.answers_answer (host : Host) (k : Catalog) (database : String) (q : Query) :
    k.Answers host database (k.answer host database q) q := by
  cases q with
  | serverInfo => rfl
  | roleExists name =>
    exact (ResultTable.isEmpty_presence _).trans (Option.not_isSome _)
  | databaseExists name => exact ResultTable.isEmpty_presence _
  | schemaExists name =>
    exact (ResultTable.isEmpty_presence _).trans (Option.not_isSome _)
  | extensionExists name =>
    exact (ResultTable.isEmpty_presence _).trans (Option.not_isSome _)
  | role name bypass =>
    refine ⟨rfl, ?_⟩
    cases he : k.roles name with
    | none => simp only [answer, he]
    | some e =>
      simp only [answer, he]
      exact ⟨e.groups.toList, fun g => Iff.rfl, rfl⟩
  | schemaGrants name =>
    refine ⟨rfl, ?_⟩
    cases he : k.schemas database name with
    | none => simp only [answer, he]
    | some e =>
      simp only [answer, he]
      exact ⟨e.grants, e.lists_grants, rfl⟩
  | rule key => exact ⟨rfl, _, fun p => Iff.rfl, rfl⟩
  | passwordHash name => exact ⟨rfl, rfl⟩
  | schema name => exact ⟨rfl, rfl⟩
  | extension name => exact ⟨rfl, rfl⟩

namespace Host

/-- A server in memory that keeps a catalog and refuses some commands. -/
def memory (host : Host) (refuses : Command → Bool) : Memory Catalog where
  opens database := host.databases (host.databaseOf database)
  effect database := Statement.effect host (host.databaseOf database)
  answer database q k := k.answer host (host.databaseOf database) q
  refuses

/-- A context of that server, for one who may change it and does not have to wait. -/
def context (host : Host) (refuses : Command → Bool) (dialect : Dialect) :
    Context (Store Catalog) where
  server := (host.memory refuses).server
  dialect
  facts := host.facts
  readOnly := false
  lock := .free

/-- The server in memory is faithful. -/
theorem faithful (host : Host) (refuses : Command → Bool) (dialect : Dialect) :
    (host.context refuses dialect).Faithful host id where
  facts := rfl
  opens database s := by
    show (∃ t, (if host.databases (host.databaseOf database) then
        ((.ok (), ⟨s.committed, none⟩) : Except Error Unit × Store Catalog)
      else (.error Memory.refusal, s)) = (.ok (), t)) ↔ _
    by_cases hd : host.databases (host.databaseOf database) = true
    · rw [if_pos hd]
      exact iff_of_true ⟨_, rfl⟩ hd
    · rw [if_neg hd]
      exact iff_of_false (fun ⟨t, ht⟩ => nomatch ht) hd
  connect {database s t reply} h := by
    simp only [context, Memory.server] at h
    split at h
    all_goals exact (Prod.mk.inj h).2 ▸ rfl
  idle {database s t} h := by
    simp only [context, Memory.server] at h
    split at h
    · rw [← (Prod.mk.inj h).2]
      rfl
    · exact nomatch h
  answers database q s _ hs := by
    refine ⟨_, s, rfl, ?_⟩
    have hseen : Memory.seen s = s.committed := by
      unfold Memory.seen
      rw [show s.working = none from hs]
      rfl
    show s.committed.Answers host _ ((Memory.seen s).answer host _ q) q
    rw [hseen]
    exact Catalog.answers_answer ..
  query h := (Prod.mk.inj h).2.symm
  transactional database := Memory.transactional (host.memory refuses) database

end Host

/-- A server with one database and one extension to install. -/
def smallHost : Host where
  facts := ⟨"16.0", "admin", "main", true⟩
  databases name := name = "main"
  showExpiry e := e
  showExpiry_matches := expiryMatches_self
  hash _ := none
  defaultVersion _ name := if name = "hstore" then some "1.8" else none
  defaultSchema _ _ := "public"

/-- A context of that server, which refuses nothing. -/
def smallContext : Context (Store Catalog) :=
  smallHost.context (fun _ => false) ⟨⟨16, 0, 0⟩⟩

end Accord
