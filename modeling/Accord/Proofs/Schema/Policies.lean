import Accord.Proofs.Schema.Execution

/-!
# Policies are unions

The policies of a declared schema are the union of what is declared for each grantee, however the
grantee is spelled and wherever it stands, and they can be declared again as they are
(`DeclaredSchema.policies_united`).

The policies that are read are what the rows of the catalog grant, in any order and however often
(`Session.policies_read`).
-/

namespace Accord

/-! ## Declared policies -/

namespace DeclaredPolicy

/-- What a policy adds, if anything. -/
def share? (p : DeclaredPolicy) : Option Share :=
  if p.rights.isEmpty then none else some (nameMeant p.role, p.rights)

theorem share?_eq_some {p : DeclaredPolicy} {share : Share} :
    p.share? = some share ↔
      p.rights.isEmpty = false ∧ (nameMeant p.role, p.rights) = share := by
  unfold share?
  cases p.rights.isEmpty <;> simp

/-- Rights that come with their privileges can be declared. -/
theorem rights_ofRights (role : String) {rights : SchemaRights} (h : rights.Closed) :
    (ofRights role rights).rights = rights := by
  have hbase : ∀ p, (rights.contains (.base p) && !rights.contains (.withGrant p)) = true ∨
      rights.contains (.withGrant p) = true ↔ .base p ∈ rights := by
    intro p
    by_cases hgrant : .withGrant p ∈ rights
    · simp [OrderedSet.contains, hgrant, h p hgrant]
    · simp [OrderedSet.contains, hgrant]
  refine OrderedSet.ext fun r => ?_
  obtain ⟨p, b⟩ := r
  unfold DeclaredPolicy.rights
  rw [OrderedSet.mem_ofList, List.mem_append, mem_rightsOf, mem_rightsOf]
  cases p <;> cases b
  · simpa [ofRights, SchemaRight.base, SchemaRight.withGrant] using hbase .create
  · simp [ofRights, SchemaRight.base, SchemaRight.withGrant]
  · simpa [ofRights, SchemaRight.base, SchemaRight.withGrant] using hbase .usage
  · simp [ofRights, SchemaRight.base, SchemaRight.withGrant]

end DeclaredPolicy

namespace DeclaredSchema

/-- The server keeps all names of a declared schema as they are meant. -/
structure WellNamed (spec : DeclaredSchema) (defaultDatabase : String) : Prop where
  name : Nameable (nameMeant spec.name)
  database : Nameable (nameMeant (spec.database.getD defaultDatabase))
  owner : ∀ o, spec.owner = some o → Nameable (nameMeant o)
  policies : ∀ p ∈ spec.policies, Nameable (nameMeant p.role)

/-- The shares that the policies of a schema declare. -/
def shares (spec : DeclaredSchema) : List Share :=
  spec.policies.filterMap DeclaredPolicy.share?

theorem normalizePolicies_eq_ok {declared : List DeclaredPolicy} {policies policies' : Policies} :
    normalizePolicies declared policies = .ok policies' ↔
      (∀ p ∈ declared, Nameable (nameMeant p.role)) ∧
        policies.addAll (declared.filterMap DeclaredPolicy.share?) = policies' := by
  induction declared generalizing policies with
  | nil => simp [normalizePolicies, Policies.addAll]
  | cons p rest ih =>
    have hshare : Policies.addAll
        (if p.rights.isEmpty then policies else policies.add (nameMeant p.role) p.rights)
        (rest.filterMap DeclaredPolicy.share?) =
          policies.addAll ((p :: rest).filterMap DeclaredPolicy.share?) := by
      rw [List.filterMap_cons, DeclaredPolicy.share?]
      cases p.rights.isEmpty <;> rfl
    rw [normalizePolicies, Except.bind_ok, List.forall_mem_cons, ← hshare]
    constructor
    · rintro ⟨role, hrole, h⟩
      obtain ⟨hname, rfl⟩ := normalizeName_eq_ok.1 hrole
      obtain ⟨hrest, h⟩ := ih.1 h
      exact ⟨⟨hname, hrest⟩, h⟩
    · rintro ⟨⟨hname, hrest⟩, h⟩
      exact ⟨_, normalizeName_eq_ok.2 ⟨hname, rfl⟩, ih.2 ⟨hrest, h⟩⟩

/-- A schema is normalized if its names can be kept, to what it declares. -/
theorem normalize_eq_ok {spec : DeclaredSchema} {defaultDatabase : String} {s : NormalSchema} :
    spec.normalize defaultDatabase = .ok s ↔
      spec.WellNamed defaultDatabase ∧
        ⟨nameMeant spec.name, nameMeant (spec.database.getD defaultDatabase),
          spec.owner.map nameMeant, spec.ifNotExists, Policies.gather spec.shares⟩ = s := by
  have howner : ∀ owner, (spec.owner.mapM fun o => normalizeName o "owner") = .ok owner ↔
      (∀ o, spec.owner = some o → Nameable (nameMeant o)) ∧ spec.owner.map nameMeant = owner := by
    intro owner
    cases spec.owner with
    | none => simp [pure, Except.pure]
    | some o =>
      rw [Option.mapM_some]
      show (normalizeName o "owner").map some = _ ↔ _
      simp [Except.map_ok, normalizeName_eq_ok, and_assoc]
  unfold normalize
  simp only [Except.bind_ok, normalizePolicies_eq_ok, normalizeName_eq_ok, howner]
  constructor
  · rintro ⟨_, ⟨hpolicies, rfl⟩, _, ⟨hname, rfl⟩, _, ⟨hdatabase, rfl⟩, _, ⟨howner, rfl⟩, h⟩
    exact ⟨⟨hname, hdatabase, howner, hpolicies⟩, Except.ok.inj h⟩
  · rintro ⟨h, rfl⟩
    exact ⟨_, ⟨h.policies, rfl⟩, _, ⟨h.name, rfl⟩, _, ⟨h.database, rfl⟩, _, ⟨h.owner, rfl⟩, rfl⟩

/-- Other declarations that come to the same policies make the same schema. -/
theorem normalize_of_gather {spec : DeclaredSchema} {defaultDatabase : String} {s : NormalSchema}
    (h : spec.normalize defaultDatabase = .ok s) {policies : List DeclaredPolicy}
    (hnames : ∀ p ∈ policies, Nameable (nameMeant p.role))
    (hgather : Policies.gather (policies.filterMap DeclaredPolicy.share?) = s.policies) :
    normalize { spec with policies } defaultDatabase = .ok s := by
  obtain ⟨hspec, rfl⟩ := normalize_eq_ok.1 h
  refine normalize_eq_ok.2 ⟨⟨hspec.name, hspec.database, hspec.owner, hnames⟩, ?_⟩
  show NormalSchema.mk _ _ _ _ (Policies.gather (policies.filterMap DeclaredPolicy.share?)) = _
  rw [hgather]

theorem mem_shares {spec : DeclaredSchema} {share : Share} :
    share ∈ spec.shares ↔
      ∃ p ∈ spec.policies, p.rights.isEmpty = false ∧ (nameMeant p.role, p.rights) = share := by
  unfold shares
  simp only [List.mem_filterMap, DeclaredPolicy.share?_eq_some]

theorem isEmpty_of_mem_shares {spec : DeclaredSchema} {share : Share} (h : share ∈ spec.shares) :
    share.2.isEmpty = false := by
  obtain ⟨p, -, hrights, rfl⟩ := mem_shares.1 h
  exact hrights

/-- Each grantee is to hold the union of what is declared for it. -/
theorem mem_gather_shares {spec : DeclaredSchema} {g : String} {r : SchemaRight} :
    r ∈ (Policies.gather spec.shares).getD g ∅ ↔
      ∃ p ∈ spec.policies, nameMeant p.role = g ∧ r ∈ p.rights := by
  rw [Policies.mem_gather]
  constructor
  · rintro ⟨share, hshare, hg, hr⟩
    obtain ⟨p, hp, -, rfl⟩ := mem_shares.1 hshare
    exact ⟨p, hp, hg, hr⟩
  · rintro ⟨p, hp, hg, hr⟩
    have hrights : p.rights.isEmpty = false := OrderedSet.isEmpty_eq_false_iff.2 ⟨r, hr⟩
    exact ⟨_, mem_shares.2 ⟨p, hp, hrights, rfl⟩, hg, hr⟩

end DeclaredSchema

/-- One declaration for each grantee, with the name between quotes. -/
def Policies.declarations (policies : Policies) : List DeclaredPolicy :=
  policies.entries.map fun e => .ofRights (Sql.identifier e.1) e.2

/-- Policies without empty entries are made of what they declare. -/
theorem Policies.gather_declarations {policies : Policies} (htight : policies.Tight)
    (hclosed : ∀ g, (policies.getD g ∅).Closed) :
    gather (policies.declarations.filterMap DeclaredPolicy.share?) = policies := by
  have hshare : ∀ e ∈ policies.entries,
      (DeclaredPolicy.ofRights (Sql.identifier e.1) e.2).share? = some e := by
    intro e he
    have hrights := DeclaredPolicy.rights_ofRights (Sql.identifier e.1)
      ((htight.getD_eq he).1 ▸ hclosed e.1)
    rw [DeclaredPolicy.share?_eq_some, hrights]
    exact ⟨htight e he, congrArg (·, e.2) (nameMeant_identifier e.1)⟩
  refine Eq.trans (gather_congr htight fun share => ?_) (gather_entries htight)
  rw [List.mem_filterMap]
  constructor
  · rintro ⟨p, hp, h⟩
    obtain ⟨e, he, rfl⟩ := List.mem_map.1 hp
    rw [hshare e he] at h
    exact Option.some.inj h ▸ he
  · exact fun he => ⟨_, List.mem_map_of_mem he, hshare share he⟩

/-- The policies that a schema declares are the union of what is declared for each grantee: nobody
is listed without rights or with an option to grant that does not come with the privilege, neither
the order of the declarations nor their repeats matter, and they can be declared again as they are.
A schema is refused if and only if one of its names cannot be kept. -/
theorem DeclaredSchema.policies_united (spec : DeclaredSchema) (defaultDatabase : String) :
    ((∃ e, spec.normalize defaultDatabase = .error e) ↔ ¬spec.WellNamed defaultDatabase) ∧
    ∀ s, spec.normalize defaultDatabase = .ok s →
      (∀ g r, r ∈ s.policies.getD g ∅ ↔
        ∃ p ∈ spec.policies, normalizeName p.role "policy role" = .ok g ∧ r ∈ p.rights) ∧
      s.policies.Tight ∧
      (∀ g, (s.policies.getD g ∅).Closed) ∧
      (∀ policies, (∀ p, p ∈ policies ↔ p ∈ spec.policies) →
        normalize { spec with policies } defaultDatabase = .ok s) ∧
      normalize { spec with policies := s.policies.declarations } defaultDatabase = .ok s := by
  refine ⟨?_, fun s h => ?_⟩
  · have hok : (∃ s, spec.normalize defaultDatabase = .ok s) ↔ spec.WellNamed defaultDatabase := by
      simp only [normalize_eq_ok, exists_and_left, exists_eq', and_true]
    rw [← hok]
    cases spec.normalize defaultDatabase <;> simp
  have hclosed := closed_policies h
  obtain ⟨hnames, rfl⟩ := normalize_eq_ok.1 h
  have htight : (Policies.gather spec.shares).Tight :=
    Policies.tight_gather fun _ => isEmpty_of_mem_shares
  refine ⟨fun g r => ?_, htight, hclosed, fun policies hpolicies => ?_, ?_⟩
  · refine mem_gather_shares.trans (exists_congr fun p => and_congr_right fun hp => ?_)
    rw [normalizeName_eq_ok, and_iff_right (hnames.policies p hp)]
  · refine normalize_of_gather h (fun p hp => hnames.policies p ((hpolicies p).1 hp)) ?_
    refine Policies.gather_congr (fun _ => isEmpty_of_mem_shares) fun share => ?_
    simp only [shares, List.mem_filterMap, hpolicies]
  · refine normalize_of_gather h (fun p hp => ?_) (Policies.gather_declarations htight hclosed)
    obtain ⟨e, he, rfl⟩ := List.mem_map.1 hp
    -- Whoever is listed has a right, so that some policy declares it.
    obtain ⟨hheld, r, hr⟩ := htight.getD_eq he
    obtain ⟨p, hp, hrole, -⟩ := mem_gather_shares.1 (hheld.symm ▸ hr)
    show Nameable (nameMeant (Sql.identifier e.1))
    rw [nameMeant_identifier, ← hrole]
    exact hnames.policies p hp

/-- A schema on which a role is named in two ways, and another one gets nothing. -/
def twiceReadSchema : DeclaredSchema :=
  { DeclaredSchema.named "data" with
    policies := [⟨"reader", false, false, true, false⟩, ⟨"guest", false, false, false, false⟩,
      ⟨" \"reader\" ", false, true, false, false⟩] }

/-- Both names are those of one role, which gets all rights, in whatever order it is named; and who
gets nothing has to have a name as well. -/
theorem DeclaredSchema.policies_united_spellings :
    ∃ s, twiceReadSchema.normalize "main" = .ok s ∧
      s.policies.entries =
        [("reader", .ofList [.base .create, .withGrant .create, .base .usage])] ∧
      normalize { twiceReadSchema with policies := twiceReadSchema.policies.reverse } "main" =
        .ok s ∧
      normalize { twiceReadSchema with policies := s.policies.declarations } "main" = .ok s ∧
      ∃ e, normalize { twiceReadSchema with policies := [⟨"\"\"", false, false, false, false⟩] }
        "main" = .error e := by
  have hok : (twiceReadSchema.normalize "main").toOption.map (·.policies.entries) =
      some [("reader", .ofList [.base .create, .withGrant .create, .base .usage])] := by
    decide +kernel
  obtain ⟨s, hs, hentries⟩ := Option.map_eq_some_iff.1 hok
  have hs := Except.eq_ok_of_toOption hs
  obtain ⟨-, -, -, horder, hagain⟩ := (policies_united twiceReadSchema "main").2 s hs
  refine ⟨s, hs, hentries, horder _ fun _ => List.mem_reverse, hagain, ?_⟩
  refine (policies_united { twiceReadSchema with policies := _ } "main").1.2 fun h => ?_
  exact absurd (h.policies _ (List.mem_singleton_self _)).nonempty (by decide +kernel)

/-! ## Policies that are read -/

theorem SchemaPrivilege.parse?_eq_some {raw : String} {p : SchemaPrivilege} :
    parse? raw = some p ↔ (Text.trim raw).toUpper = p.sql := by
  unfold parse?
  constructor
  · intro h
    have hp := List.find?_some h
    exact (beq_iff_eq.1 hp).symm
  · intro h
    rw [h]
    cases p <;> rfl

namespace GrantRow

/-- The row is about a privilege, which is written in any case and with blanks around it. -/
def Of (g : GrantRow) (p : SchemaPrivilege) : Prop :=
  (Text.trim g.privilege).toUpper = p.sql

instance (g : GrantRow) (p : SchemaPrivilege) : Decidable (g.Of p) :=
  inferInstanceAs (Decidable (_ = _))

theorem grant?_eq_some {g : GrantRow} {grant : SchemaGrant} :
    g.grant? = some grant ↔
      g.Of grant.privilege ∧ g.role = grant.role ∧ g.grantable = grant.grantable := by
  obtain ⟨role, p, grantable⟩ := grant
  unfold grant? Of
  rw [Option.map_eq_some_iff]
  constructor
  · rintro ⟨p, hp, h⟩
    obtain ⟨rfl, rfl, rfl⟩ := SchemaGrant.mk.inj h
    exact ⟨SchemaPrivilege.parse?_eq_some.1 hp, rfl, rfl⟩
  · rintro ⟨hp, rfl, rfl⟩
    exact ⟨p, SchemaPrivilege.parse?_eq_some.2 hp, rfl⟩

theorem mem_filterMap_grant? {rows : List GrantRow} {grant : SchemaGrant} :
    grant ∈ rows.filterMap grant? ↔
      ∃ g ∈ rows, g.Of grant.privilege ∧ g.role = grant.role ∧ g.grantable = grant.grantable := by
  simp only [List.mem_filterMap, grant?_eq_some]

/-- A row of a table says the same, among other things. -/
structure ToldBy (g : GrantRow) (row : Row) : Prop where
  role : row.value "grantee" = .ok (.text g.role)
  privilege : row.value "privilege" = .ok (.text g.privilege)
  grantable : row.value "grantable" = .ok (.bool g.grantable)

theorem ToldBy.unique {g g' : GrantRow} {row : Row} (h : g.ToldBy row) (h' : g'.ToldBy row) :
    g = g' := by
  have hrole := h.role.symm.trans h'.role
  have hprivilege := h.privilege.symm.trans h'.privilege
  have hgrantable := h.grantable.symm.trans h'.grantable
  cases g
  cases g'
  simp_all

theorem ToldBy.addRow {g : GrantRow} {row : Row} (h : g.ToldBy row) (policies : Policies) :
    policies.addRow row = policies.addRow ⟨grantColumns, g.cells⟩ := by
  have htext : ∀ {column text}, row.value column = .ok (.text text) →
      row.text column = .ok text := by
    intro column text hvalue
    unfold Row.text Row.text?
    rw [hvalue]
    rfl
  have hbool : row.bool "grantable" = .ok g.grantable := by
    unfold Row.bool Row.bool?
    rw [h.grantable]
    rfl
  unfold Policies.addRow
  rw [htext h.role, htext h.privilege, hbool]
  rfl

theorem toldBy_cells (g : GrantRow) : g.ToldBy ⟨grantColumns, g.cells⟩ :=
  ⟨rfl, rfl, rfl⟩

end GrantRow

namespace Policies

variable {rows rows' : List GrantRow} {role : String} {p : SchemaPrivilege}

/-- The policies that rows of the list of grants make. -/
def ofGrants (rows : List GrantRow) : Policies :=
  gather ((rows.filterMap GrantRow.grant?).map SchemaGrant.share)

theorem base_mem_ofGrants :
    .base p ∈ (ofGrants rows).getD role ∅ ↔ ∃ g ∈ rows, g.role = role ∧ g.Of p := by
  unfold ofGrants
  simp only [mem_gather_share, SchemaGrant.base_mem_rights, GrantRow.mem_filterMap_grant?]
  constructor
  · rintro ⟨⟨_, _, _⟩, ⟨g, hg, hp, rfl, rfl⟩, hrole, rfl⟩
    exact ⟨g, hg, hrole, hp⟩
  · rintro ⟨g, hg, hrole, hp⟩
    exact ⟨⟨g.role, p, g.grantable⟩, ⟨g, hg, hp, rfl, rfl⟩, hrole, rfl⟩

theorem withGrant_mem_ofGrants :
    .withGrant p ∈ (ofGrants rows).getD role ∅ ↔
      ∃ g ∈ rows, g.role = role ∧ g.Of p ∧ g.grantable = true := by
  unfold ofGrants
  simp only [mem_gather_share, SchemaGrant.withGrant_mem_rights, GrantRow.mem_filterMap_grant?]
  constructor
  · rintro ⟨⟨_, _, _⟩, ⟨g, hg, hp, rfl, rfl⟩, hrole, rfl, hgrantable⟩
    exact ⟨g, hg, hrole, hp, hgrantable⟩
  · rintro ⟨g, hg, hrole, hp, hgrantable⟩
    exact ⟨⟨g.role, p, g.grantable⟩, ⟨g, hg, hp, rfl, rfl⟩, hrole, rfl, hgrantable⟩

theorem share_ne_empty (rows : List GrantRow) :
    ∀ share ∈ (rows.filterMap GrantRow.grant?).map SchemaGrant.share, share.2.isEmpty = false := by
  intro share hshare
  obtain ⟨grant, -, rfl⟩ := List.mem_map.1 hshare
  exact OrderedSet.isEmpty_eq_false_iff.2 ⟨_, SchemaGrant.base_mem_rights.2 rfl⟩

theorem tight_ofGrants (rows : List GrantRow) : (ofGrants rows).Tight :=
  tight_gather (share_ne_empty rows)

theorem closed_ofGrants (rows : List GrantRow) (role : String) :
    ((ofGrants rows).getD role ∅).Closed := by
  intro p h
  obtain ⟨g, hg, hrole, hp, -⟩ := withGrant_mem_ofGrants.1 h
  exact base_mem_ofGrants.2 ⟨g, hg, hrole, hp⟩

/-- Only what the rows about policies say matters. -/
theorem ofGrants_congr (h : ∀ g p, GrantRow.Of g p → (g ∈ rows' ↔ g ∈ rows)) :
    ofGrants rows' = ofGrants rows := by
  have hgrant : ∀ grant, grant ∈ rows'.filterMap GrantRow.grant? ↔
      grant ∈ rows.filterMap GrantRow.grant? := by
    intro grant
    rw [GrantRow.mem_filterMap_grant?, GrantRow.mem_filterMap_grant?]
    exact exists_congr fun g => and_congr_left fun hgrant => h g _ hgrant.1
  refine gather_congr (share_ne_empty rows) fun share => ?_
  simp only [List.mem_map, hgrant]

/-- Rows are added by what they say, wherever they say it. -/
theorem foldlM_addRow_told {told : List Row} (h : ∀ row ∈ told, ∃ g : GrantRow, g.ToldBy row) :
    ∃ rows : List GrantRow, (∀ g, g ∈ rows ↔ ∃ row ∈ told, g.ToldBy row) ∧
      ∀ policies : Policies, told.foldlM addRow policies =
        ((rows.map GrantRow.cells).map (Row.mk grantColumns)).foldlM addRow policies := by
  induction told with
  | nil => exact ⟨[], by simp, fun _ => rfl⟩
  | cons row told ih =>
    obtain ⟨⟨g, hg⟩, htold⟩ := List.forall_mem_cons.1 h
    obtain ⟨rows, hrows, hfold⟩ := ih htold
    refine ⟨g :: rows, fun g' => ?_, fun policies => ?_⟩
    · simp only [List.mem_cons, hrows, or_and_right, exists_or, exists_eq_left]
      exact or_congr_left ⟨fun h => h ▸ hg, fun h => h.unique hg⟩
    · rw [List.map_cons, List.map_cons, List.foldlM_cons, List.foldlM_cons, hg.addRow]
      exact bind_congr hfold

end Policies

namespace ResultTable

/-- Every row of the table is a row of the list of grants. -/
def ListsGrants (table : ResultTable) : Prop :=
  ∀ row ∈ table.toRows, ∃ g : GrantRow, g.ToldBy row

/-- The table says what a row of the list of grants says. -/
def Tells (table : ResultTable) (g : GrantRow) : Prop :=
  ∃ row ∈ table.toRows, g.ToldBy row

/-- The policies that are read are those that the rows of the table make. -/
theorem ListsGrants.ofResult {table : ResultTable} (h : table.ListsGrants) :
    ∃ rows : List GrantRow, (∀ g, g ∈ rows ↔ table.Tells g) ∧
      Policies.ofResult table = .ok (.ofGrants rows) := by
  obtain ⟨rows, hrows, hfold⟩ := Policies.foldlM_addRow_told h
  refine ⟨rows, hrows, (hfold ∅).trans ?_⟩
  exact (Policies.ofResult_cells rows).trans (Policies.ofResult_row _)

theorem listsGrants_cells (rows : List GrantRow) :
    ListsGrants ⟨grantColumns, rows.map GrantRow.cells⟩ := by
  intro row hrow
  obtain ⟨_, hcells, rfl⟩ := List.mem_map.1 hrow
  obtain ⟨g, -, rfl⟩ := List.mem_map.1 hcells
  exact ⟨g, g.toldBy_cells⟩

theorem tells_cells {rows : List GrantRow} {g : GrantRow} :
    Tells ⟨grantColumns, rows.map GrantRow.cells⟩ g ↔ g ∈ rows := by
  constructor
  · rintro ⟨row, hrow, hg⟩
    obtain ⟨_, hcells, rfl⟩ := List.mem_map.1 hrow
    obtain ⟨g', hg', rfl⟩ := List.mem_map.1 hcells
    exact hg.unique g'.toldBy_cells ▸ hg'
  · exact fun hg => ⟨_, List.mem_map_of_mem (List.mem_map_of_mem hg), g.toldBy_cells⟩

end ResultTable

namespace Session

variable {σ : Type}

/-- The server names a schema and its owner, and lists the grants on it in a table. -/
def Finds (session : Session σ) (name : String) (s : σ) (found owner : String)
    (grants : ResultTable) (t : σ) : Prop :=
  ∃ table u row, session.server.query session.database (.schema name) s = (.ok table, u) ∧
    table.first? = some row ∧ row.text "name" = .ok found ∧ row.text "owner" = .ok owner ∧
    session.server.query session.database (.schemaGrants name) u = (.ok grants, t)

theorem Finds.result_schema? {session : Session σ} {name found owner : String} {s t : σ}
    {grants : ResultTable} (h : session.Finds name s found owner grants t) {policies : Policies}
    (hpolicies : Policies.ofResult grants = .ok policies) (database : String) :
    (session.schema? database name).result s =
      (.ok (some ⟨found, database, owner, policies⟩), t) := by
  obtain ⟨table, u, row, htable, hrow, hname, howner, hgrants⟩ := h
  exact Session.result_schema?.2 ⟨table, u, htable, .inr ⟨row, found, owner, grants, policies,
    hrow, hname, howner, hgrants, hpolicies, rfl⟩⟩

end Session

/-- The policies that are read are what the rows of the catalog grant: a privilege if some row
grants it, and the option to grant it if some row grants it with that option.  Nobody is listed
without rights, and neither the order of the rows, nor their repeats, nor rows about other
privileges matter. -/
theorem Session.policies_read {table : ResultTable} (htable : table.ListsGrants) :
    ∃ policies : Policies,
      (∀ {σ : Type} {session : Session σ} {database name found owner : String} {s t : σ}
        {table' : ResultTable}, table'.ListsGrants →
        (∀ (g : GrantRow) (p : SchemaPrivilege), g.Of p → (table'.Tells g ↔ table.Tells g)) →
        session.Finds name s found owner table' t →
        (session.schema? database name).result s =
          (.ok (some ⟨found, database, owner, policies⟩), t)) ∧
      (∀ role p, .base p ∈ policies.getD role ∅ ↔
        ∃ g, table.Tells g ∧ g.role = role ∧ g.Of p) ∧
      (∀ role p, .withGrant p ∈ policies.getD role ∅ ↔
        ∃ g, table.Tells g ∧ g.role = role ∧ g.Of p ∧ g.grantable = true) ∧
      policies.Tight ∧ ∀ role, (policies.getD role ∅).Closed := by
  obtain ⟨rows, hrows, -⟩ := htable.ofResult
  refine ⟨.ofGrants rows, ?_, fun role p => ?_, fun role p => ?_, Policies.tight_ofGrants rows,
    Policies.closed_ofGrants rows⟩
  · intro σ session database name found owner s t table' htable' hsame hfinds
    obtain ⟨rows', hrows', hread⟩ := htable'.ofResult
    rw [Policies.ofGrants_congr fun g p hp => by rw [hrows, hrows', hsame g p hp]] at hread
    exact hfinds.result_schema? hread database
  · simp only [Policies.base_mem_ofGrants, hrows]
  · simp only [Policies.withGrant_mem_ofGrants, hrows]

/-- The list of grants on a schema from its end, without the grant that is of no policy. -/
def shuffledRows : List GrantRow :=
  formerRows.reverse.filter fun g => g.privilege ≠ "MAINTAIN"

/-- The server gives one list of grants, and what is read is what the other one says. -/
theorem Session.policies_read_shuffled :
    ∃ policies t, ((⟨formerSchema.server, none⟩ : Session _).schema? "main" "former").result
        ⟨(), none⟩ = (.ok (some ⟨"former", "main", "boss", policies⟩), t) ∧
      .withGrant .usage ∈ policies.getD "writer" ∅ ∧ .base .usage ∈ policies.getD "reader" ∅ ∧
      .withGrant .usage ∉ policies.getD "reader" ∅ := by
  obtain ⟨policies, hread, hbase, hwithGrant, -⟩ :=
    policies_read (ResultTable.listsGrants_cells shuffledRows)
  simp only [ResultTable.tells_cells] at hread hbase hwithGrant
  have hfinds : Session.Finds ⟨formerSchema.server, none⟩ "former" ⟨(), none⟩ "former" "boss"
      ⟨grantColumns, formerRows.map GrantRow.cells⟩ ⟨(), none⟩ :=
    ⟨_, _, _, rfl, rfl, rfl, rfl, rfl⟩
  refine ⟨policies, _, hread (ResultTable.listsGrants_cells formerRows) ?_ hfinds, ?_, ?_, ?_⟩
  · intro g p hp
    have hother : g.privilege ≠ "MAINTAIN" := by
      intro hmaintain
      rw [GrantRow.Of, hmaintain] at hp
      revert hp
      cases p <;> decide +kernel
    simp [ResultTable.tells_cells, shuffledRows, hother]
  · exact (hwithGrant _ _).2 ⟨⟨"writer", "USAGE", true⟩, by simp [shuffledRows, formerRows], rfl,
      by decide +kernel, rfl⟩
  · exact (hbase _ _).2 ⟨⟨"reader", "USAGE", false⟩, by simp [shuffledRows, formerRows], rfl,
      by decide +kernel⟩
  · rw [hwithGrant]
    rintro ⟨g, hg, hrole, -, hgrantable⟩
    have hreader : ∀ g ∈ shuffledRows, g.role = "reader" → g.grantable = false := by decide
    exact Bool.eq_false_iff.1 (hreader g hg hrole) hgrantable

end Accord
