import Accord.Proofs.Catalog.Memory
import Accord.Proofs.Role.Convergence
import Accord.Proofs.Role.Part

/-!
# Plans for roles lead to the declared role

A catalog that carries out a plan for one of its roles never fails to find a role that it is told to
change, and it ends with the declared role: every statement sets one part of the role and leaves all
others as they are (`Statement.effect_of_leadsTo`), so a run of statements leaves alone whatever
none of them sets (`effects_of_leadsTo`).  A plan for a role with another name renames it first, and
from then on it goes by the declared name (`Statement.effect_renameRole`).
-/

namespace Accord

/-! ## Roles and passwords in the catalog -/

/-- The clause sets a password that is declared in these words. -/
def PasswordClause.Sets (password : String) : PasswordClause → Prop
  | .clear => Text.sameIgnoringCase password "NULL" = true
  | .encrypted p | .unencrypted p =>
    p = password ∧ Text.sameIgnoringCase password "NULL" = false

/-- What is stored for the password of a role comes from a clause that sets this password. -/
def RoleEntry.HasPassword (e : RoleEntry) (host : Host) (password : String) : Prop :=
  ∃ clause : PasswordClause, clause.Sets password ∧ e.password = host.hash clause

/-- The role in the catalog is the observed one.  What is not known about the observed role can be
anything. -/
structure RoleEntry.Holds (e : RoleEntry) (host : Host) (r : ObservedRole) : Prop where
  flags : ∀ f on, r.flag f = some on → e.has f = on
  connectionLimit : r.connectionLimit = e.connectionLimit
  expiry : r.validUntil = e.expiry
  groups : r.roles = e.groups
  password : ∀ p, r.password = some p → e.HasPassword host p

/-- The role in the catalog is the declared one in everything that is managed. -/
structure RoleEntry.IsDeclared (e : RoleEntry) (host : Host) (spec : DeclaredRole) : Prop where
  flags : ∀ f on, spec.flag f = some on → e.has f = on
  connectionLimit : e.connectionLimit = spec.connectionLimit
  expiry : expiryMatches e.expiry spec.validUntil = true
  groups : e.groups = spec.roles
  password : ∀ p, spec.password = some p → e.HasPassword host p

/-- Two states of a role are the same in one part. -/
def RoleEntry.SameIn (e e' : RoleEntry) : RolePart → Prop
  | .name => True
  | .password => e'.password = e.password
  | .aspect (.flag f) => e'.has f = e.has f
  | .aspect .connectionLimit => e'.connectionLimit = e.connectionLimit
  | .aspect .expiry => e'.expiry = e.expiry
  | .aspect (.membership g) => g ∈ e'.groups ↔ g ∈ e.groups

/-- The role under a name, as it is known to those who set its password. -/
def RoleEntry.known (e : RoleEntry) (name : String) (password : Option String) : ObservedRole :=
  { e.read name true with password }

/-- Memberships are memberships in roles that there are, and no role is a member of itself. -/
def Catalog.MembershipsSound (k : Catalog) : Prop :=
  ∀ name e, k.roles name = some e → name ∉ e.groups ∧ ∀ g ∈ e.groups, (k.roles g).isSome = true

/-- The role that a statement changes, by the name that it has when the statement is run. -/
def Statement.changedRole : Statement → Option String
  | .renameRole old _ => some old
  | .alterRole role _ | .grantMembership _ role | .revokeMembership _ role => some role
  | _ => none

/-- The role that a statement names besides the one that it changes. -/
def Statement.namedGroup : Statement → Option String
  | .grantMembership group _ | .revokeMembership group _ => some group
  | _ => none

/-- Whenever one of the statements is run, the role that it changes is there, and so is the group
that it names, unless that is one of the exceptions. -/
def Catalog.FindsRoles (k : Catalog) (host : Host) (database : String) (l : List Statement)
    (except : String → Prop) : Prop :=
  ∀ before c after, l = before ++ c :: after →
    ∃ k₁, effects (Statement.effect host database) before k = some k₁ ∧
      (∀ role, c.changedRole = some role → (k₁.roles role).isSome = true) ∧
      ∀ g, c.namedGroup = some g → (k₁.roles g).isSome = true ∨ except g

/-- The statements can be carried out one after another.  None of them misses the role that it
changes, and if one misses a group, then that group is declared and is not there in the end either.
In the end the role is there as declared. -/
structure DeclaredRole.ReachedBy (spec : DeclaredRole) (host : Host) (database : String)
    (l : List Statement) (k k' : Catalog) (e' : RoleEntry) : Prop where
  run : effects (Statement.effect host database) l k = some k'
  finds : k.FindsRoles host database l fun g => g ∈ spec.roles ∧ k'.roles g = none
  there : k'.roles spec.name = some e'
  declared : e'.IsDeclared host spec

theorem RoleEntry.SameIn.refl (e : RoleEntry) (p : RolePart) : e.SameIn e p := by
  rcases p with _ | _ | (f | _ | _ | g) <;> simp [SameIn]

theorem RoleEntry.SameIn.trans {e e' e'' : RoleEntry} {p : RolePart} (h : e.SameIn e' p)
    (h' : e'.SameIn e'' p) : e.SameIn e'' p := by
  rcases p with _ | _ | (f | _ | _ | g)
  · exact trivial
  · exact Eq.trans h' h
  · exact Eq.trans h' h
  · exact Eq.trans h' h
  · exact Eq.trans h' h
  · exact Iff.trans h' h

theorem DeclaredRole.sets_of_passwordClause {spec : DeclaredRole} {dialect : Dialect}
    {clause : PasswordClause} {p : String} (h : spec.passwordClause dialect = .ok (some clause))
    (hp : spec.password = some p) : clause.Sets p := by
  have hclause := passwordClause_ok.1 h
  have hremoves : spec.removesPassword = Text.sameIgnoringCase p "NULL" := by
    simp [removesPassword, hp]
  rw [hp, hremoves] at hclause
  dsimp only at hclause
  by_cases hnull : Text.sameIgnoringCase p "NULL" = true
  · rw [if_pos hnull] at hclause
    obtain rfl := Option.some.inj hclause
    exact hnull
  · rw [if_neg hnull] at hclause
    have hfalse : Text.sameIgnoringCase p "NULL" = false := Bool.eq_false_iff.2 hnull
    by_cases hencrypted : spec.encryptedPassword = true
    · rw [if_pos hencrypted] at hclause
      obtain rfl := Option.some.inj hclause
      exact ⟨rfl, hfalse⟩
    · rw [if_neg hencrypted] at hclause
      obtain rfl := Option.some.inj hclause.2
      exact ⟨rfl, hfalse⟩

/-- Nobody is a member of a role that is not there. -/
theorem Catalog.MembershipsSound.not_mem_of_free {k : Catalog} (hk : k.MembershipsSound)
    {name group : String} {e : RoleEntry} (he : k.roles name = some e)
    (hfree : k.roles group = none) : group ∉ e.groups := by
  intro hmem
  have hthere := (hk name e he).2 group hmem
  simp [hfree] at hthere

/-! ## One statement -/

section Effect

variable {host : Host} {database : String} {spec : DeclaredRole} {k k' : Catalog} {e e' : RoleEntry}

/-- A connection limit that the server can store. -/
def DeclaredRole.Storable (spec : DeclaredRole) : Prop :=
  -2147483648 ≤ spec.connectionLimit ∧ spec.connectionLimit ≤ 2147483647

variable (host) in
/-- A setting that sets what is declared can be carried out, and it sets nothing else. -/
theorem RoleEntry.set_of_leadsTo {s : RoleSetting} (hs : s.LeadsTo spec) (hlimit : spec.Storable)
    (e : RoleEntry) :
    ∃ e', e.set host s = some e' ∧ (∀ p, s.rolePart ≠ some p → e.SameIn e' p) ∧
      ∀ clause, s = .password clause → e'.password = host.hash clause := by
  cases s with
  | flag f on =>
    refine ⟨_, rfl, fun p hp => ?_, by simp⟩
    rcases p with _ | _ | (g | _ | _ | g)
    case aspect.flag =>
      have hne : g ≠ f := fun heq => hp (heq ▸ rfl)
      exact if_neg hne
    all_goals simp [RoleEntry.SameIn]
  | connectionLimit limit =>
    obtain rfl : limit = spec.connectionLimit := hs
    refine ⟨_, dif_pos hlimit, fun p hp => ?_, by simp⟩
    rcases p with _ | _ | (f | _ | _ | g)
    case aspect.connectionLimit => exact absurd rfl hp
    all_goals simp [RoleEntry.SameIn]
  | validUntil expiry =>
    refine ⟨_, rfl, fun p hp => ?_, by simp⟩
    rcases p with _ | _ | (f | _ | _ | g)
    case aspect.expiry => exact absurd rfl hp
    all_goals simp [RoleEntry.SameIn]
  | password clause =>
    refine ⟨_, rfl, fun p hp => ?_, ?_⟩
    · rcases p with _ | _ | (f | _ | _ | g)
      case password => exact absurd rfl hp
      all_goals simp [RoleEntry.SameIn]
    · intro c hc
      rw [RoleSetting.password.inj hc]
  | other what option sensitive => exact hs.elim

variable (host database) in
/-- A statement about the declared role finds it, and it sets one part of it. -/
theorem Statement.effect_of_leadsTo {c : Statement} (hc : c.LeadsTo spec) (hlimit : spec.Storable)
    (he : k.roles spec.name = some e) :
    ∃ e', c.effect host database k = some (k.setRole spec.name (some e')) ∧
      (∀ p, c.rolePart ≠ some p → e.SameIn e' p) ∧
      ∀ role clause, c = .alterRole role (.password clause) → e'.password = host.hash clause := by
  have hchange : ∀ {f : RoleEntry → Option RoleEntry} {e'}, f e = some e' →
      k.changeRole spec.name f = some (k.setRole spec.name (some e')) := by
    intro f e' hf
    unfold Catalog.changeRole
    rw [he, Option.bind_some, hf]
    rfl
  -- Joining and leaving one group differ only in what becomes of the groups.
  have hgroups : ∀ (groups : OrderedSet String) (group : String),
      (∀ g, g ≠ group → (g ∈ groups ↔ g ∈ e.groups)) →
      ∀ p, some (RolePart.aspect (.membership group)) ≠ some p →
        e.SameIn { e with groups } p := by
    intro groups group hother p hp
    rcases p with _ | _ | (f | _ | _ | g)
    case aspect.membership => exact hother g fun heq => hp (heq ▸ rfl)
    all_goals simp [RoleEntry.SameIn]
  cases c with
  | alterRole role setting =>
    obtain ⟨rfl, hset⟩ := hc
    obtain ⟨e', hs, hsame, hpassword⟩ := RoleEntry.set_of_leadsTo host hset hlimit e
    refine ⟨e', hchange hs, hsame, fun role clause heq => hpassword clause ?_⟩
    exact (Statement.alterRole.inj heq).2
  | grantMembership group role =>
    obtain ⟨rfl, -⟩ := hc
    refine ⟨_, hchange rfl, hgroups _ group fun g hg => ?_, by simp⟩
    rw [OrderedSet.mem_insert]
    exact or_iff_right hg
  | revokeMembership group role =>
    obtain ⟨rfl, -⟩ := hc
    refine ⟨_, hchange rfl, hgroups _ group fun g hg => ?_, by simp⟩
    rw [OrderedSet.mem_erase]
    exact and_iff_left hg
  | _ => exact hc.elim

variable (host database) in
/-- A role that is renamed is found under its new name, and only there. -/
theorem Statement.effect_renameRole {old new : String} (he : k.roles old = some e)
    (hfree : k.roles new = none) (hold : old ∉ e.groups) (hnew : new ∉ e.groups) :
    (Statement.renameRole old new).effect host database k = some (k.renameRole old new) ∧
      (k.renameRole old new).roles new = some e ∧ (k.renameRole old new).roles old = none := by
  have hne : new ≠ old := by
    rintro rfl
    simp [hfree] at he
  have hswap : e.swap old new = e := by
    unfold RoleEntry.swap
    have hgroups : OrderedSet.ofList (e.groups.toList.map (swapNames old new)) = e.groups := by
      have hkeep : ∀ g ∈ e.groups.toList, swapNames old new g = g := by
        intro g hg
        have hg₁ : g ≠ old := fun h => hold (h ▸ hg)
        have hg₂ : g ≠ new := fun h => hnew (h ▸ hg)
        simp [swapNames, hg₁, hg₂]
      rw [List.map_congr_left hkeep, List.map_id'']
      · exact OrderedSet.ext fun g => OrderedSet.mem_ofList
      · exact fun _ => rfl
    rw [hgroups]
  have hto : swapNames old new new = old := by simp [swapNames, hne]
  have hfrom : swapNames old new old = new := by simp [swapNames]
  refine ⟨?_, ?_, ?_⟩
  · simp [Statement.effect, he, hfree]
  · show (k.roles (swapNames old new new)).map _ = _
    rw [hto, he, Option.map_some, hswap]
  · show (k.roles (swapNames old new old)).map _ = _
    rw [hfrom, hfree, Option.map_none]

/-! ## Runs of statements -/

variable (host database) in
/-- Statements about the declared role can all be carried out.  They leave alone what none of them
sets, and they neither create a role nor drop one. -/
theorem effects_of_leadsTo {l : List Statement} (hl : ∀ c ∈ l, c.LeadsTo spec)
    (hlimit : spec.Storable) (he : k.roles spec.name = some e) :
    ∃ k' e', effects (Statement.effect host database) l k = some k' ∧
      k'.roles spec.name = some e' ∧ (∀ n, (k'.roles n).isSome = (k.roles n).isSome) ∧
      ∀ p, (∀ c ∈ l, c.rolePart ≠ some p) → e.SameIn e' p := by
  induction l generalizing k e with
  | nil => exact ⟨k, e, rfl, he, fun _ => rfl, fun p _ => .refl e p⟩
  | cons c l ih =>
    obtain ⟨e₁, hc, hsame, -⟩ :=
      Statement.effect_of_leadsTo host database (hl c (List.mem_cons_self ..)) hlimit he
    have he₁ : (k.setRole spec.name (some e₁)).roles spec.name = some e₁ := if_pos rfl
    obtain ⟨k', e', hrest, he', hthere, hsame'⟩ :=
      ih (fun d hd => hl d (List.mem_cons_of_mem _ hd)) he₁
    refine ⟨k', e', effects_cons.2 ⟨_, hc, hrest⟩, he', fun n => ?_, fun p hp => ?_⟩
    · rw [hthere]
      show (if n = spec.name then some e₁ else k.roles n).isSome = _
      by_cases hn : n = spec.name
      · rw [if_pos hn, hn, he]
        rfl
      · rw [if_neg hn]
    · have hfirst := hsame p (hp c (List.mem_cons_self ..))
      exact hfirst.trans (hsame' p fun d hd => hp d (List.mem_cons_of_mem _ hd))

/-- Where no role is created or dropped, a role that is not found at first is missing in the end. -/
theorem Catalog.found_or_missing (hthere : ∀ n, (k'.roles n).isSome = (k.roles n).isSome)
    (g : String) : (k.roles g).isSome = true ∨ k'.roles g = none := by
  rw [← hthere, ← Option.not_isSome_iff_eq_none]
  exact Classical.em _

/-- If all passwords that are set are the same, then it is the one that is stored. -/
theorem effects_password {l : List Statement} {clause : PasswordClause}
    (hl : ∀ c ∈ l, c.LeadsTo spec) (hlimit : spec.Storable) (he : k.roles spec.name = some e)
    (hclause : ∀ role d, .alterRole role (.password d) ∈ l → d = clause)
    (hset : ∃ c ∈ l, c.rolePart = some .password)
    (h : effects (Statement.effect host database) l k = some k')
    (he' : k'.roles spec.name = some e') : e'.password = host.hash clause := by
  induction l generalizing k e with
  | nil =>
    obtain ⟨c, hc, -⟩ := hset
    exact absurd hc List.not_mem_nil
  | cons c l ih =>
    have hrest : ∀ d ∈ l, d.LeadsTo spec := fun d hd => hl d (List.mem_cons_of_mem _ hd)
    obtain ⟨k₁, hc, hrun⟩ := effects_cons.1 h
    obtain ⟨e₁, hc', -, hpassword⟩ :=
      Statement.effect_of_leadsTo host database (hl c (List.mem_cons_self ..)) hlimit he
    obtain rfl := Option.some.inj (hc.symm.trans hc')
    have he₁ : (k.setRole spec.name (some e₁)).roles spec.name = some e₁ := if_pos rfl
    by_cases hlater : ∃ d ∈ l, d.rolePart = some .password
    · exact ih hrest he₁ (fun role d hd => hclause role d (List.mem_cons_of_mem _ hd)) hlater hrun
    · -- Nothing sets the password after this statement.
      obtain ⟨d, hd, hpart⟩ := hset
      have hdc : d = c := by
        rcases List.mem_cons.1 hd with hd | hd
        · exact hd
        · exact absurd ⟨d, hd, hpart⟩ hlater
      subst hdc
      obtain ⟨role, declared, rfl⟩ := Statement.rolePart_eq_password.1 hpart
      obtain rfl := hclause role declared (List.mem_cons_self ..)
      obtain ⟨k₂, e₂, h₂, he₂, -, hsame⟩ := effects_of_leadsTo host database
        hrest hlimit he₁
      obtain rfl := Option.some.inj (hrun.symm.trans h₂)
      obtain rfl := Option.some.inj (he'.symm.trans he₂)
      have hkept : e'.password = e₁.password :=
        hsame .password fun d hd heq => hlater ⟨d, hd, heq⟩
      rw [hkept]
      exact hpassword role declared rfl

/-- Statements about the declared role find it whenever they are run. -/
theorem findsRoles_of_leadsTo {l : List Statement} {except : String → Prop}
    (hl : ∀ c ∈ l, c.LeadsTo spec) (hlimit : spec.Storable) (he : k.roles spec.name = some e)
    (hgroups : ∀ c ∈ l, ∀ g, c.namedGroup = some g → (k.roles g).isSome = true ∨ except g) :
    k.FindsRoles host database l except := by
  intro before c after hsplit
  have hc : c ∈ l := hsplit ▸ List.mem_append_right _ (List.mem_cons_self ..)
  have hbefore : ∀ d ∈ before, d.LeadsTo spec :=
    fun d hd => hl d (hsplit ▸ List.mem_append_left _ hd)
  obtain ⟨k₁, e₁, hrun, he₁, hthere, -⟩ :=
    effects_of_leadsTo host database hbefore hlimit he
  refine ⟨k₁, hrun, fun role hrole => ?_, fun g hg => ?_⟩
  · have hname : role = spec.name := by
      have hleads := hl c hc
      cases c with
      | alterRole r setting =>
        obtain rfl := Option.some.inj hrole
        exact hleads.1
      | grantMembership group r =>
        obtain rfl := Option.some.inj hrole
        exact hleads.1
      | revokeMembership group r =>
        obtain rfl := Option.some.inj hrole
        exact hleads.1
      | _ => exact hleads.elim
    rw [hname, he₁]
    rfl
  · rw [hthere]
    exact hgroups c hc g hg

theorem Catalog.FindsRoles.cons {l : List Statement} {c : Statement} {except : String → Prop}
    {k₁ : Catalog} (hrole : ∀ role, c.changedRole = some role → (k.roles role).isSome = true)
    (hgroup : c.namedGroup = none) (hc : c.effect host database k = some k₁)
    (h : k₁.FindsRoles host database l except) : k.FindsRoles host database (c :: l) except := by
  intro before d after hsplit
  cases before with
  | nil =>
    obtain ⟨rfl, -⟩ := List.cons.inj hsplit
    refine ⟨k, rfl, hrole, fun g hg => ?_⟩
    simp [hgroup] at hg
  | cons b before =>
    obtain ⟨rfl, hlater⟩ := List.cons.inj hsplit
    obtain ⟨k₂, hrun, hfound⟩ := h before d after hlater
    exact ⟨k₂, effects_cons.2 ⟨k₁, hc, hrun⟩, hfound⟩

end Effect

/-! ## Whole plans -/

section Plans

variable {host : Host} {database : String} {spec : DeclaredRole} {dialect : Dialect} {plan : Plan}
  {k : Catalog} {e : RoleEntry} {r : ObservedRole}

theorem DeclaredRole.storable_of_normalize {desired spec : DeclaredRole}
    (h : desired.normalize = .ok spec) (hlimit : desired.connectionLimit ≤ 2147483647) :
    spec.Storable := by
  obtain ⟨groups, name, hlow, -, -, rfl⟩ := normalize_ok h
  show -2147483648 ≤ desired.connectionLimit ∧ desired.connectionLimit ≤ 2147483647
  omega

/-- Where an observed role is as declared, so is the role in the catalog. -/
theorem RoleEntry.Holds.meets (h : e.Holds host r) {a : RoleAspect} (ha : r.Meets spec a) :
    e.Meets true spec a := by
  cases a with
  | flag f =>
    intro on hon
    have hflag : e.has f = on := h.flags f on (ha on hon)
    simp [flag, hflag]
  | connectionLimit => exact h.connectionLimit.symm.trans ha
  | expiry =>
    show expiryMatches e.expiry spec.validUntil = true
    rw [← h.expiry]
    exact ha
  | membership g =>
    show g ∈ e.groups ↔ g ∈ spec.roles
    rw [← h.groups]
    exact ha

theorem RoleEntry.isDeclared_of_meets (h : ∀ a, e.Meets true spec a)
    (hpassword : ∀ p, spec.password = some p → e.HasPassword host p) :
    e.IsDeclared host spec where
  flags f on hon := by
    have hflag := h (.flag f) on hon
    simpa [flag] using hflag
  connectionLimit := h .connectionLimit
  expiry := h .expiry
  groups := OrderedSet.ext fun g => h (.membership g)
  password := hpassword

/-- Nothing has to change about a role that is as declared. -/
theorem RoleEntry.IsDeclared.changesTo_known (h : e.IsDeclared host spec) {password : Option String}
    (hpassword : spec.password = none ∨ spec.password = password) :
    (e.known spec.name password).changesTo spec = [] := by
  rw [ObservedRole.changesTo_eq_nil]
  refine ⟨rfl, hpassword, fun a => ?_⟩
  cases a with
  | flag f =>
    intro on hon
    have hflag : (e.known spec.name password).flag f = some (e.has f) := by
      cases f <;> rfl
    rw [hflag, h.flags f on hon]
  | connectionLimit => exact h.connectionLimit
  | expiry => exact h.expiry
  | membership g =>
    show g ∈ e.groups ↔ g ∈ spec.roles
    rw [h.groups]

theorem Statement.namedGroup_of_leadsTo {c : Statement} {g : String} (hc : c.LeadsTo spec)
    (hg : c.namedGroup = some g) : c = .revokeMembership g spec.name ∨ g ∈ spec.roles := by
  cases c with
  | grantMembership group role =>
    obtain rfl := Option.some.inj hg
    exact .inr hc.2
  | revokeMembership group role =>
    obtain rfl := Option.some.inj hg
    exact .inl (by rw [hc.1])
  | _ => simp [namedGroup] at hg

/-- A plan stores the declared password, or that password is stored already and the plan leaves it
alone. -/
theorem DeclaredRole.hasPassword_of_updatePlan {k' : Catalog} {e' : RoleEntry} {p : String}
    (hplan : spec.updatePlan dialect r = .ok plan) (hname : r.name = spec.name)
    (hlimit : spec.Storable) (he : k.roles spec.name = some e) (hholds : e.Holds host r)
    (hrun : effects (Statement.effect host database) plan.ordered k = some k')
    (he' : k'.roles spec.name = some e')
    (hkept : r.Agrees spec .password → e'.password = e.password) (hp : spec.password = some p) :
    e'.HasPassword host p := by
  by_cases hagrees : r.Agrees spec .password
  · have hknown : r.password = some p := by
      rcases hagrees with hnone | heq
      · simp [hp] at hnone
      · rw [← heq, hp]
    obtain ⟨clause, hsets, hstored⟩ := hholds.password p hknown
    exact ⟨clause, hsets, (hkept hagrees).trans hstored⟩
  · obtain ⟨clause, hclause⟩ := exists_passwordClause hplan hagrees
    refine ⟨clause, sets_of_passwordClause hclause hp, ?_⟩
    have hl : ∀ c ∈ plan.ordered, c.LeadsTo spec :=
      fun c hc => leadsTo_of_mem_updatePlan hplan hname c (Plan.mem_ordered.1 hc)
    refine effects_password hl hlimit he (fun role d hd => ?_) ?_ hrun he'
    · have hd := ((password_mem_updatePlan hplan).1 (Plan.mem_ordered.1 hd)).2.1
      exact Option.some.inj (Except.ok.inj (hd.symm.trans hclause))
    · have hset := (password_mem_updatePlan hplan).2 ⟨rfl, hclause, hagrees⟩
      exact ⟨_, Plan.mem_ordered.2 hset, rfl⟩

variable (database) in
/-- The plan for a role that has the declared name already. -/
theorem DeclaredRole.reached_of_updatePlan (hplan : spec.updatePlan dialect r = .ok plan)
    (hname : r.name = spec.name) (hlimit : spec.Storable) (he : k.roles spec.name = some e)
    (hholds : e.Holds host r) (hgroups : ∀ g ∈ e.groups, (k.roles g).isSome = true) :
    ∃ k' e', spec.ReachedBy host database plan.ordered k k' e' ∧
      (∀ n, (k'.roles n).isSome = (k.roles n).isSome) ∧ ∀ p, r.Agrees spec p → e.SameIn e' p := by
  have hmem : ∀ {c}, c ∈ plan.ordered ↔ c ∈ plan := Plan.mem_ordered
  have hl : ∀ c ∈ plan.ordered, c.LeadsTo spec :=
    fun c hc => leadsTo_of_mem_updatePlan hplan hname c (hmem.1 hc)
  obtain ⟨k', e', hrun, he', hthere, hsame⟩ :=
    effects_of_leadsTo host database hl hlimit he
  have hkept : ∀ p, r.Agrees spec p → e.SameIn e' p := by
    intro p hp
    apply hsame
    intro c hc hpart
    exact (rolePart_mem_updatePlan hplan p).1 ⟨c, hmem.1 hc, hpart⟩ hp
  have hfeasible : spec.Feasible true := .inl rfl
  have hmeets : ∀ a, e'.Meets true spec a := by
    intro a
    obtain ⟨e₀, he₀, -, hmeets⟩ := effects_meets hfeasible hl hrun he'
    obtain rfl := Option.some.inj (he.symm.trans he₀)
    rw [hmeets]
    by_cases ha : r.Meets spec a
    · exact .inr (hholds.meets ha)
    · obtain ⟨t, ht, hta⟩ := (mem_roleAspect_updatePlan hplan hname a).2 ha
      exact .inl ⟨t, hmem.2 ht, hta⟩
  have hpassword : ∀ p, spec.password = some p → e'.HasPassword host p := fun p hp =>
    hasPassword_of_updatePlan hplan hname hlimit he hholds hrun he' (hkept .password) hp
  have hdeclared := RoleEntry.isDeclared_of_meets hmeets hpassword
  refine ⟨k', e', ⟨hrun, ?_, he', hdeclared⟩, hthere, hkept⟩
  refine findsRoles_of_leadsTo hl hlimit he fun c hc g hg => ?_
  rcases Statement.namedGroup_of_leadsTo (hl c hc) hg with rfl | hdeclared
  · refine .inl (hgroups g ?_)
    rw [← hholds.groups]
    exact mem_roles_of_revoke hplan (hmem.1 hc)
  · exact (Catalog.found_or_missing hthere g).imp_right fun hnone => ⟨hdeclared, hnone⟩

/-! ## Renaming -/

theorem RoleEntry.Holds.renamed (h : e.Holds host r) (name : String) :
    e.Holds host { r with name } where
  flags f on hon := h.flags f on (by cases f <;> exact hon)
  connectionLimit := h.connectionLimit
  expiry := h.expiry
  groups := h.groups
  password := h.password

theorem ObservedRole.agrees_renamed {p : RolePart} (h : r.Agrees spec p) :
    { r with name := spec.name }.Agrees spec p := by
  rcases p with _ | _ | (f | _ | _ | g)
  case name => rfl
  case aspect.flag => cases f <;> exact h
  all_goals exact h

variable (database) in
/-- The plan for a role that has another name, when the declared one is free. -/
theorem DeclaredRole.reached_of_renaming (hplan : spec.updatePlan dialect r = .ok plan)
    (hname : r.name ≠ spec.name) (hfree : k.roles spec.name = none) (hlimit : spec.Storable)
    (hk : k.MembershipsSound) (he : k.roles r.name = some e) (hholds : e.Holds host r) :
    ∃ k' e', spec.ReachedBy host database plan.ordered k k' e' ∧ k'.roles r.name = none ∧
      ∀ p, r.Agrees spec p → e.SameIn e' p := by
  obtain ⟨rest, hrest, rfl⟩ := (updatePlan_of_name_ne hname).1 hplan
  have hl : ∀ c ∈ rest, c.LeadsTo spec := leadsTo_of_mem_updatePlan hrest rfl
  obtain ⟨hself, hgroups⟩ := hk r.name e he
  have hnew : spec.name ∉ e.groups := hk.not_mem_of_free he hfree
  obtain ⟨hrename, hthere, hgone⟩ :=
    Statement.effect_renameRole host database he hfree hself hnew
  have hgroups' : ∀ g ∈ e.groups, ((k.renameRole r.name spec.name).roles g).isSome = true := by
    intro g hg
    have hg₁ : g ≠ r.name := fun h => hself (h ▸ hg)
    have hg₂ : g ≠ spec.name := fun h => hnew (h ▸ hg)
    have hkeep : swapNames r.name spec.name g = g := by simp [swapNames, hg₁, hg₂]
    show ((k.roles (swapNames r.name spec.name g)).map _).isSome = true
    rw [hkeep, Option.isSome_map]
    exact hgroups g hg
  obtain ⟨k', e', hreached, hsome, hkept⟩ := reached_of_updatePlan database hrest rfl
    hlimit hthere (hholds.renamed spec.name) hgroups'
  refine ⟨k', e', ⟨?_, ?_, hreached.there, hreached.declared⟩, ?_, ?_⟩
  · rw [ordered_renameRole hl]
    exact effects_cons.2 ⟨_, hrename, hreached.run⟩
  · rw [ordered_renameRole hl]
    refine .cons (fun role hrole => ?_) rfl hrename hreached.finds
    obtain rfl := Option.some.inj hrole
    rw [he]
    rfl
  · have hnone := hsome r.name
    rw [hgone] at hnone
    exact Option.isNone_iff_eq_none.1 (by simpa using hnone)
  · exact fun p hp => hkept p (ObservedRole.agrees_renamed hp)

/-! ## Creating -/

variable (host) in
theorem RoleEntry.foldlM_set_of_leadsTo {l : List RoleSetting} (hl : ∀ s ∈ l, s.LeadsTo spec)
    (hlimit : spec.Storable) (e : RoleEntry) :
    ∃ e', l.foldlM (RoleEntry.set host) e = some e' := by
  induction l generalizing e with
  | nil => exact ⟨e, rfl⟩
  | cons s l ih =>
    obtain ⟨e₁, hs, -⟩ := RoleEntry.set_of_leadsTo host (hl s (List.mem_cons_self ..))
      hlimit e
    obtain ⟨e', hrest⟩ := ih (fun t ht => hl t (List.mem_cons_of_mem _ ht)) e₁
    refine ⟨e', ?_⟩
    rw [List.foldlM_cons, hs]
    exact hrest

/-- The password is the last setting of a role that is created. -/
theorem RoleEntry.password_of_settings {clause : PasswordClause}
    (h : (spec.settings (some clause)).foldlM (RoleEntry.set host) e = some e') :
    e'.password = host.hash clause := by
  unfold DeclaredRole.settings at h
  rw [List.foldlM_append] at h
  obtain ⟨e₁, -, hlast⟩ := Option.bind_eq_some_iff.1 h
  obtain rfl := Option.some.inj hlast
  rfl

variable (host database) in
/-- The plan for a role that is not there. -/
theorem DeclaredRole.reached_of_creationPlan (hplan : spec.creationPlan dialect = .ok plan)
    (hlimit : spec.Storable) (hfree : k.roles spec.name = none) :
    ∃ k' e', spec.ReachedBy host database plan.ordered k k' e' := by
  have hplan' := hplan
  unfold creationPlan at hplan'
  obtain ⟨c, hc, hrest⟩ := Except.bind_ok.1 hplan'
  obtain ⟨-, password, hpassword, rfl⟩ := creation_ok hc
  obtain ⟨e₁, he₁⟩ := RoleEntry.foldlM_set_of_leadsTo host
    (fun s (hs : s ∈ spec.settings password) => leadsTo_of_mem_settings hs) hlimit .fresh
  have hcreate : (Statement.createRole spec.name (dialect.supports .createRoleWith)
      (spec.settings password)).effect host database k =
        some (k.setRole spec.name (some e₁)) := by
    simp [Statement.effect, hfree, he₁]
  have hthere₁ : (k.setRole spec.name (some e₁)).roles spec.name = some e₁ := if_pos rfl
  have hordered : plan.ordered = .createRole spec.name (dialect.supports .createRoleWith)
      (spec.settings password) ::
        Plan.ordered (spec.roles.toList.map fun g => .grantMembership g spec.name) := by
    rw [← Except.ok.inj hrest]
    exact Plan.ordered_cons fun _ _ => Nat.zero_le _
  have hl : ∀ c ∈ Plan.ordered (spec.roles.toList.map fun g => .grantMembership g spec.name),
      c.LeadsTo spec ∧ c.rolePart ≠ some .password := by
    intro c hc
    obtain ⟨g, hg, rfl⟩ := List.mem_map.1 (Plan.mem_ordered.1 hc)
    exact ⟨⟨rfl, hg⟩, by simp [Statement.rolePart, Statement.roleAspect]⟩
  obtain ⟨k', e', hrun, he', hthere, hsame⟩ := effects_of_leadsTo host database
    (fun c hc => (hl c hc).1) hlimit hthere₁
  have hall : effects (Statement.effect host database) plan.ordered k = some k' := by
    rw [hordered]
    exact effects_cons.2 ⟨_, hcreate, hrun⟩
  have hfeasible : spec.Feasible true := .inl rfl
  have hmeets : ∀ a, e'.Meets true spec a := by
    intro a
    obtain ⟨e₀, he₀, -, hset⟩ :=
      effects_meets hfeasible (fun c hc => (hl c hc).1) hrun he'
    obtain rfl := Option.some.inj (hthere₁.symm.trans he₀)
    rw [hset, foldlM_set_meets hfeasible (fun s => leadsTo_of_mem_settings) he₁]
    rcases spec.settings_cover password true a with hset | hfresh | ⟨g, hg, rfl⟩
    · exact .inr (.inl hset)
    · exact .inr (.inr hfresh)
    · exact .inl ⟨_, Plan.mem_ordered.2 (List.mem_map.2 ⟨g, hg, rfl⟩), rfl⟩
  have hstored : ∀ p, spec.password = some p → e'.HasPassword host p := by
    intro p hp
    cases password with
    | none => simp [passwordClause_eq_none hpassword] at hp
    | some clause =>
      refine ⟨clause, sets_of_passwordClause hpassword hp, ?_⟩
      rw [hsame .password fun c hc => (hl c hc).2]
      exact RoleEntry.password_of_settings he₁
  refine ⟨k', e', hall, ?_, he', RoleEntry.isDeclared_of_meets hmeets hstored⟩
  rw [hordered]
  refine .cons (fun role hrole => by simp [Statement.changedRole] at hrole) rfl hcreate ?_
  refine findsRoles_of_leadsTo (fun c hc => (hl c hc).1) hlimit hthere₁ fun c hc g hg => ?_
  obtain ⟨g', hg', rfl⟩ := List.mem_map.1 (Plan.mem_ordered.1 hc)
  obtain rfl := Option.some.inj hg
  exact (Catalog.found_or_missing hthere g').imp_right fun hnone => ⟨hg', hnone⟩

/-! ## Every plan -/

/-- Every plan for a role leads to the declared role, from any state of the catalog.

A plan for a role that is there sets only parts in which the role is not as declared, and it leaves
alone all other parts and all that the declaration does not manage. -/
theorem DeclaredRole.role_reached_of_plan {desired : DeclaredRole}
    (hspec : desired.normalize = .ok spec)
    (hlimit : desired.connectionLimit ≤ 2147483647) (dialect : Dialect) (host : Host)
    (database : String) (hk : k.MembershipsSound) :
    (∀ current plan e, spec.updatePlan dialect current = .ok plan →
      k.roles current.name = some e → e.Holds host current →
      (current.name ≠ spec.name → k.roles spec.name = none) →
      ∃ k' e', spec.ReachedBy host database plan.ordered k k' e' ∧
        (current.name ≠ spec.name → k'.roles current.name = none) ∧
        (∀ p, ¬spec.Manages p ∨ current.Agrees spec p → e.SameIn e' p) ∧
        (∀ c ∈ plan, ∃ p, c.rolePart = some p ∧ ¬current.Agrees spec p) ∧
        (e'.known spec.name (spec.password.or current.password)).changesTo spec = []) ∧
    (∀ plan, spec.creationPlan dialect = .ok plan → k.roles spec.name = none →
      ∃ k' e', spec.ReachedBy host database plan.ordered k k' e' ∧
        (e'.known spec.name spec.password).changesTo spec = []) := by
  have hstorable : spec.Storable := storable_of_normalize hspec hlimit
  constructor
  · intro current plan e hplan he hholds hfree
    have hsets : ∀ c ∈ plan, ∃ p, c.rolePart = some p ∧ ¬current.Agrees spec p := by
      intro c hc
      obtain ⟨p, hp⟩ := exists_rolePart_of_mem_updatePlan hplan hc
      exact ⟨p, hp, (rolePart_mem_updatePlan hplan p).1 ⟨c, hc, hp⟩⟩
    have hreached : ∃ k' e', spec.ReachedBy host database plan.ordered k k' e' ∧
        (current.name ≠ spec.name → k'.roles current.name = none) ∧
        ∀ p, current.Agrees spec p → e.SameIn e' p := by
      by_cases hname : current.name = spec.name
      · obtain ⟨k', e', hreached, -, hkept⟩ := reached_of_updatePlan database hplan
          hname hstorable (hname ▸ he) hholds (hk _ e he).2
        exact ⟨k', e', hreached, fun hne => absurd hname hne, hkept⟩
      · obtain ⟨k', e', hreached, hgone, hkept⟩ :=
          reached_of_renaming database hplan hname (hfree hname) hstorable hk he hholds
        exact ⟨k', e', hreached, fun _ => hgone, hkept⟩
    obtain ⟨k', e', hreached, hgone, hkept⟩ := hreached
    refine ⟨k', e', hreached, hgone, fun p hp => ?_, hsets, ?_⟩
    · exact hkept p (hp.elim ObservedRole.agrees_of_not_manages id)
    · apply hreached.declared.changesTo_known
      cases spec.password with
      | none => exact .inl rfl
      | some p => exact .inr rfl
  · intro plan hplan hfree
    obtain ⟨k', e', hreached⟩ := reached_of_creationPlan host database hplan
      hstorable hfree
    exact ⟨k', e', hreached, hreached.declared.changesTo_known (.inr rfl)⟩

end Plans

/-! ## A role that is renamed -/

/-- A server that stores passwords as they are. -/
def plainHost : Host :=
  { smallHost with
    hash := fun
      | .clear => none
      | .encrypted password | .unencrypted password => some password }

/-- A role that logs in and is a member of two groups. -/
def formerEntry : RoleEntry :=
  { RoleEntry.fresh with
    has := fun f => decide (f = .login)
    groups := .ofList ["legacy", "staff"]
    password := some "before" }

/-- A catalog with that role and three groups. -/
def formerCatalog : Catalog :=
  { Catalog.empty with
    roles := fun name =>
      if name = "former" then some formerEntry
      else if name ∈ ["audit", "legacy", "staff"] then some .fresh
      else none }

theorem formerCatalog_membershipsSound : formerCatalog.MembershipsSound := by
  intro name e he
  simp only [formerCatalog] at he
  by_cases hname : name = "former"
  · rw [if_pos hname] at he
    obtain rfl := Option.some.inj he
    subst hname
    decide +kernel
  · rw [if_neg hname, Option.ite_none_right_eq_some] at he
    obtain rfl := Option.some.inj he.2
    exact ⟨OrderedSet.not_mem_empty _, fun g hg => absurd hg (OrderedSet.not_mem_empty _)⟩

/-- The role under another name, with other memberships and another password. -/
def renamedRole : DeclaredRole :=
  { DeclaredRole.named "app" with
    createDatabase := true, password := some "it's", roles := .ofList ["staff", "audit"] }

/-- The role is renamed and gets other flags, memberships and another password, in seven steps. -/
theorem role_reached_of_plan_renamed :
    ∃ spec plan k' e', renamedRole.normalize = .ok spec ∧
      spec.updatePlan ⟨⟨16, 0, 0⟩⟩ (formerEntry.known "former" (some "before")) = .ok plan ∧
      plan.length = 7 ∧ spec.ReachedBy plainHost "main" plan.ordered formerCatalog k' e' ∧
      k'.roles "former" = none ∧ e'.groups = .ofList ["audit", "staff"] ∧
      (e'.known "app" (some "it's")).changesTo spec = [] := by
  have hspec : renamedRole.normalize = .ok renamedRole :=
    Except.eq_ok_of_toOption (by decide +kernel)
  have hseven : (renamedRole.updatePlan ⟨⟨16, 0, 0⟩⟩
      (formerEntry.known "former" (some "before"))).toOption.map List.length = some 7 := by
    decide +kernel
  obtain ⟨plan, hplan, hlength⟩ := Option.map_eq_some_iff.1 hseven
  have hplan := Except.eq_ok_of_toOption hplan
  have hholds : formerEntry.Holds plainHost (formerEntry.known "former" (some "before")) := {
    flags := fun f on hon => by
      cases f <;> exact Option.some.inj hon
    connectionLimit := rfl
    expiry := rfl
    groups := rfl
    password := fun p hp => by
      obtain rfl := Option.some.inj hp
      exact ⟨.encrypted "before", ⟨rfl, by decide +kernel⟩, rfl⟩ }
  obtain ⟨hupdate, -⟩ :=
    DeclaredRole.role_reached_of_plan hspec (by decide) ⟨⟨16, 0, 0⟩⟩ plainHost "main"
    formerCatalog_membershipsSound
  obtain ⟨k', e', hreached, hgone, -, -, hnothing⟩ :=
    hupdate _ plan formerEntry hplan rfl hholds fun _ => rfl
  refine ⟨renamedRole, plan, k', e', hspec, hplan, hlength, hreached, hgone (by decide), ?_, ?_⟩
  · rw [hreached.declared.groups]
    decide +kernel
  · exact hnothing

end Accord
