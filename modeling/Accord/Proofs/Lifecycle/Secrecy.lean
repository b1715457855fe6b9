import Accord.Proofs.Lifecycle.Section
import Accord.Proofs.Session.Secrecy

/-!
# Objects on two servers

What is read, created and updated on two servers that only differ in the hashes of passwords.  For
schemas, rules and extensions the same is done on both; for roles the declarations may differ in
their passwords (`Lifecycle.SameButPasswords`).
-/

namespace Accord

variable {σ τ α δ ο ω : Type} {R : σ → τ → Prop}

/-! ## Contexts and sections -/

namespace Context

theorem alike_hold (ctx : Context σ) (server : Server τ) (side : Side) :
    Run.Alike R Eq (ctx.hold side) ((ctx.on server).hold side) := by
  unfold hold
  show Run.Alike R Eq _ (if ctx.lock.grants side then _ else _)
  by_cases hgrants : ctx.lock.grants side = true
  · rw [if_pos hgrants, if_pos hgrants]
    exact Run.alike_pure rfl
  · rw [if_neg hgrants, if_neg hgrants]
    exact Run.alike_throw _

theorem alike_session {ctx : Context σ} {server : Server τ}
    (h : ctx.server.SameButHashes R server) (database : String) :
    Run.Alike R (Session.SameButHashes R) (ctx.session database)
      ((ctx.on server).session database) :=
  Session.alike_connect h _

/-- What is done in a session, after a side of the lock was taken. -/
theorem alike_section {ctx : Context σ} {server : Server τ}
    (h : ctx.server.SameButHashes R server) (side : Side) (database : String)
    {Q : α → α → Prop} {f : Session σ → Run σ α} {f' : Session τ → Run τ α}
    (hf : ∀ session session', session.SameButHashes R session' →
      Run.Alike R Q (f session) (f' session')) :
    Run.Alike R Q
      (do
        ctx.hold side
        let s ← ctx.session database
        f s)
      (do
        (ctx.on server).hold side
        let s ← (ctx.on server).session database
        f' s) := by
  refine (ctx.alike_hold server side).bind_eq fun _ => ?_
  exact (alike_session h database).bind hf

end Context

theorem Plan.SameButPasswords.outcome (x : Except Error Plan) :
    SameOutcome Plan.SameButPasswords x x := by
  refine (SameOutcome.refl x).mono ?_
  rintro plan _ rfl
  exact .refl plan

/-- Two outcomes tell the same, and the objects that were read are in a relation. -/
structure Outcome.Alike (P : ο → ο → Prop) (o o' : Outcome ο) : Prop where
  id : o.id = o'.id
  observed : P o.observed o'.observed
  applied : o.applied = o'.applied
  drift : o.drift = o'.drift

theorem Outcome.Alike.mono {P Q : ο → ο → Prop} {o o' : Outcome ο} (h : o.Alike P o')
    (hPQ : ∀ a a', P a a' → Q a a') : o.Alike Q o' :=
  ⟨h.id, hPQ _ _ h.observed, h.applied, h.drift⟩

theorem Outcome.alike_ofReread {P : ο → ο → Prop} {found found' : Option ο}
    {replan replan' : ο → Except Error Plan} (hfound : Option.Rel P found found')
    (hreplan : ∀ o o', P o o' → SameOutcome Plan.SameButPasswords (replan o) (replan' o'))
    (kind id : String) (n : Nat) :
    SameOutcome (Outcome.Alike P) (ofReread kind id n found replan)
      (ofReread kind id n found' replan') := by
  cases hfound with
  | none => exact .error _
  | some ho =>
    exact (hreplan _ _ ho).bind fun plan plan' hplan => .ok ⟨rfl, ho, rfl, hplan.shown_eq⟩

/-- Applying plans that differ in the texts of passwords only, and reading the objects again. -/
theorem Session.SameButHashes.applyAndReread {P : ο → ο → Prop} {session : Session σ}
    {session' : Session τ} (h : session.SameButHashes R session') {plan plan' : Plan}
    (hplan : plan.SameButPasswords plan') {reread : Run σ (Option ο)} {reread' : Run τ (Option ο)}
    (hreread : Run.Alike R (Option.Rel P) reread reread') {replan replan' : ο → Except Error Plan}
    (hreplan : ∀ o o', P o o' → SameOutcome Plan.SameButPasswords (replan o) (replan' o'))
    (kind id : String) :
    Run.Alike R (Outcome.Alike P)
      (do
        let applied ← session.apply plan
        let observed ← reread
        Run.ofExcept (Outcome.ofReread kind id applied observed replan))
      (do
        let applied ← session'.apply plan'
        let observed ← reread'
        Run.ofExcept (Outcome.ofReread kind id applied observed replan')) := by
  refine (h.apply hplan).bind_eq fun applied => ?_
  refine hreread.bind fun found found' hfound => ?_
  exact Run.alike_ofExcept (Outcome.alike_ofReread hfound hreplan kind id applied)

theorem Run.Alike.optionRel {m : Run σ (Option ο)} {m' : Run τ (Option ο)}
    (h : Run.Alike R Eq m m') : Run.Alike R (Option.Rel Eq) m m' := by
  refine h.mono ?_
  rintro (_ | o) _ rfl
  · exact .none
  · exact .some rfl

/-! ## Kinds of objects -/

/-- The kind works alike on the server of a context and on another one: `D` relates what is
declared, and `P` what is read before it is compared with that. -/
structure Lifecycle.SameButPasswords (k : Lifecycle δ ο ω) (ctx : Context σ) (server : Server τ)
    (R : σ → τ → Prop) (D : δ → δ → Prop) (P : ο → ο → Prop) : Prop where
  identity {d d' : δ} : D d d' → k.identity ctx d = k.identity (ctx.on server) d'
  read (id : String) :
    Run.Alike R (Option.Rel P) (k.read ctx id none) (k.read (ctx.on server) id none)
  create {d d' : δ} : D d d' →
    Run.Alike R (Outcome.Alike fun o o' => k.toJson o = k.toJson o') (k.create ctx d)
      (k.create (ctx.on server) d')
  update (id : String) {o o' : ο} {d d' : δ} : P o o' → D d d' →
    Run.Alike R (Outcome.Alike fun o o' => k.toJson o = k.toJson o') (k.update ctx id o d)
      (k.update (ctx.on server) id o' d')
  plan {found found' : Option ο} {d d' : δ} : Option.Rel P found found' → D d d' →
    SameOutcome Plan.SameButPasswords (k.plan ctx found d) (k.plan (ctx.on server) found' d')

namespace Lifecycle.SameButPasswords

variable {k : Lifecycle δ ο ω} {ctx : Context σ} {server : Server τ} {D : δ → δ → Prop}
  {P : ο → ο → Prop} {d d' : δ}

theorem pending (h : k.SameButPasswords ctx server R D P) (hd : D d d') :
    Run.Alike R Plan.SameButPasswords (k.pending ctx d) (k.pending (ctx.on server) d') := by
  unfold Lifecycle.pending
  rw [h.identity hd]
  refine Run.alike_liftM_bind _ fun id => ?_
  refine (h.read id).bind fun found found' hfound => ?_
  exact Run.alike_ofExcept (h.plan hfound hd)

theorem converge (h : k.SameButPasswords ctx server R D P) (hd : D d d') :
    Run.Alike R (Outcome.Alike fun o o' => k.toJson o = k.toJson o') (k.converge ctx d)
      (k.converge (ctx.on server) d') := by
  unfold Lifecycle.converge
  rw [h.identity hd]
  refine Run.alike_liftM_bind _ fun id => ?_
  refine (h.read id).bind fun found found' hfound => ?_
  cases hfound with
  | none => exact h.create hd
  | some ho => exact h.update id ho hd

end Lifecycle.SameButPasswords

section Kinds

variable {ctx : Context σ} {server : Server τ}

/-! ## Roles -/

namespace Lifecycle

namespace Role

theorem alike_read (h : ctx.server.SameButHashes R server) (id : String) :
    Run.Alike R (Option.Rel (ObservedRole.SameButPasswords none none)) (read ctx id none)
      (read (ctx.on server) id none) := by
  unfold read
  refine Run.alike_liftM_bind _ fun name => ?_
  refine Context.alike_section h .shared ctx.defaultDatabase fun session session' hsession => ?_
  exact hsession.knownRole? ctx server name .none

theorem alike_applyPlan (h : ctx.server.SameButHashes R server) {spec spec' : DeclaredRole}
    (hspec : spec.SameButPassword spec') {plan plan' : Plan}
    (hplan : plan.SameButPasswords plan') :
    Run.Alike R (Outcome.Alike fun o o' => o.toJson = o'.toJson) (applyPlan ctx spec plan)
      (applyPlan (ctx.on server) spec' plan') := by
  unfold applyPlan
  refine Context.alike_section h .exclusive ctx.defaultDatabase fun session session' hsession => ?_
  rw [← hspec.name_eq]
  have hreread := hsession.knownRole? ctx server spec.name (.some hspec)
  -- What was last set is the declared password on both sides.
  have hreplan := fun (o o' : ObservedRole)
      (ho : o.SameButPasswords spec.password spec'.password o') =>
    ho.updatePlan hspec (iff_of_true rfl rfl) ctx.dialect
  refine (hsession.applyAndReread hplan hreread hreplan "role" spec.name).mono fun o o' ho => ?_
  exact ho.mono fun _ _ hr => hr.toJson_eq

variable {d d' : DeclaredRole}

theorem alike_create (h : ctx.server.SameButHashes R server) (hd : d.SameButPassword d') :
    Run.Alike R (Outcome.Alike fun o o' => o.toJson = o'.toJson) (create ctx d)
      (create (ctx.on server) d') := by
  unfold create
  refine Run.alike_liftM_bind _ fun _ => ?_
  refine (Run.alike_liftM hd.normalize).bind fun spec spec' hspec => ?_
  refine (Run.alike_liftM (hspec.creationPlan ctx.dialect)).bind fun plan plan' hplan => ?_
  exact alike_applyPlan h hspec hplan

/-- The password of a role that was only read is not known, so it is set on both sides. -/
theorem sameOutcome_updatePlan {spec spec' : DeclaredRole} (hspec : spec.SameButPassword spec')
    {o o' : ObservedRole} (ho : o.SameButPasswords none none o') (dialect : Dialect) :
    SameOutcome Plan.SameButPasswords (spec.updatePlan dialect o)
      (spec'.updatePlan dialect o') := by
  refine ho.updatePlan hspec ?_ dialect
  rw [← Option.isNone_iff_eq_none, ← Option.isNone_iff_eq_none, ← Option.not_isSome,
    ← Option.not_isSome, hspec.declared]

theorem alike_update (h : ctx.server.SameButHashes R server) (id : String) {o o' : ObservedRole}
    (ho : o.SameButPasswords none none o') (hd : d.SameButPassword d') :
    Run.Alike R (Outcome.Alike fun o o' => o.toJson = o'.toJson) (update ctx id o d)
      (update (ctx.on server) id o' d') := by
  unfold update
  refine Run.alike_liftM_bind _ fun _ => Run.alike_liftM_bind _ fun name => ?_
  rw [← ho.name_eq]
  by_cases hname : name ≠ o.name
  · rw [if_pos hname, if_pos hname]
    exact (Run.alike_throw _).bind fun _ _ (hnever : False) => hnever.elim
  · rw [if_neg hname, if_neg hname]
    refine (Run.alike_liftM hd.normalize).bind fun spec spec' hspec => ?_
    have hplan := sameOutcome_updatePlan hspec ho ctx.dialect
    exact (Run.alike_liftM hplan).bind fun plan plan' hplan => alike_applyPlan h hspec hplan

theorem sameOutcome_plan (ctx : Context σ) (server : Server τ) {found found' : Option ObservedRole}
    (hfound : Option.Rel (ObservedRole.SameButPasswords none none) found found')
    (hd : d.SameButPassword d') :
    SameOutcome Plan.SameButPasswords (plan ctx found d) (plan (ctx.on server) found' d') := by
  unfold plan
  refine hd.normalize.bind fun spec spec' hspec => ?_
  cases hfound with
  | none => exact hspec.creationPlan ctx.dialect
  | some ho => exact sameOutcome_updatePlan hspec ho ctx.dialect

end Role

theorem sameButPasswords_roles (h : ctx.server.SameButHashes R server) :
    roles.SameButPasswords ctx server R DeclaredRole.SameButPassword
      (ObservedRole.SameButPasswords none none) where
  identity hd := by
    simp only [roles, hd.name_eq]
  read := Role.alike_read h
  create := Role.alike_create h
  update id _ _ _ _ := Role.alike_update h id
  plan := Role.sameOutcome_plan ctx server

/-! ## Reading and writing in a database -/

theorem alike_inDatabase (h : ctx.server.SameButHashes R server) (database : String)
    {read : Session σ → Run σ (Option ο)} {read' : Session τ → Run τ (Option ο)}
    (hread : ∀ session session', session.SameButHashes R session' →
      Run.Alike R Eq (read session) (read' session')) :
    Run.Alike R (Option.Rel Eq)
      (do
        ctx.hold .shared
        let s ← ctx.session ctx.defaultDatabase
        if ← s.exists? (.databaseExists database) then
          let s ← ctx.session database
          read s
        else return none)
      (do
        (ctx.on server).hold .shared
        let s ← (ctx.on server).session ctx.defaultDatabase
        if ← s.exists? (.databaseExists database) then
          let s ← (ctx.on server).session database
          read' s
        else return none) := by
  refine Context.alike_section h .shared ctx.defaultDatabase fun session session' hsession => ?_
  refine (hsession.exists? fun _ => rfl).bind_eq fun there => ?_
  cases there with
  | false => exact Run.alike_pure .none
  | true =>
    refine (Context.alike_session h database).bind fun session session' hsession => ?_
    exact (hread session session' hsession).optionRel

theorem alike_writePlan (h : ctx.server.SameButHashes R server) (kind id database : String)
    (plan : Plan) {reread : Session σ → Run σ (Option ο)} {reread' : Session τ → Run τ (Option ο)}
    (hreread : ∀ session session', session.SameButHashes R session' →
      Run.Alike R Eq (reread session) (reread' session'))
    (replan : ο → Except Error Plan) :
    Run.Alike R (Outcome.Alike Eq)
      (writeSection ctx kind id database (fun _ => pure plan) reread replan)
      (writeSection (ctx.on server) kind id database (fun _ => pure plan) reread' replan) := by
  unfold writeSection
  refine Context.alike_section h .exclusive database fun session session' hsession => ?_
  have hsame := (hreread session session' hsession).optionRel
  refine hsession.applyAndReread (.refl plan) hsame ?_ kind id
  rintro o _ rfl
  exact Plan.SameButPasswords.outcome _

/-! ## Schemas -/

namespace Schema

theorem alike_read (h : ctx.server.SameButHashes R server) (id : String) :
    Run.Alike R (Option.Rel Eq) (read ctx id) (read (ctx.on server) id) := by
  unfold read
  refine Run.alike_liftM_bind _ fun (database, name) => ?_
  exact alike_inDatabase h database fun _ _ hsession => hsession.schema? database name

theorem alike_create (h : ctx.server.SameButHashes R server) (d : DeclaredSchema) :
    Run.Alike R (Outcome.Alike Eq) (create ctx d) (create (ctx.on server) d) := by
  unfold create
  refine Run.alike_liftM_bind _ fun _ => Run.alike_liftM_bind _ fun spec => ?_
  rw [applyPlan_eq, applyPlan_eq]
  exact alike_writePlan h _ _ _ _ (fun _ _ hsession => hsession.schema? _ _) _

theorem alike_update (h : ctx.server.SameButHashes R server) (o : ObservedSchema)
    (d : DeclaredSchema) :
    Run.Alike R (Outcome.Alike Eq) (update ctx o d) (update (ctx.on server) o d) := by
  unfold update
  refine Run.alike_liftM_bind _ fun _ => Run.alike_liftM_bind _ fun spec => ?_
  refine Run.alike_liftM_bind _ fun plan => ?_
  rw [applyPlan_eq, applyPlan_eq]
  exact alike_writePlan h _ _ _ _ (fun _ _ hsession => hsession.schema? _ _) _

end Schema

/-! ## Extensions -/

namespace Extension

theorem alike_read (h : ctx.server.SameButHashes R server) (id : String) :
    Run.Alike R (Option.Rel Eq) (read ctx id) (read (ctx.on server) id) := by
  unfold read
  refine Run.alike_liftM_bind _ fun (database, name) => ?_
  exact alike_inDatabase h database fun _ _ hsession => hsession.extension? database name

theorem alike_applyPlan (h : ctx.server.SameButHashes R server) (spec : DeclaredExtension)
    (plan : Plan) :
    Run.Alike R (Outcome.Alike Eq) (applyPlan ctx spec plan)
      (applyPlan (ctx.on server) spec plan) := by
  unfold applyPlan
  refine Run.alike_liftM_bind _ fun database => ?_
  exact alike_writePlan h _ _ _ _ (fun _ _ hsession => hsession.extension? _ _) _

theorem alike_create (h : ctx.server.SameButHashes R server) (d : DeclaredExtension) :
    Run.Alike R (Outcome.Alike Eq) (create ctx d) (create (ctx.on server) d) := by
  unfold create
  refine Run.alike_liftM_bind _ fun _ => Run.alike_liftM_bind _ fun _ => ?_
  exact Run.alike_liftM_bind _ fun spec => alike_applyPlan h spec _

theorem alike_update (h : ctx.server.SameButHashes R server) (o : InstalledExtension)
    (d : DeclaredExtension) :
    Run.Alike R (Outcome.Alike Eq) (update ctx o d) (update (ctx.on server) o d) := by
  unfold update
  refine Run.alike_liftM_bind _ fun _ => Run.alike_liftM_bind _ fun _ => ?_
  exact Run.alike_liftM_bind _ fun spec => Run.alike_liftM_bind _ fun plan =>
    alike_applyPlan h spec plan

end Extension

/-! ## Rules -/

namespace Rule

theorem alike_read (h : ctx.server.SameButHashes R server) (id : String) :
    Run.Alike R (Option.Rel Eq) (read ctx id) (read (ctx.on server) id) := by
  unfold read
  refine Run.alike_liftM_bind _ fun key => ?_
  refine Context.alike_section h .shared key.database fun session session' hsession => ?_
  exact (hsession.rule? key).optionRel

theorem alike_apply (h : ctx.server.SameButHashes R server) (current : Option Rule)
    (d : DeclaredRule) :
    Run.Alike R (Outcome.Alike Eq) (apply ctx current d) (apply (ctx.on server) current d) := by
  unfold apply
  refine Run.alike_liftM_bind _ fun _ => Run.alike_liftM_bind _ fun _ => ?_
  refine Run.alike_liftM_bind _ fun rule => ?_
  refine Context.alike_section h .exclusive rule.key.database fun session session' hsession => ?_
  have hrest : ∀ before, Run.Alike R (Outcome.Alike Eq)
      (do
        let plan ← Run.ofExcept (rule.plan before)
        let applied ← session.apply plan
        let observed ← session.rule? rule.key
        Run.ofExcept (Outcome.ofReread "default_privileges" rule.key.identity applied observed
          fun o => rule.plan (some o)))
      (do
        let plan ← Run.ofExcept (rule.plan before)
        let applied ← session'.apply plan
        let observed ← session'.rule? rule.key
        Run.ofExcept (Outcome.ofReread "default_privileges" rule.key.identity applied observed
          fun o => rule.plan (some o))) := by
    intro before
    refine (Run.alike_ofExcept (.refl _)).bind_eq fun plan => ?_
    refine hsession.applyAndReread (.refl plan) (hsession.rule? rule.key).optionRel ?_ _ _
    rintro o _ rfl
    exact Plan.SameButPasswords.outcome _
  cases current with
  | some old => exact (Run.alike_pure rfl).bind_eq hrest
  | none => exact (hsession.rule? rule.key).bind_eq hrest

end Rule

/-- A kind works alike on both servers if its operations do for the same objects. -/
theorem SameButPasswords.of_eq {k : Lifecycle δ ο ω}
    (hidentity : ∀ d, k.identity ctx d = k.identity (ctx.on server) d)
    (hplan : ∀ o d, k.plan ctx o d = k.plan (ctx.on server) o d)
    (hread : ∀ id,
      Run.Alike R (Option.Rel Eq) (k.read ctx id none) (k.read (ctx.on server) id none))
    (hcreate : ∀ d, Run.Alike R (Outcome.Alike Eq) (k.create ctx d) (k.create (ctx.on server) d))
    (hupdate : ∀ id o d,
      Run.Alike R (Outcome.Alike Eq) (k.update ctx id o d) (k.update (ctx.on server) id o d)) :
    k.SameButPasswords ctx server R Eq Eq where
  identity := by
    rintro d _ rfl
    exact hidentity d
  read := hread
  create := by
    rintro d _ rfl
    exact (hcreate d).mono fun _ _ ho => ho.mono fun _ _ heq => heq ▸ rfl
  update id := by
    rintro o _ d _ rfl rfl
    exact (hupdate id o d).mono fun _ _ ho => ho.mono fun _ _ heq => heq ▸ rfl
  plan := by
    intro found found' d d' hfound hd
    have hsame : found = found' := by
      cases hfound with
      | none => rfl
      | some heq => rw [heq]
    rw [← hsame, ← hd, ← hplan found d]
    exact Plan.SameButPasswords.outcome _

theorem sameButPasswords_schemas (h : ctx.server.SameButHashes R server) :
    schemas.SameButPasswords ctx server R Eq Eq :=
  .of_eq (fun _ => rfl) (fun _ _ => rfl) (Schema.alike_read h) (Schema.alike_create h)
    fun _ => Schema.alike_update h

theorem sameButPasswords_extensions (h : ctx.server.SameButHashes R server) :
    extensions.SameButPasswords ctx server R Eq Eq :=
  .of_eq (fun _ => rfl) (fun _ _ => rfl) (Extension.alike_read h) (Extension.alike_create h)
    fun _ => Extension.alike_update h

theorem sameButPasswords_rules (h : ctx.server.SameButHashes R server) :
    rules.SameButPasswords ctx server R Eq Eq :=
  .of_eq (fun _ => rfl) (fun _ _ => rfl) (Rule.alike_read h) (Rule.alike_apply h none)
    fun _ o => Rule.alike_apply h (some o)

end Lifecycle

end Kinds

end Accord
