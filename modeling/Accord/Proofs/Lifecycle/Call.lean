import Accord.Lifecycle.Document
import Accord.Proofs.Lifecycle.Course
import Accord.Proofs.Session.Commands

/-!
# Calls

A `Call` is a call of any operation: on one object of some kind, or on a whole document.  What can
be said of reading, writing and deleting for every kind can be said of every call
(`Call.givesOnly`), and then of calls in a row, whatever becomes of each of them
(`Context.perform`).
-/

namespace Accord

variable {σ δ ο ω : Type} {P : Command → Prop}

/-- A call of an operation on one object. -/
inductive Lifecycle.Call (δ ο ω : Type) where
  | read (id : String) (lastKnown : Option δ)
  | exists? (id : String)
  | plan (current : Option ο) (desired : δ)
  | pending (desired : δ)
  | create (desired : δ)
  | update (id : String) (current : ο) (desired : δ)
  | delete (id : String) (options : ω)
  | converge (desired : δ)

namespace Lifecycle.Call

/-- The operation that is called, without its result. -/
def run (k : Lifecycle δ ο ω) (ctx : Context σ) : Lifecycle.Call δ ο ω → Run σ Unit
  | .read id lastKnown => do let _ ← k.read ctx id lastKnown
  | .exists? id => do let _ ← k.exists? ctx id
  | .plan current desired => do let _ ← k.plan ctx current desired
  | .pending desired => do let _ ← k.pending ctx desired
  | .create desired => do let _ ← k.create ctx desired
  | .update id current desired => do let _ ← k.update ctx id current desired
  | .delete id options => k.delete ctx id options
  | .converge desired => do let _ ← k.converge ctx desired

/-- Whether the call is only to read or to plan. -/
def isReading : Lifecycle.Call δ ο ω → Bool
  | .read .. | .exists? _ | .plan .. | .pending _ => true
  | _ => false

end Lifecycle.Call

/-- A call of an operation. -/
inductive Call where
  | role (c : Lifecycle.Call DeclaredRole ObservedRole RoleRemoval)
  | schema (c : Lifecycle.Call DeclaredSchema ObservedSchema SchemaRemoval)
  | extension (c : Lifecycle.Call DeclaredExtension InstalledExtension Unit)
  | rule (c : Lifecycle.Call DeclaredRule Rule Unit)
  | plan (d : Document)
  | apply (d : Document)

namespace Call

/-- The operation that is called, without its result. -/
def run (ctx : Context σ) : Call → Run σ Unit
  | .role c => c.run Lifecycle.roles ctx
  | .schema c => c.run Lifecycle.schemas ctx
  | .extension c => c.run Lifecycle.extensions ctx
  | .rule c => c.run Lifecycle.rules ctx
  | .plan d => do let _ ← d.plan ctx
  | .apply d => do let _ ← d.apply ctx

/-- Whether the call is only to read or to plan. -/
def isReading : Call → Bool
  | .role c => c.isReading
  | .schema c => c.isReading
  | .extension c => c.isReading
  | .rule c => c.isReading
  | .plan _ => true
  | .apply _ => false

/-- Whether the call is to change all objects of a document. -/
def isApply : Call → Bool
  | .apply _ => true
  | _ => false

end Call

/-- Carries out some calls one after another, whatever becomes of each of them, and gives the state
afterwards. -/
def Context.perform (ctx : Context σ) (calls : List Call) (s : σ) : σ :=
  calls.foldl (fun s call => ((call.run ctx).result s).2) s

/-! ## Reading is quiet -/

/-- Reading an object of the kind and asking whether there is one give no command. -/
structure Lifecycle.QuietReads (k : Lifecycle δ ο ω) (ctx : Context σ) : Prop where
  read (id : String) (lastKnown : Option δ) : (k.read ctx id lastKnown).QuietOn ctx.server
  exists? (id : String) : (k.exists? ctx id).QuietOn ctx.server

namespace Lifecycle

theorem QuietReads.pending {k : Lifecycle δ ο ω} {ctx : Context σ} (h : k.QuietReads ctx)
    (desired : δ) : (k.pending ctx desired).QuietOn ctx.server := by
  refine (Run.quietOn_ofExcept _ _).bind fun id => (h.read id none).bind fun found => ?_
  exact Run.quietOn_ofExcept _ _

theorem QuietReads.planAll {k : Lifecycle δ ο ω} {ctx : Context σ} (h : k.QuietReads ctx)
    (l : List δ) : (k.planAll ctx l).QuietOn ctx.server := by
  induction l with
  | nil => exact Run.quietOn_pure _ []
  | cons desired l ih =>
    refine (h.pending desired).bind fun plan => ?_
    have hrest := fun here : List PlannedObject =>
      ih.bind fun rest => Run.quietOn_pure ctx.server (here ++ rest)
    dsimp only
    split
    · exact (Run.quietOn_pure _ []).bind hrest
    · exact (Run.quietOn_ofExcept _ _).bind fun id => (Run.quietOn_pure _ _).bind hrest

theorem quietReads_roles (ctx : Context σ) : roles.QuietReads ctx where
  read id lastKnown := (Role.asks_read ctx id lastKnown).quiet ctx.server
  exists? id :=
    have hasks : Asks fun _ server => Role.exists? (ctx.on server) id :=
      .liftM_bind _ fun _ => asks_section ctx .shared ctx.defaultDatabase fun named =>
        Asks.exists? named _
    hasks.quiet ctx.server

theorem asks_existsInDatabase (ctx : Context σ) (database : String) (q : Query) :
    Asks fun _ (server : Server _) => (do
      (ctx.on server).hold .shared
      let s ← (ctx.on server).session ctx.defaultDatabase
      if ← s.exists? (.databaseExists database) then
        let s ← (ctx.on server).session database
        s.exists? q
      else return false) := by
  refine asks_section ctx .shared ctx.defaultDatabase fun named => ?_
  refine .bind (Asks.exists? named _) fun there => ?_
  exact .ite (asks_session ctx database fun named => Asks.exists? named q) (.pure false)

theorem quietReads_schemas (ctx : Context σ) : schemas.QuietReads ctx where
  read id _ := (Schema.asks_read ctx id).quiet ctx.server
  exists? id :=
    have hasks : Asks fun _ server => Schema.exists? (ctx.on server) id :=
      .liftM_bind _ fun key => asks_existsInDatabase ctx key.1 _
    hasks.quiet ctx.server

theorem quietReads_extensions (ctx : Context σ) : extensions.QuietReads ctx where
  read id _ := (Extension.asks_read ctx id).quiet ctx.server
  exists? id :=
    have hasks : Asks fun _ server => Extension.exists? (ctx.on server) id :=
      .liftM_bind _ fun key => asks_existsInDatabase ctx key.1 _
    hasks.quiet ctx.server

theorem quietReads_rules (ctx : Context σ) : rules.QuietReads ctx where
  read id _ := (Rule.asks_read ctx id).quiet ctx.server
  exists? id := ((Rule.asks_read ctx id).quiet ctx.server).bind fun _ => Run.quietOn_pure _ _

end Lifecycle

/-- Planning a document gives no command. -/
theorem Document.quietOn_plan (ctx : Context σ) (d : Document) :
    (d.plan ctx).QuietOn ctx.server := by
  refine ((Lifecycle.quietReads_roles ctx).planAll d.roles).bind fun _ => ?_
  refine ((Lifecycle.quietReads_schemas ctx).planAll d.schemas).bind fun _ => ?_
  refine ((Lifecycle.quietReads_extensions ctx).planAll d.extensions).bind fun _ => ?_
  exact ((Lifecycle.quietReads_rules ctx).planAll d.rules).bind fun _ => Run.quietOn_pure _ _

/-! ## Commands of calls -/

/-- A session on a database of the context is opened without a command. -/
theorem Context.givesOnly_session {ctx : Context σ} {database : String} {α : Type}
    {f : Session σ → Run σ α} (h : (f (ctx.opened database)).GivesOnly P ctx.server) :
    (ctx.session database >>= f).GivesOnly P ctx.server := by
  unfold session Session.connect
  simp only [bind_assoc, pure_bind]
  exact (Run.quietOn_connect ctx.server _).givesOnly.bind fun _ => h

/-- All commands by which objects of the kind are written and deleted are of some sort. -/
structure Lifecycle.GivesOnly (P : Command → Prop) (k : Lifecycle δ ο ω) (ctx : Context σ) :
    Prop where
  write (id : String) (found : Option ο) (desired : δ) :
    (k.write ctx id found desired).GivesOnly P ctx.server
  delete (id : String) (options : ω) : (k.delete ctx id options).GivesOnly P ctx.server

namespace Lifecycle

variable {k : Lifecycle δ ο ω} {ctx : Context σ}

theorem GivesOnly.converge (h : k.GivesOnly P ctx) (hreads : k.QuietReads ctx) (desired : δ) :
    (k.converge ctx desired).GivesOnly P ctx.server := by
  refine .liftM_bind fun id _ => (hreads.read id none).givesOnly.bind fun found => ?_
  have hwrite := h.write id found desired
  cases found <;> exact hwrite

theorem GivesOnly.applyAll (h : k.GivesOnly P ctx) (hreads : k.QuietReads ctx) (l : List δ) :
    (k.applyAll ctx l).GivesOnly P ctx.server := by
  induction l with
  | nil => exact .pure []
  | cons desired l ih =>
    exact (h.converge hreads desired).bind fun outcome => ih.bind fun rest => .pure _

/-- Calls for one object give the commands by which it is written and deleted. -/
theorem GivesOnly.call (h : k.GivesOnly P ctx) (hreads : k.QuietReads ctx)
    (c : Lifecycle.Call δ ο ω) : (c.run k ctx).GivesOnly P ctx.server := by
  cases c with
  | read id lastKnown => exact (hreads.read id lastKnown).givesOnly.bind fun _ => .pure _
  | exists? id => exact (hreads.exists? id).givesOnly.bind fun _ => .pure _
  | plan current desired => exact .liftM_bind fun _ _ => .pure _
  | pending desired => exact (hreads.pending desired).givesOnly.bind fun _ => .pure _
  | create desired => exact (h.write "" none desired).bind fun _ => .pure _
  | update id current desired => exact (h.write id (some current) desired).bind fun _ => .pure _
  | delete id options => exact h.delete id options
  | converge desired => exact (h.converge hreads desired).bind fun _ => .pure _

/-- Calls that only read or plan are quiet. -/
theorem QuietReads.call (h : k.QuietReads ctx) {c : Lifecycle.Call δ ο ω}
    (hc : c.isReading = true) : (c.run k ctx).QuietOn ctx.server := by
  cases c with
  | read id lastKnown => exact (h.read id lastKnown).bind fun _ => Run.quietOn_pure _ _
  | exists? id => exact (h.exists? id).bind fun _ => Run.quietOn_pure _ _
  | plan current desired =>
    exact (Run.quietOn_ofExcept _ _).bind fun _ => Run.quietOn_pure _ _
  | pending desired => exact (h.pending desired).bind fun _ => Run.quietOn_pure _ _
  | create _ | update _ _ _ | delete _ _ | converge _ => exact nomatch hc

end Lifecycle

/-- All commands by which objects are written and deleted are of some sort, whatever their kind. -/
structure Context.GivesOnly (P : Command → Prop) (ctx : Context σ) : Prop where
  roles : Lifecycle.roles.GivesOnly P ctx
  schemas : Lifecycle.schemas.GivesOnly P ctx
  extensions : Lifecycle.extensions.GivesOnly P ctx
  rules : Lifecycle.rules.GivesOnly P ctx

namespace Call

variable {ctx : Context σ}

theorem givesOnly (h : ctx.GivesOnly P) (call : Call) :
    (call.run ctx).GivesOnly P ctx.server := by
  have hroles := Lifecycle.quietReads_roles ctx
  have hschemas := Lifecycle.quietReads_schemas ctx
  have hextensions := Lifecycle.quietReads_extensions ctx
  have hrules := Lifecycle.quietReads_rules ctx
  cases call with
  | role c => exact h.roles.call hroles c
  | schema c => exact h.schemas.call hschemas c
  | extension c => exact h.extensions.call hextensions c
  | rule c => exact h.rules.call hrules c
  | plan d => exact (d.quietOn_plan ctx).givesOnly.bind fun _ => .pure _
  | apply d =>
    refine Run.GivesOnly.bind ?_ fun _ => .pure _
    refine (h.roles.applyAll hroles d.roles).bind fun _ => ?_
    refine (h.schemas.applyAll hschemas d.schemas).bind fun _ => ?_
    refine (h.extensions.applyAll hextensions d.extensions).bind fun _ => ?_
    exact (h.rules.applyAll hrules d.rules).bind fun _ => .pure _

/-- Calls that only read or plan are quiet. -/
theorem quietOn_of_isReading {call : Call} (h : call.isReading = true) :
    (call.run ctx).QuietOn ctx.server := by
  cases call with
  | role c => exact (Lifecycle.quietReads_roles ctx).call h
  | schema c => exact (Lifecycle.quietReads_schemas ctx).call h
  | extension c => exact (Lifecycle.quietReads_extensions ctx).call h
  | rule c => exact (Lifecycle.quietReads_rules ctx).call h
  | plan d => exact (d.quietOn_plan ctx).bind fun _ => Run.quietOn_pure _ _
  | apply d => exact nomatch h

end Call

/-- Quiet calls in a row are quiet. -/
theorem Context.quiet_perform {ctx : Context σ} {calls : List Call}
    (h : ∀ call ∈ calls, (call.run ctx).QuietOn ctx.server) (s : σ) :
    ctx.server.Quiet s (ctx.perform calls s) := by
  induction calls generalizing s with
  | nil => exact .refl s
  | cons call calls ih =>
    have hfirst := h call (List.mem_cons_self ..) s
    exact hfirst.trans (ih (fun c hc => h c (List.mem_cons_of_mem _ hc)) _)

end Accord
