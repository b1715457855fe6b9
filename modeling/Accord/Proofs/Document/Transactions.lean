import Accord.Lifecycle.Document
import Accord.Proofs.Lifecycle.Attempt
import Mathlib.Algebra.GroupWithZero.Nat
import Mathlib.Data.List.Forall2

/-!
# A document as a row of transactions

Applying a document visits its objects one after the other, and every visit gives the commands of at
most one transaction.  What one visit does is said in `Visit.Succeeds` and `Visit.Fails`
(`DeclaredObject.visit`); by induction over the objects, applying a document is a row of visits that
succeed, up to the end or to the first visit that fails (`Document.apply_in_transactions`).
-/

namespace Accord

variable {σ δ ο ω : Type}

/-! ## Objects -/

/-- A declared object of any kind. -/
inductive DeclaredObject where
  | role (desired : DeclaredRole)
  | schema (desired : DeclaredSchema)
  | extension (desired : DeclaredExtension)
  | rule (desired : DeclaredRule)

/-- Creates or updates a declared object of the kind, and says what came of it. -/
def Lifecycle.applyOne (k : Lifecycle δ ο ω) (ctx : Context σ) (desired : δ) :
    Run σ AppliedObject := do
  let outcome ← k.converge ctx desired
  return ⟨k.kind, outcome.id, outcome.applied, k.toJson outcome.observed, outcome.drift⟩

namespace DeclaredObject

/-- The name of the kind of object. -/
def kind : DeclaredObject → String
  | .role _ => Lifecycle.roles.kind
  | .schema _ => Lifecycle.schemas.kind
  | .extension _ => Lifecycle.extensions.kind
  | .rule _ => Lifecycle.rules.kind

/-- The identity of the object. -/
def identity (ctx : Context σ) : DeclaredObject → Except Error String
  | .role desired => Lifecycle.roles.identity ctx desired
  | .schema desired => Lifecycle.schemas.identity ctx desired
  | .extension desired => Lifecycle.extensions.identity ctx desired
  | .rule desired => Lifecycle.rules.identity ctx desired

/-- The plan is one for the object, as it may have been found. -/
def Plans (ctx : Context σ) (plan : Plan) : DeclaredObject → Prop
  | .role desired => ∃ found, Lifecycle.roles.plan ctx found desired = .ok plan
  | .schema desired => ∃ found, Lifecycle.schemas.plan ctx found desired = .ok plan
  | .extension desired => ∃ found, Lifecycle.extensions.plan ctx found desired = .ok plan
  | .rule desired => ∃ found, Lifecycle.rules.plan ctx found desired = .ok plan

/-- Creates or updates the object, and says what came of it. -/
def apply (ctx : Context σ) : DeclaredObject → Run σ AppliedObject
  | .role desired => Lifecycle.roles.applyOne ctx desired
  | .schema desired => Lifecycle.schemas.applyOne ctx desired
  | .extension desired => Lifecycle.extensions.applyOne ctx desired
  | .rule desired => Lifecycle.rules.applyOne ctx desired

end DeclaredObject

/-- The objects of a document in the order in which they are visited. -/
def Document.objects (d : Document) : List DeclaredObject :=
  d.roles.map .role ++ d.schemas.map .schema ++ d.extensions.map .extension ++ d.rules.map .rule

theorem Lifecycle.applyAll_eq (k : Lifecycle δ ο ω) (ctx : Context σ) (l : List δ) :
    k.applyAll ctx l = l.mapM (k.applyOne ctx) := by
  induction l with
  | nil => rfl
  | cons desired l ih =>
    rw [List.mapM_cons, ← ih]
    simp only [applyAll, applyOne, bind_assoc, pure_bind]

/-- Applying a document is applying its objects in order. -/
theorem Document.apply_eq (d : Document) (ctx : Context σ) :
    d.apply ctx = d.objects.mapM (DeclaredObject.apply ctx) := by
  unfold apply objects
  simp only [Lifecycle.applyAll_eq, List.mapM_append, List.mapM_map, bind_assoc, pure_bind]
  rfl

/-! ## Visits -/

/-- A visit to a declared object. -/
structure Visit (σ : Type) where
  object : DeclaredObject
  before : σ
  after : σ
  /-- All that passes between the operation and the server. -/
  events : List Event
  /-- The database of the session in which the plan is applied. -/
  database : Option String
  plan : Plan

namespace Visit

/-- Every visit starts where the one before it ends. -/
def Chain : σ → List (Visit σ) → σ → Prop
  | s, [], t => t = s
  | s, v :: l, t => v.before = s ∧ Chain v.after l t

/-- The visit carries out a plan for the object, and what is reported is about the object and counts
the statements of the plan. -/
structure Succeeds (v : Visit σ) (ctx : Context σ) (result : AppliedObject) : Prop where
  run : (v.object.apply ctx).result v.before = (.ok result, v.after)
  trace : ctx.server.Trace v.before v.events v.after
  planned : v.object.Plans ctx v.plan
  commands : commandsIn v.events = v.plan.carriedOut
  kind : result.kind = v.object.kind
  identity : v.object.identity ctx = .ok result.id
  applied : result.applied = v.plan.length
  /-- The plan is committed as a whole. -/
  committed {κ : Type} {view : σ → Store κ} {effect : Option String → Statement → κ → Option κ} :
    ctx.server.Commits view effect →
    effects (effect v.database) v.plan.ordered (view v.before).committed =
      some (view v.after).committed

/-- The visit fails before any command is given, or in the transaction of a plan for the object, or
after that, when the object is read again. -/
structure Fails (v : Visit σ) (ctx : Context σ) (halt : Halt) : Prop where
  run : (v.object.apply ctx).result v.before = (.error halt, v.after)
  trace : ctx.server.Trace v.before v.events v.after
  commands : commandsIn v.events = [] ∨
    v.object.Plans ctx v.plan ∧ (Transaction v.plan (commandsIn v.events) (.error halt) ∨
      commandsIn v.events = v.plan.carriedOut)
  /-- The plan is committed as a whole or not at all. -/
  committed {κ : Type} {view : σ → Store κ} {effect : Option String → Statement → κ → Option κ} :
    ctx.server.CommitsWhole view effect →
    (view v.after).committed = (view v.before).committed ∨
      effects (effect v.database) v.plan.ordered (view v.before).committed =
        some (view v.after).committed

end Visit

/-- A visit to an object of one kind succeeds or fails. -/
theorem Lifecycle.Attempts.visit {k : Lifecycle δ ο ω} {ctx : Context σ}
    {writing : String → Option ο → δ → Except Error (Writing σ ο)} (h : k.Attempts ctx writing)
    (o : DeclaredObject) {desired : δ} (happly : o.apply ctx = k.applyOne ctx desired)
    (hkind : o.kind = k.kind) (hidentity : o.identity ctx = k.identity ctx desired)
    (hplans : ∀ plan, (∃ found, k.plan ctx found desired = .ok plan) → o.Plans ctx plan) (s : σ) :
    ∃ v : Visit σ, v.object = o ∧ v.before = s ∧
      ((∃ result, v.Succeeds ctx result) ∨ ∃ halt, v.Fails ctx halt) := by
  rcases hrun : (k.converge ctx desired).result s with ⟨r, t⟩
  rcases h.attempt desired hrun with ⟨⟨halt, rfl⟩, hquiet⟩ | ⟨w, plan, given, hunderway⟩
  · obtain ⟨events, htrace, hnone⟩ := hquiet
    refine ⟨⟨o, s, t, events, none, []⟩, rfl, rfl, .inr ⟨halt, ?_, htrace, .inl hnone,
      fun hserver => .inl (hserver.toCommits.quiet ⟨events, htrace, hnone⟩)⟩⟩
    rw [happly]
    exact Run.result_bind_of_error hrun
  · obtain ⟨u, ⟨before, hbefore, hnone⟩, hcourse⟩ := hunderway.course
    obtain ⟨events, htrace, hgiven⟩ := hcourse.trace hunderway.quiet
    have hcommands : commandsIn (before ++ events) = given := by
      rw [commandsIn_append, hnone, hgiven, List.nil_append]
    refine ⟨⟨o, s, t, before ++ events, (ctx.opened w.database).database, plan⟩, rfl, rfl, ?_⟩
    cases r with
    | error halt =>
      refine .inr ⟨halt, ?_, hbefore.trans htrace, .inr ⟨hplans _ hunderway.planned, ?_⟩,
        fun hserver => ?_⟩
      · rw [happly]
        exact Run.result_bind_of_error hrun
      · rw [hcommands]
        rcases hcourse.outcome with ⟨halt', hhalt, ht⟩ | ⟨hcarried, -⟩
        · obtain rfl := Except.error.inj hhalt
          exact .inl ht
        · exact .inr hcarried
      · rw [← hserver.toCommits.quiet ⟨before, hbefore, hnone⟩]
        exact hcourse.committed_whole hunderway.quiet hserver
    | ok outcome =>
      obtain ⟨halt, hhalt, -⟩ | ⟨hcarried, hreport⟩ := hcourse.outcome
      · exact nomatch hhalt
      · obtain ⟨hid, hn⟩ := hreport outcome rfl
        refine .inl ⟨⟨k.kind, outcome.id, outcome.applied, k.toJson outcome.observed,
          outcome.drift⟩, ?_, hbefore.trans htrace, hplans _ hunderway.planned,
          hcommands.trans hcarried, hkind.symm, ?_, hn, fun hserver => ?_⟩
        · rw [happly]
          exact Run.result_bind_of_ok hrun
        · rw [hidentity, hid]
          exact hunderway.identity
        · rw [← hserver.quiet ⟨before, hbefore, hnone⟩]
          exact hcourse.committed_of_ok hunderway.quiet hserver

/-- A visit to a declared object succeeds or fails. -/
theorem DeclaredObject.visit (ctx : Context σ) (o : DeclaredObject) (s : σ) :
    ∃ v : Visit σ, v.object = o ∧ v.before = s ∧
      ((∃ result, v.Succeeds ctx result) ∨ ∃ halt, v.Fails ctx halt) := by
  cases o with
  | role desired =>
    exact (Lifecycle.attempts_roles ctx).visit (.role desired) rfl rfl rfl (fun _ h => h) s
  | schema desired =>
    exact (Lifecycle.attempts_schemas ctx).visit (.schema desired) rfl rfl rfl (fun _ h => h) s
  | extension desired =>
    exact (Lifecycle.attempts_extensions ctx).visit (.extension desired) rfl rfl rfl
      (fun _ h => h) s
  | rule desired =>
    exact (Lifecycle.attempts_rules ctx).visit (.rule desired) rfl rfl rfl (fun _ h => h) s

/-! ## Visits in a row -/

theorem statementsIn_append (l l' : List Given) :
    statementsIn (l ++ l') = statementsIn l ++ statementsIn l' :=
  List.filterMap_append

/-- What is given for a plan when nothing fails are the statements of the plan. -/
theorem Plan.statementsIn_carriedOut (plan : Plan) :
    statementsIn plan.carriedOut = plan.ordered := by
  by_cases hplan : plan = []
  · subst hplan
    rfl
  · rw [carriedOut_of_ne hplan]
    exact (Transaction.committed hplan).statementsIn

/-- The objects are visited one after the other, each of them with success. -/
structure Visited (ctx : Context σ) (l : List DeclaredObject) (s t : σ) (visits : List (Visit σ))
    (results : List AppliedObject) : Prop where
  objects : visits.map Visit.object = l
  chain : Visit.Chain s visits t
  succeed : List.Forall₂ (fun v result => v.Succeeds ctx result) visits results

namespace Visited

variable {ctx : Context σ} {l : List DeclaredObject} {s t : σ} {visits : List (Visit σ)}
  {results : List AppliedObject}

theorem nil (s : σ) : Visited ctx [] s s [] [] :=
  ⟨rfl, rfl, .nil⟩

theorem cons {v : Visit σ} {result : AppliedObject} (hv : v.Succeeds ctx result)
    (h : Visited ctx l v.after t visits results) :
    Visited ctx (v.object :: l) v.before t (v :: visits) (result :: results) :=
  ⟨congrArg _ h.objects, ⟨rfl, h.chain⟩, .cons hv h.succeed⟩

/-- The commands of the visits are those of the plans, one transaction after the other. -/
theorem commands (h : Visited ctx l s t visits results) :
    commandsIn (visits.flatMap Visit.events) = visits.flatMap fun v => v.plan.carriedOut := by
  have hsucceed := h.succeed
  clear h
  induction hsucceed with
  | nil => rfl
  | cons hv _ ih => rw [List.flatMap_cons, List.flatMap_cons, commandsIn_append, hv.commands, ih]

/-- The results count the statements that were run. -/
theorem applied (h : Visited ctx l s t visits results) :
    (results.map AppliedObject.applied).sum =
      (statementsIn (commandsIn (visits.flatMap Visit.events))).length := by
  rw [h.commands]
  have hsucceed := h.succeed
  clear h
  induction hsucceed with
  | nil => rfl
  | cons hv _ ih =>
    rw [List.map_cons, List.sum_cons, List.flatMap_cons, statementsIn_append, List.length_append,
      Plan.statementsIn_carriedOut, (Plan.ordered_perm _).length_eq, hv.applied, ih]

end Visited

/-- The record grows by what passes in the visits. -/
theorem Visited.log {ctx : Context σ} {l : List DeclaredObject} {s t : σ × List Event}
    {visits : List (Visit (σ × List Event))} {results : List AppliedObject}
    (h : Visited ctx.recorded l s t visits results) :
    t.2 = s.2 ++ visits.flatMap Visit.events := by
  obtain ⟨-, hchain, hsucceed⟩ := h
  induction hsucceed generalizing s with
  | nil =>
    obtain rfl : t = s := hchain
    exact (List.append_nil _).symm
  | cons hv _ ih =>
    obtain ⟨rfl, hchain⟩ := hchain
    rw [ih hchain, hv.trace.of_recorded.2, List.flatMap_cons, List.append_assoc]

/-- Visiting objects in a row goes on to the end, or up to the first visit that fails. -/
theorem visited_or_stopped (ctx : Context σ) (l : List DeclaredObject) (s : σ) :
    (∃ visits results t, (l.mapM (DeclaredObject.apply ctx)).result s = (.ok results, t) ∧
      Visited ctx l s t visits results) ∨
    ∃ done visits results, ∃ last : Visit σ, ∃ rest halt, l = done ++ last.object :: rest ∧
      (l.mapM (DeclaredObject.apply ctx)).result s = (.error halt, last.after) ∧
      Visited ctx done s last.before visits results ∧ last.Fails ctx halt := by
  induction l generalizing s with
  | nil => exact .inl ⟨[], [], s, rfl, .nil s⟩
  | cons o l ih =>
    rw [List.mapM_cons]
    obtain ⟨v, rfl, rfl, ⟨result, hv⟩ | ⟨halt, hv⟩⟩ := o.visit ctx s
    · rw [Run.result_bind_of_ok hv.run]
      rcases ih v.after with ⟨visits, results, t, hrun, hvisited⟩ |
        ⟨done, visits, results, last, rest, halt, rfl, hrun, hvisited, hfails⟩
      · exact .inl ⟨_, _, t, Run.result_bind_of_ok hrun, hvisited.cons hv⟩
      · exact .inr ⟨_, _, _, last, rest, halt, rfl, Run.result_bind_of_error hrun,
          hvisited.cons hv, hfails⟩
    · exact .inr ⟨[], [], [], v, l, halt, rfl, Run.result_bind_of_error hv.run, .nil _, hv⟩

/-- Applying a document is a row of transactions.

Either all objects are visited with success, in the order of the document; then there is one result
for each of them, the commands are those of their plans, one transaction after the other, and the
results count the statements that were run.  Or the visits succeed up to an object that fails; then
the commands are those of the plans before it and what it gives itself, which is nothing or one
transaction, and the record ends there. -/
theorem Document.apply_in_transactions (ctx : Context σ) (d : Document) (s : σ)
    (log : List Event) :
    (∃ visits results t log', (d.apply ctx.recorded).result (s, log) = (.ok results, t, log') ∧
      Visited ctx.recorded d.objects (s, log) (t, log') visits results ∧
      log' = log ++ visits.flatMap Visit.events ∧
      (commandsIn (visits.flatMap Visit.events) = visits.flatMap fun v => v.plan.carriedOut) ∧
      results.length = d.objects.length ∧
      (results.map AppliedObject.applied).sum =
        (statementsIn (commandsIn (visits.flatMap Visit.events))).length) ∨
    ∃ done visits results, ∃ last : Visit (σ × List Event), ∃ rest halt t log',
      (d.apply ctx.recorded).result (s, log) = (.error halt, t, log') ∧
      d.objects = done ++ last.object :: rest ∧
      Visited ctx.recorded done (s, log) last.before visits results ∧
      last.Fails ctx.recorded halt ∧ last.after = (t, log') ∧
      log' = log ++ visits.flatMap Visit.events ++ last.events ∧
      commandsIn (visits.flatMap Visit.events) = visits.flatMap fun v => v.plan.carriedOut := by
  rw [Document.apply_eq]
  rcases visited_or_stopped ctx.recorded d.objects (s, log) with
    ⟨visits, results, ⟨t, log'⟩, hrun, hvisited⟩ |
    ⟨done, visits, results, last, rest, halt, hobjects, hrun, hvisited, hfails⟩
  · refine .inl ⟨visits, results, t, log', hrun, hvisited, hvisited.log, hvisited.commands, ?_,
      hvisited.applied⟩
    rw [← hvisited.objects, List.length_map]
    exact hvisited.succeed.length_eq.symm
  · refine .inr ⟨done, visits, results, last, rest, halt, last.after.1, last.after.2, hrun,
      hobjects, hvisited, hfails, rfl, ?_, hvisited.commands⟩
    rw [hfails.trace.of_recorded.2, hvisited.log]

/-- A server refuses to create schemas.  The role before the schema is committed, and nothing is
given for the extension after it. -/
example :
    let refuses : Command → Bool
      | .run (.createSchema ..) => true
      | _ => false
    let d : Document :=
      ⟨[.named "app"], [⟨"reporting", none, none, false, []⟩], [], [⟨"hstore", none, none, none⟩]⟩
    let log := ((d.apply (smallHost.context refuses ⟨⟨16, 0, 0⟩⟩).recorded).result
      (⟨.empty, none⟩, [])).2.2
    (statementsIn (commandsIn log)).map Statement.operation =
        ["creating role \"app\"", "creating schema \"reporting\""] ∧
      (commandsIn log).length = 6 := by
  decide +kernel

end Accord
