import Accord.Proofs.Catalog.Memory
import Accord.Proofs.Lifecycle.Course
import Accord.Proofs.Lifecycle.Idempotent

/-!
# What is shown is what is done

Planning and converging are two ways through the same kind: one reads and shows a plan, the other
one reads, checks once more, and carries a plan out.  While nobody else changes anything, the plan
that is carried out is the one that is shown, and what makes planning fail makes converging fail
before any command is given (`Lifecycle.shown_is_done`).
-/

namespace Accord

variable {σ δ ο ω : Type}

/-! ## Planning asks -/

namespace Lifecycle

variable {ctx : Context σ}

/-- The kind reads by asking, and apart from that it does not depend on the server. -/
structure Reads (k : Lifecycle δ ο ω) (ctx : Context σ) : Prop where
  identity {τ : Type} (server : Server τ) (desired : δ) :
    k.identity (ctx.on server) desired = k.identity ctx desired
  plan {τ : Type} (server : Server τ) (found : Option ο) (desired : δ) :
    k.plan (ctx.on server) found desired = k.plan ctx found desired
  read (id : String) : Asks fun _ server => k.read (ctx.on server) id none

theorem Reads.pending {k : Lifecycle δ ο ω} (h : k.Reads ctx) (desired : δ) :
    Asks fun _ server => k.pending (ctx.on server) desired := by
  unfold Lifecycle.pending
  simp only [h.identity, h.plan]
  exact .liftM_bind _ fun id => .bind (h.read id) fun found => .ofExcept _

end Lifecycle

/-! ## Plans that are made in a steady state -/

/-- In a steady state a write section comes to the point where it makes its plan. -/
theorem Writing.opening_steady {w : Writing σ ο} {ctx : Context σ} {I : σ → Prop}
    {reply : Option String → Except Error Unit}
    {answer : Option String → Query → Except Error ResultTable} (hready : ctx.Ready)
    (hsteady : ctx.server.Steady I reply answer) {s : σ} (hs : I s)
    (hopens : (ctx.server.connect (ctx.opened w.database).database s).1 = .ok ()) :
    ∃ t, I t ∧ (w.opening ctx).result s = (w.prepare (ctx.opened w.database)).result t := by
  exact ⟨_, (hsteady.connect (ctx.opened w.database).database hs).2,
    Writing.opening_of_connect hready.exclusive (Prod.ext hopens rfl)⟩

namespace Lifecycle

/-- What is planned for an object that was read is what its write section is opened with, if its
session can be opened. -/
def Foreseen (k : Lifecycle δ ο ω) (ctx : Context σ) (I : σ → Prop)
    (writing : String → Option ο → δ → Except Error (Writing σ ο)) (desired : δ) : Prop :=
  ∀ id found s t, k.identity ctx desired = .ok id → I s →
    (k.read ctx id none).result s = (.ok found, t) → I t →
    (∀ w, writing id found desired = .ok w →
      (ctx.server.connect (ctx.opened w.database).database t).1 = .ok ()) →
    (Run.result (do
      let w ← (liftM (writing id found desired) : Run σ (Writing σ ο))
      w.opening ctx) t).1 = (k.plan ctx found desired).mapError .failed

/-- How what planning shows and what converging does go together: if a plan is shown, it is carried
out; if planning fails, converging fails in the same way and gives no command. -/
def AsShown (shown : Except Halt Plan) (r : Except Halt (Outcome ο)) (given : List Given) : Prop :=
  match shown with
  | .ok plan => given = plan.carriedOut
  | .error h => r = .error h ∧ given = []

/-- What planning shows in one state is what converging does from another one, if no connection and
no command of it fails. -/
def DoneAsShown (k : Lifecycle δ ο ω) (ctx : Context σ) (desired : δ) (s u : σ) : Prop :=
  ∀ r v log, (k.converge ctx.recorded desired).result (u, []) = (r, v, log) →
    (∀ e ∈ log, e.broken = false) → AsShown ((k.pending ctx desired).result s).1 r (commandsIn log)

variable {k : Lifecycle δ ο ω} {ctx : Context σ} {desired : δ}
  {writing : String → Option ο → δ → Except Error (Writing (σ × List Event) ο)}

/-- What is written is what was planned for the object that was read. -/
theorem Writes.asShown (h : k.Writes ctx.recorded writing) (hready : ctx.Ready)
    {id : String} {found : Option ο} {t v : σ × List Event} {r : Except Halt (Outcome ο)}
    {shown : Except Halt Plan}
    (hopening : (∀ w, writing id found desired = .ok w →
        (ctx.recorded.server.connect (ctx.recorded.opened w.database).database t).1 = .ok ()) →
      (Run.result (do
        let w ← (liftM (writing id found desired) : Run _ (Writing (σ × List Event) ο))
        w.opening ctx.recorded) t).1 = shown)
    (ht : commandsIn t.2 = [])
    (hrun : (k.write ctx.recorded id found desired).result t = (r, v))
    (hbroken : ∀ e ∈ v.2, e.broken = false) : AsShown shown r (commandsIn v.2) := by
  rw [h.write] at hrun
  cases hw : writing id found desired with
  | error e =>
    obtain rfl := hopening fun w hw' => nomatch hw.symm.trans hw'
    rw [hw] at hrun ⊢
    obtain ⟨rfl, rfl⟩ := Prod.mk.inj hrun
    exact ⟨rfl, ht⟩
  | ok w =>
    rw [hw] at hrun
    have hrun : (w.run ctx.recorded).result t = (r, v) := hrun
    have hquiet := h.quiet hw
    have hbegun := hquiet.opening t
    rcases hconnect : ctx.recorded.server.connect (ctx.recorded.opened w.database).database t with
      ⟨e | u, t₁⟩
    · have hfailed := Writing.opening_of_connect_error hready.recorded.exclusive hconnect
      obtain ⟨-, rfl⟩ := Prod.mk.inj ((Writing.run_of_opening_error hfailed).symm.trans hrun)
      obtain ⟨hreply, rfl⟩ := Prod.mk.inj hconnect
      have hmem : .connect (ctx.opened w.database).database (.error e) ∈
          t.2 ++ [.connect (ctx.opened w.database).database
            (ctx.server.connect (ctx.opened w.database).database t.1).1] := by
        rw [show (ctx.server.connect (ctx.opened w.database).database t.1).1 = _ from hreply]
        exact List.mem_append_right _ (List.mem_singleton_self _)
      exact nomatch hbroken _ hmem
    obtain rfl := hopening fun w' hw' => by
      obtain rfl := Except.ok.inj (hw.symm.trans hw')
      rw [hconnect]
    rw [hw]
    show AsShown ((w.opening ctx.recorded).result t).1 r (commandsIn v.2)
    rcases hresult : (w.opening ctx.recorded).result t with ⟨halt | plan, u⟩
    · rw [hresult] at hbegun
      obtain ⟨rfl, rfl⟩ := Prod.mk.inj ((Writing.run_of_opening_error hresult).symm.trans hrun)
      exact ⟨rfl, hbegun.commandsIn_recorded.trans ht⟩
    · rw [hresult] at hbegun
      obtain ⟨given, hcourse⟩ := Writing.course_of_opening hresult
      rw [hrun] at hcourse
      have hgiven : commandsIn v.2 = given := by
        rw [hcourse.commandsIn_recorded hquiet, hbegun.commandsIn_recorded, ht, List.nil_append]
      subst hgiven
      exact hcourse.given_of_all_ok fun g => ok_of_mem_commandsIn hbroken

theorem Reads.doneAsShown {I : σ → Prop} {reply : Option String → Except Error Unit}
    {answer : Option String → Query → Except Error ResultTable} (h : k.Reads ctx)
    (hready : ctx.Ready) (hwrites : k.Writes ctx.recorded writing)
    (hsteady : ctx.server.Steady I reply answer)
    (hforeseen : k.Foreseen ctx.recorded (fun s => I s.1) writing desired) {s u : σ} (hs : I s)
    (hu : I u) : k.DoneAsShown ctx desired s u := by
  intro r v log hrun hbroken
  have hsame := hsteady.sameAnswers hsteady.recorded
  have hshown : ((k.pending ctx desired).result s).1 =
      ((k.pending ctx.recorded desired).result (u, [])).1 :=
    ((h.pending desired).alike hsame s (u, []) ⟨hs, hu⟩).1.eq
  rw [hshown]
  unfold Lifecycle.pending
  unfold Lifecycle.converge at hrun
  cases hid : k.identity ctx.recorded desired with
  | error e =>
    rw [hid] at hrun
    obtain ⟨rfl, hleft⟩ := Prod.mk.inj hrun
    obtain ⟨rfl, rfl⟩ := Prod.mk.inj hleft
    exact ⟨rfl, rfl⟩
  | ok id =>
    have hleft : I ((k.read ctx.recorded id none).result (u, [])).2.1 :=
      ((h.read id).alike hsame s (u, []) ⟨hs, hu⟩).2.2
    have hlog : commandsIn ((k.read ctx.recorded id none).result (u, [])).2.2 = [] :=
      ((h.read id).quiet ctx.server.recorded (u, [])).commandsIn_recorded
    rw [hid] at hrun
    have hrun : (k.read ctx.recorded id none >>= fun found =>
        k.write ctx.recorded id found desired).result (u, []) = (r, v, log) := hrun
    show AsShown (Run.result (k.read ctx.recorded id none >>= fun found =>
      Run.ofExcept (k.plan ctx.recorded found desired)) (u, [])).1 r (commandsIn log)
    rcases hresult : (k.read ctx.recorded id none).result (u, []) with ⟨halt | found, t⟩
    · rw [Run.result_bind_of_error hresult] at hrun ⊢
      rw [hresult] at hlog
      obtain ⟨rfl, rfl⟩ := Prod.mk.inj hrun
      exact ⟨rfl, hlog⟩
    · rw [Run.result_bind_of_ok hresult] at hrun ⊢
      rw [hresult] at hlog hleft
      have hopening := hforeseen id found (u, []) t hid hu hresult hleft
      rw [← Run.result_ofExcept_fst _ t] at hopening
      exact hwrites.asShown hready hopening hlog hrun hbroken

/-! ## Each kind -/

theorem reads_roles (ctx : Context σ) : roles.Reads ctx where
  identity _ _ := rfl
  plan _ _ _ := rfl
  read id := Role.asks_read ctx id none

theorem reads_schemas (ctx : Context σ) : schemas.Reads ctx where
  identity _ _ := rfl
  plan _ _ _ := rfl
  read := Schema.asks_read ctx

theorem reads_extensions (ctx : Context σ) : extensions.Reads ctx where
  identity _ _ := rfl
  plan _ _ _ := rfl
  read := Extension.asks_read ctx

theorem reads_rules (ctx : Context σ) : rules.Reads ctx where
  identity _ _ := rfl
  plan _ _ _ := rfl
  read := Rule.asks_read ctx

section Steady

variable {I : σ → Prop} {reply : Option String → Except Error Unit}
  {answer : Option String → Query → Except Error ResultTable} (hready : ctx.Ready)
  (hsteady : ctx.server.Steady I reply answer)

include hready hsteady

/-- A plan that is made before is what the section is opened with. -/
theorem opening_of_plan {of : Plan → Writing σ ο}
    (hof : ∀ plan, (of plan).prepare = fun _ => pure plan) (x : Except Error Plan) {t : σ}
    (ht : I t)
    (hopens : ∀ w, (x >>= fun plan => pure (of plan)) = .ok w →
      (ctx.server.connect (ctx.opened w.database).database t).1 = .ok ()) :
    (Run.result (do
      let w ← (liftM (x >>= fun plan => pure (of plan)) : Run σ (Writing σ ο))
      w.opening ctx) t).1 = x.mapError .failed := by
  cases x with
  | error e => rfl
  | ok plan =>
    obtain ⟨u, -, hopening⟩ := Writing.opening_steady hready hsteady ht (hopens (of plan) rfl)
    show (((of plan).opening ctx).result t).1 = .ok plan
    rw [hopening, hof]
    rfl

theorem foreseen_roles (hname : ctx.server.AnswersByName) (desired : DeclaredRole) :
    roles.Foreseen ctx I (Role.writing ctx) desired := by
  intro id found s t hid hs hread ht
  have hown : Role.requireOwn id found = .ok () := by
    cases found with
    | none => rfl
    | some current =>
      unfold Role.requireOwn
      rw [Naming.normalizeName_of_read hname hread]
      simp [bind, Except.bind, pure, Except.pure]
  show (∀ w, Role.writing ctx id found desired = .ok w → _) → (Run.result (do
    let w ← (liftM (Role.writing ctx id found desired) : Run σ _)
    w.opening ctx) t).1 = (Role.plan ctx found desired).mapError Halt.failed
  unfold Role.writing
  rw [Role.plan_eq, (Context.requireWritable_ok (u := ())).2 hready.writable, hown]
  cases desired.normalize with
  | error e => exact fun _ => rfl
  | ok spec => exact opening_of_plan hready hsteady (fun _ => rfl) _ ht

theorem foreseen_schemas (desired : DeclaredSchema) :
    schemas.Foreseen ctx I (fun _ => Schema.writing ctx) desired := by
  intro id found s t hid hs hread ht
  show (∀ w, Schema.writing ctx found desired = .ok w → _) → (Run.result (do
    let w ← (liftM (Schema.writing ctx found desired) : Run σ _)
    w.opening ctx) t).1 = (Schema.plan ctx found desired).mapError Halt.failed
  unfold Schema.writing
  rw [Schema.plan_eq, (Context.requireWritable_ok (u := ())).2 hready.writable]
  cases desired.normalize ctx.defaultDatabase with
  | error e => exact fun _ => rfl
  | ok spec => exact opening_of_plan hready hsteady (fun _ => rfl) _ ht

theorem foreseen_extensions (desired : DeclaredExtension) :
    extensions.Foreseen ctx I (fun _ => Extension.writing ctx) desired := by
  intro id found s t hid hs hread ht
  show (∀ w, Extension.writing ctx found desired = .ok w → _) → (Run.result (do
    let w ← (liftM (Extension.writing ctx found desired) : Run σ _)
    w.opening ctx) t).1 = (Extension.plan ctx found desired).mapError Halt.failed
  unfold Extension.writing
  rw [Extension.plan_eq, (Context.requireWritable_ok (u := ())).2 hready.writable]
  cases ctx.dialect.require .extension with
  | error e => exact fun _ => rfl
  | ok u =>
    cases hspec : desired.normalize ctx.defaultDatabase with
    | error e => exact fun _ => rfl
    | ok spec =>
      obtain ⟨database, hdatabase, -⟩ := DeclaredExtension.normalize_ok hspec
      have hof : spec.databaseOf = .ok database := by
        unfold DeclaredExtension.databaseOf
        rw [hdatabase]
      show (∀ w, (spec.planFrom found >>= fun plan => spec.databaseOf >>= fun database =>
          pure (Extension.writingOf spec database plan)) = .ok w → _) → (Run.result (do
        let w ← (liftM (spec.planFrom found >>= fun plan => spec.databaseOf >>= fun database =>
          pure (Extension.writingOf spec database plan)) : Run σ _)
        w.opening ctx) t).1 = (spec.planFrom found).mapError Halt.failed
      rw [hof]
      exact opening_of_plan hready hsteady (fun _ => rfl) _ ht

/-- A rule that was not found is looked up again, and is not found again. -/
theorem foreseen_rules {desired : DeclaredRule} (hsettled : Naming.rules.Settled ctx desired) :
    rules.Foreseen ctx I (fun _ => Rule.writing ctx) desired := by
  intro id found s t hid hs hread ht
  show (∀ w, Rule.writing ctx found desired = .ok w → _) → (Run.result (do
    let w ← (liftM (Rule.writing ctx found desired) : Run σ _)
    w.opening ctx) t).1 = (Rule.plan ctx found desired).mapError Halt.failed
  unfold Rule.writing Rule.plan
  rw [(Context.requireWritable_ok (u := ())).2 hready.writable]
  cases ctx.dialect.require .defaultPrivileges with
  | error e => exact fun _ => rfl
  | ok u =>
    cases hrule : desired.normalize ctx.defaultDatabase with
    | error e => exact fun _ => rfl
    | ok rule =>
      intro hopens
      obtain ⟨u, hu, hopening⟩ :=
        Writing.opening_steady hready hsteady ht (hopens (Rule.writingOf rule found) rfl)
      show (((Rule.writingOf rule found).opening ctx).result t).1 =
        (rule.plan found).mapError Halt.failed
      rw [hopening]
      cases found with
      | some old => exact Run.result_ofExcept_fst _ _
      | none =>
        obtain ⟨key, v, hkey, -, hconnect, hfound⟩ := Rule.result_read.1 hread
        obtain rfl : key = rule.key := by
          have hsought := hsettled id rule.key hid (Except.map_ok.2 ⟨rule, hrule, rfl⟩)
          exact Except.ok.inj (hkey.symm.trans hsought)
        have hv : I v := by
          have hconnected := (hsteady.connect (ctx.opened rule.key.database).database hs).2
          rwa [hconnect] at hconnected
        have hasks := Asks.rule? (ctx.opened rule.key.database).database rule.key
        have hagain : (((ctx.opened rule.key.database).rule? rule.key).result u).1 = .ok none :=
          (hasks.result_steady hsteady hu hv).trans (congrArg Prod.fst hfound)
        show (Run.result ((ctx.opened rule.key.database).rule? rule.key >>= fun before =>
          Run.ofExcept (rule.plan before)) u).1 = _
        rw [Run.result_bind_of_ok (Prod.ext hagain rfl), Run.result_ofExcept_fst]

end Steady

/-- For every kind of object: while nobody else changes anything, what is shown is what is done. -/
theorem shown_is_done (ctx : Context σ) (hready : ctx.Ready) (hname : ctx.server.AnswersByName)
    {I : σ → Prop} {reply : Option String → Except Error Unit}
    {answer : Option String → Query → Except Error ResultTable}
    (hsteady : ctx.server.Steady I reply answer) {s u : σ} (hs : I s) (hu : I u) :
    (∀ desired, roles.DoneAsShown ctx desired s u) ∧
    (∀ desired, schemas.DoneAsShown ctx desired s u) ∧
    (∀ desired, extensions.DoneAsShown ctx desired s u) ∧
    ∀ desired, Naming.rules.Settled ctx desired → rules.DoneAsShown ctx desired s u := by
  have hready' := hready.recorded
  have hsteady' := hsteady.recorded
  refine ⟨fun desired => ?_, fun desired => ?_, fun desired => ?_, fun desired hsettled => ?_⟩
  · have hforeseen := foreseen_roles hready' hsteady' (Naming.answersByName_recorded hname) desired
    exact (reads_roles ctx).doneAsShown hready (writes_roles _) hsteady hforeseen hs hu
  · have hforeseen := foreseen_schemas hready' hsteady' desired
    exact (reads_schemas ctx).doneAsShown hready (writes_schemas _) hsteady hforeseen hs hu
  · have hforeseen := foreseen_extensions hready' hsteady' desired
    exact (reads_extensions ctx).doneAsShown hready (writes_extensions _) hsteady hforeseen hs hu
  · have hforeseen := foreseen_rules hready' hsteady' hsettled
    exact (reads_rules ctx).doneAsShown hready (writes_rules _) hsteady hforeseen hs hu

end Lifecycle

/-! ## A rule that is shown and then made -/

/-- Asking changes nothing in memory. -/
theorem Memory.steady {κ : Type} (m : Memory κ) (k : κ) :
    m.server.Steady (fun s => s = ⟨k, none⟩)
      (fun database => if m.opens database then .ok () else .error Memory.refusal)
      fun database q => .ok (m.answer database q k) where
  connect {s} database hs := by
    subst hs
    simp only [server]
    split <;> exact ⟨rfl, rfl⟩
  query {s} database q hs := by
    subst hs
    exact ⟨rfl, rfl⟩

/-- A server that keeps a catalog answers look-ups by name with objects of that name. -/
theorem Host.answersByName (host : Host) (refuses : Command → Bool) :
    (host.memory refuses).server.AnswersByName where
  role {_ name _ s _ _ row} hq hrow := by
    obtain rfl := Except.ok.inj (Prod.mk.inj hq).1
    simp only [memory, Catalog.answer] at hrow
    cases he : (Memory.seen s).roles name with
    | none =>
      rw [he] at hrow
      cases hrow
    | some e =>
      rw [he] at hrow
      rw [← Option.some.inj hrow]
      rfl
  schema {database name s _ _ row} hq hrow := by
    obtain rfl := Except.ok.inj (Prod.mk.inj hq).1
    simp only [memory, Catalog.answer] at hrow
    cases he : (Memory.seen s).schemas (host.databaseOf database) name with
    | none =>
      rw [he] at hrow
      cases hrow
    | some e =>
      rw [he] at hrow
      rw [← Option.some.inj hrow]
      rfl
  extension {database name s _ _ row} hq hrow := by
    obtain rfl := Except.ok.inj (Prod.mk.inj hq).1
    simp only [memory, Catalog.answer] at hrow
    cases he : (Memory.seen s).extensions (host.databaseOf database) name with
    | none =>
      rw [he] at hrow
      cases hrow
    | some e =>
      rw [he] at hrow
      rw [← Option.some.inj hrow]
      rfl

/-- Two privileges on the tables that one role makes in a schema, for another role. -/
def staffRule : DeclaredRule :=
  ⟨none, "data", "App", "staff", "table", ["select", "Insert"]⟩

/-- The rule is shown as one statement, and that is what is run in a transaction. -/
theorem shown_is_done_staff :
    smallContext.Ready ∧ smallContext.server.AnswersByName ∧
    Naming.rules.Settled smallContext staffRule ∧
    ∃ plan t, (Lifecycle.rules.pending smallContext staffRule).result ⟨.empty, none⟩ =
        (.ok plan, t) ∧
      plan.length = 1 ∧ ∃ r v log,
        (Lifecycle.rules.converge smallContext.recorded staffRule).result (⟨.empty, none⟩, []) =
          (r, v, log) ∧
        commandsIn log = (.start, .ok ()) :: (succeeded plan.ordered ++ [(.commit, .ok ())]) := by
  have hready : smallContext.Ready := ⟨rfl, rfl, rfl⟩
  have hname : smallContext.server.AnswersByName := smallHost.answersByName _
  have hsettled : Naming.rules.Settled smallContext staffRule :=
    Naming.settled_of_toOption (by decide +kernel)
  have hlength : ((Lifecycle.rules.pending smallContext staffRule).result
      ⟨.empty, none⟩).1.toOption.map List.length = some 1 := by decide +kernel
  obtain ⟨plan, hplan, hone⟩ := Option.map_eq_some_iff.1 hlength
  have hshown := Run.result_of_toOption hplan
  have hbroken : ∀ e ∈ ((Lifecycle.rules.converge smallContext.recorded staffRule).result
      (⟨.empty, none⟩, [])).2.2, e.broken = false := by decide +kernel
  have hdone := (Lifecycle.shown_is_done smallContext hready hname
    ((smallHost.memory _).steady .empty) rfl rfl).2.2.2 staffRule hsettled _ _ _ rfl hbroken
  rw [hshown] at hdone
  have hne : plan ≠ [] := by
    rintro rfl
    exact nomatch hone
  exact ⟨hready, hname, hsettled, plan, _, hshown, hone, _, _, _, rfl,
    hdone.trans (Plan.carriedOut_of_ne hne)⟩

end Accord
