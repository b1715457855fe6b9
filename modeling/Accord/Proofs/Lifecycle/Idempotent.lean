import Accord.Lifecycle.Document
import Accord.Proofs.Catalog.State
import Accord.Proofs.Lifecycle.Lookup

/-!
# Kinds whose objects are applied once and for all

`Naming.Idempotent` says what has to be known about one kind of object: converging brings an object
to where it should be and leaves all other places as they are, and an object that is where it should
be needs nothing more.  From this the same follows for a whole list of objects, by induction on the
list: what is done for one object does not undo what was done for the ones before it.
-/

namespace Accord

variable {σ δ ο ω κ : Type} {k : Lifecycle δ ο ω}

/-- Nothing keeps an operation from reading or writing. -/
structure Context.Ready (ctx : Context σ) : Prop where
  writable : ctx.readOnly = false
  shared : ctx.lock.grants .shared = true
  exclusive : ctx.lock.grants .exclusive = true

theorem Context.Ready.recorded {ctx : Context σ} (h : ctx.Ready) : ctx.recorded.Ready :=
  ⟨h.writable, h.shared, h.exclusive⟩

namespace Naming

/-- Looking up the identity of a declared object leads to the declared key. -/
def Settled (N : Naming k κ) (ctx : Context σ) (desired : δ) : Prop :=
  ∀ id key, k.identity ctx desired = .ok id →
    N.declared ctx.defaultDatabase desired = .ok key → N.sought id = .ok key

/-- An object is settled if its identity leads back to its key. -/
theorem settled_of_toOption {N : Naming k κ} {ctx : Context σ} {desired : δ}
    (h : ((k.identity ctx desired).toOption.bind fun id => (N.sought id).toOption) =
      (N.declared ctx.defaultDatabase desired).toOption) : N.Settled ctx desired := by
  intro id key hid hkey
  rw [hid, hkey] at h
  cases hsought : N.sought id with
  | error e => simp [hsought, Except.toOption] at h
  | ok found => simpa [hsought, Except.toOption] using h

/-- The kind is idempotent, where objects are kept in some places, some are safe to apply, and it is
known when one has been applied. -/
structure Idempotent (N : Naming k κ) (ctx : Context σ) (view : σ → Store Catalog)
    (place : κ → Place) (Safe : δ → Prop) (Applied : δ → Catalog → Prop) : Prop where
  identity {d d' : δ} {key : κ} : N.declared ctx.defaultDatabase d = .ok key →
    N.declared ctx.defaultDatabase d' = .ok key → k.identity ctx d = k.identity ctx d'
  place_inj {key key' : κ} : place key = place key' → key = key'
  converge {d : δ} {s t : σ} {outcome : Outcome ο} : Safe d →
    (k.converge ctx d).result s = (.ok outcome, t) →
    outcome.drift = [] ∧ Applied d (view t).committed ∧
      ∃ key, N.declared ctx.defaultDatabase d = .ok key ∧
        (view s).committed.DifferAt (view t).committed (place key)
  keeps {d : δ} {c c' : Catalog} : Applied d c →
    (∀ key, N.declared ctx.defaultDatabase d = .ok key → c.AgreeAt c' (place key)) → Applied d c'
  pending {d : δ} {s : σ} : Applied d (view s).committed →
    ∃ t, (k.pending ctx d).result s = (.ok [], t) ∧ (view t).committed = (view s).committed
  again {d : δ} {s : σ} : Applied d (view s).committed →
    ∃ outcome t, (k.converge ctx d).result s = (.ok outcome, t) ∧
      (view t).committed = (view s).committed ∧ ctx.server.Quiet s t

namespace Idempotent

variable {N : Naming k κ} {ctx : Context σ} {view : σ → Store Catalog} {place : κ → Place}
  {Safe : δ → Prop} {Applied : δ → Catalog → Prop} {ds : List δ} {s t : σ}

/-- The places of some declared objects. -/
def Occupied (N : Naming k κ) (ctx : Context σ) (place : κ → Place) (ds : List δ) (p : Place) :
    Prop :=
  ∃ d ∈ ds, ∃ key, N.declared ctx.defaultDatabase d = .ok key ∧ place key = p

/-- When all objects could be applied, there is no drift, all of them are where they should be, and
no other place was changed. -/
theorem applyAll_ok (h : N.Idempotent ctx view place Safe Applied) (hsafe : ∀ d ∈ ds, Safe d)
    (hdistinct : (ds.map (k.identity ctx)).Nodup) {results : List AppliedObject}
    (hrun : (k.applyAll ctx ds).result s = (.ok results, t)) :
    (∀ r ∈ results, r.drift = []) ∧ (∀ d ∈ ds, Applied d (view t).committed) ∧
      ∀ p, ¬Occupied N ctx place ds p → (view s).committed.AgreeAt (view t).committed p := by
  induction ds generalizing s results with
  | nil =>
    obtain ⟨rfl, rfl⟩ := Run.result_pure_ok.1 hrun
    exact ⟨by simp, by simp, fun p _ => .refl _ p⟩
  | cons d ds ih =>
    rw [List.map_cons, List.nodup_cons] at hdistinct
    obtain ⟨outcome, u, hconverge, hrun⟩ := Run.result_bind_ok.1 hrun
    obtain ⟨rest, v, hrest, hrun⟩ := Run.result_bind_ok.1 hrun
    obtain ⟨rfl, rfl⟩ := Run.result_pure_ok.1 hrun
    obtain ⟨hdrift, happlied, key, hkey, hdiffer⟩ :=
      h.converge (hsafe d (List.mem_cons_self ..)) hconverge
    obtain ⟨hdrifts, hothers, hframe⟩ :=
      ih (fun d hd => hsafe d (List.mem_cons_of_mem _ hd)) hdistinct.2 hrest
    have hfree : ∀ key, N.declared ctx.defaultDatabase d = .ok key →
        ¬Occupied N ctx place ds (place key) := by
      rintro key hkey ⟨d', hd', key', hkey', hplace⟩
      obtain rfl := h.place_inj hplace
      exact hdistinct.1 (List.mem_map.2 ⟨d', hd', (h.identity hkey hkey').symm⟩)
    refine ⟨?_, ?_, fun p hp => ?_⟩
    · rw [List.forall_mem_cons]
      exact ⟨hdrift, hdrifts⟩
    · rw [List.forall_mem_cons]
      exact ⟨h.keeps happlied fun key hkey => hframe _ (hfree key hkey), hothers⟩
    · refine (hdiffer p ?_).trans (hframe p ?_)
      · rintro rfl
        exact hp ⟨d, List.mem_cons_self .., key, hkey, rfl⟩
      · rintro ⟨d', hd', hplace⟩
        exact hp ⟨d', List.mem_cons_of_mem _ hd', hplace⟩

/-- Objects stay where they should be as long as nothing of their kind is changed. -/
theorem applied_of_agree (h : N.Idempotent ctx view place Safe Applied) {c c' : Catalog}
    (happlied : ∀ d ∈ ds, Applied d c) (hagree : ∀ key, c.AgreeAt c' (place key)) :
    ∀ d ∈ ds, Applied d c' :=
  fun d hd => h.keeps (happlied d hd) fun key _ => hagree key

/-- Nothing is planned for objects that are where they should be. -/
theorem planAll_nil (h : N.Idempotent ctx view place Safe Applied)
    (happlied : ∀ d ∈ ds, Applied d (view s).committed) :
    ∃ t, (k.planAll ctx ds).result s = (.ok [], t) ∧ (view t).committed = (view s).committed := by
  induction ds generalizing s with
  | nil => exact ⟨s, rfl, rfl⟩
  | cons d ds ih =>
    obtain ⟨hd, hds⟩ := List.forall_mem_cons.1 happlied
    obtain ⟨u, hpending, hu⟩ := h.pending hd
    obtain ⟨t, hrest, ht⟩ := ih (hu ▸ hds)
    refine ⟨t, ?_, ht.trans hu⟩
    unfold Lifecycle.planAll
    rw [Run.result_bind_of_ok hpending]
    exact Run.result_bind_ok.2 ⟨[], u, rfl, Run.result_bind_ok.2 ⟨[], t, hrest, rfl⟩⟩

/-- Objects that are where they should be can be applied again, and that gives no command. -/
theorem applyAll_again (h : N.Idempotent ctx view place Safe Applied)
    (happlied : ∀ d ∈ ds, Applied d (view s).committed) :
    ∃ results t, (k.applyAll ctx ds).result s = (.ok results, t) ∧
      (view t).committed = (view s).committed ∧ ctx.server.Quiet s t := by
  induction ds generalizing s with
  | nil => exact ⟨[], s, rfl, rfl, .refl s⟩
  | cons d ds ih =>
    obtain ⟨hd, hds⟩ := List.forall_mem_cons.1 happlied
    obtain ⟨outcome, u, hconverge, hu, hquiet⟩ := h.again hd
    obtain ⟨results, t, hrest, ht, hquiet'⟩ := ih (hu ▸ hds)
    refine ⟨⟨k.kind, outcome.id, outcome.applied, k.toJson outcome.observed, outcome.drift⟩ ::
      results, t, ?_, ht.trans hu, hquiet.trans hquiet'⟩
    unfold Lifecycle.applyAll
    exact Run.result_bind_ok.2 ⟨outcome, u, hconverge, Run.result_bind_ok.2
      ⟨results, t, hrest, rfl⟩⟩

end Idempotent

end Naming

end Accord
