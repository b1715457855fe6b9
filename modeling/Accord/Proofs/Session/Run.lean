import Accord.Server.Feature
import Accord.Session.Server

/-!
# Results of operations

`Run.result` is what an operation comes to on a server in some state, together with the state that
it leaves behind.  There is one equation for each way to build an operation, and one inversion rule
(`result_bind_ok`) that takes a successful operation apart into its steps.

`SameOutcome` compares what two operations come to: the same failure, or results in a relation.
-/

namespace Accord

variable {σ α β : Type}

namespace Run

/-- What an operation comes to on a server in a state, and the state that it leaves. -/
def result (m : Run σ α) (s : σ) : Except Halt α × σ :=
  StateT.run (ExceptT.run m) s

/-! ## One equation per building block -/

@[simp] theorem result_pure (a : α) (s : σ) : result (pure a) s = (.ok a, s) :=
  rfl

theorem result_pure_ok {a b : α} {s t : σ} :
    result (pure a) s = (.ok b, t) ↔ b = a ∧ t = s := by
  rw [result_pure, Prod.mk.injEq, Except.ok.injEq, eq_comm, @eq_comm _ s]

@[simp] theorem result_throw (h : Halt) (s : σ) :
    result (throw h : Run σ α) s = (.error h, s) :=
  rfl

@[simp] theorem result_attempt (f : σ → Except Error α × σ) (s : σ) :
    result (attempt f) s = (.ok (f s).1, (f s).2) :=
  rfl

@[simp] theorem result_ofExcept_ok (a : α) (s : σ) :
    result (ofExcept (.ok a)) s = (.ok a, s) :=
  rfl

@[simp] theorem result_ofExcept_error (e : Error) (s : σ) :
    result (ofExcept (.error e) : Run σ α) s = (.error (.failed e), s) :=
  rfl

theorem result_bind (m : Run σ α) (f : α → Run σ β) (s : σ) :
    result (m >>= f) s =
      match result m s with
      | (.ok a, s') => result (f a) s'
      | (.error h, s') => (.error h, s') := by
  unfold result
  rw [ExceptT.run_bind, StateT.run_bind]
  show StateT.run _ (StateT.run (ExceptT.run m) s).2 = _
  rcases StateT.run (ExceptT.run m) s with ⟨h | a, s'⟩ <;> rfl

theorem result_bind_of_ok {m : Run σ α} {f : α → Run σ β} {s s' : σ} {a : α}
    (h : result m s = (.ok a, s')) : result (m >>= f) s = result (f a) s' := by
  rw [result_bind, h]

theorem result_bind_of_error {m : Run σ α} {f : α → Run σ β} {s s' : σ} {h : Halt}
    (hm : result m s = (.error h, s')) : result (m >>= f) s = (.error h, s') := by
  rw [result_bind, hm]

/-- An operation in two steps succeeds if and only if both steps do. -/
theorem result_bind_ok {m : Run σ α} {f : α → Run σ β} {s t : σ} {b : β} :
    result (m >>= f) s = (.ok b, t) ↔
      ∃ a s', result m s = (.ok a, s') ∧ result (f a) s' = (.ok b, t) := by
  rw [result_bind]
  rcases result m s with ⟨h | a, s'⟩
  · simp
  · constructor
    · intro h
      exact ⟨a, s', rfl, h⟩
    · rintro ⟨a', s'', h, h'⟩
      obtain ⟨ha, rfl⟩ := Prod.mk.inj h
      obtain rfl := Except.ok.inj ha
      exact h'

theorem result_ofExcept {x : Except Error α} {s t : σ} {a : α} :
    result (ofExcept x) s = (.ok a, t) ↔ x = .ok a ∧ t = s := by
  cases x with
  | ok b => simp [eq_comm]
  | error e => simp

theorem result_ofExcept_fst (x : Except Error α) (s : σ) :
    (result (ofExcept x) s).1 = x.mapError .failed := by
  cases x <;> rfl

@[simp] theorem result_liftM {x : Except Error α} {s t : σ} {a : α} :
    result (liftM x : Run σ α) s = (.ok a, t) ↔ x = .ok a ∧ t = s :=
  result_ofExcept

/-- A check in front of an operation that fails is all that happens. -/
theorem result_liftM_bind_of_error {x : Except Error α} {e : Error} {f : α → Run σ β}
    (h : x = .error e) (s : σ) :
    result ((liftM x : Run σ α) >>= f) s = (.error (.failed e), s) := by
  rw [h]
  rfl

theorem liftM_pure (a : α) : (liftM (pure a : Except Error α) : Run σ α) = pure a :=
  rfl

theorem liftM_bind (x : Except Error α) (f : α → Except Error β) :
    (liftM (x >>= f) : Run σ β) = (liftM x : Run σ α) >>= fun a => liftM (f a) := by
  cases x <;> rfl

/-- A check that is lifted goes on with what follows, or throws. -/
theorem liftM_guard_bind {c : Prop} [Decidable c] (e : Error) (f : Unit → Run σ β) :
    (liftM (if c then throw e else pure () : Except Error Unit) : Run σ Unit) >>= f =
      if c then throw (.failed e) >>= f else f () := by
  split <;> rfl

theorem result_of_toOption {m : Run σ α} {s : σ} {a : α}
    (h : (result m s).1.toOption = some a) : result m s = (.ok a, (result m s).2) := by
  revert h
  rcases result m s with ⟨e | b, t⟩
  · simp [Except.toOption]
  · intro h
    rw [Option.some.inj h]

/-- The error of an outcome that is a failure. -/
def failure? : Except Halt α → Option Error
  | .error (.failed e) => some e
  | _ => none

theorem result_of_failure? {m : Run σ α} {s : σ} {e : Error}
    (h : failure? (m.result s).1 = some e) :
    m.result s = (.error (.failed e), (m.result s).2) := by
  revert h
  rcases m.result s with ⟨(e' | _) | b, t⟩
  · intro h
    obtain rfl : e' = e := Option.some.inj h
    rfl
  · exact fun h => nomatch h
  · exact fun h => nomatch h

theorem result_reaction {f : σ → Except Error α × σ} {s t : σ} {a : α} :
    result (reaction f) s = (.ok a, t) ↔ f s = (.ok a, t) := by
  unfold reaction
  rw [result_bind_of_ok (result_attempt f s), result_ofExcept]
  constructor
  · rintro ⟨h, rfl⟩
    exact Prod.ext h rfl
  · intro h
    exact ⟨congrArg Prod.fst h, (congrArg Prod.snd h).symm⟩

theorem result_reaction_of_error {f : σ → Except Error α × σ} {s t : σ} {e : Error}
    (h : f s = (.error e, t)) : result (reaction f) s = (.error (.failed e), t) := by
  unfold reaction
  rw [result_bind_of_ok (result_attempt f s), h]
  rfl

theorem result_reaction_snd (f : σ → Except Error α × σ) (s : σ) :
    (result (reaction f) s).2 = (f s).2 := by
  unfold reaction
  rw [result_bind_of_ok (result_attempt f s)]
  cases (f s).1 <;> rfl

/-- After a check, an operation goes on if and only if the check holds. -/
theorem result_guard {c : Prop} [Decidable c] {h : Halt} {f : PUnit → Run σ α} {s t : σ} {a : α} :
    result (if c then throw h >>= f else f ⟨⟩) s = (.ok a, t) ↔
      ¬c ∧ result (f ⟨⟩) s = (.ok a, t) := by
  by_cases hc : c
  · rw [if_pos hc, result_bind_of_error (result_throw h s)]
    simp [hc]
  · rw [if_neg hc]
    exact ⟨fun h => ⟨hc, h⟩, fun h => h.2⟩

end Run

/-! ## Outcomes without effects -/

theorem Except.bind_ok {ε : Type} {x : Except ε α} {f : α → Except ε β} {b : β} :
    (x >>= f) = .ok b ↔ ∃ a, x = .ok a ∧ f a = .ok b := by
  cases x with
  | ok a => simp [bind, Except.bind]
  | error e => simp [bind, Except.bind]

theorem Except.eq_ok_of_toOption {ε : Type} {x : Except ε α} {a : α}
    (h : x.toOption = some a) : x = .ok a := by
  cases x with
  | ok b => rw [Option.some.inj h]
  | error e => cases h

theorem Dialect.require_ok {dialect : Dialect} {f : Feature} {u : Unit} :
    dialect.require f = .ok u ↔ dialect.supports f = true := by
  unfold require
  cases dialect.supports f <;> simp

theorem Except.exists_eq_ok {x : Except Error α} {a : α} {P : α → Prop} (h : x = .ok a) :
    (∃ b, x = .ok b ∧ P b) ↔ P a := by
  subst h
  simp

theorem Except.forall_eq_ok {x : Except Error α} {a : α} {P : α → Prop} (h : x = .ok a) :
    (∀ b, x = .ok b → P b) ↔ P a := by
  subst h
  simp

theorem Except.map_ok {ε : Type} {x : Except ε α} {f : α → β} {b : β} :
    x.map f = .ok b ↔ ∃ a, x = .ok a ∧ f a = b := by
  cases x with
  | ok a => simp [Except.map]
  | error e => simp [Except.map]

theorem Except.foldlM_imp {ε : Type} {f g : α → β → Except ε α}
    (h : ∀ a b c, f a b = .ok c → g a b = .ok c) {l : List β} {a c : α}
    (hfold : l.foldlM f a = .ok c) : l.foldlM g a = .ok c := by
  induction l generalizing a with
  | nil => exact hfold
  | cons b l ih =>
    rw [List.foldlM_cons, Except.bind_ok] at hfold ⊢
    obtain ⟨d, hd, hfold⟩ := hfold
    exact ⟨d, h a b d hd, ih hfold⟩

theorem Except.foldlM_preserves {ε : Type} {f : α → β → Except ε α} {P : α → Prop}
    (h : ∀ a b c, P a → f a b = .ok c → P c) {l : List β} {a c : α} (ha : P a)
    (hfold : l.foldlM f a = .ok c) : P c := by
  induction l generalizing a with
  | nil => exact Except.ok.inj hfold ▸ ha
  | cons b l ih =>
    rw [List.foldlM_cons, Except.bind_ok] at hfold
    obtain ⟨d, hd, hfold⟩ := hfold
    exact ih (h a b d ha hd) hfold

/-- Steps in a row give results if and only if each of them does. -/
theorem Except.exists_mapM_ok {ε : Type} {f : α → Except ε β} {l : List α} :
    (∃ r, l.mapM f = .ok r) ↔ ∀ a ∈ l, ∃ b, f a = .ok b := by
  induction l with
  | nil => exact iff_of_true ⟨[], rfl⟩ (List.forall_mem_nil _)
  | cons a l ih =>
    rw [List.forall_mem_cons, ← ih, List.mapM_cons]
    constructor
    · rintro ⟨r, h⟩
      obtain ⟨b, hb, h⟩ := Except.bind_ok.1 h
      obtain ⟨r', hr', -⟩ := Except.bind_ok.1 h
      exact ⟨⟨b, hb⟩, r', hr'⟩
    · rintro ⟨⟨b, hb⟩, r', hr'⟩
      exact ⟨b :: r', Except.bind_ok.2 ⟨b, hb, Except.bind_ok.2 ⟨r', hr', rfl⟩⟩⟩

/-! ## The same outcome twice -/

section SameOutcome

variable {ε α' β' γ : Type}

/-- Two outcomes are the same failure, or two results in a relation. -/
inductive SameOutcome (P : α → α' → Prop) : Except ε α → Except ε α' → Prop where
  | ok {a : α} {a' : α'} : P a a' → SameOutcome P (.ok a) (.ok a')
  | error (e : ε) : SameOutcome P (.error e) (.error e)

theorem SameOutcome.eq {x x' : Except ε α} (h : SameOutcome Eq x x') : x = x' := by
  cases h with
  | ok ha => exact congrArg Except.ok ha
  | error e => rfl

namespace SameOutcome

variable {P : α → α' → Prop} {Q : β → β' → Prop} {x : Except ε α} {x' : Except ε α'}

theorem refl (x : Except ε α) : SameOutcome Eq x x := by
  cases x with
  | ok a => exact .ok rfl
  | error e => exact .error e

theorem mono {P' : α → α' → Prop} (h : SameOutcome P x x') (hP : ∀ a a', P a a' → P' a a') :
    SameOutcome P' x x' := by
  cases h with
  | ok ha => exact .ok (hP _ _ ha)
  | error e => exact .error e

theorem bind {f : α → Except ε β} {f' : α' → Except ε β'} (h : SameOutcome P x x')
    (hf : ∀ a a', P a a' → SameOutcome Q (f a) (f' a')) : SameOutcome Q (x >>= f) (x' >>= f') := by
  cases h with
  | ok ha => exact hf _ _ ha
  | error e => exact .error e

theorem bind_eq {y : Except ε α} {f : α → Except ε β} {f' : α → Except ε β'}
    (hf : ∀ a, SameOutcome Q (f a) (f' a)) : SameOutcome Q (y >>= f) (y >>= f') := by
  cases y with
  | ok a => exact hf a
  | error e => exact .error e

theorem map_eq {f : α → γ} {f' : α' → γ} (h : SameOutcome P x x')
    (hf : ∀ a a', P a a' → f a = f' a') : x.map f = x'.map f' := by
  cases h with
  | ok ha => exact congrArg Except.ok (hf _ _ ha)
  | error e => rfl

theorem of_map_eq {f : α → γ} {f' : α' → γ} (h : x.map f = x'.map f') :
    SameOutcome (fun a a' => f a = f' a') x x' := by
  cases x with
  | ok a =>
    cases x' with
    | ok a' => exact .ok (Except.ok.inj h)
    | error e' => cases h
  | error e =>
    cases x' with
    | ok a' => cases h
    | error e' =>
      obtain rfl := Except.error.inj h
      exact .error e

theorem exists_of_ok {a : α} (h : SameOutcome P x x') (hx : x = .ok a) :
    ∃ a', x' = .ok a' ∧ P a a' := by
  cases h with
  | ok ha =>
    obtain rfl := Except.ok.inj hx
    exact ⟨_, rfl, ha⟩
  | error e => cases hx

/-- Steps that cannot be told apart one by one cannot be told apart in a row. -/
theorem mapM {f f' : α → Except ε β} {g : β → γ}
    (hf : ∀ a, SameOutcome (fun b b' => g b = g b') (f a) (f' a)) (l : List α) :
    SameOutcome (fun r r' => r.map g = r'.map g) (l.mapM f) (l.mapM f') := by
  induction l with
  | nil => exact .ok rfl
  | cons a l ih =>
    rw [List.mapM_cons, List.mapM_cons]
    refine (hf a).bind fun b b' hb => ih.bind fun r r' hr => ?_
    apply SameOutcome.ok
    rw [List.map_cons, List.map_cons, hb, hr]

end SameOutcome

end SameOutcome

end Accord
