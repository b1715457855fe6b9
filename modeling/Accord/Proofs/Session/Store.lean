import Accord.Session.Server

/-!
# Servers with transactions

`Server.Transactional` says what a server with transactions does to its content: a transaction works
on a copy of what is committed, and a commit puts the copy in the place of it.

The simplest server of this kind is a `Memory`, which keeps the content and the copy.  What
statements do and what questions are answered are parameters, and so are the commands that it
refuses.
-/

namespace Accord

variable {σ κ : Type}

/-- The content of a server. -/
structure Store (κ : Type) where
  /-- What is there for good. -/
  committed : κ
  /-- What the open transaction has made of it. -/
  working : Option κ

/-- What some statements in a row make of a content; nothing if one of them cannot be done. -/
def effects (effect : Statement → κ → Option κ) (l : List Statement) (k : κ) : Option κ :=
  l.foldlM (fun k c => effect c k) k

theorem effects_cons {effect : Statement → κ → Option κ} {c : Statement} {l : List Statement}
    {k k' : κ} :
    effects effect (c :: l) k = some k' ↔
      ∃ k₁, effect c k = some k₁ ∧ effects effect l k₁ = some k' := by
  unfold effects
  rw [List.foldlM_cons]
  exact Option.bind_eq_some_iff

theorem effects_append {effect : Statement → κ → Option κ} {l l' : List Statement} {k k' : κ} :
    effects effect (l ++ l') k = some k' ↔
      ∃ k₁, effects effect l k = some k₁ ∧ effects effect l' k₁ = some k' := by
  unfold effects
  rw [List.foldlM_append]
  exact Option.bind_eq_some_iff

/-- What every statement preserves, all of them in a row preserve. -/
theorem effects_preserve {effect : Statement → κ → Option κ} {l : List Statement} {k k' : κ}
    {P : κ → Prop} (hl : ∀ c ∈ l, ∀ k k', effect c k = some k' → P k → P k')
    (h : effects effect l k = some k') (hk : P k) : P k' := by
  induction l generalizing k with
  | nil =>
    obtain rfl := Option.some.inj h
    exact hk
  | cons c l ih =>
    obtain ⟨k₁, hc, hrest⟩ := effects_cons.1 h
    exact ih (fun d hd => hl d (List.mem_cons_of_mem _ hd)) hrest
      (hl c (List.mem_cons_self ..) k k₁ hc hk)

/-- What one of the statements brings about and none of them undoes. -/
theorem effects_establish {effect : Statement → κ → Option κ} {l : List Statement} {k k' : κ}
    {P : κ → Prop} (hl : ∀ c ∈ l, ∀ k k', effect c k = some k' → P k → P k') {c : Statement}
    (hc : c ∈ l) (hset : ∀ k k', effect c k = some k' → P k')
    (h : effects effect l k = some k') : P k' := by
  obtain ⟨before, after, rfl⟩ := List.append_of_mem hc
  obtain ⟨k₁, -, h⟩ := effects_append.1 h
  obtain ⟨k₂, hc, hafter⟩ := effects_cons.1 h
  have hl : ∀ d ∈ after, ∀ k k', effect d k = some k' → P k → P k' :=
    fun d hd => hl d (List.mem_append_right _ (List.mem_cons_of_mem _ hd))
  exact effects_preserve hl hafter (hset k₁ k₂ hc)

/-- The server runs statements in transactions.  A transaction starts from what is committed, so
that one that was left open is discarded, and only a commit changes what is committed.  After a
commit that fails, nobody knows. -/
structure Server.Transactional (server : Server σ) (database : Option String) (view : σ → Store κ)
    (effect : Statement → κ → Option κ) : Prop where
  start {s t : σ} : server.execute database .start s = (.ok (), t) →
    view t = ⟨(view s).committed, some (view s).committed⟩
  run {s t : σ} {c : Statement} {k : κ} : server.execute database (.run c) s = (.ok (), t) →
    (view s).working = some k →
    ∃ k', effect c k = some k' ∧ view t = ⟨(view s).committed, some k'⟩
  commit {s t : σ} {k : κ} : server.execute database .commit s = (.ok (), t) →
    (view s).working = some k → view t = ⟨k, none⟩
  rollback {s t : σ} {reply : Except Error Unit} :
    server.execute database .rollback s = (reply, t) →
    (view t).committed = (view s).committed
  /-- A command other than a commit changes nothing if it fails. -/
  failed {s t : σ} {c : Command} {e : Error} : c ≠ .commit →
    server.execute database c s = (.error e, t) → (view t).committed = (view s).committed

/-! ## Servers in memory -/

/-- What a server in memory is made of.  A database is given as sessions name it. -/
structure Memory (κ : Type) where
  /-- Whether sessions can be opened on a database. -/
  opens : Option String → Bool
  /-- What a statement makes of the content. -/
  effect : Option String → Statement → κ → Option κ
  answer : Option String → Query → κ → ResultTable
  /-- The commands that fail for no reason. -/
  refuses : Command → Bool

namespace Memory

/-- The error of a server that refuses something. -/
def refusal : Error :=
  .queryFailed (.other "refused")

/-- The content that a session sees. -/
def seen (s : Store κ) : κ :=
  s.working.getD s.committed

/-- What a command makes of a store; a statement outside of a transaction takes effect at once. -/
def perform (m : Memory κ) (database : Option String) (c : Command) (s : Store κ) :
    Option (Store κ) :=
  match c with
  | .start => some ⟨s.committed, some s.committed⟩
  | .commit => some ⟨seen s, none⟩
  | .rollback => some ⟨s.committed, none⟩
  | .run c =>
    match s.working with
    | some k => (m.effect database c k).map fun k' => ⟨s.committed, some k'⟩
    | none => (m.effect database c s.committed).map fun k' => ⟨k', none⟩

/-- The server.  Opening a session abandons what another one left open. -/
def server (m : Memory κ) : Server (Store κ) where
  connect database s :=
    if m.opens database then (.ok (), ⟨s.committed, none⟩) else (.error refusal, s)
  execute database c s :=
    match (if m.refuses c then none else m.perform database c s) with
    | some t => (.ok (), t)
    | none => (.error refusal, s)
  query database q s := (.ok (m.answer database q (seen s)), s)

variable {m : Memory κ} {database : Option String} {s t : Store κ}

theorem execute_ok {c : Command} (h : m.server.execute database c s = (.ok (), t)) :
    m.perform database c s = some t := by
  simp only [server] at h
  split at h
  · next hp =>
    obtain ⟨-, rfl⟩ := Prod.mk.inj h
    by_cases hr : m.refuses c = true
    · rw [if_pos hr] at hp
      simp at hp
    · rwa [if_neg hr] at hp
  · simp at h

theorem execute_error {c : Command} {e : Error}
    (h : m.server.execute database c s = (.error e, t)) : t = s := by
  simp only [server] at h
  split at h
  · simp at h
  · exact (Prod.mk.inj h).2.symm

/-- A server in memory is a server with transactions. -/
theorem transactional (m : Memory κ) (database : Option String) :
    m.server.Transactional database id (m.effect database) where
  start h := (Option.some.inj (execute_ok h)).symm
  run {s t c k} h hk := by
    have hp := execute_ok h
    simp only [perform, id_eq] at hp hk
    rw [hk, Option.map_eq_some_iff] at hp
    obtain ⟨k', hk', rfl⟩ := hp
    exact ⟨k', hk', rfl⟩
  commit {s t k} h hk := by
    have hp := execute_ok h
    simp only [perform, seen, id_eq] at hp hk
    rw [hk] at hp
    exact (Option.some.inj hp).symm
  rollback {s t reply} h := by
    cases reply with
    | ok u => rw [← Option.some.inj (execute_ok h)]; rfl
    | error e => rw [execute_error h]
  failed _ h := by rw [execute_error h]

end Memory

end Accord
