import Accord.Json.Decoder

/-!
# Decoders that give back what was written

A decoder recovers a value from its written form if it gives the value back wherever lists and
objects may be nested deep enough (`Decoder.Recovers`).  Texts, truth values and integers are
recovered, and so are options, lists, sets and maps of what is recovered.  A record is recovered if
its members fill its fields in their order, where a field that is left out keeps the value that the
record starts with (`Decoder.Fills`).
-/

namespace Accord

/-- So many more lists and objects may be nested. -/
def Source.HasRoom (n : Nat) : Source → Prop
  | .text room => n < room
  | .value => True

theorem Source.HasRoom.enter {n : Nat} {s : Source} (h : s.HasRoom (n + 1)) :
    ∃ inner, s.enter = .ok inner ∧ inner.HasRoom n := by
  cases s with
  | value => exact ⟨.value, rfl, trivial⟩
  | text room =>
    have hroom : n + 1 < room := h
    refine ⟨.text (room - 1), if_neg (by omega), ?_⟩
    show n < room - 1
    omega

namespace Decoder

variable {α β ρ : Type} {depth : Nat}

/-- With room for some depth, `a` is read from `v`. -/
def Recovers (item : Decoder α) (depth : Nat) (v : Json) (a : α) : Prop :=
  ∀ s : Source, s.HasRoom depth → item s (Draft.ofJson v) = .ok a

theorem recovers_text (s : String) : Recovers text depth (.text s) s :=
  fun _ _ => rfl

theorem recovers_bool (b : Bool) : Recovers bool depth (.bool b) b :=
  fun _ _ => rfl

theorem recovers_integer {type : String} {low high i : Int} (h : low ≤ i ∧ i ≤ high) :
    Recovers (integer type low high) depth (.int i) i :=
  fun _ _ => if_pos h

namespace Recovers

variable {item : Decoder α} {v : Json} {a : α}

theorem option (h : Recovers item depth v a) (hv : v.isNull = false) :
    Recovers (option item) depth v (some a) := by
  intro s hs
  have ha := h s hs
  unfold Decoder.option
  cases v with
  | null => cases hv
  | bool b => rw [Draft.ofJson] at ha ⊢; exact congrArg (Except.map some) ha
  | number n => rw [Draft.ofJson] at ha ⊢; exact congrArg (Except.map some) ha
  | text s => rw [Draft.ofJson] at ha ⊢; exact congrArg (Except.map some) ha
  | array l => rw [Draft.ofJson] at ha ⊢; exact congrArg (Except.map some) ha
  | object l => rw [Draft.ofJson] at ha ⊢; exact congrArg (Except.map some) ha

theorem mapM {f : α → Json} {l : List α} (h : ∀ a ∈ l, Recovers item depth (f a) a) {s : Source}
    (hs : s.HasRoom depth) : items item s (Draft.ofItems (l.map f)) = .ok l := by
  induction l with
  | nil => rfl
  | cons a l ih =>
    obtain ⟨ha, hl⟩ := List.forall_mem_cons.1 h
    unfold items at ih ⊢
    rw [List.map_cons, Draft.ofItems, List.mapM_cons, ha s hs, ih hl]
    rfl

theorem list {f : α → Json} {l : List α} (h : ∀ a ∈ l, Recovers item depth (f a) a) :
    Recovers (list item) (depth + 1) (.array (l.map f)) l := by
  intro s hs
  obtain ⟨inner, henter, hroom⟩ := hs.enter
  rw [Draft.ofJson]
  unfold Decoder.list
  dsimp only
  rw [henter]
  show (items item inner (Draft.ofItems (l.map f)) >>= fun l => pure l) = .ok l
  rw [mapM h hroom]
  rfl

theorem set [Ord α] [Std.TransOrd α] [Std.LawfulEqOrd α] {f : α → Json} {l : OrderedSet α}
    (h : ∀ a ∈ l, Recovers item depth (f a) a) :
    Recovers (set item) (depth + 1) (.array (l.toList.map f)) l := by
  intro s hs
  have hlist := Recovers.list h s hs
  unfold Decoder.set
  rw [hlist]
  exact congrArg Except.ok (OrderedSet.ext fun a => OrderedSet.mem_ofList)

theorem members {f : α → Json} {l : List (String × α)}
    (h : ∀ e ∈ l, Recovers item depth (f e.2) e.2) {s : Source} (hs : s.HasRoom depth) :
    Decoder.members item s (Draft.ofMembers (l.map fun e => (e.1, f e.2))) = .ok l := by
  induction l with
  | nil => rfl
  | cons e l ih =>
    obtain ⟨he, hl⟩ := List.forall_mem_cons.1 h
    simp only [List.map_cons, Draft.ofMembers, Decoder.members, bind, Except.bind, he s hs, ih hl]
    rfl

theorem map {f : α → Json} {m : OrderedMap String α}
    (h : ∀ e ∈ m.entries, Recovers item depth (f e.2) e.2) :
    Recovers (map item) (depth + 1) (.object (m.entries.map fun e => (e.1, f e.2))) m := by
  intro s hs
  obtain ⟨inner, henter, hroom⟩ := hs.enter
  rw [Draft.ofJson]
  unfold Decoder.map
  dsimp only
  rw [henter]
  show (Decoder.members item inner (Draft.ofMembers (m.entries.map fun e => (e.1, f e.2))) >>=
    fun l => pure (OrderedMap.ofList l)) = .ok m
  rw [members h hroom]
  exact congrArg Except.ok (OrderedMap.ofList_entries m)

end Recovers

/-! ## Records -/

/-- Members fill fields in their order.  A field that is left out is not required, and it leaves
the record as it is. -/
inductive Fills (depth : Nat) : List (Field ρ) → List (String × Json) → ρ → ρ → Prop where
  | done (r : ρ) : Fills depth [] [] r r
  | put {f : Field ρ} {fields : List (Field ρ)} {v : Json} {members : List (String × Json)}
      {r r' x : ρ} : (∀ s : Source, s.HasRoom depth → f.put s (Draft.ofJson v) r = .ok r') →
      Fills depth fields members r' x → Fills depth (f :: fields) ((f.name, v) :: members) r x
  | leave {f : Field ρ} {fields : List (Field ρ)} {members : List (String × Json)} {r x : ρ} :
      f.presence ≠ .required → Fills depth fields members r x →
      Fills depth (f :: fields) members r x

namespace Fills

variable {fields : List (Field ρ)} {members : List (String × Json)} {r x : ρ}

theorem field {name : String} {presence : Presence} {item : Decoder α} {store : α → ρ → ρ}
    {v : Json} {a : α} (hitem : Recovers item depth v a)
    (h : Fills depth fields members (store a r) x) :
    Fills depth (Decoder.field name presence item store :: fields) ((name, v) :: members) r x :=
  .put (f := Decoder.field name presence item store)
    (fun s hs => congrArg (Except.map fun v => store v r) (hitem s hs)) h

/-- A member that is left out when there is nothing to write. -/
theorem optional {name : String} {presence : Presence} {item : Decoder α}
    {store : Option α → ρ → ρ} {f : α → Json} {o : Option α}
    (hitem : ∀ a, o = some a → Recovers (option item) depth (f a) (some a))
    (hnone : store none r = r) (hpresence : presence ≠ .required)
    (h : Fills depth fields members (store o r) x) :
    Fills depth (Decoder.field name presence (option item) store :: fields)
      (Json.optionalMember name f o ++ members) r x := by
  cases o with
  | none =>
    rw [hnone] at h
    exact .leave (f := Decoder.field name presence (option item) store) hpresence h
  | some a => exact .field (hitem a rfl) h

/-- The last member may be left out as well. -/
theorem optional_last {name : String} {presence : Presence} {item : Decoder α}
    {store : Option α → ρ → ρ} {f : α → Json} {o : Option α}
    (hitem : ∀ a, o = some a → Recovers (option item) depth (f a) (some a))
    (hnone : store none r = r) (hpresence : presence ≠ .required) :
    Fills depth [Decoder.field name presence (option item) store] (Json.optionalMember name f o) r
      (store o r) := by
  have h : Fills depth [Decoder.field name presence (option item) store]
      (Json.optionalMember name f o ++ []) r (store o r) :=
    optional hitem hnone hpresence (.done _)
  rwa [List.append_nil] at h

theorem find?_name {before : List (Field ρ)} {f : Field ρ}
    (hnames : ((before ++ f :: fields).map Field.name).Nodup) :
    (before ++ f :: fields).find? (fun g => g.name == f.name) = some f := by
  rw [List.map_append, List.map_cons] at hnames
  have hbefore : before.find? (fun g => g.name == f.name) = none := by
    rw [List.find?_eq_none]
    intro g hg heq
    refine (List.nodup_append.1 hnames).2.2 g.name (List.mem_map_of_mem hg) f.name
      List.mem_cons_self (by simpa using heq)
  rw [List.find?_append, hbefore, List.find?_cons_of_pos (by simp)]
  rfl

theorem fieldMembers_cons {f : Field ρ} {closed : Bool} {s : Source} {name : String} {v : Json}
    {r' : ρ} {seen : List String} (hfind : fields.find? (fun g => g.name == name) = some f)
    (hfresh : seen.contains name = false) (hput : f.put s (Draft.ofJson v) r = .ok r') :
    Decoder.fieldMembers fields closed s (Draft.ofMembers ((name, v) :: members)) r seen =
      Decoder.fieldMembers fields closed s (Draft.ofMembers members) r' (name :: seen) := by
  simp only [Draft.ofMembers, Decoder.fieldMembers, bind, Except.bind, hfind, hfresh, hput,
    Bool.false_eq_true, if_false]

/-- The members are read into the record, and no required field is missing. -/
theorem fieldMembers (h : Fills depth fields members r x) {before : List (Field ρ)}
    (hnames : ((before ++ fields).map Field.name).Nodup) {seen : List String}
    (hseen : ∀ n ∈ seen, n ∈ before.map Field.name) (closed : Bool) {s : Source}
    (hs : s.HasRoom depth) :
    ∃ seen', Decoder.fieldMembers (before ++ fields) closed s (Draft.ofMembers members) r seen =
        .ok (x, seen') ∧ (∀ n ∈ seen, n ∈ seen') ∧
      ∀ f ∈ fields, f.presence = .required → f.name ∈ seen' := by
  -- A field that is passed goes to the fields before, whether it was filled or left out.
  induction h generalizing before seen with
  | done r => exact ⟨seen, rfl, fun n hn => hn, fun f hf => nomatch hf⟩
  | @put f fields v members r r' x hput hrest ih =>
    have hfind := find?_name hnames
    have hfresh : f.name ∉ seen := by
      intro hmem
      rw [List.map_append, List.map_cons] at hnames
      exact (List.nodup_append.1 hnames).2.2 f.name (hseen _ hmem) f.name List.mem_cons_self rfl
    have hsplit : before ++ f :: fields = before ++ [f] ++ fields := by simp
    have hnext : ∀ n ∈ f.name :: seen, n ∈ (before ++ [f]).map Field.name := by
      intro n hn
      rw [List.map_append, List.mem_append]
      rcases List.mem_cons.1 hn with rfl | hn
      · exact .inr (List.mem_singleton_self _)
      · exact .inl (hseen n hn)
    obtain ⟨seen', hrun, hkept, hrequired⟩ := ih (hsplit ▸ hnames) hnext
    refine ⟨seen', ?_, fun n hn => hkept n (List.mem_cons_of_mem _ hn), fun g hg hreq => ?_⟩
    · rw [← hsplit] at hrun
      exact (fieldMembers_cons hfind (by simpa using hfresh) (hput s hs)).trans hrun
    · rcases List.mem_cons.1 hg with rfl | hg
      · exact hkept _ List.mem_cons_self
      · exact hrequired g hg hreq
  | @leave f fields members r x hpresence hrest ih =>
    have hsplit : before ++ f :: fields = before ++ [f] ++ fields := by simp
    have hnext : ∀ n ∈ seen, n ∈ (before ++ [f]).map Field.name := by
      intro n hn
      rw [List.map_append, List.mem_append]
      exact .inl (hseen n hn)
    obtain ⟨seen', hrun, hkept, hrequired⟩ := ih (hsplit ▸ hnames) hnext
    refine ⟨seen', by rw [hsplit]; exact hrun, hkept, fun g hg hreq => ?_⟩
    rcases List.mem_cons.1 hg with rfl | hg
    · exact absurd hreq hpresence
    · exact hrequired g hg hreq

/-- A record is recovered from members that fill its fields. -/
theorem recovers (h : Fills depth fields members r x) (hnames : (fields.map Field.name).Nodup)
    (title : String) (closed : Bool) :
    Recovers (record title r fields closed) (depth + 1) (.object members) x := by
  intro s hs
  obtain ⟨inner, henter, hroom⟩ := hs.enter
  have hnames' : (([] ++ fields).map Field.name).Nodup := hnames
  obtain ⟨seen, hrun, -, hrequired⟩ :=
    h.fieldMembers hnames' (fun n hn => absurd hn List.not_mem_nil) closed hroom
  have hmissing : missing? fields seen = none := by
    unfold missing?
    rw [Option.map_eq_none_iff, List.find?_eq_none]
    intro f hf
    by_cases hreq : f.presence = .required
    · simp [hreq, hrequired f hf hreq]
    · simp [hreq]
  rw [Draft.ofJson]
  unfold record
  dsimp only
  rw [henter]
  show (Decoder.fieldMembers fields closed inner (Draft.ofMembers members) r [] >>= fun p =>
    refuse? (missing? fields p.2) >>= fun _ => pure p.1) = .ok x
  rw [show Decoder.fieldMembers fields closed inner (Draft.ofMembers members) r [] =
    .ok (x, seen) from hrun]
  show (refuse? (missing? fields seen) >>= fun _ => pure x) = .ok x
  rw [hmissing]
  rfl

end Fills

end Decoder

end Accord
