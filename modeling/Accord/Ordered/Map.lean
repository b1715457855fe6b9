import Accord.Ordered.Set

/-!
# Ordered maps

A finite map is kept as the list of its entries in ascending order of their keys.  `get?` looks a
key up, `insert` sets it, and `get?_insert` says that these two fit together.  A map is determined
by what it looks up (`OrderedMap.ext`).
-/

namespace Accord

variable {κ β : Type} [Ord κ]

/-- Sets the value under `k` in a list of entries that ascends by key. -/
def insertEntry (k : κ) (v : β) : List (κ × β) → List (κ × β)
  | [] => [(k, v)]
  | e :: l =>
    match compare k e.1 with
    | .lt => (k, v) :: e :: l
    | .eq => (e.1, v) :: l
    | .gt => e :: insertEntry k v l

/-- The value under `k` in a list of entries. -/
def lookupEntry [DecidableEq κ] (k : κ) : List (κ × β) → Option β
  | [] => none
  | e :: l => if k = e.1 then some e.2 else lookupEntry k l

theorem map_fst_insertEntry (k : κ) (v : β) (l : List (κ × β)) :
    (insertEntry k v l).map Prod.fst = insertAscending k (l.map Prod.fst) := by
  induction l with
  | nil => rfl
  | cons e l ih =>
    cases h : compare k e.1 <;> simp [insertEntry, insertAscending, h, ih]

theorem lookupEntry_insertEntry [Std.LawfulEqOrd κ] [DecidableEq κ] (k k' : κ)
    (v : β) (l : List (κ × β)) :
    lookupEntry k' (insertEntry k v l) = if k' = k then some v else lookupEntry k' l := by
  induction l with
  | nil => rfl
  | cons e l ih =>
    obtain ⟨j, w⟩ := e
    cases h : compare k j with
    | lt => simp only [insertEntry, h, lookupEntry]
    | eq =>
      have hj : k = j := Std.LawfulEqCmp.eq_of_compare h
      subst hj
      simp only [insertEntry, h, lookupEntry]
      split <;> rfl
    | gt =>
      have hj : j ≠ k := by
        rintro rfl
        simp [Std.ReflCmp.compare_self] at h
      simp only [insertEntry, h, lookupEntry, ih]
      by_cases hk : k' = j
      · subst hk
        simp [hj]
      · simp [hk]

omit [Ord κ] in
theorem lookupEntry_eq_none [DecidableEq κ] {k : κ} {l : List (κ × β)}
    (h : k ∉ l.map Prod.fst) : lookupEntry k l = none := by
  induction l with
  | nil => rfl
  | cons e l ih =>
    rw [List.map_cons, List.mem_cons, not_or] at h
    unfold lookupEntry
    rw [if_neg h.1, ih h.2]

theorem insertEntry_of_above {k : κ} {v : β} {l : List (κ × β)}
    (h : ∀ e ∈ l, compare k e.1 = .gt) : insertEntry k v l = l ++ [(k, v)] := by
  induction l with
  | nil => rfl
  | cons e l ih =>
    obtain ⟨he, hl⟩ := List.forall_mem_cons.1 h
    simp only [insertEntry, he, ih hl, List.cons_append]

/-- A finite map with its entries in ascending order of the keys. -/
structure OrderedMap (κ β : Type) [Ord κ] where
  /-- The entries, in ascending order of their keys. -/
  entries : List (κ × β)
  /-- No key is listed twice or out of order. -/
  ascending : Ascending (entries.map Prod.fst)

namespace OrderedMap

instance [DecidableEq κ] [DecidableEq β] : DecidableEq (OrderedMap κ β) := fun s t =>
  if h : s.entries = t.entries then
    .isTrue (by cases s; cases t; cases h; rfl)
  else
    .isFalse fun e => h (congrArg entries e)

instance : EmptyCollection (OrderedMap κ β) where
  emptyCollection := ⟨[], (ascending_nil : Ascending ([] : List κ))⟩

instance : Inhabited (OrderedMap κ β) where
  default := ∅

/-- Whether there are no entries. -/
def isEmpty (m : OrderedMap κ β) : Bool :=
  m.entries.isEmpty

/-- The keys that have a value. -/
def keys (m : OrderedMap κ β) : OrderedSet κ :=
  ⟨m.entries.map Prod.fst, m.ascending⟩

/-- The value under a key. -/
def get? [DecidableEq κ] (m : OrderedMap κ β) (k : κ) : Option β :=
  lookupEntry k m.entries

/-- The value under a key, or `v` when there is none. -/
def getD [DecidableEq κ] (m : OrderedMap κ β) (k : κ) (v : β) : β :=
  (m.get? k).getD v

variable [Std.TransOrd κ] [Std.LawfulEqOrd κ]

/-- Sets the value under a key. -/
def insert (m : OrderedMap κ β) (k : κ) (v : β) : OrderedMap κ β :=
  ⟨insertEntry k v m.entries, map_fst_insertEntry k v _ ▸ ascending_insertAscending m.ascending⟩

/-- Sets every entry of a list, the last one for a key standing. -/
def insertAll (m : OrderedMap κ β) (l : List (κ × β)) : OrderedMap κ β :=
  l.foldl (fun m e => m.insert e.1 e.2) m

/-- The map of a list of entries, the last one for a key standing. -/
def ofList (l : List (κ × β)) : OrderedMap κ β :=
  insertAll ∅ l

omit [Std.TransOrd κ] [Std.LawfulEqOrd κ] in
theorem getD_of_not_mem_keys [DecidableEq κ] {m : OrderedMap κ β} {k : κ} {v : β}
    (h : k ∉ m.keys) : m.getD k v = v := by
  unfold getD get?
  rw [lookupEntry_eq_none h]
  rfl

omit [Std.TransOrd κ] [Std.LawfulEqOrd κ] in
@[simp] theorem get?_empty [DecidableEq κ] (k : κ) : (∅ : OrderedMap κ β).get? k = none :=
  rfl

@[simp] theorem get?_insert [DecidableEq κ] (m : OrderedMap κ β) (k k' : κ) (v : β) :
    (m.insert k v).get? k' = if k' = k then some v else m.get? k' :=
  lookupEntry_insertEntry k k' v m.entries

/-- What is set is what the list says of the key, and what was there otherwise. -/
theorem get?_insertAll [DecidableEq κ] {m : OrderedMap κ β} {l : List (κ × β)}
    (h : (l.map Prod.fst).Nodup) (k : κ) :
    (m.insertAll l).get? k = (lookupEntry k l).or (m.get? k) := by
  induction l generalizing m with
  | nil => rfl
  | cons e l ih =>
    obtain ⟨hfresh, hl⟩ := List.nodup_cons.1 h
    have hstep : m.insertAll (e :: l) = (m.insert e.1 e.2).insertAll l := rfl
    rw [hstep, ih hl, get?_insert, lookupEntry]
    by_cases hk : k = e.1
    · subst hk
      rw [lookupEntry_eq_none hfresh, if_pos rfl, if_pos rfl]
      rfl
    · rw [if_neg hk, if_neg hk]

theorem entries_insertAll {m : OrderedMap κ β} {l : List (κ × β)}
    (h : Ascending ((m.entries ++ l).map Prod.fst)) :
    (m.insertAll l).entries = m.entries ++ l := by
  induction l generalizing m with
  | nil => rw [List.append_nil]; rfl
  | cons e l ih =>
    have habove : ∀ e' ∈ m.entries, compare e.1 e'.1 = .gt := by
      intro e' he'
      rw [List.map_append] at h
      exact Std.OrientedCmp.gt_of_lt ((List.pairwise_append.1 h).2.2 e'.1
        (List.mem_map_of_mem he') e.1 List.mem_cons_self)
    have hentries : (m.insert e.1 e.2).entries = m.entries ++ [e] := insertEntry_of_above habove
    have hstep : m.insertAll (e :: l) = (m.insert e.1 e.2).insertAll l := rfl
    rw [hstep, ih (by rw [hentries, List.append_assoc]; exact h), hentries, List.append_assoc]
    rfl

/-- The entries of a map give the map back. -/
theorem ofList_entries (m : OrderedMap κ β) : ofList m.entries = m := by
  have h : (ofList m.entries).entries = m.entries :=
    entries_insertAll (m := ∅) (l := m.entries) m.ascending
  cases hm : ofList m.entries
  rw [hm] at h
  cases m
  cases h
  rfl

omit [Std.TransOrd κ] in
/-- The entries of a map are the keys with the values that they look up. -/
theorem mem_entries [DecidableEq κ] {m : OrderedMap κ β} {k : κ} {v : β} :
    (k, v) ∈ m.entries ↔ m.get? k = some v := by
  obtain ⟨l, h⟩ := m
  show (k, v) ∈ l ↔ lookupEntry k l = some v
  induction l with
  | nil => simp [lookupEntry]
  | cons e l ih =>
    obtain ⟨habove, hl⟩ := List.pairwise_cons.1 h
    rw [List.mem_cons, lookupEntry, ih hl]
    by_cases hk : k = e.1
    · have hfresh : k ∉ l.map Prod.fst := fun hmem =>
        compare_self_ne_lt k (hk ▸ habove k hmem)
      rw [if_pos hk, lookupEntry_eq_none hfresh, Option.some.injEq]
      constructor
      · rintro (rfl | h)
        · rfl
        · exact nomatch h
      · rintro rfl
        exact .inl (Prod.ext hk rfl)
    · rw [if_neg hk, or_iff_right fun h => hk (congrArg Prod.fst h)]

/-- A map is determined by what it looks up. -/
@[ext] theorem ext [DecidableEq κ] {m n : OrderedMap κ β} (h : ∀ k, m.get? k = n.get? k) :
    m = n := by
  have hmem : ∀ e, e ∈ m.entries ↔ e ∈ n.entries := fun ⟨k, v⟩ => by
    rw [mem_entries, mem_entries, h]
  have hnodup : ∀ m : OrderedMap κ β, m.entries.Nodup := by
    intro m
    refine (List.pairwise_map.1 m.ascending).imp fun {a b} hlt heq => ?_
    rw [heq] at hlt
    exact compare_self_ne_lt b.1 hlt
  have hentries : m.entries = n.entries :=
    ((List.perm_ext_iff_of_nodup (hnodup m) (hnodup n)).2 hmem).eq_of_pairwise
      (fun a b _ _ hlt hgt => absurd (compare_lt_trans hlt hgt) (compare_self_ne_lt a.1))
      (List.pairwise_map.1 m.ascending) (List.pairwise_map.1 n.ascending)
  cases m
  cases n
  cases hentries
  rfl

end OrderedMap

end Accord
