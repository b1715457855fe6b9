import Accord.Json.Flattened
import Accord.Proofs.Json.Decoder

/-!
# Flattened records give back what was written

The members of the part come first in the object and are kept as values; the own members after them
fill the own fields (`Recovers.flattened`).
-/

namespace Accord.Decoder

variable {α ρ : Type} {depth : Nat} {fields : List (Field ρ)}

theorem recovers_json_text (s : String) : Recovers json depth (.text s) (.text s) :=
  fun _ _ => rfl

theorem recovers_json_int (i : Int) : Recovers json depth (.int i) (.int i) :=
  fun _ _ => rfl

/-- If there are none but own members, nothing is kept. -/
theorem ownMembers_of_fieldMembers {s : Source} {l : List (Except Problem String × Draft)}
    {r x : ρ} {seen seen' : List String}
    (h : fieldMembers fields true s l r seen = .ok (x, seen')) :
    ownMembers fields s l r seen = .ok (x, []) := by
  induction l generalizing r seen with
  | nil =>
    obtain ⟨rfl, -⟩ := Prod.mk.inj (Except.ok.inj h)
    rfl
  | cons m l ih =>
    obtain ⟨name, d⟩ := m
    cases name with
    | error p => cases h
    | ok name =>
      simp only [fieldMembers, ownMembers, bind, Except.bind] at h ⊢
      cases hfind : fields.find? fun f => f.name == name with
      | none => simp [hfind] at h
      | some f =>
        simp only [hfind] at h ⊢
        by_cases hseen : seen.contains name = true
        · rw [if_pos hseen] at h
          cases h
        · rw [if_neg hseen] at h ⊢
          cases hput : f.put s d r with
          | error p => rw [hput] at h; cases h
          | ok r' => rw [hput] at h; exact ih h

/-- Members of other names are kept. -/
theorem ownMembers_append {others members : List (String × Json)}
    (hnames : ∀ m ∈ others, fields.find? (fun f => f.name == m.1) = none)
    (hvalues : ∀ m ∈ others, Recovers json depth m.2 m.2) {s : Source} (hs : s.HasRoom depth)
    {r x : ρ} {seen : List String}
    (h : ownMembers fields s (Draft.ofMembers members) r seen = .ok (x, [])) :
    ownMembers fields s (Draft.ofMembers (others ++ members)) r seen = .ok (x, others) := by
  induction others with
  | nil => exact h
  | cons m others ih =>
    obtain ⟨hname, hnames⟩ := List.forall_mem_cons.1 hnames
    obtain ⟨hvalue, hvalues⟩ := List.forall_mem_cons.1 hvalues
    simp only [List.cons_append, Draft.ofMembers, ownMembers, bind, Except.bind, hname,
      hvalue s hs, ih hnames hvalues]
    rfl

/-- A flattened record is recovered if its part is, and if its own members fill its own fields. -/
theorem Recovers.flattened {own others : List (String × Json)} {start x : ρ}
    (hown : Fills depth fields own start x) (hfields : (fields.map Field.name).Nodup)
    (hnames : ∀ m ∈ others, fields.find? (fun f => f.name == m.1) = none)
    (hvalues : ∀ m ∈ others, Recovers json depth m.2 m.2) {part : Decoder α} {a : α} {depth' : Nat}
    (hpart : Recovers part depth' (.object others) a) (title : String) (store : α → ρ → ρ) :
    Recovers (Decoder.flattened title start fields part store) (depth + 1) (.object (others ++ own))
      (store a x) := by
  intro s hs
  obtain ⟨inner, henter, hroom⟩ := hs.enter
  have hfields' : (([] ++ fields).map Field.name).Nodup := hfields
  obtain ⟨seen, hrun, -⟩ :=
    hown.fieldMembers hfields' (fun n hn => absurd hn List.not_mem_nil) true hroom
  have hmembers := ownMembers_append hnames hvalues hroom (ownMembers_of_fieldMembers hrun)
  have ha : ofJson part (.object others) = .ok a := hpart .value trivial
  rw [Draft.ofJson]
  unfold Decoder.flattened
  dsimp only
  rw [henter]
  show (ownMembers fields inner (Draft.ofMembers (others ++ own)) start [] >>= fun p =>
    ofJson part (.object p.2) >>= fun v => pure (store v p.1)) = .ok (store a x)
  rw [show ownMembers fields inner (Draft.ofMembers (others ++ own)) start [] = .ok (x, others)
    from hmembers]
  show (ofJson part (.object others) >>= fun v => pure (store v x)) = .ok (store a x)
  rw [ha]
  rfl

end Accord.Decoder
