import Accord.Json.Decoder

/-!
# Flattened records

A flattened record has fields of its own and one part whose fields stand beside them in the same
object.  The own fields are read as they come; all other members are kept until the object is
complete, and then the part is read from them.
-/

namespace Accord.Decoder

/-- Reads the own fields of a flattened record; gives the record and the other members in their
order. -/
def ownMembers {ρ : Type} (fields : List (Field ρ)) (s : Source) :
    List (Except Problem String × Draft) → ρ → List String →
      Except Problem (ρ × List (String × Json))
  | [], r, _ => .ok (r, [])
  | (name, d) :: rest, r, seen => do
    let name ← name
    match fields.find? fun f => f.name == name with
    | some f =>
      if seen.contains name then .error (.duplicateField name)
      else ownMembers fields s rest (← f.put s d r) (name :: seen)
    | none =>
      let v ← json s d
      let (r, others) ← ownMembers fields s rest r seen
      return (r, (name, v) :: others)

/-- A flattened record whose own fields may all be left out. -/
def flattened {ρ α : Type} (title : String) (start : ρ) (fields : List (Field ρ))
    (part : Decoder α) (store : α → ρ → ρ) : Decoder ρ := fun s d =>
  match d with
  | .object l ending => do
    let s ← s.enter
    let (r, others) ← ownMembers fields s l start []
    refuse? ending.objectProblem
    let v ← ofJson part (.object others)
    return store v r
  | d => .error (d.mismatch ("struct " ++ title))

end Accord.Decoder
