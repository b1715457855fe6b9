import Accord.Ordered.Set

/-!
# Differences of sets

What has to be taken away from a set and what has to be added to it to make it another one.
Both lists are read off the members that the two sets do not share.
-/

namespace Accord

variable {α : Type} [Ord α]

/-- What one set has too much and what it lacks, both in ascending order. -/
structure Difference (α : Type) where
  surplus : List α
  missing : List α
deriving DecidableEq

namespace Difference

/-- Whether nothing has to change. -/
def isEmpty (d : Difference α) : Bool :=
  d.surplus.isEmpty && d.missing.isEmpty

/-- What has to change in the current set to make it the desired one. -/
def between [DecidableEq α] (current desired : OrderedSet α) : Difference α where
  surplus := (current.difference desired).toList
  missing := (desired.difference current).toList

/-- Takes away the surplus, then adds what is missing. -/
def apply [DecidableEq α] [Std.TransOrd α] [Std.LawfulEqOrd α] (d : Difference α)
    (s : OrderedSet α) : OrderedSet α :=
  (d.surplus.foldl OrderedSet.erase s).insertAll d.missing

@[simp] theorem mem_surplus_between [DecidableEq α] {current desired : OrderedSet α} {a : α} :
    a ∈ (between current desired).surplus ↔ a ∈ current ∧ a ∉ desired :=
  OrderedSet.mem_difference

@[simp] theorem mem_missing_between [DecidableEq α] {current desired : OrderedSet α} {a : α} :
    a ∈ (between current desired).missing ↔ a ∈ desired ∧ a ∉ current :=
  OrderedSet.mem_difference

end Difference

end Accord
