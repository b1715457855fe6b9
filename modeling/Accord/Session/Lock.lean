/-!
# The catalog lock

Operations on one catalog share a lock.  Readers hold its shared side, writers its exclusive side:
any number of readers may hold it at once, but a writer holds it alone.
-/

namespace Accord

/-- The two sides of the lock. -/
inductive Side where
  /-- For those who read. -/
  | shared
  /-- For those who change something. -/
  | exclusive
deriving DecidableEq, Repr

/-- A side that is held, and the name under which it is held. -/
structure Hold where
  name : String
  side : Side
deriving DecidableEq

/-- What is held of the lock, in the order in which it was taken. -/
structure Lock where
  holds : List Hold
deriving DecidableEq

namespace Lock

/-- A lock that nobody holds. -/
def free : Lock := ⟨[]⟩

/-- Whether a side can be had now. -/
def grants (lock : Lock) : Side → Bool
  | .shared => lock.holds.all fun h => h.side = .shared
  | .exclusive => lock.holds.isEmpty

/-- Whether something is held under a name. -/
def isHeldBy (lock : Lock) (name : String) : Bool :=
  lock.holds.any fun h => h.name = name

/-- Gives back what is held under a name. -/
def release (lock : Lock) (name : String) : Lock :=
  ⟨lock.holds.filter fun h => decide (h.name ≠ name)⟩

/-- Takes a side under a name, if it can be had at once, and then gives back what was held under
the name before. -/
def acquire? (lock : Lock) (name : String) (side : Side) : Option Lock :=
  if lock.grants side then some ⟨(lock.release name).holds ++ [⟨name, side⟩]⟩ else none

end Lock

end Accord
