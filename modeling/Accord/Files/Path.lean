/-!
# Paths

A path is a text whose parts are separated by slashes.
-/

namespace Accord.Path

/-- Whether the path starts at the root. -/
def isAbsolute (path : String) : Bool :=
  path.toList.head? = some '/'

/-- The path `next`, taken from `base` unless it starts at the root. -/
def join (base next : String) : String :=
  if isAbsolute next then next
  else if base = "" ∨ base.toList.getLast? = some '/' then base ++ next
  else base ++ "/" ++ next

/-- The parts between slashes; the part before a leading slash is empty. -/
def splitSlashes : List Char → List (List Char)
  | [] => [[]]
  | c :: r =>
    match splitSlashes r with
    | [] => [[c]]
    | p :: ps => if c = '/' then [] :: p :: ps else (c :: p) :: ps

/-- The parts of a path, with an empty one for every slash at an end and between two slashes. -/
def parts (path : String) : List String :=
  (splitSlashes path.toList).map String.ofList

/-- Whether a part of a path leads nowhere else. -/
def isIdle (part : String) : Bool :=
  part = "" || part = "."

/-- The path without its last part that leads anywhere. -/
def parent (path : String) : String :=
  let inner := ((parts path).reverse.dropWhile isIdle).drop 1
  "/".intercalate (inner.dropWhile isIdle).reverse

end Accord.Path
