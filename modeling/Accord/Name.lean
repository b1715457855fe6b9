import Accord.Error

/-!
# Names of catalog objects

A declared name may be written plainly or between double quotes, with inner quotes written twice,
as statements write it.  `normalizeName` takes the quotes off and refuses what the server would
not keep as it is.
-/

namespace Accord

/-- The longest name that the server keeps whole, in bytes of UTF-8. -/
def maxNameLength : Nat := 63

/-- Writes every pair of double quotes as one, from left to right. -/
def joinQuotes : List Char → List Char
  | '"' :: '"' :: r => '"' :: joinQuotes r
  | c :: r => c :: joinQuotes r
  | [] => []

/-- Takes a pair of double quotes off a text that starts and ends with one. -/
def unquote (cs : List Char) : List Char :=
  match cs with
  | '"' :: r => if r.getLast? = some '"' then joinQuotes r.dropLast else cs
  | _ => cs

/-- The name that is meant, for an object that messages call `what`. -/
def normalizeName (raw what : String) : Except Error String :=
  let name := String.ofList (unquote (Text.trimChars raw.toList))
  if name = "" then .error (.validation (.emptyName what))
  else if maxNameLength < name.utf8ByteSize then .error (.validation (.longName what name))
  else if name.toList.contains '\x00' then .error (.validation (.nullInName what))
  else .ok name

/-! ## Identities -/

/-- The identity that some parts make, with a hyphen between any two.  Nothing marks the hyphens
that are inside of the parts. -/
def joinIdentity (parts : List String) : String :=
  String.intercalate "-" parts

/-- The parts between hyphens; there is always one, which may be empty. -/
def splitHyphens : List Char → List (List Char)
  | [] => [[]]
  | c :: r =>
    match splitHyphens r with
    | [] => [[c]]
    | p :: ps => if c = '-' then [] :: p :: ps else (c :: p) :: ps

/-- The parts of an identity: as many as are expected, and none of them empty. -/
def splitIdentity (id : String) (expected : List String) : Except Error (List String) :=
  let parts := splitHyphens id.toList
  if parts.all (fun p => !p.isEmpty) && parts.length = expected.length then
    .ok (parts.map String.ofList)
  else .error (.validation (.identityFormat id expected))

end Accord
