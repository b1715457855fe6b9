import Accord.Number.Binary64

/-!
# JSON values

A value keeps its integers apart from its floating point numbers, and an object keeps the order in
which its members were given, so that a record is written in the order of its fields.
-/

namespace Accord

/-- A number of a JSON text. -/
inductive Number where
  /-- Written without point and exponent, and between `-2 ^ 63` and `2 ^ 64`. -/
  | integer (i : Int)
  /-- Any other number. -/
  | float (x : Binary64)
deriving DecidableEq

/-- A JSON value.  Members with the same name all stay, in their order. -/
inductive Json where
  | null
  | bool (b : Bool)
  | number (n : Number)
  | text (s : String)
  | array (items : List Json)
  | object (members : List (String × Json))

/-- The number in the notation of JSON. -/
def Number.render : Number → String
  | .integer i => toString i
  | .float x => x.render

namespace Json

instance : Inhabited Json := ⟨.null⟩

/-- An integer value. -/
def int (i : Int) : Json := .number (.integer i)

/-- A list of texts. -/
def texts (l : List String) : Json := .array (l.map .text)

/-- Null for nothing. -/
def ofOption {α : Type} (f : α → Json) : Option α → Json
  | none => .null
  | some a => f a

/-- Whether the value is null. -/
def isNull : Json → Bool
  | .null => true
  | _ => false

/-- A member that is left out when there is nothing to write. -/
def optionalMember {α : Type} (name : String) (f : α → Json) : Option α → List (String × Json)
  | none => []
  | some a => [(name, f a)]

/-- The member of an object with the given name, the last one if there are several. -/
def member? (name : String) : Json → Option Json
  | .object members => members.reverse.lookup name
  | _ => none

end Json

end Accord
