import Accord.Error
import Accord.Json.Basic

/-!
# Results of catalog queries

A result is a table of JSON values.  A `Row` is read column by column, by the name of the column and
the type that it should hold.
-/

namespace Accord

/-- The answer to a catalog query. -/
structure ResultTable where
  columns : List String
  /-- The values of each row, in the order of the columns. -/
  rows : List (List Json)

/-- One row of a result, with the names of its columns. -/
structure Row where
  columns : List String
  values : List Json

namespace ResultTable

/-- The answer without columns and rows. -/
def none : ResultTable := ⟨[], []⟩

/-- The rows of a result. -/
def toRows (r : ResultTable) : List Row :=
  r.rows.map fun values => ⟨r.columns, values⟩

/-- The first row; queries for one object have no other. -/
def first? (r : ResultTable) : Option Row :=
  r.toRows.head?

/-- Whether the answer has no rows, which says that there is no such object. -/
def isEmpty (r : ResultTable) : Bool :=
  r.rows.isEmpty

end ResultTable

/-- Fails because a row cannot be read. -/
def badRow {α : Type} (cause : BadRow) : Except Error α :=
  .error (.queryFailed cause)

namespace Row

/-- The value in a column: in the first one of that name, if there are several. -/
def value (row : Row) (column : String) : Except Error Json :=
  match (row.columns.idxOf? column).bind fun i => row.values[i]? with
  | some v => .ok v
  | none => badRow (.missingColumn column)

/-- A text, or nothing for null. -/
def text? (row : Row) (column : String) : Except Error (Option String) := do
  match ← row.value column with
  | .null => return none
  | .text s => return some s
  | _ => badRow (.notA column "string")

/-- A text; null is an error. -/
def text (row : Row) (column : String) : Except Error String := do
  match ← row.text? column with
  | some s => return s
  | none => badRow (.isNull column)

/-- A truth value, or nothing for null. -/
def bool? (row : Row) (column : String) : Except Error (Option Bool) := do
  match ← row.value column with
  | .null => return none
  | .bool b => return some b
  | _ => badRow (.notA column "boolean")

/-- A truth value. -/
def bool (row : Row) (column : String) : Except Error Bool := do
  match ← row.bool? column with
  | some b => return b
  | none => badRow (.isNull column)

/-- An integer of 64 bits. -/
def integer (row : Row) (column : String) : Except Error Int := do
  match ← row.value column with
  | .number (.integer i) =>
    if -9223372036854775808 ≤ i ∧ i ≤ 9223372036854775807 then return i
    else badRow (.notA column "integer")
  | _ => badRow (.notA column "integer")

/-- A text that is an element of an array. -/
def textItem (column : String) : Json → Except Error String
  | .text s => .ok s
  | _ => badRow (.notA column "text array")

/-- An array of texts; null is read as the empty one. -/
def texts (row : Row) (column : String) : Except Error (List String) := do
  match ← row.value column with
  | .null => return []
  | .array items => items.mapM (textItem column)
  | _ => badRow (.notA column "text array")

end Row

end Accord
