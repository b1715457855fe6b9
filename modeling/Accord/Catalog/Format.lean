import Accord.Catalog.Result
import Accord.Json.Decoder

/-!
# Results in documents

How results of catalog queries are read from JSON and written to it.
-/

namespace Accord.ResultTable

open Decoder (field record)

/-- Reads a result.  The lengths of its rows are not compared with the columns. -/
def decoder : Decoder ResultTable :=
  record "QueryResult" none [
    field "columns" .required (.list .text) fun v r => { r with columns := v },
    field "rows" .required (.list (.list Decoder.json)) fun v r => { r with rows := v }] false

/-- Writes a result, row by row. -/
def toJson (r : ResultTable) : Json :=
  .object [("columns", .texts r.columns), ("rows", .array (r.rows.map .array))]

end Accord.ResultTable
