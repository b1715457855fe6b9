/-!
# Quoting in statements

Every name and every text that goes into a statement is quoted, whatever it holds, so that the
server reads back exactly that name or text.
-/

namespace Accord.Sql

/-- Writes every occurrence of a character twice. -/
def double (q : Char) (cs : List Char) : List Char :=
  cs.flatMap fun c => if c = q then [q, q] else [c]

/-- A name between double quotes; a quote inside is written twice. -/
def identifier (name : String) : String :=
  .ofList ('"' :: (double '"' name.toList ++ ['"']))

/-- A text between single quotes; a quote inside is written twice.  With a backslash the text is
written as an escape string, where a backslash is written twice, so that it means the same under
either setting of the server for backslashes in plain strings. -/
def literal (value : String) : String :=
  let cs := value.toList
  if cs.contains '\\' then
    .ofList ('E' :: '\'' :: (double '\'' (double '\\' cs) ++ ['\'']))
  else .ofList ('\'' :: (double '\'' cs ++ ['\'']))

end Accord.Sql
