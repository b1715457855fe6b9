import Accord.Json.Literal

/-!
# Drafts

A draft is what can be made out of a JSON text from left to right: the values up to the first
break of the rules, and how the text goes on there.  Reading a draft never fails; whoever needs a
value walks the draft in the order of the text and meets a wrong type or the break, whichever
comes first.

A break can have several names: one for a reader who needs the value (`Draft.found`,
`Ending.listProblem`, …), one for a reader who only passes over it (`Draft.skip`), and one for a
reader who needs one of a few given names.
-/

namespace Accord

/-- What is wrong with something that is no value. -/
structure Break where
  /-- For a reader who needs the value. -/
  read : Problem
  /-- For a reader who passes over it. -/
  skip : Problem
  /-- For a reader who needs one of a few given names. -/
  name : Problem

/-- How a list or an object goes on after its last member. -/
inductive Ending where
  | closed
  /-- The text ends where a comma or the closing bracket may stand. -/
  | cut
  | commaClosed
  /-- With a comma, after which the text ends. -/
  | commaCut
  /-- With a character that is neither a comma nor the closing bracket. -/
  | unexpected
  /-- With something that is no string where the name of a member is due. -/
  | noName
  /-- With a broken string where the name of a member is due. -/
  | brokenName (read skip : Problem)
  /-- Not at all: the last member is broken. -/
  | unfinished

/-- A JSON value as far as it can be read. -/
inductive Draft where
  | null
  | bool (b : Bool)
  /-- A well-formed number, which may still be too large. -/
  | number (n : Except Problem Number)
  /-- A well-formed string, which may still hold half of an escaped pair. -/
  | text (s : Except Problem String)
  /-- Something that is no value. -/
  | broken (b : Break)
  | array (items : List Draft) (ending : Ending)
  /-- The names of members may hold half of an escaped pair as well. -/
  | object (members : List (Except Problem String × Draft)) (ending : Ending)

instance : Inhabited Draft := ⟨.null⟩

namespace Draft

/-- A break that has the same name for everyone. -/
def brokenBy (p : Problem) : Draft := .broken ⟨p, p, p⟩

/-- A break in something that starts like a value other than a text. -/
def brokenScalar (read skip : Problem) : Draft := .broken ⟨read, skip, .noValue⟩

/-- A break in a text, which is no different for a reader who needs one of a few given names. -/
def brokenText (read skip : Problem) : Draft := .broken ⟨read, skip, read⟩

/-- What stands here, for a reader who needs a value of another type. -/
def found : Draft → Except Problem Found
  | .null => .ok .null
  | .bool b => .ok (.bool b)
  | .number n => n.map .number
  | .text s => s.map .text
  | .broken b => .error b.read
  | .array _ _ => .ok .sequence
  | .object _ _ => .ok .map

/-- The problem of a reader who needs a value of another type. -/
def mismatch (d : Draft) (expected : String) : Problem :=
  match d.found with
  | .ok found => .wrongType found expected
  | .error p => p

/-! ## Reading a text -/

/-- The rest of a word such as `true`, and what follows it. -/
def takeWord : List Char → List Char → Except Problem (List Char)
  | [], cs => .ok cs
  | _ :: _, [] => .error .endInValue
  | w :: ws, c :: cs => if c = w then takeWord ws cs else .error .badWord

/-- The draft of a word whose first letter is behind. -/
def word (rest : List Char) (value : Draft) (cs : List Char) : Draft × Option (List Char) :=
  match takeWord rest cs with
  | .ok r => (value, some r)
  | .error p => (brokenScalar p p, none)

/-- The draft of a number, whose first character is a minus sign or a digit. -/
def numeral (cs : List Char) : Draft × Option (List Char) :=
  match Json.takeNumber cs with
  | .ok (form, r) => (.number form.number, some r)
  | .error .atEnd => (brokenScalar .endInValue .badNumber, none)
  | .error .atChar => (brokenScalar .badNumber .badNumber, none)

/-- The draft of a string whose opening quote is behind. -/
def string (cs : List Char) : Draft × Option (List Char) :=
  match Json.skipString cs with
  | .ok r => (.text (Json.readText cs), some r)
  | .error skip =>
    match Json.readText cs with
    | .ok _ => (brokenBy skip, none)
    | .error read => (brokenText read skip, none)

/-- The draft of a value that is neither a list nor an object. -/
def scalar : List Char → Draft × Option (List Char)
  | [] => (brokenBy .endInValue, none)
  | c :: r =>
    if c = '"' then string r
    else if c = 'n' then word ['u', 'l', 'l'] .null r
    else if c = 't' then word ['r', 'u', 'e'] (.bool true) r
    else if c = 'f' then word ['a', 'l', 's', 'e'] (.bool false) r
    else if c = '-' || c.isDigit then numeral (c :: r)
    else (brokenBy .noValue, none)

mutual

/-- The draft of the value that starts here, and the text after it unless it is broken. -/
def value : Nat → List Char → Draft × Option (List Char)
  | 0, _ => (brokenBy .endInValue, none)
  | fuel + 1, cs =>
    match Json.skipSpace cs with
    | '[' :: r =>
      let (l, ending, rest) := items fuel true r
      (.array l ending, rest)
    | '\x7b' :: r =>
      let (l, ending, rest) := members fuel true r
      (.object l ending, rest)
    | cs => scalar cs

/-- The elements of a list from here on. -/
def items : Nat → Bool → List Char → List Draft × Ending × Option (List Char)
  | 0, _, _ => ([], .unfinished, none)
  | fuel + 1, first, cs =>
    match Json.skipSpace cs with
    | [] => ([], .cut, none)
    | ']' :: r => ([], .closed, some r)
    | c :: r =>
      if first then element fuel (c :: r)
      else if c = ',' then
        match Json.skipSpace r with
        | [] => ([], .commaCut, none)
        | ']' :: _ => ([], .commaClosed, none)
        | r => element fuel r
      else ([], .unexpected, none)

/-- One element of a list and those after it. -/
def element : Nat → List Char → List Draft × Ending × Option (List Char)
  | 0, _ => ([], .unfinished, none)
  | fuel + 1, cs =>
    match value fuel cs with
    | (d, none) => ([d], .unfinished, none)
    | (d, some r) =>
      let (l, ending, rest) := items fuel false r
      (d :: l, ending, rest)

/-- The members of an object from here on. -/
def members : Nat → Bool → List Char →
    List (Except Problem String × Draft) × Ending × Option (List Char)
  | 0, _, _ => ([], .unfinished, none)
  | fuel + 1, first, cs =>
    match Json.skipSpace cs with
    | [] => ([], .cut, none)
    | '\x7d' :: r => ([], .closed, some r)
    | c :: r =>
      if first then member fuel (c :: r)
      else if c = ',' then
        match Json.skipSpace r with
        | [] => ([], .commaCut, none)
        | '\x7d' :: _ => ([], .commaClosed, none)
        | r => member fuel r
      else ([], .unexpected, none)

/-- One member of an object and those after it. -/
def member : Nat → List Char →
    List (Except Problem String × Draft) × Ending × Option (List Char)
  | 0, _ => ([], .unfinished, none)
  | fuel + 1, cs =>
    match cs with
    | '"' :: r =>
      match string r with
      | (.text name, some r) =>
        match Json.skipSpace r with
        | ':' :: r =>
          match value fuel r with
          | (d, none) => ([(name, d)], .unfinished, none)
          | (d, some r) =>
            let (l, ending, rest) := members fuel false r
            ((name, d) :: l, ending, rest)
        | [] => ([(name, brokenBy .endInObject)], .unfinished, none)
        | _ => ([(name, brokenBy .noColon)], .unfinished, none)
      | (.broken b, _) => ([], .brokenName b.read b.skip, none)
      | _ => ([], .unfinished, none)
    | _ => ([], .noName, none)

end

/-- The draft of a text, and what follows the value.  Every step of the reading passes over a
character or is followed by one that does, so three steps a character are enough. -/
def ofText (s : String) : Draft × Option (List Char) :=
  let cs := s.toList
  value (3 * cs.length + 3) cs

/-- The problem of a text that goes on after its value. -/
def trailing? : Option (List Char) → Option Problem
  | none => none
  | some cs => if (Json.skipSpace cs).isEmpty then none else some .trailingCharacters

/-! ## Drafts of values -/

mutual

/-- The draft of a value that is already read. -/
def ofJson : Json → Draft
  | .null => .null
  | .bool b => .bool b
  | .number n => .number (.ok n)
  | .text s => .text (.ok s)
  | .array items => .array (ofItems items) .closed
  | .object members => .object (ofMembers members) .closed

/-- The drafts of the elements of an array. -/
def ofItems : List Json → List Draft
  | [] => []
  | v :: r => ofJson v :: ofItems r

/-- The drafts of the members of an object. -/
def ofMembers : List (String × Json) → List (Except Problem String × Draft)
  | [] => []
  | (k, v) :: r => (.ok k, ofJson v) :: ofMembers r

end

end Draft

/-! ## What an ending means -/

/-- The problem of a reader who needs all elements of a list. -/
def Ending.listProblem : Ending → Option Problem
  | .closed => none
  | .cut => some .endInList
  | .commaClosed => some .trailingComma
  | .commaCut => some .endInValue
  | .unexpected => some .noListEnd
  | _ => some .endInValue

/-- The problem of a reader who needs all members of an object. -/
def Ending.objectProblem : Ending → Option Problem
  | .closed => none
  | .cut => some .endInObject
  | .commaClosed => some .trailingComma
  | .commaCut => some .endInValue
  | .unexpected => some .noObjectEnd
  | .noName => some .nameNotText
  | .brokenName read _ => some read
  | .unfinished => some .endInValue

/-- The problem of a reader who has all elements of a list that there may be. -/
def Ending.closeProblem : Ending → Option Problem
  | .closed => none
  | .cut => some .endInList
  | .commaClosed => some .trailingComma
  | _ => some .trailingCharacters

/-- The problem of a reader who passes over a list. -/
def Ending.skipListProblem : Ending → Option Problem
  | .closed => none
  | .cut => some .endInList
  | .commaClosed => some .noValue
  | .commaCut => some .endInValue
  | .unexpected => some .noListEnd
  | _ => none

/-- The problem of a reader who passes over an object. -/
def Ending.skipObjectProblem : Ending → Option Problem
  | .closed => none
  | .cut => some .endInObject
  | .commaClosed => some .nameNotText
  | .commaCut => some .endInObject
  | .unexpected => some .noObjectEnd
  | .noName => some .nameNotText
  | .brokenName _ skip => some skip
  | .unfinished => none

mutual

/-- The problem of a reader who passes over the value. -/
def Draft.skip : Draft → Option Problem
  | .null | .bool _ | .number _ | .text _ => none
  | .broken b => some b.skip
  | .array items ending => (Draft.skipItems items).orElse fun _ => ending.skipListProblem
  | .object members ending => (Draft.skipMembers members).orElse fun _ => ending.skipObjectProblem

/-- The first problem among elements that are passed over. -/
def Draft.skipItems : List Draft → Option Problem
  | [] => none
  | d :: r => d.skip.orElse fun _ => Draft.skipItems r

/-- The first problem among members that are passed over. -/
def Draft.skipMembers : List (Except Problem String × Draft) → Option Problem
  | [] => none
  | (_, d) :: r => d.skip.orElse fun _ => Draft.skipMembers r

end

end Accord
