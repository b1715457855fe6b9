import Accord.Json.Draft
import Accord.Ordered.Map

/-!
# Decoders

A decoder takes a value of some type out of a draft, walking it in the order of the text.  Records
are described by their fields: each field says how its value is read and where it goes, and
`Decoder.record` does the rest, for objects as well as for arrays of the fields in their order.
-/

namespace Accord

/-- Where a draft comes from: a text, whose lists and objects may be nested only so deep, or a
value that was read before. -/
inductive Source where
  | text (room : Nat)
  | value

/-- The source inside one more list or object. -/
def Source.enter : Source → Except Problem Source
  | .value => .ok .value
  | .text room => if room ≤ 1 then .error .tooDeep else .ok (.text (room - 1))

/-- Takes a value out of a draft. -/
abbrev Decoder (α : Type) := Source → Draft → Except Problem α

/-- Fails if there is a problem. -/
def refuse? : Option Problem → Except Problem Unit
  | none => .ok ()
  | some p => .error p

namespace Decoder

/-- A text. -/
def text : Decoder String := fun _ d =>
  match d with
  | .text s => s
  | d => .error (d.mismatch "a string")

/-- A truth value. -/
def bool : Decoder Bool := fun _ d =>
  match d with
  | .bool b => .ok b
  | d => .error (d.mismatch "a boolean")

/-- An integer from `low` to `high`; `type` is the name of that range. -/
def integer (type : String) (low high : Int) : Decoder Int := fun _ d =>
  match d with
  | .number (.ok (.integer i)) =>
    if low ≤ i ∧ i ≤ high then .ok i else .error (.wrongValue (.number (.integer i)) type)
  | d => .error (d.mismatch type)

/-- An integer of 32 bits. -/
def int32 : Decoder Int :=
  integer "i32" (-2147483648) 2147483647

/-- A natural number of 16 bits. -/
def port : Decoder Nat := fun s d =>
  (integer "u16" 0 65535 s d).map Int.toNat

/-- A natural number of 64 bits. -/
def natural64 : Decoder Nat := fun s d =>
  (integer "u64" 0 18446744073709551615 s d).map Int.toNat

/-- A natural number that counts things. -/
def count : Decoder Nat := fun s d =>
  (integer "usize" 0 18446744073709551615 s d).map Int.toNat

/-- Null for nothing. -/
def option {α : Type} (item : Decoder α) : Decoder (Option α) := fun s d =>
  match d with
  | .null => .ok none
  | d => (item s d).map some

/-- The items of a list, each taken by the same decoder. -/
def items {α : Type} (item : Decoder α) (s : Source) (l : List Draft) : Except Problem (List α) :=
  l.mapM (item s)

/-- A list; its items come before what is wrong with its end. -/
def list {α : Type} (item : Decoder α) : Decoder (List α) := fun s d =>
  match d with
  | .array l ending => do
    let s ← s.enter
    let l ← items item s l
    refuse? ending.listProblem
    return l
  | d => .error (d.mismatch "a sequence")

/-- A set, written as a list in any order and with any repetition. -/
def set {α : Type} [Ord α] [Std.TransOrd α] [Std.LawfulEqOrd α] (item : Decoder α) :
    Decoder (OrderedSet α) := fun s d =>
  (list item s d).map OrderedSet.ofList

/-- The members of an object, each value taken by the same decoder. -/
def members {β : Type} (item : Decoder β) (s : Source) :
    List (Except Problem String × Draft) → Except Problem (List (String × β))
  | [] => .ok []
  | (name, d) :: r => do
    let name ← name
    let v ← item s d
    let r ← members item s r
    return (name, v) :: r

/-- A map from texts; the last value for a key stands. -/
def map {β : Type} (item : Decoder β) : Decoder (OrderedMap String β) := fun s d =>
  match d with
  | .object l ending => do
    let s ← s.enter
    let l ← members item s l
    refuse? ending.objectProblem
    return .ofList l
  | d => .error (d.mismatch "a map")

/-! ## Any value -/

mutual

/-- Any JSON value.  The members of its objects come in the order of their names. -/
def json (s : Source) : Draft → Except Problem Json
  | .null => .ok .null
  | .bool b => .ok (.bool b)
  | .number n => n.map .number
  | .text t => t.map .text
  | .broken b => .error b.read
  | .array l ending => do
    let s ← s.enter
    let l ← jsonItems s l
    refuse? ending.listProblem
    return .array l
  | .object l ending => do
    let s ← s.enter
    let l ← jsonMembers s l
    refuse? ending.objectProblem
    return .object (OrderedMap.ofList l).entries

/-- The elements of any array. -/
def jsonItems (s : Source) : List Draft → Except Problem (List Json)
  | [] => .ok []
  | d :: r => do
    let v ← json s d
    let r ← jsonItems s r
    return v :: r

/-- The members of any object, in the order of the text. -/
def jsonMembers (s : Source) :
    List (Except Problem String × Draft) → Except Problem (List (String × Json))
  | [] => .ok []
  | (name, d) :: r => do
    let name ← name
    let v ← json s d
    let r ← jsonMembers s r
    return (name, v) :: r

end

/-! ## Enumerations -/

/-- One of several names. -/
def variant {α : Type} (variants : List (String × α)) (name : String) : Except Problem α :=
  match variants.lookup name with
  | some v => .ok v
  | none => .error (.unknownVariant name (variants.map Prod.fst))

/-- Null, which is what a variant without content carries. -/
def nothing (d : Draft) : Except Problem Unit :=
  match d with
  | .null => .ok ()
  | d => .error (d.mismatch "unit")

/-- One of several names, as a text or as the only member of an object with null as its value. -/
def enumeration {α : Type} (variants : List (String × α)) : Decoder α := fun s d =>
  match s, d with
  | _, .text name => do variant variants (← name)
  | .value, .object [(name, d)] _ => do
    let v ← variant variants (← name)
    nothing d
    return v
  | .value, .object _ _ => .error (.wrongValue .map "map with a single key")
  | .value, d => .error (d.mismatch "string or map")
  | .text room, .object l ending => do
    let _ ← (Source.text room).enter
    match l, ending with
    | (name, d) :: r, ending => do
      let v ← variant variants (← name)
      nothing d
      match r, ending with
      | [], .closed => return v
      | [], .cut => .error .endInObject
      | _, _ => .error .noValue
    | [], .brokenName read _ => .error read
    | [], .noName => .error .nameNotText
    | [], .closed => .error .noValue
    | [], _ => .error .endInObject
  | .text _, .broken b => .error b.name
  | .text _, _ => .error .noValue

/-! ## Records -/

/-- When a field may be left out. -/
inductive Presence where
  | required
  /-- In an object, but not in an array. -/
  | optional
  /-- In an object, and at the end of an array. -/
  | defaulted
deriving DecidableEq

/-- A field of a record of type `ρ`. -/
structure Field (ρ : Type) where
  /-- The name of the field in an object. -/
  name : String
  /-- When it may be left out. -/
  presence : Presence
  /-- Reads the value of the field into the record. -/
  put : Source → Draft → ρ → Except Problem ρ

/-- A field with a value of type `α`, read by `item` and stored by `store`. -/
def field {ρ α : Type} (name : String) (presence : Presence) (item : Decoder α)
    (store : α → ρ → ρ) : Field ρ where
  name := name
  presence := presence
  put s d r := (item s d).map fun v => store v r

/-- Reads the members of an object into a record; gives the record and the names of the fields that
were there. -/
def fieldMembers {ρ : Type} (fields : List (Field ρ)) (closed : Bool) (s : Source) :
    List (Except Problem String × Draft) → ρ → List String → Except Problem (ρ × List String)
  | [], r, seen => .ok (r, seen)
  | (name, d) :: rest, r, seen => do
    let name ← name
    match fields.find? fun f => f.name == name with
    | some f =>
      if seen.contains name then .error (.duplicateField name)
      else fieldMembers fields closed s rest (← f.put s d r) (name :: seen)
    | none =>
      if closed then .error (.unknownField name (fields.map Field.name))
      else
        refuse? d.skip
        fieldMembers fields closed s rest r seen

/-- The first field that is missing although it is required. -/
def missing? {ρ : Type} (fields : List (Field ρ)) (seen : List String) : Option Problem :=
  (fields.find? fun f => f.presence = .required && !seen.contains f.name).map fun f =>
    .missingField f.name

/-- Reads the elements of an array into the fields of a record, one after the other; gives the
record, the elements left over and the fields left over. -/
def fieldItems {ρ : Type} (s : Source) :
    List (Field ρ) → List Draft → ρ → Except Problem (ρ × List Draft × List (Field ρ))
  | [], l, r => .ok (r, l, [])
  | fields, [], r => .ok (r, [], fields)
  | f :: fields, d :: l, r => do fieldItems s fields l (← f.put s d r)

/-- The length of an array that a record expects. -/
def arity (title : String) (n : Nat) : String :=
  "struct " ++ title ++ " with " ++ toString n ++ (if n = 1 then " element" else " elements")

/-- A record.  `start` holds the values of the fields that are left out; a `closed` record refuses
fields that it does not have. -/
def record {ρ : Type} (title : String) (start : ρ) (fields : List (Field ρ))
    (closed : Bool) : Decoder ρ := fun s d =>
  match d with
  | .object l ending => do
    let s ← s.enter
    let (r, seen) ← fieldMembers fields closed s l start []
    refuse? ending.objectProblem
    refuse? (missing? fields seen)
    return r
  | .array l ending => do
    let inner ← s.enter
    let (r, extra, left) ← fieldItems inner fields l start
    match left with
    | f :: left =>
      refuse? ending.listProblem
      if (f :: left).all fun f => f.presence = .defaulted then return r
      else
        let got := (fields.length - (f :: left).length)
          + ((f :: left).takeWhile fun f => f.presence = .defaulted).length
        .error (.wrongLength got (arity title fields.length))
    | [] =>
      match s, extra with
      | .value, [] => return r
      | .value, _ => .error (.wrongLength l.length "fewer elements in array")
      | .text _, [] => do
        refuse? ending.closeProblem
        return r
      | .text _, _ => .error .trailingCharacters
  | d => .error (d.mismatch ("struct " ++ title))

/-! ## Whole documents -/

/-- How deep lists and objects of a text may be nested. -/
def depthLimit : Nat := 128

/-- Reads a text, which must hold one value and nothing after it. -/
def ofText {α : Type} (item : Decoder α) (text : String) : Except Problem α := do
  let (d, rest) := Draft.ofText text
  let v ← item (.text depthLimit) d
  refuse? (Draft.trailing? rest)
  return v

/-- Reads a value. -/
def ofJson {α : Type} (item : Decoder α) (v : Json) : Except Problem α :=
  item .value (Draft.ofJson v)

end Decoder

end Accord
