import Accord.Program.Request

/-!
# Arguments

The program is called with the name of a request and what belongs to it: switches (`--yes`, `-y`),
options with a value (`--file x`, `--file=x`, `-f x`, `-fx`) and plain arguments.  Short switches
may be written together (`-vy`), and after `--` all arguments are plain.  Nothing may be given
twice.  Every argument is judged when it is met, so what comes first decides: a bad value before
`--help` is a misuse, a bad value behind it is not looked at.
-/

namespace Accord

/-- Why arguments are no request. -/
inductive NoRequest where
  /-- The arguments break the rules. -/
  | misuse
  | version
  | help
deriving DecidableEq, Repr

/-- A switch, or an option with a value. -/
structure ArgumentName where
  long : String
  short : Option Char
  /-- Which values an option takes; nothing for a switch. -/
  values : Option (String → Bool)

/-- What a request may be called with. -/
structure Form where
  names : List ArgumentName
  plain : List (String → Bool)

/-- The arguments that were met so far. -/
structure Arguments where
  /-- The switches, by their long names. -/
  switches : List String
  /-- The options with their values, by their long names. -/
  values : List (String × String)
  plain : List String
  /-- The option whose value is the next argument: its long name and the values that it takes. -/
  pending : Option (String × (String → Bool))
  /-- Whether all further arguments are plain. -/
  onlyPlain : Bool

namespace Arguments

/-- No arguments yet. -/
def none : Arguments := ⟨[], [], [], .none, false⟩

/-- Whether a switch is given. -/
def has (a : Arguments) (name : String) : Bool :=
  a.switches.contains name

/-- The value of an option, if it is given. -/
def value? (a : Arguments) (name : String) : Option String :=
  a.values.lookup name

/-- Takes a switch, once.  A call for help ends the reading. -/
def addSwitch (a : Arguments) (name : String) : Except NoRequest Arguments :=
  if name = "help" then .error .help
  else if a.has name then .error .misuse
  else .ok { a with switches := name :: a.switches }

/-- Takes an option with a value that it accepts, once. -/
def addValue (a : Arguments) (name : String) (accepts : String → Bool) (value : String) :
    Except NoRequest Arguments :=
  if (a.value? name).isSome ∨ !accepts value then .error .misuse
  else .ok { a with values := (name, value) :: a.values, pending := .none }

/-- Takes the next plain argument, if one more is due and it is acceptable. -/
def addPlain (form : Form) (a : Arguments) (s : String) : Except NoRequest Arguments :=
  match form.plain[a.plain.length]? with
  | some accepts =>
    if accepts s then .ok { a with plain := a.plain ++ [s] } else .error .misuse
  | .none => .error .misuse

/-- Takes a long switch or option, with or without a value after an equals sign. -/
def addLong (form : Form) (a : Arguments) (cs : List Char) : Except NoRequest Arguments :=
  let name := String.ofList (cs.takeWhile (· ≠ '='))
  let value := (cs.dropWhile (· ≠ '=')).tail?.map String.ofList
  match (form.names.find? fun n => n.long = name).map ArgumentName.values, value with
  | some (some accepts), some value => a.addValue name accepts value
  | some (some accepts), .none => .ok { a with pending := some (name, accepts) }
  | some .none, .none => a.addSwitch name
  | _, _ => .error .misuse

/-- Takes short switches, the last of which may be an option with its value. -/
def addShort (form : Form) (a : Arguments) : List Char → Except NoRequest Arguments
  | [] => .ok a
  | c :: rest =>
    match form.names.find? fun n => n.short = some c with
    | .none => .error .misuse
    | some n =>
      match n.values, rest with
      | some accepts, [] => .ok { a with pending := some (n.long, accepts) }
      | some accepts, '=' :: value => a.addValue n.long accepts (.ofList value)
      | some accepts, value => a.addValue n.long accepts (.ofList value)
      | .none, rest => do
        let a ← a.addSwitch n.long
        a.addShort form rest

/-- Takes one argument.  A switch is a misuse while a value is due; a lone hyphen is no switch. -/
def add (form : Form) (a : Arguments) (s : String) : Except NoRequest Arguments :=
  match a.onlyPlain, a.pending, s.toList with
  | true, .none, _ => a.addPlain form s
  | true, some _, _ => .error .misuse
  | false, some _, '-' :: _ :: _ => .error .misuse
  | false, some (name, accepts), _ => a.addValue name accepts s
  | false, .none, ['-', '-'] => .ok { a with onlyPlain := true }
  | false, .none, '-' :: '-' :: cs => a.addLong form cs
  | false, .none, '-' :: c :: cs => a.addShort form (c :: cs)
  | false, .none, _ => a.addPlain form s

/-- Takes all arguments.  At the end no value is due, and all plain arguments are there. -/
def ofList (form : Form) (args : List String) : Except NoRequest Arguments := do
  let a ← args.foldlM (add form) none
  if a.pending.isSome ∨ a.plain.length < form.plain.length then throw .misuse
  return a

end Arguments

/-! ## Requests -/

namespace Request

/-- A switch with a long name only. -/
def switch (long : String) : ArgumentName := ⟨long, none, none⟩

/-- An option with any text as its value and a long name only. -/
def option (long : String) : ArgumentName := ⟨long, none, some fun _ => true⟩

/-- The switches that every request has. -/
def common : List ArgumentName := [⟨"verbose", some 'v', none⟩, ⟨"help", some 'h', none⟩]

/-- The options and switches that choose a server, and those of every request. -/
def targetNames : List ArgumentName := [option "profile", switch "readonly"] ++ common

/-- The option that names a document, by a path that is not empty. -/
def fileName : ArgumentName := ⟨"file", some 'f', some fun path => decide (path ≠ "")⟩

/-- The plain arguments that name an object: a kind and an identity. -/
def objectNames : List (String → Bool) :=
  [fun kind => (Kind.ofArgument? kind).isSome, fun _ => true]

/-- The server that is named. -/
def target (a : Arguments) : Target :=
  ⟨a.value? "profile", a.has "readonly"⟩

/-- Digits without a sign. -/
def natural? (digits : List Char) : Option Nat :=
  if digits.isEmpty ∨ !digits.all Char.isDigit then none
  else some (digits.foldl (fun n c => n * 10 + (c.toNat - 48)) 0)

/-- The number of a port, written with or without a sign. -/
def port? (s : String) : Option Nat :=
  let port : Option Nat := match s.toList with
    | '+' :: digits => natural? digits
    | '-' :: digits => (natural? digits).filter (· = 0)
    | digits => natural? digits
  port.filter (· < UInt16.size)

/-- Fails if there is nothing. -/
def demand {α : Type} : Option α → Except NoRequest α
  | some a => .ok a
  | none => .error .misuse

/-- The path of a document. -/
def file (a : Arguments) : Except NoRequest String :=
  demand (a.value? "file")

/-- The object that the plain arguments name. -/
def object (a : Arguments) : Except NoRequest (Kind × String) :=
  match a.plain with
  | [kind, id] => do return (← demand (Kind.ofArgument? kind), id)
  | _ => .error .misuse

/-- What a request to connect may be called with. -/
def connectForm : Form where
  names := [option "name", option "host", ⟨"port", none, some fun s => (port? s).isSome⟩,
    option "user", option "database", option "password-env", switch "readonly", switch "global"]
    ++ common
  plain := []

/-- Reads a request to connect; what it leaves out, but for the user, has a usual value. -/
def ofConnect (args : List String) : Except NoRequest Request := do
  let a ← Arguments.ofList connectForm args
  let port ← demand (port? ((a.value? "port").getD "5432"))
  let user ← demand (a.value? "user")
  let config : Connection := {
    host := (a.value? "host").getD "localhost"
    port, user
    password := none
    database := (a.value? "database").getD "postgres" }
  return .connect ((a.value? "name").getD "default")
    ⟨config, a.value? "password-env", if a.has "readonly" then some true else none⟩
    (if a.has "global" then .user else .project)

/-- What a request to delete an object may be called with. -/
def deleteForm : Form where
  names := [⟨"yes", some 'y', none⟩, switch "cascade", switch "skip-reassign-owned",
    switch "skip-drop-role"] ++ targetNames
  plain := objectNames

/-- Reads a request to delete an object. -/
def ofDelete (args : List String) : Except NoRequest Request := do
  let a ← Arguments.ofList deleteForm args
  let (kind, id) ← object a
  return .delete (target a) {
    kind, id
    confirmed := a.has "yes"
    cascade := a.has "cascade"
    role := ⟨a.has "skip-reassign-owned", a.has "skip-drop-role"⟩ }

/-- The requests by their names, each with the reader of its arguments. -/
def readers : List (String × (List String → Except NoRequest Request)) := [
  ("connect", ofConnect),
  ("plan", fun args => do
    let a ← Arguments.ofList ⟨fileName :: targetNames, []⟩ args
    return .plan (target a) (← file a)),
  ("apply", fun args => do
    let a ← Arguments.ofList ⟨fileName :: targetNames, []⟩ args
    return .apply (target a) (← file a)),
  ("read", fun args => do
    let a ← Arguments.ofList ⟨targetNames, objectNames⟩ args
    let (kind, id) ← object a
    return .read (target a) kind id),
  ("delete", ofDelete),
  ("schema", fun args => do
    let _ ← Arguments.ofList ⟨common, []⟩ args
    return .schema)]

/-- Reads the short switches before the name of a request. -/
def leadingShort (verbose : Bool) : List Char → Except NoRequest Bool
  | [] => .ok verbose
  | 'V' :: _ => .error .version
  | 'h' :: _ => .error .help
  | 'v' :: rest => if verbose then .error .misuse else leadingShort true rest
  | _ => .error .misuse

/-- Reads a switch before the name of a request. -/
def leading (verbose : Bool) (s : String) : Except NoRequest Bool :=
  match s.toList with
  | '-' :: '-' :: _ =>
    if s = "--version" then .error .version
    else if s = "--help" then .error .help
    else if s = "--verbose" ∧ !verbose then .ok true
    else .error .misuse
  | '-' :: c :: rest => leadingShort verbose (c :: rest)
  | _ => .error .misuse

/-- What comes of asking for help on something. -/
def helpOn : List String → NoRequest
  | [] => .help
  | [name] => if name = "help" ∨ (readers.lookup name).isSome then .help else .misuse
  | _ => .misuse

/-- Reads the arguments from the first one that may be the name of a request. -/
def ofArguments (verbose : Bool) : List String → Except NoRequest Request
  | [] => .error .misuse
  | s :: rest =>
    match readers.lookup s with
    | some reader => reader rest
    | none =>
      if s = "help" then .error (helpOn rest)
      else do
        let verbose ← leading verbose s
        ofArguments verbose rest

/-- The request that the arguments of the program make. -/
def parse (args : List String) : Except NoRequest Request :=
  ofArguments false args

end Request

end Accord
