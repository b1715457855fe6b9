import Accord.Document.Outline
import Accord.Lifecycle.Document
import Accord.Program.Envelope
import Accord.Program.Request

/-!
# Runs of the program

What the program does for a request.  Everything it needs is given: the files, the environment, and
for each connection a server.  Nobody can be asked for a password or a confirmation.
-/

namespace Accord

/-- Where the program runs. -/
structure Workplace where
  files : Files
  /-- The path of the current directory, which is the project. -/
  directory : String
  environment : Environment

/-- Why a run fails. -/
inductive Failure where
  | error (cause : Error)
  /-- Someone would have to be asked for something. -/
  | nobodyToAsk (what : String)
deriving DecidableEq

/-- The code and the wording of a failure. -/
def Failure.coded : Failure → CodedMessage
  | .error cause => ⟨cause.code, cause.message⟩
  | .nobodyToAsk what =>
    ⟨"CLI_ERROR", "could not read " ++ what ++ ": IO error: not a terminal: not a terminal"⟩

/-- The result of a run. -/
structure Report where
  data : Json
  /-- How many statements were committed, if that is worth saying. -/
  applied : Option Nat
  files : Files

/-- A run of the program, with a server whose states are of type `σ`. -/
abbrev Program (σ : Type) := ExceptT Failure (StateM σ)

/-- An outcome as a run without any effect. -/
def Program.ofExcept {σ α : Type} : Except Error α → Program σ α
  | .ok a => pure a
  | .error e => throw (.error e)

instance {σ : Type} : MonadLift (Except Error) (Program σ) where
  monadLift := Program.ofExcept

/-- The failure of a run in which an operation comes to no result. -/
def Halt.failure : Halt → Failure
  | .failed e => .error e
  | .waiting => .error (.lock "held by another operation")

instance {σ : Type} : MonadLift (Run σ) (Program σ) where
  monadLift r := ExceptT.mk (r.run.map fun x => x.mapError Halt.failure)

/-- A server that is only asked for sessions with all that a connection needs. -/
def Server.checked {σ : Type} (server : Server σ) (config : Connection) : Server σ :=
  { server with
    connect := fun database s =>
      match config.check database with
      | .error e => (.error e, s)
      | .ok () => server.connect database s }

namespace Workplace

variable {σ : Type}

/-- The connection of a profile, and whether nothing may be changed through it. -/
def resolve (w : Workplace) (profile : Option String) : Except Error (Connection × Bool) := do
  let profiles ← w.files.loadProfiles w.directory (← globalPath w.environment)
  let (_, stored) ← profiles.get profile
  stored.resolve w.environment

/-- The document in a file. -/
def document (w : Workplace) (file : String) : Except Error Document := do
  match w.files.readText file with
  | .ok text => Document.parse text
  | .error p => .error (.config (.cannotRead file p.message))

/-- Connects to the server of a target.  It may not be changed if the profile or the request says
so. -/
def connect (w : Workplace) (reach : Connection → Server σ) (target : Target) :
    Program σ (Context σ) := do
  let (config, readOnly) ← w.resolve target.profile
  let ctx ← Context.connect ((reach config).checked config)
  return { ctx with readOnly := readOnly || target.readOnly }

end Workplace

/-! ## Requests -/

namespace Kind

variable {σ : Type}

/-- Reads an object and writes it; null if there is none. -/
def read (kind : Kind) (ctx : Context σ) (id : String) : Run σ Json :=
  match kind with
  | .role => do return Json.ofOption Lifecycle.roles.toJson (← Lifecycle.roles.read ctx id none)
  | .schema => do
    return Json.ofOption Lifecycle.schemas.toJson (← Lifecycle.schemas.read ctx id none)
  | .rule => do return Json.ofOption Lifecycle.rules.toJson (← Lifecycle.rules.read ctx id none)
  | .extension => do
    return Json.ofOption Lifecycle.extensions.toJson (← Lifecycle.extensions.read ctx id none)

end Kind

/-- Deletes the object.  Each kind takes its own options, and only roles and schemas have any. -/
def Deletion.run {σ : Type} (d : Deletion) (ctx : Context σ) : Run σ Unit :=
  match d.kind with
  | .role => Lifecycle.roles.delete ctx d.id d.role
  | .schema => Lifecycle.schemas.delete ctx d.id ⟨d.cascade⟩
  | .rule => Lifecycle.rules.delete ctx d.id ()
  | .extension => Lifecycle.extensions.delete ctx d.id ()

/-- Does what a request asks for.  `reach` gives the server of a connection. -/
def Request.run {σ : Type} (w : Workplace) (reach : Connection → Server σ) :
    Request → Program σ Report
  | .connect name stored scope => do
    let (config, _) ← stored.resolve w.environment
    if config.password.isNone then throw (.nobodyToAsk "password")
    let ctx ← Context.connect ((reach config).checked config)
    let (saved, files) :=
      w.files.saveProfile w.directory (← globalPath w.environment) name stored scope
    let path ← saved
    let data : Json := .object [("profile", .text name), ("saved_to", .text path),
      ("server", ctx.facts.toJson)]
    return ⟨data, none, files⟩
  | .plan target file => do
    let desired ← w.document file
    let ctx ← w.connect reach target
    let changes ← desired.plan ctx
    let data : Json := .object [("converged", .bool changes.isEmpty),
      ("changes", .array (changes.map PlannedObject.toJson))]
    return ⟨data, none, w.files⟩
  | .apply target file => do
    let desired ← w.document file
    let ctx ← w.connect reach target
    let results ← desired.apply ctx
    let data : Json := .object [("converged", .bool (results.all fun r => r.drift.isEmpty)),
      ("results", .array (results.map AppliedObject.toJson))]
    return ⟨data, some (results.foldl (fun n r => n + r.applied) 0), w.files⟩
  | .read target kind id => do
    let ctx ← w.connect reach target
    let observed ← kind.read ctx id
    let data : Json := .object [("id", .text id), ("exists", .bool !observed.isNull),
      ("observed", observed)]
    return ⟨data, none, w.files⟩
  | .delete target d => do
    let ctx ← w.connect reach target
    ctx.requireWritable
    if !d.confirmed then throw (.nobodyToAsk "confirmation")
    d.run ctx
    return ⟨.object [("id", .text d.id), ("deleted", .bool true)], none, w.files⟩
  | .schema => return ⟨Document.jsonSchema, none, w.files⟩

/-- What the program prints for a run that took some milliseconds, and whether it succeeded. -/
def Request.envelope (r : Request) (milliseconds : Nat) : Except Failure Report → Json × Bool
  | .ok report =>
    ((ResultEnvelope.ofResult r.command report.data ⟨milliseconds, report.applied⟩).toJson, true)
  | .error f => (FailureEnvelope.toJson ⟨false, r.command, f.coded⟩, false)

end Accord
