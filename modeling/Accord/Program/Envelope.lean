import Accord.Json.Decoder
import Accord.Error

/-!
# Envelopes

The program prints one envelope for each run: what came of a success, or the code and the wording of
an error.
-/

namespace Accord

open Decoder (field record)

/-- What is said about a run beside its result. -/
structure RunNotes where
  /-- How long the run took, in milliseconds. -/
  milliseconds : Nat
  /-- How many statements were committed, for runs that commit any. -/
  statementsApplied : Option Nat
deriving DecidableEq

/-- What is printed for a run that succeeds. -/
structure ResultEnvelope where
  ok : Bool
  command : String
  data : Json
  metadata : RunNotes

/-- The code and the wording of an error. -/
structure CodedMessage where
  code : String
  message : String
deriving DecidableEq

/-- What is printed for a run that fails. -/
structure FailureEnvelope where
  ok : Bool
  command : String
  error : CodedMessage
deriving DecidableEq

namespace RunNotes

/-- Reads metadata. -/
def decoder : Decoder RunNotes :=
  record "Metadata" ⟨0, none⟩ [
    field "execution_ms" .required .natural64 fun v m => { m with milliseconds := v },
    field "statements_applied" .optional (.option .count)
      fun v m => { m with statementsApplied := v }] false

/-- Writes metadata. -/
def toJson (m : RunNotes) : Json :=
  .object (
    [("execution_ms", .int m.milliseconds)]
    ++ Json.optionalMember "statements_applied" (fun n : Nat => .int n) m.statementsApplied)

end RunNotes

namespace ResultEnvelope

/-- The envelope of a success. -/
def ofResult (command : String) (data : Json) (metadata : RunNotes) : ResultEnvelope :=
  ⟨true, command, data, metadata⟩

/-- Reads the envelope of a success. -/
def decoder : Decoder ResultEnvelope :=
  record "SuccessEnvelope" ⟨false, "", .null, ⟨0, none⟩⟩ [
    field "ok" .required .bool fun v e => { e with ok := v },
    field "command" .required .text fun v e => { e with command := v },
    field "data" .required Decoder.json fun v e => { e with data := v },
    field "meta" .required RunNotes.decoder fun v e => { e with metadata := v }] false

/-- Writes the envelope of a success. -/
def toJson (e : ResultEnvelope) : Json :=
  .object [("ok", .bool e.ok), ("command", .text e.command), ("data", e.data),
    ("meta", e.metadata.toJson)]

end ResultEnvelope

namespace CodedMessage

/-- Reads a code and a wording. -/
def decoder : Decoder CodedMessage :=
  record "ErrorInfo" ⟨"", ""⟩ [
    field "code" .required .text fun v e => { e with code := v },
    field "message" .required .text fun v e => { e with message := v }] false

/-- Writes a code and a wording. -/
def toJson (e : CodedMessage) : Json :=
  .object [("code", .text e.code), ("message", .text e.message)]

end CodedMessage

namespace FailureEnvelope

/-- The envelope of an error. -/
def ofError (command : String) (e : Error) : FailureEnvelope :=
  ⟨false, command, ⟨e.code, e.message⟩⟩

/-- Reads the envelope of an error. -/
def decoder : Decoder FailureEnvelope :=
  record "ErrorEnvelope" ⟨false, "", ⟨"", ""⟩⟩ [
    field "ok" .required .bool fun v e => { e with ok := v },
    field "command" .required .text fun v e => { e with command := v },
    field "error" .required CodedMessage.decoder fun v e => { e with error := v }] false

/-- Writes the envelope of an error. -/
def toJson (e : FailureEnvelope) : Json :=
  .object [("ok", .bool e.ok), ("command", .text e.command), ("error", e.error.toJson)]

end FailureEnvelope

end Accord
