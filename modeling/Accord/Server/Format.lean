import Accord.Json.Decoder
import Accord.Server.Feature

/-!
# Features in documents

How features are read from JSON and written to it.
-/

namespace Accord.Feature

/-- Reads a feature by its name. -/
def decoder : Decoder Feature :=
  Decoder.enumeration (all.map fun f => (f.name, f))

/-- Writes a feature by its name. -/
def toJson (f : Feature) : Json := .text f.name

end Accord.Feature
