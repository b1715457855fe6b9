import Accord.Document.Basic
import Accord.Proofs.Json.Decoder
import Accord.Proofs.Json.Writing

/-!
# Documents that are written and read back

Every record of a document is recovered from what it is written as: a field that is left out has
the value that reading starts with, and the other fields come in their order.  All numbers are
integers, so the text of a document spells it, and the document is read back as it was, in one line
or over several (`Document.parse_toJson`).
-/

namespace Accord

open Decoder (Fills Recovers recovers_text recovers_bool recovers_integer)

variable {depth : Nat}

theorem Decoder.recovers_some_text (a : String) :
    Recovers (Decoder.option .text) depth (.text a) (some a) :=
  (recovers_text a).option rfl

theorem Decoder.recovers_texts (l : List String) :
    Recovers (Decoder.list .text) (depth + 1) (.texts l) l :=
  .list fun a _ => recovers_text a

open Decoder (recovers_some_text recovers_texts)

/-! ## Schemas -/

namespace DeclaredPolicy

theorem recovers (p : DeclaredPolicy) : Recovers decoder (depth + 1) p.toJson p := by
  have h : Fills depth fields _ blank p :=
    .field (recovers_text p.role) <| .field (recovers_bool p.create) <|
    .field (recovers_bool p.createWithGrant) <| .field (recovers_bool p.usage) <|
    .field (recovers_bool p.usageWithGrant) <| .done p
  exact h.recovers (by decide) _ _

theorem plain_toJson (p : DeclaredPolicy) : p.toJson.Plain := by
  simp [toJson]

end DeclaredPolicy

namespace DeclaredSchema

theorem recovers (s : DeclaredSchema) : Recovers decoder (depth + 3) s.toJson s := by
  have hpolicies : Recovers (Decoder.list DeclaredPolicy.decoder) (depth + 2) _ s.policies :=
    .list fun p _ => p.recovers
  have h : Fills (depth + 2) fields _ (named "") s :=
    .field (recovers_text s.name) <|
    .optional (o := s.database) (fun a _ => recovers_some_text a) rfl nofun <|
    .optional (o := s.owner) (fun a _ => recovers_some_text a) rfl nofun <|
    .field (recovers_bool s.ifNotExists) <| .field hpolicies <| .done s
  simp only [toJson, List.append_assoc, List.cons_append, List.nil_append]
  exact h.recovers (by decide) _ _

theorem plain_toJson (s : DeclaredSchema) : s.toJson.Plain := by
  simp [toJson, DeclaredPolicy.plain_toJson]

end DeclaredSchema

/-! ## Roles -/

namespace DeclaredRole

/-- The connection limit is a number of 32 bits. -/
def LimitFits (r : DeclaredRole) : Prop :=
  -2147483648 ≤ r.connectionLimit ∧ r.connectionLimit ≤ 2147483647

theorem recovers {r : DeclaredRole} (hlimit : r.LimitFits) :
    Recovers decoder (depth + 2) r.toJson r := by
  have hroles : Recovers (Decoder.set .text) (depth + 1) (.texts r.roles.toList) r.roles :=
    .set fun a _ => recovers_text a
  have h : Fills (depth + 1) fields _ (named "") r :=
    .field (recovers_text r.name) <|
    .optional (o := r.password) (fun a _ => recovers_some_text a) rfl nofun <|
    .field (recovers_bool r.encryptedPassword) <| .field (recovers_text r.validUntil) <|
    .field (recovers_integer hlimit) <| .field (recovers_bool r.superuser) <|
    .field (recovers_bool r.createDatabase) <| .field (recovers_bool r.createRole) <|
    .field (recovers_bool r.inherit) <| .field (recovers_bool r.login) <|
    .field (recovers_bool r.replication) <|
    .optional (o := r.bypassRowLevelSecurity) (fun b _ => (recovers_bool b).option rfl) rfl nofun <|
    .field hroles <| .field (recovers_bool r.skipDropRole) <|
    .field (recovers_bool r.skipReassignOwned) <| .done r
  simp only [toJson, List.append_assoc, List.cons_append, List.nil_append]
  exact h.recovers (by decide) _ _

theorem plain_toJson {r : DeclaredRole} (hlimit : r.LimitFits) : r.toJson.Plain := by
  have hint : (Json.int r.connectionLimit).Plain :=
    ⟨Int.le_trans (by decide) hlimit.1, Int.lt_of_le_of_lt hlimit.2 (by decide)⟩
  simp [toJson, hint]

end DeclaredRole

/-! ## Rules and extensions -/

namespace DeclaredRule

theorem recovers (r : DeclaredRule) : Recovers decoder (depth + 2) r.toJson r := by
  have h : Fills (depth + 1) fields _ blank r :=
    .optional (o := r.database) (fun a _ => recovers_some_text a) rfl nofun <|
    .field (recovers_text r.schema) <| .field (recovers_text r.owner) <|
    .field (recovers_text r.role) <| .field (recovers_text r.objectType) <|
    .field (recovers_texts r.privileges) <| .done r
  exact h.recovers (by decide) _ _

theorem plain_toJson (r : DeclaredRule) : r.toJson.Plain := by
  simp [toJson]

end DeclaredRule

namespace DeclaredExtension

theorem recovers (e : DeclaredExtension) : Recovers decoder (depth + 1) e.toJson e := by
  have h : Fills depth fields _ blank e :=
    .field (recovers_text e.name) <|
    .optional (o := e.database) (fun a _ => recovers_some_text a) rfl nofun <|
    .optional (o := e.schema) (fun a _ => recovers_some_text a) rfl nofun <|
    .optional_last (o := e.version) (fun a _ => recovers_some_text a) rfl nofun
  simp only [toJson, List.append_assoc, List.cons_append, List.nil_append]
  exact h.recovers (by decide) _ _

theorem plain_toJson (e : DeclaredExtension) : e.toJson.Plain := by
  simp [toJson]

end DeclaredExtension

/-! ## Documents -/

namespace Document

/-- All connection limits of a document are numbers of 32 bits. -/
def LimitsFit (d : Document) : Prop :=
  ∀ r ∈ d.roles, r.LimitFits

theorem recovers {d : Document} (hlimits : d.LimitsFit) : Recovers decoder 5 d.toJson d := by
  have hroles : Recovers (Decoder.list DeclaredRole.decoder) 4 _ d.roles :=
    .list fun r hr => DeclaredRole.recovers (hlimits r hr)
  have hschemas : Recovers (Decoder.list DeclaredSchema.decoder) 4 _ d.schemas :=
    .list fun s _ => DeclaredSchema.recovers s
  have hrules : Recovers (Decoder.list DeclaredRule.decoder) 4 _ d.rules :=
    .list fun r _ => DeclaredRule.recovers r
  have hextensions : Recovers (Decoder.list DeclaredExtension.decoder) 4 _ d.extensions :=
    .list fun e _ => DeclaredExtension.recovers e
  have h : Fills 4 fields _ empty d :=
    .field hroles <| .field hschemas <| .field hrules <| .field hextensions <| .done d
  exact h.recovers (by decide) _ _

theorem plain_toJson {d : Document} (hlimits : d.LimitsFit) : d.toJson.Plain := by
  have hroles : ∀ r ∈ d.roles, r.toJson.Plain :=
    fun r hr => DeclaredRole.plain_toJson (hlimits r hr)
  simpa [toJson, DeclaredSchema.plain_toJson, DeclaredRule.plain_toJson,
    DeclaredExtension.plain_toJson] using hroles

theorem parse_of_decoder {d : Document} {text : String} (h : Decoder.ofText decoder text = .ok d) :
    parse text = .ok d := by
  unfold parse
  rw [h]

/-- A document is read back from its text as it was, whether the text stands in one line or over
several. -/
theorem parse_toJson (d : Document)
    (hlimits : ∀ r ∈ d.roles, -2147483648 ≤ r.connectionLimit ∧ r.connectionLimit ≤ 2147483647) :
    parse d.toJson.compact = .ok d ∧ parse d.toJson.pretty = .ok d := by
  have hroom : (Source.text Decoder.depthLimit).HasRoom 5 :=
    show 5 < 128 by decide
  have hread := recovers hlimits _ hroom
  have hplain := plain_toJson hlimits
  exact ⟨parse_of_decoder ((Decoder.ofText_compact decoder hplain).trans hread),
    parse_of_decoder ((Decoder.ofText_pretty decoder hplain).trans hread)⟩

/-- A document with something in every section, and with values on both sides of every field that
may be left out. -/
def sample : Document where
  roles := [
    { DeclaredRole.named "café \"\\\n" with
      password := some "\x00😀"
      encryptedPassword := false
      validUntil := ""
      connectionLimit := -2147483648
      inherit := false
      bypassRowLevelSecurity := some false
      roles := .ofList ["writer", "", "reader"] },
    DeclaredRole.named ""]
  schemas := [
    ⟨"app", some "db", none, false, [⟨"reader", false, true, true, false⟩, DeclaredPolicy.blank]⟩,
    DeclaredSchema.named "audit"]
  rules := [⟨some "db", "app", "owner", "reader", "TABLE", ["select", "ALL"]⟩, DeclaredRule.blank]
  extensions := [⟨"hstore", none, some "app", none⟩, DeclaredExtension.blank]

theorem parse_toJson_sample :
    (∀ r ∈ sample.roles, -2147483648 ≤ r.connectionLimit ∧ r.connectionLimit ≤ 2147483647) ∧
      parse sample.toJson.compact = .ok sample ∧ parse sample.toJson.pretty = .ok sample :=
  ⟨by decide, parse_toJson sample (by decide)⟩

end Document

end Accord
