import Accord.Profile.Format
import Accord.Proofs.Json.Flattened
import Accord.Proofs.Json.Writing

/-!
# Profiles that are written and read back

Connections, profiles and registries are recovered from what they are written as, and all their
numbers are integers.
-/

namespace Accord

open Decoder (Fills Recovers recovers_text recovers_bool recovers_integer)

variable {depth : Nat}

namespace Connection

/-- The port is a number of 16 bits. -/
def PortFits (c : Connection) : Prop :=
  c.port ≤ 65535

theorem recovers {c : Connection} (hport : c.PortFits) :
    Recovers decoder (depth + 1) (.object c.members) c := by
  have hnumber : Recovers Decoder.port depth (.int c.port) c.port := by
    have hfits : c.port ≤ 65535 := hport
    have hrange : (0 : Int) ≤ c.port ∧ (c.port : Int) ≤ 65535 := by omega
    exact fun s hs => congrArg (Except.map Int.toNat) (recovers_integer hrange s hs)
  have h : Fills depth fields _ blank c :=
    .field (recovers_text c.host) <| .field hnumber <| .field (recovers_text c.user) <|
    .optional (o := c.password) (fun a _ => (recovers_text a).option rfl) rfl nofun <|
    .field (recovers_text c.database) <| .done c
  simp only [members, List.cons_append, List.nil_append]
  exact h.recovers (by decide) _ _

theorem plain_members {c : Connection} (hport : c.PortFits) : Json.PlainMembers c.members := by
  have hint : (Json.int c.port).Plain := by
    have hfits : c.port ≤ 65535 := hport
    exact ⟨by omega, by omega⟩
  simp [members, hint]

/-- The members are single values, under names that the profile itself does not use. -/
theorem members_kept (c : Connection) : ∀ m ∈ c.members,
    Profile.fields.find? (fun f => f.name == m.1) = none ∧
      Recovers Decoder.json depth m.2 m.2 := by
  have htext : ∀ s : String, Recovers Decoder.json depth (.text s) (.text s) :=
    Decoder.recovers_json_text
  have hint : Recovers Decoder.json depth (.int c.port) (.int c.port) :=
    Decoder.recovers_json_int _
  intro m hm
  simp only [members, List.mem_append, List.mem_cons, List.not_mem_nil, or_false] at hm
  rcases hm with ((rfl | rfl | rfl) | hm) | rfl
  · exact ⟨rfl, htext _⟩
  · exact ⟨rfl, hint⟩
  · exact ⟨rfl, htext _⟩
  · cases hpassword : c.password with
    | none =>
      rw [hpassword] at hm
      cases hm
    | some password =>
      rw [hpassword] at hm
      obtain rfl := List.mem_singleton.1 hm
      exact ⟨rfl, htext _⟩
  · exact ⟨rfl, htext _⟩

end Connection

namespace Profile

theorem recovers {c : Profile} (hport : c.config.PortFits) :
    Recovers decoder (depth + 1) c.toJson c := by
  have h : Fills depth fields _ (ofConfig .blank) ⟨.blank, c.passwordVariable, c.readOnly⟩ :=
    .optional (o := c.passwordVariable) (fun a _ => (recovers_text a).option rfl) rfl nofun <|
    .optional_last (o := c.readOnly) (fun b _ => (recovers_bool b).option rfl) rfl nofun
  have hconfig : Recovers Connection.decoder 1 (.object c.config.members) c.config :=
    Connection.recovers hport
  have hkept : ∀ m ∈ c.config.members, _ ∧ Recovers Decoder.json depth m.2 m.2 :=
    c.config.members_kept
  rw [toJson, List.append_assoc]
  exact .flattened h (by decide) (fun m hm => (hkept m hm).1) (fun m hm => (hkept m hm).2) hconfig
    _ _

theorem plain_toJson {c : Profile} (hport : c.config.PortFits) : c.toJson.Plain := by
  simp [toJson, Connection.plain_members hport]

end Profile

namespace Profiles

/-- The ports of all connections are numbers of 16 bits. -/
def PortsFit (p : Profiles) : Prop :=
  ∀ e ∈ p.connections.entries, e.2.config.PortFits

theorem recovers {p : Profiles} (hports : p.PortsFit) :
    Recovers decoder (depth + 3) p.toJson p := by
  have hconnections : Recovers (Decoder.map Profile.decoder) (depth + 2) _ p.connections :=
    .map fun e he => Profile.recovers (hports e he)
  unfold decoder toJson
  refine Fills.recovers (.field hconnections ?_) (by decide) _ _
  exact .optional_last (o := p.default) (fun a _ => (recovers_text a).option rfl) rfl nofun

theorem plain_toJson {p : Profiles} (hports : p.PortsFit) : p.toJson.Plain := by
  have hconnections : ∀ e ∈ p.connections.entries, e.2.toJson.Plain :=
    fun e he => Profile.plain_toJson (hports e he)
  simpa [toJson] using hconnections

end Profiles

namespace Registry

/-- The ports of all connections of all projects are numbers of 16 bits. -/
def PortsFit (r : Registry) : Prop :=
  ∀ e ∈ r.projects.entries, e.2.PortsFit

theorem recovers {r : Registry} (hports : r.PortsFit) :
    Recovers decoder (depth + 5) r.toJson r := by
  have hprojects : Recovers (Decoder.map Profiles.decoder) (depth + 4) _ r.projects :=
    .map fun e he => Profiles.recovers (hports e he)
  unfold decoder toJson
  exact Fills.recovers (.field hprojects (.done r)) (by decide) _ _

theorem plain_toJson {r : Registry} (hports : r.PortsFit) : r.toJson.Plain := by
  have hprojects : ∀ e ∈ r.projects.entries, e.2.toJson.Plain :=
    fun e he => Profiles.plain_toJson (hports e he)
  simpa [toJson] using hprojects

end Registry

end Accord
