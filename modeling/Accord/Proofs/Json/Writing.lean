import Accord.Json.Decoder
import Accord.Json.Writer
import Accord.Proofs.Json.Reading
import Mathlib.Data.List.Forall2

/-!
# What is written is read

A value without floating point numbers is written as a text that spells it, in one line
(`spells_compact`) or over several lines (`spells_prettyAt`).  So a decoder that is given the text
gets the value itself (`Decoder.ofText_compact`, `Decoder.ofText_pretty`).
-/

namespace Accord.Json

/-! ## Values with integers only -/

mutual

/-- All numbers of the value are integers of 64 bits. -/
def Plain : Json → Prop
  | .number (.integer i) => -9223372036854775808 ≤ i ∧ i < 18446744073709551616
  | .number (.float _) => False
  | .array l => PlainItems l
  | .object l => PlainMembers l
  | .null | .bool _ | .text _ => True

/-- All numbers of the elements are integers of 64 bits. -/
def PlainItems : List Json → Prop
  | [] => True
  | v :: r => v.Plain ∧ PlainItems r

/-- All numbers of the members are integers of 64 bits. -/
def PlainMembers : List (String × Json) → Prop
  | [] => True
  | (_, v) :: r => v.Plain ∧ PlainMembers r

end

@[simp] theorem plain_text (s : String) : (Json.text s).Plain :=
  trivial

@[simp] theorem plain_bool (b : Bool) : (Json.bool b).Plain :=
  trivial

@[simp] theorem plain_int {i : Int} :
    (Json.int i).Plain ↔ -9223372036854775808 ≤ i ∧ i < 18446744073709551616 :=
  Iff.rfl

@[simp] theorem plain_array {l : List Json} : (Json.array l).Plain ↔ ∀ v ∈ l, v.Plain := by
  rw [Plain]
  induction l with
  | nil => simp [PlainItems]
  | cons v l ih => rw [PlainItems, ih, List.forall_mem_cons]

@[simp] theorem plain_object {l : List (String × Json)} :
    (Json.object l).Plain ↔ PlainMembers l :=
  Iff.rfl

@[simp] theorem plain_texts (l : List String) : (texts l).Plain := by
  simp [texts]

@[simp] theorem plainMembers_nil : PlainMembers [] :=
  trivial

@[simp] theorem plainMembers_cons {m : String × Json} {l : List (String × Json)} :
    PlainMembers (m :: l) ↔ m.2.Plain ∧ PlainMembers l :=
  Iff.rfl

@[simp] theorem plainMembers_append {l m : List (String × Json)} :
    PlainMembers (l ++ m) ↔ PlainMembers l ∧ PlainMembers m := by
  induction l with
  | nil => simp
  | cons e l ih => simp [ih, and_assoc]

@[simp] theorem plainMembers_map {α : Type} {name : α → String} {f : α → Json} {l : List α} :
    PlainMembers (l.map fun a => (name a, f a)) ↔ ∀ a ∈ l, (f a).Plain := by
  induction l with
  | nil => simp
  | cons a l ih => simp [ih]

@[simp] theorem plainMembers_optionalMember {α : Type} {name : String} {f : α → Json}
    {o : Option α} :
    PlainMembers (optionalMember name f o) ↔ ∀ a, o = some a → (f a).Plain := by
  cases o <;> simp [optionalMember]

/-! ## Lines -/

/-- A line spells a value. -/
def ItemLine (v : Json) (line : String) : Prop :=
  Spells (.value v) line.toList

/-- A line spells a name and a value. -/
def MemberLine (m : String × Json) (line : String) : Prop :=
  ∃ ws cs, Blank ws ∧ Spells (.value m.2) cs ∧
    line.toList = (writeText m.1).toList ++ ':' :: (ws ++ cs)

theorem blank_nil : Blank [] :=
  fun _ hc => nomatch hc

section Lines

variable {ws ws' : List Char} (hws : Blank ws) (hws' : Blank ws')

include hws hws'

/-- Lines that spell values spell a list, with commas between them. -/
theorem spells_items_of_lines {l : List Json} {lines : List String}
    (h : List.Forall₂ ItemLine l lines) {first : Bool} {gap : List Char} (hgap : Gap first gap)
    {v : Json} {line : String} (hv : ItemLine v line) :
    Spells (.items first (v :: l))
      (gap ++ ((',' :: ws).intercalate ((line :: lines).map String.toList) ++ (ws' ++ [']']))) := by
  induction h generalizing first gap v line with
  | nil =>
    rw [List.map_singleton, List.intercalate_singleton]
    exact .item hgap hv (.noItem false hws')
  | cons hline hlines ih =>
    rw [List.map_cons, List.map_cons, List.intercalate_cons_cons, List.append_assoc,
      List.append_assoc]
    exact .item hgap hv (ih (.next blank_nil hws) hline)

theorem spells_members_of_lines {l : List (String × Json)} {lines : List String}
    (h : List.Forall₂ MemberLine l lines) {first : Bool} {gap : List Char} (hgap : Gap first gap)
    {m : String × Json} {line : String} (hm : MemberLine m line) :
    Spells (.members first (m :: l))
      (gap ++ ((',' :: ws).intercalate ((line :: lines).map String.toList)
        ++ (ws' ++ ['\x7d']))) := by
  obtain ⟨ws'', cs, hblank, hv, hline⟩ := hm
  induction h generalizing first gap m line ws'' cs with
  | nil =>
    rw [List.map_singleton, List.intercalate_singleton, hline]
    simp only [List.append_assoc, List.cons_append]
    exact .member hgap hblank hv (.noMember false hws')
  | cons hnext hlines ih =>
    obtain ⟨ws₁, cs₁, hblank₁, hv₁, hline₁⟩ := hnext
    rw [List.map_cons, List.map_cons, List.intercalate_cons_cons, hline]
    simp only [List.append_assoc, List.cons_append]
    exact .member hgap hblank hv (ih (.next blank_nil hws) ws₁ cs₁ hblank₁ hv₁ hline₁)

end Lines

/-! ## One line -/

theorem spells_array_compact {l : List Json} {lines : List String}
    (h : List.Forall₂ ItemLine l lines) :
    Spells (.value (.array l)) ("[" ++ String.intercalate "," lines ++ "]").toList := by
  simp only [String.toList_append, String.toList_intercalate]
  cases h with
  | nil => exact .array (.noItem true blank_nil)
  | cons hline hlines =>
    exact .array (spells_items_of_lines blank_nil blank_nil hlines (.first blank_nil) hline)

theorem spells_object_compact {l : List (String × Json)} {lines : List String}
    (h : List.Forall₂ MemberLine l lines) :
    Spells (.value (.object l)) ("\x7b" ++ String.intercalate "," lines ++ "\x7d").toList := by
  simp only [String.toList_append, String.toList_intercalate]
  cases h with
  | nil => exact .object (.noMember true blank_nil)
  | cons hline hlines =>
    exact .object (spells_members_of_lines blank_nil blank_nil hlines (.first blank_nil) hline)

mutual

theorem spells_compact : ∀ {v : Json}, v.Plain → Spells (.value v) v.compact.toList
  | .null, _ => .null
  | .bool b, _ => .bool b
  | .number (.integer _), h => .integer h.1 h.2
  | .text s, _ => .text s
  | .array _, h => spells_array_compact (itemLines_compact h)
  | .object _, h => spells_object_compact (memberLines_compact h)

theorem itemLines_compact : ∀ {l : List Json}, PlainItems l →
    List.Forall₂ ItemLine l (compactItems l)
  | [], _ => .nil
  | _ :: _, h => .cons (spells_compact h.1) (itemLines_compact h.2)

theorem memberLines_compact : ∀ {l : List (String × Json)}, PlainMembers l →
    List.Forall₂ MemberLine l (compactMembers l)
  | [], _ => .nil
  | (_, _) :: _, h =>
    .cons ⟨[], _, blank_nil, spells_compact h.1, by simp⟩ (memberLines_compact h.2)

end

/-! ## Several lines -/

theorem blank_newLine (level : Nat) : Blank (newLine level).toList := by
  intro c hc
  rw [newLine, String.toList_ofList, List.mem_cons, List.mem_replicate] at hc
  rcases hc with rfl | ⟨-, rfl⟩ <;> rfl

theorem spells_array_bracketed {l : List Json} {lines : List String}
    (h : List.Forall₂ ItemLine l lines) (level : Nat) :
    Spells (.value (.array l)) (bracketed "[" "]" level lines).toList := by
  cases h with
  | nil =>
    simp only [bracketed, String.toList_append]
    exact .array (.noItem true blank_nil)
  | cons hline hlines =>
    simp only [bracketed, String.toList_append, String.toList_intercalate, List.append_assoc]
    exact .array (spells_items_of_lines (blank_newLine _) (blank_newLine _) hlines
      (.first (blank_newLine _)) hline)

theorem spells_object_bracketed {l : List (String × Json)} {lines : List String}
    (h : List.Forall₂ MemberLine l lines) (level : Nat) :
    Spells (.value (.object l)) (bracketed "\x7b" "\x7d" level lines).toList := by
  cases h with
  | nil =>
    simp only [bracketed, String.toList_append]
    exact .object (.noMember true blank_nil)
  | cons hline hlines =>
    simp only [bracketed, String.toList_append, String.toList_intercalate, List.append_assoc]
    exact .object (spells_members_of_lines (blank_newLine _) (blank_newLine _) hlines
      (.first (blank_newLine _)) hline)

mutual

theorem spells_prettyAt : ∀ {v : Json} (level : Nat), v.Plain →
    Spells (.value v) (v.prettyAt level).toList
  | .null, _, _ => .null
  | .bool b, _, _ => .bool b
  | .number (.integer _), _, h => .integer h.1 h.2
  | .text s, _, _ => .text s
  | .array _, level, h => spells_array_bracketed (itemLines_pretty (level + 1) h) level
  | .object _, level, h => spells_object_bracketed (memberLines_pretty (level + 1) h) level

theorem itemLines_pretty : ∀ {l : List Json} (level : Nat), PlainItems l →
    List.Forall₂ ItemLine l (prettyItems level l)
  | [], _, _ => .nil
  | _ :: _, level, h => .cons (spells_prettyAt level h.1) (itemLines_pretty level h.2)

theorem memberLines_pretty : ∀ {l : List (String × Json)} (level : Nat), PlainMembers l →
    List.Forall₂ MemberLine l (prettyMembers level l)
  | [], _, _ => .nil
  | (_, _) :: _, level, h =>
    .cons ⟨[' '], _, by simp [Blank, isSpace], spells_prettyAt level h.1, by simp⟩
      (memberLines_pretty level h.2)

end

end Accord.Json

namespace Accord.Decoder

variable {α : Type} {v : Json}

/-- A decoder that is given a text gets the value that the text spells. -/
theorem ofText_of_spells (item : Decoder α) {s : String} (h : Json.Spells (.value v) s.toList) :
    ofText item s = item (.text depthLimit) (Draft.ofJson v) := by
  unfold ofText
  rw [h.ofText]
  dsimp only
  cases item (.text depthLimit) (Draft.ofJson v) with
  | error p => rfl
  | ok a => rfl

theorem ofText_compact (item : Decoder α) (h : v.Plain) :
    ofText item v.compact = item (.text depthLimit) (Draft.ofJson v) :=
  ofText_of_spells item (Json.spells_compact h)

theorem ofText_pretty (item : Decoder α) (h : v.Plain) :
    ofText item v.pretty = item (.text depthLimit) (Draft.ofJson v) :=
  ofText_of_spells item (Json.spells_prettyAt 0 h)

end Accord.Decoder
