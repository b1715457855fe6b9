import Accord.Name
import Accord.Proofs.Text.Blank
import Accord.Proofs.Text.Pieces
import Accord.Sql.Quote

/-!
# Names and identities

A declared name is the name that is meant, if that is one that the server keeps
(`normalizeName_eq_ok`).  Normalizing it a second time can change it again: the quotes that are
taken off the first time may have protected blanks, or other quotes.  A name stays as it is if and
only if it is `Plain`, but between quotes every name can be written (`nameMeant_identifier`).

An identity of several parts can be taken apart if and only if no part has a hyphen
(`splitIdentity_of_hyphenFree`, `splitIdentity_of_hyphen`), and then the parts are the ones that it
was made of (`splitIdentity_joinIdentity`), and they make the same identity again
(`splitIdentity_ok`).

A name that is declared calls for a change if it is not the one that there is.
-/

namespace Accord

/-! ## Names that are meant -/

/-- The name that a text means: blanks around it and quotes around the rest are taken off. -/
def nameMeant (raw : String) : String :=
  String.ofList (unquote (Text.trimChars raw.toList))

/-- The server keeps the name as it is. -/
structure Nameable (name : String) : Prop where
  nonempty : name ≠ ""
  short : name.utf8ByteSize ≤ maxNameLength
  noNull : '\x00' ∉ name.toList

theorem normalizeName_eq_ok {raw what name : String} :
    normalizeName raw what = .ok name ↔ Nameable (nameMeant raw) ∧ nameMeant raw = name := by
  show (if nameMeant raw = "" then _ else if maxNameLength < (nameMeant raw).utf8ByteSize then _
    else if (nameMeant raw).toList.contains '\x00' then _ else _) = _ ↔ _
  by_cases hempty : nameMeant raw = ""
  · rw [if_pos hempty]
    exact iff_of_false (fun h => nomatch h) fun h => h.1.nonempty hempty
  rw [if_neg hempty]
  by_cases hlong : maxNameLength < (nameMeant raw).utf8ByteSize
  · rw [if_pos hlong]
    exact iff_of_false (fun h => nomatch h) fun h => Nat.not_lt.2 h.1.short hlong
  rw [if_neg hlong]
  by_cases hnull : '\x00' ∈ (nameMeant raw).toList
  · rw [if_pos (List.contains_iff_mem.2 hnull)]
    exact iff_of_false (fun h => nomatch h) fun h => h.1.noNull hnull
  rw [if_neg (mt List.contains_iff_mem.1 hnull)]
  constructor
  · exact fun h => ⟨⟨hempty, Nat.le_of_not_lt hlong, hnull⟩, Except.ok.inj h⟩
  · exact fun h => congrArg Except.ok h.2

theorem normalizeName_ok {raw what name : String} (h : normalizeName raw what = .ok name) :
    name = nameMeant raw ∧ name ≠ "" := by
  obtain ⟨hname, rfl⟩ := normalizeName_eq_ok.1 h
  exact ⟨rfl, hname.nonempty⟩

/-! ## Names that stay as they are -/

/-- The name has no blanks at its ends and does not stand between quotes. -/
def Plain (name : String) : Prop :=
  Text.trimChars name.toList = name.toList ∧ unquote name.toList = name.toList

instance (name : String) : Decidable (Plain name) :=
  inferInstanceAs (Decidable (_ ∧ _))

theorem length_joinQuotes_le (cs : List Char) : (joinQuotes cs).length ≤ cs.length := by
  fun_induction joinQuotes cs with
  | case1 r ih =>
    simp only [List.length_cons]
    omega
  | case2 c r _ ih =>
    simp only [List.length_cons]
    omega
  | case3 => simp

theorem unquote_eq_or_shorter (cs : List Char) :
    unquote cs = cs ∨ (unquote cs).length < cs.length := by
  unfold unquote
  split
  · next r =>
    by_cases hr : r.getLast? = some '"'
    · right
      rw [if_pos hr]
      have h := length_joinQuotes_le r.dropLast
      rw [List.length_dropLast] at h
      rw [List.length_cons]
      omega
    · left
      rw [if_neg hr]
  · left
    rfl

theorem trimChars_infix (cs : List Char) : Text.trimChars cs <:+: cs := by
  have hfront : cs.dropWhile Text.isBlank <:+ cs := List.dropWhile_suffix _
  have hback := (cs.dropWhile Text.isBlank).reverse.dropWhile_suffix Text.isBlank
  have hback := List.reverse_prefix.2 hback
  rw [List.reverse_reverse] at hback
  exact hback.isInfix.trans hfront.isInfix

theorem trimChars_eq_or_shorter (cs : List Char) :
    Text.trimChars cs = cs ∨ (Text.trimChars cs).length < cs.length := by
  have h := trimChars_infix cs
  rcases Nat.lt_or_eq_of_le h.length_le with hlt | heq
  · exact .inr hlt
  · exact .inl (h.eq_of_length heq)

/-- Trimming and unquoting change a name unless neither does. -/
theorem unquote_trimChars_eq_self {cs : List Char} :
    unquote (Text.trimChars cs) = cs ↔ Text.trimChars cs = cs ∧ unquote cs = cs := by
  constructor
  · intro h
    rcases trimChars_eq_or_shorter cs with ht | ht
    · exact ⟨ht, by rwa [ht] at h⟩
    · have hlen := congrArg List.length h
      rcases unquote_eq_or_shorter (Text.trimChars cs) with hu | hu
      · rw [hu] at hlen
        omega
      · omega
  · rintro ⟨ht, hu⟩
    rw [ht, hu]

/-- A name means itself if and only if it is plain. -/
theorem nameMeant_eq_self {raw : String} : nameMeant raw = raw ↔ Plain raw := by
  rw [Plain, ← unquote_trimChars_eq_self, ← String.toList_inj, nameMeant, String.toList_ofList]

/-- A name is normalized to itself if and only if it is plain. -/
theorem normalizeName_eq_self {raw what name : String} (h : normalizeName raw what = .ok name) :
    name = raw ↔ Plain raw := by
  rw [(normalizeName_ok h).1]
  exact nameMeant_eq_self

/-- A plain name that was accepted is accepted as it is, whatever it is the name of. -/
theorem normalizeName_of_plain {raw what name : String} (h : normalizeName raw what = .ok name)
    (hplain : Plain name) (what' : String) : normalizeName name what' = .ok name := by
  have hself : nameMeant name = name := nameMeant_eq_self.2 hplain
  obtain ⟨hname, hmeant⟩ := normalizeName_eq_ok.1 h
  rw [normalizeName_eq_ok, hself, ← hmeant]
  exact ⟨hname, rfl⟩

/-! ## Names between quotes -/

theorem joinQuotes_double (cs : List Char) : joinQuotes (Sql.double '"' cs) = cs := by
  induction cs with
  | nil => rfl
  | cons c cs ih =>
    by_cases hc : c = '"'
    · subst hc
      show joinQuotes ('"' :: '"' :: Sql.double '"' cs) = _
      rw [joinQuotes, ih]
    · have hdouble : Sql.double '"' (c :: cs) = c :: Sql.double '"' cs := by
        simp [Sql.double, hc]
      rw [hdouble, joinQuotes.eq_2 _ _ (fun r h => absurd h hc), ih]

theorem unquote_quoted (cs : List Char) : unquote ('"' :: (cs ++ ['"'])) = joinQuotes cs := by
  show (if (cs ++ ['"']).getLast? = some '"' then joinQuotes (cs ++ ['"']).dropLast else _) = _
  rw [if_pos List.getLast?_concat, List.dropLast_concat]

/-- A name between quotes, with its own quotes written twice, means that name. -/
theorem nameMeant_identifier (name : String) : nameMeant (Sql.identifier name) = name := by
  have htrim : Text.trimChars ('"' :: (Sql.double '"' name.toList ++ ['"'])) =
      '"' :: (Sql.double '"' name.toList ++ ['"']) := by
    have h := @Text.trimChars_around [] ('"' :: (Sql.double '"' name.toList ++ ['"'])) []
      (by simp) (by simp)
      (by rintro c ⟨⟩; decide)
      (by rw [← List.cons_append, List.getLast?_concat]; rintro c ⟨⟩; decide)
    simpa using h
  unfold nameMeant Sql.identifier
  rw [String.toList_ofList, htrim, unquote_quoted, joinQuotes_double, String.ofList_toList]

/-- A text that is refused as a name is refused as a value outside its domain. -/
theorem exists_normalizeName_eq_error {raw : String} (h : ¬Nameable (nameMeant raw))
    (what : String) : ∃ why, normalizeName raw what = .error (.validation why) := by
  cases hraw : normalizeName raw what with
  | ok name => exact absurd (normalizeName_eq_ok.1 hraw).1 h
  | error e =>
    simp only [normalizeName] at hraw
    split at hraw
    · exact ⟨_, congrArg Except.error (Except.error.inj hraw).symm⟩
    · split at hraw
      · exact ⟨_, congrArg Except.error (Except.error.inj hraw).symm⟩
      · split at hraw
        · exact ⟨_, congrArg Except.error (Except.error.inj hraw).symm⟩
        · exact nomatch hraw

/-- A name between quotes is that name, or it is refused. -/
theorem normalizeName_identifier (name what : String) :
    normalizeName (Sql.identifier name) what = .ok name ↔ Nameable name := by
  rw [normalizeName_eq_ok, nameMeant_identifier]
  exact and_iff_left rfl

/-- A name that was accepted is found again between quotes, whatever it holds; what is accepted is a
name that the server keeps; and between quotes these names can be written, and no other ones. -/
theorem quoted_name_kept (what : String) :
    (∀ raw what' name, normalizeName raw what' = .ok name →
      normalizeName (Sql.identifier name) what = .ok name) ∧
    (∀ raw, (∃ why, normalizeName raw what = .error (.validation why)) ∨
      ∃ name, normalizeName raw what = .ok name ∧ Nameable name) ∧
    ∀ name, (Nameable name ↔ ∃ raw what', normalizeName raw what' = .ok name) ∧
      (normalizeName (Sql.identifier name) what = .ok name ↔ Nameable name) ∧
      (¬Nameable name → ∃ why, normalizeName (Sql.identifier name) what =
        .error (.validation why)) := by
  have haccepted : ∀ raw what' name, normalizeName raw what' = .ok name → Nameable name := by
    intro raw what' name h
    obtain ⟨hname, rfl⟩ := normalizeName_eq_ok.1 h
    exact hname
  refine ⟨?_, ?_, fun name => ⟨⟨?_, ?_⟩, normalizeName_identifier name what, ?_⟩⟩
  · intro raw what' name h
    exact (normalizeName_identifier name what).2 (haccepted raw what' name h)
  · intro raw
    by_cases h : Nameable (nameMeant raw)
    · exact .inr ⟨_, normalizeName_eq_ok.2 ⟨h, rfl⟩, h⟩
    · exact .inl (exists_normalizeName_eq_error h what)
  · intro h
    exact ⟨Sql.identifier name, what, (normalizeName_identifier name what).2 h⟩
  · rintro ⟨raw, what', h⟩
    exact haccepted raw what' name h
  · intro h
    refine exists_normalizeName_eq_error ?_ what
    rwa [nameMeant_identifier]

/-- A name with a blank at its start, a quote inside and one at its end. -/
theorem quoted_name_kept_ragged :
    normalizeName "\" a\"\"b\"\"\"" "role" = .ok " a\"b\"" ∧
    Sql.identifier " a\"b\"" = "\" a\"\"b\"\"\"" ∧
    normalizeName (Sql.identifier " a\"b\"") "schema" = .ok " a\"b\"" := by
  have hraw : normalizeName "\" a\"\"b\"\"\"" "role" = .ok " a\"b\"" :=
    normalizeName_eq_ok.2 ⟨⟨by decide, by decide +kernel, by decide⟩, by decide +kernel⟩
  exact ⟨hraw, by decide +kernel, (quoted_name_kept "schema").1 _ _ _ hraw⟩

/-! ## Identities of several parts -/

theorem splitHyphens_eq_splitOn (cs : List Char) : splitHyphens cs = cs.splitOn '-' :=
  Text.eq_splitOn rfl (fun _ _ => rfl) cs

theorem length_splitHyphens (cs : List Char) :
    (splitHyphens cs).length = cs.count '-' + 1 := by
  rw [splitHyphens_eq_splitOn]
  induction cs with
  | nil => rfl
  | cons c cs ih =>
    rw [List.splitOn_cons_eq_if_modifyHead]
    by_cases hc : c = '-'
    · simp [hc, ih]
    · simp [hc, ih]

theorem length_le_count_intercalate (parts : List (List Char)) :
    parts.length ≤ (List.intercalate ['-'] parts).count '-' + 1 := by
  induction parts with
  | nil => simp
  | cons p parts ih =>
    cases parts with
    | nil => simp
    | cons q qs =>
      rw [List.intercalate_cons_cons, List.count_append, List.count_append]
      simp only [List.count_singleton_self, List.length_cons] at ih ⊢
      omega

/-- With one hyphen less than there are parts, there is none in the parts. -/
theorem not_mem_of_count_intercalate {parts : List (List Char)}
    (h : (List.intercalate ['-'] parts).count '-' + 1 = parts.length) : ∀ p ∈ parts, '-' ∉ p := by
  induction parts with
  | nil => exact List.forall_mem_nil _
  | cons p parts ih =>
    rw [List.forall_mem_cons]
    cases parts with
    | nil =>
      rw [List.intercalate_singleton] at h
      exact ⟨List.count_eq_zero.1 (by simpa using h), List.forall_mem_nil _⟩
    | cons q qs =>
      rw [List.intercalate_cons_cons, List.count_append, List.count_append,
        List.count_singleton_self, List.length_cons] at h
      have hle := length_le_count_intercalate (q :: qs)
      exact ⟨List.count_eq_zero.1 (by omega), ih (by omega)⟩

/-- As many parts as were joined come apart only if they are the parts that were joined. -/
theorem splitHyphens_intercalate (parts : List (List Char)) (hne : parts ≠ [])
    (h : (splitHyphens (List.intercalate ['-'] parts)).length = parts.length) :
    splitHyphens (List.intercalate ['-'] parts) = parts := by
  rw [length_splitHyphens] at h
  rw [splitHyphens_eq_splitOn]
  exact List.splitOn_intercalate '-' (not_mem_of_count_intercalate h) hne

theorem splitIdentity_joinIdentity {parts expected found : List String}
    (h : splitIdentity (joinIdentity parts) expected = .ok found)
    (hlen : parts.length = expected.length) (hne : parts ≠ []) : found = parts := by
  simp only [splitIdentity, joinIdentity, String.toList_intercalate] at h
  split at h
  · next hparts =>
    rw [Bool.and_eq_true, decide_eq_true_eq] at hparts
    obtain rfl := Except.ok.inj h
    have hsplit := splitHyphens_intercalate (parts.map String.toList)
      (by simpa using hne) (by rw [List.length_map, hlen]; exact hparts.2)
    rw [show "-".toList = ['-'] from rfl, hsplit, List.map_map]
    simp [Function.comp_def]
  · simp at h

/-- Every hyphen parts a text, so that no part has one. -/
theorem not_mem_of_mem_splitHyphens {cs p : List Char} (h : p ∈ splitHyphens cs) : '-' ∉ p := by
  rw [splitHyphens_eq_splitOn] at h
  induction cs generalizing p with
  | nil =>
    obtain rfl := List.mem_singleton.1 h
    exact List.not_mem_nil
  | cons c cs ih =>
    rw [List.splitOn_cons_eq_if_modifyHead] at h
    obtain ⟨q, qs, hcs⟩ := List.exists_cons_of_ne_nil (List.splitOn_ne_nil '-' cs)
    rw [hcs] at h ih
    by_cases hc : c = '-'
    · rw [if_pos (beq_iff_eq.2 hc), List.mem_cons] at h
      rcases h with rfl | h
      · exact List.not_mem_nil
      · exact ih h
    · rw [if_neg (mt beq_iff_eq.1 hc), List.modifyHead_cons, List.mem_cons] at h
      rcases h with rfl | h
      · have hq : '-' ∉ q := ih List.mem_cons_self
        simpa [hq] using Ne.symm hc
      · exact ih (List.mem_cons_of_mem _ h)

/-- There is no hyphen in the name. -/
def HyphenFree (name : String) : Prop :=
  '-' ∉ name.toList

instance (name : String) : Decidable (HyphenFree name) :=
  inferInstanceAs (Decidable (¬_))

/-- Parts without hyphens that are not empty are found again in their identity. -/
theorem splitIdentity_of_hyphenFree {parts expected : List String}
    (h : ∀ p ∈ parts, HyphenFree p) (hempty : ∀ p ∈ parts, p ≠ "") (hne : parts ≠ [])
    (hlen : parts.length = expected.length) :
    splitIdentity (joinIdentity parts) expected = .ok parts := by
  have hsplit : splitHyphens (joinIdentity parts).toList = parts.map String.toList := by
    rw [joinIdentity, String.toList_intercalate, splitHyphens_eq_splitOn]
    refine List.splitOn_intercalate '-' (fun p hp => ?_) (by simpa using hne)
    obtain ⟨part, hpart, rfl⟩ := List.mem_map.1 hp
    exact h part hpart
  have hall : (parts.map String.toList).all (fun p => !p.isEmpty) = true := by
    rw [List.all_map, List.all_eq_true]
    intro part hpart
    simpa using hempty part hpart
  unfold splitIdentity
  rw [hsplit]
  simp [hall, hlen, Function.comp_def]

/-- A text that an identity can hold as one of its parts. -/
def IdentityPart (p : String) : Prop :=
  p ≠ "" ∧ HyphenFree p

instance (p : String) : Decidable (IdentityPart p) :=
  inferInstanceAs (Decidable (_ ∧ _))

theorem splitIdentity_ok {id : String} {expected parts : List String}
    (h : splitIdentity id expected = .ok parts) :
    joinIdentity parts = id ∧ parts.length = expected.length ∧ ∀ p ∈ parts, IdentityPart p := by
  simp only [splitIdentity] at h
  split at h
  · next hparts =>
    obtain ⟨hall, hlen⟩ := Bool.and_eq_true_iff.1 hparts
    obtain rfl := Except.ok.inj h
    refine ⟨?_, by rw [List.length_map]; exact of_decide_eq_true hlen, fun p hp => ?_⟩
    · rw [← String.toList_inj, joinIdentity, String.toList_intercalate, List.map_map]
      rw [splitHyphens_eq_splitOn]
      simp [Function.comp_def]
    · obtain ⟨cs, hcs, rfl⟩ := List.mem_map.1 hp
      have hne : cs ≠ [] := by simpa using List.all_eq_true.1 hall cs hcs
      refine ⟨fun h => hne ?_, ?_⟩
      · simpa using congrArg String.toList h
      · rw [HyphenFree, String.toList_ofList]
        exact not_mem_of_mem_splitHyphens hcs
  · exact nomatch h

/-- An identity comes apart, or it is of the wrong format. -/
theorem splitIdentity_eq_error {id : String} {expected : List String}
    (h : ∀ parts, splitIdentity id expected ≠ .ok parts) :
    splitIdentity id expected = .error (.validation (.identityFormat id expected)) := by
  simp only [splitIdentity] at h ⊢
  split at h
  · exact absurd rfl (h _)
  · next hparts => rw [if_neg hparts]

/-- A part with a hyphen makes an identity of the wrong format. -/
theorem splitIdentity_of_hyphen {parts expected : List String} {p : String}
    (hp : p ∈ parts) (h : ¬HyphenFree p) (hlen : parts.length = expected.length) :
    splitIdentity (joinIdentity parts) expected =
      .error (.validation (.identityFormat (joinIdentity parts) expected)) := by
  refine splitIdentity_eq_error fun found hfound => h ?_
  obtain rfl := splitIdentity_joinIdentity hfound hlen (List.ne_nil_of_mem hp)
  exact ((splitIdentity_ok hfound).2.2 p hp).2

/-- Parts come apart as they were joined if each is not empty and has no hyphen, and the identity
is refused otherwise; and what an identity comes apart to is joined to that identity again. -/
theorem identity_parts_as_joined (expected : List String) :
    (∀ parts : List String, parts ≠ [] → parts.length = expected.length →
      splitIdentity (joinIdentity parts) expected =
        if ∀ p ∈ parts, IdentityPart p then .ok parts
        else .error (.validation (.identityFormat (joinIdentity parts) expected))) ∧
    ∀ id parts, splitIdentity id expected = .ok parts →
      joinIdentity parts = id ∧ parts.length = expected.length ∧
        ∀ p ∈ parts, IdentityPart p := by
  refine ⟨fun parts hne hlen => ?_, fun id parts => splitIdentity_ok⟩
  by_cases hparts : ∀ p ∈ parts, IdentityPart p
  · rw [if_pos hparts]
    exact splitIdentity_of_hyphenFree (fun p hp => (hparts p hp).2) (fun p hp => (hparts p hp).1)
      hne hlen
  · rw [if_neg hparts]
    refine splitIdentity_eq_error fun found h => hparts ?_
    obtain rfl := splitIdentity_joinIdentity h hlen hne
    exact (splitIdentity_ok h).2.2

/-- An empty part does not make up for a hyphen in another one. -/
theorem identity_parts_as_joined_shifted :
    splitIdentity (joinIdentity ["my-db", ""]) ["database", "extension"] =
      .error (.validation (.identityFormat "my-db-" ["database", "extension"])) ∧
    splitIdentity "db-hstore" ["database", "extension"] = .ok ["db", "hstore"] ∧
    joinIdentity ["db", "hstore"] = "db-hstore" := by
  obtain ⟨hjoined, hsplit⟩ := identity_parts_as_joined ["database", "extension"]
  have hfound : splitIdentity "db-hstore" ["database", "extension"] = .ok ["db", "hstore"] := by
    rw [show "db-hstore" = joinIdentity ["db", "hstore"] from rfl,
      hjoined ["db", "hstore"] (by decide) rfl, if_pos (by decide)]
  refine ⟨?_, hfound, (hsplit _ _ hfound).1⟩
  rw [hjoined ["my-db", ""] (by decide) rfl, if_neg (by decide)]
  rfl

/-! ## What is declared and differs -/

theorem getD_filter_ne (o : Option String) (x : String) :
    (o.filter fun y => decide (y ≠ x)).getD x = o.getD x := by
  cases o with
  | none => rfl
  | some y =>
    by_cases hy : y = x
    · simp [Option.filter_some, hy]
    · simp [Option.filter_some, hy]

theorem filter_ne_eq_none (o : Option String) (x : String) :
    (o.filter fun y => decide (y ≠ x)) = none ↔ o.getD x = x := by
  cases o with
  | none => simp
  | some y =>
    by_cases hy : y = x
    · simp [Option.filter_some, hy]
    · simp [Option.filter_some, hy]

theorem getD_eq_self_iff {o : Option String} {x : String} :
    o.getD x = x ↔ ∀ y, o = some y → x = y := by
  cases o with
  | none => simp
  | some y => simp [eq_comm]

theorem filter_ne_eq_none_iff {o : Option String} {x : String} :
    (o.filter fun y => decide (y ≠ x)) = none ↔ ∀ y, o = some y → x = y :=
  (filter_ne_eq_none o x).trans getD_eq_self_iff

end Accord
