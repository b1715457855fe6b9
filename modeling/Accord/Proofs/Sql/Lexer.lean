import Accord.Sql.Quote

/-!
# How the server reads a statement

The server reads a statement character by character and makes tokens of it.  A quote opens a name or
a text, and a quote inside is written twice.  In an escape string (`E'...'`), and in every text if
the server does not conform to the standard, a backslash escapes what follows.

What is quoted is read back as it was, whatever it holds, and the reading goes on right after the
closing quote (`reads_identifier`, `reads_literal`).
-/

namespace Accord.Sql

/-- A token of a statement. -/
inductive Token where
  /-- A keyword, or a name without quotes. -/
  | word (s : String)
  | number (digits : String)
  /-- A punctuation mark or a part of an operator. -/
  | symbol (c : Char)
  /-- A name that was given in quotes. -/
  | name (s : String)
  /-- A text that was given in quotes. -/
  | text (s : String)
deriving DecidableEq, Repr

/-- What the server is reading, with the characters that it has read of it. -/
inductive Reading where
  | between
  | word (read : List Char)
  | number (read : List Char)
  | symbol (c : Char)
  | name (read : List Char)
  /-- After a quote in a name, which closes it unless another quote follows. -/
  | nameQuote (read : List Char)
  | text (escapes : Bool) (read : List Char)
  /-- After a quote in a text, which closes it unless another quote follows. -/
  | textQuote (escapes : Bool) (read : List Char)
  /-- After a backslash in a text with escapes. -/
  | textEscape (read : List Char)
  | lineComment
  /-- A comment, with the number of comments around it and the last character. -/
  | comment (depth : Nat) (last : Char)
  /-- What is not a token, or a kind of token that no statement here is made of: parameters, quotes
  between dollar signs, and texts or names after a prefix other than `E`. -/
  | refused
deriving DecidableEq, Repr

/-- The white space of statements, which is that of ASCII only. -/
def isBlank (c : Char) : Bool :=
  c ∈ [' ', '\t', '\n', '\r', '\x0b', '\x0c']

/-- The characters that a word can start with; all beyond ASCII are among them. -/
def isWordStart (c : Char) : Bool :=
  c.isAlpha || c = '_' || 128 ≤ c.toNat

/-- The characters that a word goes on with. -/
def isWordChar (c : Char) : Bool :=
  isWordStart c || c.isDigit || c = '$'

/-- The characters of punctuation marks and operators. -/
def isPunctuation (c : Char) : Bool :=
  c ∈ [',', ';', ':', '.', '(', ')', '[', ']', '+', '-', '*', '/', '<', '>', '=', '~', '!', '@',
    '#', '%', '^', '|', '?']

/-- The character for which an escaped one stands; nothing if more characters belong to it. -/
def unescape (c : Char) : Option Char :=
  if c = 'b' then some '\x08'
  else if c = 'f' then some '\x0c'
  else if c = 'n' then some '\n'
  else if c = 'r' then some '\r'
  else if c = 't' then some '\t'
  else if c.isDigit || c ∈ ['x', 'u', 'U'] then none
  else some c

namespace Reading

/-- How a token begins.  `conforming` says whether a backslash means nothing in a plain text. -/
def start (conforming : Bool) (c : Char) : Reading :=
  if isBlank c then .between
  else if c = '"' then .name []
  else if c = '\'' then .text (!conforming) []
  else if isWordStart c then .word [c]
  else if c.isDigit then .number [c]
  else if isPunctuation c then .symbol c
  else .refused

/-- How a character continues what is being read, unless it begins something new. -/
def goOn (c : Char) : Reading → Option Reading
  | .between => none
  | .word read =>
    if isWordChar c then some (.word (read ++ [c]))
    else if c = '\'' ∧ (read = ['E'] ∨ read = ['e']) then some (.text true [])
    else if c = '\'' ∨ c = '"' then some .refused
    else none
  | .number read =>
    if c.isDigit then some (.number (read ++ [c]))
    else if isWordChar c ∨ c = '.' then some .refused
    else none
  | .symbol s =>
    if s = '-' ∧ c = '-' then some .lineComment
    else if s = '/' ∧ c = '*' then some (.comment 0 ' ')
    else none
  | .name read => if c = '"' then some (.nameQuote read) else some (.name (read ++ [c]))
  | .nameQuote read => if c = '"' then some (.name (read ++ [c])) else none
  | .text escapes read =>
    if c = '\'' then some (.textQuote escapes read)
    else if c = '\\' ∧ escapes then some (.textEscape read)
    else some (.text escapes (read ++ [c]))
  | .textQuote escapes read => if c = '\'' then some (.text escapes (read ++ [c])) else none
  | .textEscape read =>
    match unescape c with
    | some d => some (.text true (read ++ [d]))
    | none => some .refused
  | .lineComment => if c = '\n' ∨ c = '\r' then some .between else some .lineComment
  | .comment depth last =>
    if last = '*' ∧ c = '/' then
      match depth with
      | 0 => some .between
      | depth + 1 => some (.comment depth ' ')
    else if last = '/' ∧ c = '*' then some (.comment (depth + 1) ' ')
    else some (.comment depth c)
  | .refused => some .refused

/-- The tokens of what was read, if it can end here. -/
def finish : Reading → Option (List Token)
  | .between | .lineComment => some []
  | .word read => some [.word (.ofList read)]
  | .number read => some [.number (.ofList read)]
  | .symbol c => some [.symbol c]
  | .nameQuote read => some [.name (.ofList read)]
  | .textQuote _ read => some [.text (.ofList read)]
  | .name _ | .text .. | .textEscape _ | .comment .. | .refused => none

end Reading

/-- The tokens that have been read, and what is being read. -/
structure LexState where
  tokens : List Token
  reading : Reading
deriving DecidableEq

/-- Between two tokens. -/
def LexState.after (tokens : List Token) : LexState :=
  ⟨tokens, .between⟩

/-- Reads a character. -/
def LexState.step (conforming : Bool) (state : LexState) (c : Char) : Option LexState :=
  match state.reading.goOn c with
  | some reading => some { state with reading }
  | none => state.reading.finish.map fun ts => ⟨state.tokens ++ ts, .start conforming c⟩

/-- Reads the rest of a statement. -/
def LexState.lex (conforming : Bool) (state : LexState) (rest : List Char) : Option (List Token) :=
  (rest.foldlM (step conforming) state).bind fun last =>
    last.reading.finish.map (last.tokens ++ ·)

/-- What is being read when a piece of a statement is over. -/
def lastReading (conforming : Bool) (piece : String) : Option Reading :=
  (piece.toList.foldlM (LexState.step conforming) (.after [])).map LexState.reading

/-- The tokens of a statement.  `conforming` is the setting `standard_conforming_strings` of the
server. -/
def lex (conforming : Bool) (sql : String) : Option (List Token) :=
  (LexState.after []).lex conforming sql.toList

/-! ## Reading on -/

section Lex

variable {conforming : Bool} {reading reading' : Reading} {tokens ts : List Token} {c : Char}
  {rest : List Char}

theorem LexState.lex_cons {state : LexState} :
    state.lex conforming (c :: rest) =
      (state.step conforming c).bind fun next => next.lex conforming rest := by
  unfold lex
  rw [List.foldlM_cons]
  exact Option.bind_assoc ..

theorem LexState.lex_goOn (h : reading.goOn c = some reading') :
    lex conforming ⟨tokens, reading⟩ (c :: rest) = lex conforming ⟨tokens, reading'⟩ rest := by
  have hstep : step conforming ⟨tokens, reading⟩ c = some ⟨tokens, reading'⟩ := by
    simp only [step, h]
  rw [lex_cons, hstep]
  rfl

/-- What can end ends before anything that does not continue it. -/
theorem LexState.lex_finish (hfinish : reading.finish = some ts)
    (hends : ∀ c ∈ rest.head?, reading.goOn c = none) :
    lex conforming ⟨tokens, reading⟩ rest = lex conforming (.after (tokens ++ ts)) rest := by
  cases rest with
  | nil =>
    have hleft : lex conforming ⟨tokens, reading⟩ [] = some (tokens ++ ts) := by
      show reading.finish.map (tokens ++ ·) = _
      rw [hfinish, Option.map_some]
    have hright : lex conforming (.after (tokens ++ ts)) [] = some (tokens ++ ts ++ []) := rfl
    rw [hleft, hright, List.append_nil]
  | cons c rest =>
    have hstep : step conforming ⟨tokens, reading⟩ c =
        some ⟨tokens ++ ts, .start conforming c⟩ := by
      simp only [step, hends c rfl, hfinish, Option.map_some]
    have hstep' : step conforming (.after (tokens ++ ts)) c =
        some ⟨tokens ++ ts ++ [], .start conforming c⟩ := rfl
    rw [lex_cons, lex_cons, hstep, hstep', List.append_nil]

theorem LexState.lex_start :
    lex conforming (.after tokens) (c :: rest) =
      lex conforming ⟨tokens, .start conforming c⟩ rest := by
  have hstep : step conforming (.after tokens) c =
      some ⟨tokens ++ [], .start conforming c⟩ := rfl
  rw [lex_cons, hstep, List.append_nil]
  rfl

theorem LexState.lex_append {state : LexState} (cs : List Char) :
    state.lex conforming (cs ++ rest) =
      (cs.foldlM (step conforming) state).bind fun next => next.lex conforming rest := by
  unfold lex
  rw [List.foldlM_append]
  exact Option.bind_assoc ..

/-- What was read before stands before what is read later. -/
theorem LexState.foldlM_step (tokens ts : List Token) (reading : Reading) (cs : List Char) :
    cs.foldlM (step conforming) ⟨tokens ++ ts, reading⟩ =
      (cs.foldlM (step conforming) ⟨ts, reading⟩).map fun last =>
        ⟨tokens ++ last.tokens, last.reading⟩ := by
  induction cs generalizing ts reading with
  | nil => rfl
  | cons c cs ih =>
    rw [List.foldlM_cons, List.foldlM_cons]
    cases hgoOn : reading.goOn c with
    | some reading' =>
      simp only [step, hgoOn, Option.bind_eq_bind, Option.bind_some]
      exact ih _ _
    | none =>
      cases hfinish : reading.finish with
      | none => simp [step, hgoOn, hfinish]
      | some ts' =>
        simp only [step, hgoOn, hfinish, Option.map_some, Option.bind_eq_bind, Option.bind_some,
          List.append_assoc]
        exact ih _ _

/-! ## Quotes -/

theorem double_cons (q c : Char) (cs : List Char) :
    double q (c :: cs) = (if c = q then [q, q] else [c]) ++ double q cs := rfl

theorem double_append (q : Char) (cs cs' : List Char) :
    double q (cs ++ cs') = double q cs ++ double q cs' := by
  unfold double
  exact List.flatMap_append ..

/-- A name in quotes is read up to the closing quote. -/
theorem LexState.lex_name (cs read : List Char) :
    lex conforming ⟨tokens, .name read⟩ (double '"' cs ++ '"' :: rest) =
      lex conforming ⟨tokens, .nameQuote (read ++ cs)⟩ rest := by
  induction cs generalizing read with
  | nil =>
    rw [List.append_nil]
    exact lex_goOn rfl
  | cons c cs ih =>
    have hread : read ++ c :: cs = (read ++ [c]) ++ cs := by simp
    rw [double_cons, hread, ← ih (read ++ [c])]
    by_cases hc : c = '"'
    · rw [if_pos hc, hc]
      exact (lex_goOn rfl).trans (lex_goOn rfl)
    · rw [if_neg hc]
      refine lex_goOn ?_
      simp [Reading.goOn, hc]

/-- A text in quotes without a backslash is read up to the closing quote. -/
theorem LexState.lex_text (escapes : Bool) (cs read : List Char) (hcs : '\\' ∉ cs) :
    lex conforming ⟨tokens, .text escapes read⟩ (double '\'' cs ++ '\'' :: rest) =
      lex conforming ⟨tokens, .textQuote escapes (read ++ cs)⟩ rest := by
  induction cs generalizing read with
  | nil =>
    rw [List.append_nil]
    exact lex_goOn rfl
  | cons c cs ih =>
    obtain ⟨hne, hcs⟩ := not_or.1 (mt List.mem_cons.2 hcs)
    have hread : read ++ c :: cs = (read ++ [c]) ++ cs := by simp
    rw [double_cons, hread, ← ih (read ++ [c]) hcs]
    by_cases hc : c = '\''
    · rw [if_pos hc, hc]
      exact (lex_goOn rfl).trans (lex_goOn rfl)
    · rw [if_neg hc]
      refine lex_goOn ?_
      simp [Reading.goOn, hc, Ne.symm hne]

/-- An escape string is read up to the closing quote: two backslashes stand for one. -/
theorem LexState.lex_escapes (cs read : List Char) :
    lex conforming ⟨tokens, .text true read⟩ (double '\'' (double '\\' cs) ++ '\'' :: rest) =
      lex conforming ⟨tokens, .textQuote true (read ++ cs)⟩ rest := by
  induction cs generalizing read with
  | nil =>
    rw [List.append_nil]
    exact lex_goOn rfl
  | cons c cs ih =>
    have hread : read ++ c :: cs = (read ++ [c]) ++ cs := by simp
    rw [double_cons, double_append, hread, ← ih (read ++ [c])]
    by_cases hbackslash : c = '\\'
    · rw [if_pos hbackslash, hbackslash]
      exact (lex_goOn rfl).trans (lex_goOn rfl)
    · rw [if_neg hbackslash]
      by_cases hquote : c = '\''
      · rw [hquote]
        exact (lex_goOn rfl).trans (lex_goOn rfl)
      · have hsingle : double '\'' [c] = [c] := by simp [double, hquote]
        rw [hsingle]
        refine lex_goOn ?_
        simp [Reading.goOn, hbackslash, hquote]

end Lex

/-! ## Reading piece by piece -/

/-- The characters that end whatever they do not stand inside of. -/
def isSeparator (c : Char) : Bool :=
  isBlank c || c = ','

theorem Reading.goOn_of_isSeparator {reading : Reading} {ts : List Token} {c : Char}
    (hc : isSeparator c = true) (hfinish : reading.finish = some ts)
    (hcomment : reading ≠ .lineComment) : reading.goOn c = none := by
  have hcases : c = ' ' ∨ c = '\t' ∨ c = '\n' ∨ c = '\r' ∨ c = '\x0b' ∨ c = '\x0c' ∨ c = ',' := by
    simpa [isSeparator, isBlank, or_assoc] using hc
  cases reading with
  | between => rfl
  | word read => rcases hcases with rfl | rfl | rfl | rfl | rfl | rfl | rfl <;> rfl
  | number read => rcases hcases with rfl | rfl | rfl | rfl | rfl | rfl | rfl <;> rfl
  | symbol s =>
    rcases hcases with rfl | rfl | rfl | rfl | rfl | rfl | rfl <;> simp [goOn]
  | nameQuote read => rcases hcases with rfl | rfl | rfl | rfl | rfl | rfl | rfl <;> rfl
  | textQuote escapes read => rcases hcases with rfl | rfl | rfl | rfl | rfl | rfl | rfl <;> rfl
  | lineComment => exact absurd rfl hcomment
  | _ => cases hfinish

/-- What is read next begins something new. -/
def Separated (rest : List Char) : Prop :=
  ∀ c ∈ rest.head?, isSeparator c = true

instance (rest : List Char) : Decidable (Separated rest) :=
  decidable_of_iff (rest.head?.all isSeparator = true) (Option.all_eq_true _ _)

/-- A piece of a statement is read as some tokens, wherever a separator or the end comes next. -/
def Reads (piece : String) (ts : List Token) : Prop :=
  ∀ conforming before rest, Separated rest →
    LexState.lex conforming (.after before) (piece.toList ++ rest) =
      LexState.lex conforming (.after (before ++ ts)) rest

/-- A piece of a statement is read as some tokens, whatever comes next. -/
def ReadsOpen (piece : String) (ts : List Token) : Prop :=
  ∀ conforming before rest,
    LexState.lex conforming (.after before) (piece.toList ++ rest) =
      LexState.lex conforming (.after (before ++ ts)) rest

section Pieces

variable {piece piece' : String} {ts ts' : List Token}

theorem lex_of_reads (h : Reads piece ts) (conforming : Bool) : lex conforming piece = some ts := by
  have hend : Separated [] := fun c hc => by cases hc
  have hread := h conforming [] [] hend
  rw [List.append_nil] at hread
  exact hread.trans (congrArg some (List.append_nil ts))

theorem ReadsOpen.append (h : ReadsOpen piece ts) (h' : Reads piece' ts') :
    Reads (piece ++ piece') (ts ++ ts') := by
  intro conforming before rest hrest
  rw [String.toList_append, List.append_assoc, h, h' _ _ _ hrest, List.append_assoc]

theorem Reads.append (h : Reads piece ts) (h' : Reads piece' ts')
    (hseparated : Separated piece'.toList) : Reads (piece ++ piece') (ts ++ ts') := by
  intro conforming before rest hrest
  have hnext : Separated (piece'.toList ++ rest) := by
    intro c hc
    rw [List.head?_append] at hc
    rcases Option.or_eq_some_iff.1 hc with hc | ⟨-, hc⟩
    · exact hseparated c hc
    · exact hrest c hc
  rw [String.toList_append, List.append_assoc, h _ _ _ hnext, h' _ _ _ hrest, List.append_assoc]

theorem Reads.append_open (h : Reads piece ts) (h' : ReadsOpen piece' ts')
    (hseparated : piece'.toList.head?.any isSeparator = true) :
    ReadsOpen (piece ++ piece') (ts ++ ts') := by
  intro conforming before rest
  have hnext : Separated (piece'.toList ++ rest) := by
    obtain ⟨d, hd, hsep⟩ := (Option.any_eq_true _ _).1 hseparated
    intro c hc
    rw [List.head?_append, hd, Option.some_or] at hc
    exact Option.some.inj hc ▸ hsep
  rw [String.toList_append, List.append_assoc, h _ _ _ hnext, h', List.append_assoc]

/-- A piece that is read by itself is read in the same way after other tokens. -/
theorem lex_append_of_lex {conforming : Bool} (hlex : lex conforming piece = some ts)
    (before : List Token) (rest : List Char) : ∃ read reading ended,
      lastReading conforming piece = some reading ∧ reading.finish = some ended ∧
        ts = read ++ ended ∧
        LexState.lex conforming (.after before) (piece.toList ++ rest) =
          LexState.lex conforming ⟨before ++ read, reading⟩ rest := by
  obtain ⟨⟨read, reading⟩, hfold, hread⟩ := Option.bind_eq_some_iff.1 hlex
  obtain ⟨ended, hended, rfl⟩ := Option.map_eq_some_iff.1 hread
  refine ⟨read, reading, ended, ?_, hended, rfl, ?_⟩
  · rw [lastReading, hfold]
    rfl
  · have hbefore : piece.toList.foldlM (LexState.step conforming) ⟨before ++ [], .between⟩ = _ :=
      LexState.foldlM_step before [] .between piece.toList
    have hfold' : piece.toList.foldlM (LexState.step conforming) ⟨[], .between⟩ =
        some ⟨read, reading⟩ := hfold
    rw [List.append_nil, hfold', Option.map_some] at hbefore
    rw [LexState.lex_append]
    show (piece.toList.foldlM (LexState.step conforming) ⟨before, .between⟩).bind _ = _
    rw [hbefore, Option.bind_some]

/-- A piece that is read by itself, and that is over when it ends, is read so everywhere. -/
theorem readsOpen_of_lex
    (h : ∀ conforming, lex conforming piece = some ts ∧
      lastReading conforming piece = some .between) : ReadsOpen piece ts := by
  intro conforming before rest
  obtain ⟨hlex, hlast⟩ := h conforming
  obtain ⟨read, reading, ended, hreading, hended, rfl, hrest⟩ :=
    lex_append_of_lex hlex before rest
  obtain rfl := Option.some.inj (hlast.symm.trans hreading)
  obtain rfl := Option.some.inj hended
  rw [hrest, List.append_nil]
  rfl

/-- A piece that is read by itself, and that does not end in a comment, is read so wherever a
separator or the end comes next. -/
theorem reads_of_lex
    (h : ∀ conforming, lex conforming piece = some ts ∧
      lastReading conforming piece ≠ some .lineComment) : Reads piece ts := by
  intro conforming before rest hseparated
  obtain ⟨hlex, hlast⟩ := h conforming
  obtain ⟨read, reading, ended, hreading, hended, rfl, hrest⟩ :=
    lex_append_of_lex hlex before rest
  have hcomment : reading ≠ .lineComment := fun heq => hlast (heq ▸ hreading)
  rw [hrest, LexState.lex_finish hended fun c hc =>
    Reading.goOn_of_isSeparator (hseparated c hc) hended hcomment, List.append_assoc]

/-! ## Names, texts, and numbers -/

/-- A name in quotes is read back as it was. -/
theorem reads_identifier (name : String) : Reads (identifier name) [.name name] := by
  intro conforming before rest hseparated
  have hchars : (identifier name).toList ++ rest =
      '"' :: (double '"' name.toList ++ '"' :: rest) := by
    simp [identifier]
  have hended : (Reading.nameQuote ([] ++ name.toList)).finish = some [.name name] := by
    simp [Reading.finish]
  rw [hchars, LexState.lex_start]
  refine (LexState.lex_name name.toList []).trans ?_
  exact LexState.lex_finish hended fun c hc =>
    Reading.goOn_of_isSeparator (hseparated c hc) hended (by simp)

/-- A text in quotes is read back as it was, under either setting of the server. -/
theorem reads_literal (value : String) : Reads (literal value) [.text value] := by
  intro conforming before rest hseparated
  have hclose : ∀ escapes, LexState.lex conforming
      ⟨before, .textQuote escapes ([] ++ value.toList)⟩ rest =
        LexState.lex conforming (.after (before ++ [.text value])) rest := by
    intro escapes
    have hended : (Reading.textQuote escapes ([] ++ value.toList)).finish =
        some [.text value] := by
      simp [Reading.finish]
    exact LexState.lex_finish hended fun c hc =>
      Reading.goOn_of_isSeparator (hseparated c hc) hended (by simp)
  by_cases hbackslash : '\\' ∈ value.toList
  · have hchars : (literal value).toList ++ rest =
        'E' :: '\'' :: (double '\'' (double '\\' value.toList) ++ '\'' :: rest) := by
      simp [literal, hbackslash]
    rw [hchars, LexState.lex_start]
    refine (LexState.lex_goOn rfl).trans ?_
    exact (LexState.lex_escapes value.toList []).trans (hclose true)
  · have hchars : (literal value).toList ++ rest =
        '\'' :: (double '\'' value.toList ++ '\'' :: rest) := by
      simp [literal, hbackslash]
    rw [hchars, LexState.lex_start]
    exact (LexState.lex_text (!conforming) value.toList [] hbackslash).trans (hclose _)

example : lex true "'a\\' E'b\\'' --c" = some [.text "a\\", .text "b'"] := by
  decide +kernel

/-- Keywords and a name. -/
theorem reads_name (h : ∀ conforming, lex conforming piece = some ts ∧
    lastReading conforming piece = some .between) (name : String) :
    Reads (piece ++ identifier name) (ts ++ [.name name]) :=
  (readsOpen_of_lex h).append (reads_identifier name)

/-- Further keywords and a name. -/
theorem Reads.name (h : Reads piece ts) (h' : (∀ conforming, lex conforming piece' = some ts' ∧
      lastReading conforming piece' = some .between) ∧
        piece'.toList.head?.any isSeparator = true) (name : String) :
    Reads (piece ++ piece' ++ identifier name) (ts ++ ts' ++ [.name name]) :=
  (h.append_open (readsOpen_of_lex h'.1) h'.2).append (reads_identifier name)

/-- The tokens of an integer. -/
def Token.ofInt : Int → List Token
  | .ofNat n => [.number (toString n)]
  | .negSucc n => [.symbol '-', .number (toString (n + 1))]

theorem LexState.lex_digits {conforming : Bool} {tokens : List Token} {digits : List Char}
    (hdigits : ∀ c ∈ digits, c.isDigit = true) (read rest : List Char) :
    lex conforming ⟨tokens, .number read⟩ (digits ++ rest) =
      lex conforming ⟨tokens, .number (read ++ digits)⟩ rest := by
  induction digits generalizing read with
  | nil => rw [List.nil_append, List.append_nil]
  | cons c digits ih =>
    obtain ⟨hc, hdigits⟩ := List.forall_mem_cons.1 hdigits
    have hread : read ++ c :: digits = (read ++ [c]) ++ digits := by simp
    rw [hread, ← ih hdigits]
    exact lex_goOn (if_pos hc)

theorem Reading.start_of_isDigit {conforming : Bool} {c : Char} (h : c.isDigit = true) :
    start conforming c = .number [c] := by
  have hne : ∀ d : Char, d.isDigit = false → c ≠ d := by
    rintro d hd rfl
    simp [h] at hd
  have hrange : 48 ≤ c.toNat ∧ c.toNat ≤ 57 := by
    obtain ⟨hlow, hhigh⟩ := (Bool.and_eq_true _ _).mp h
    exact ⟨UInt32.le_iff_toNat_le.1 (of_decide_eq_true hlow),
      UInt32.le_iff_toNat_le.1 (of_decide_eq_true hhigh)⟩
  -- Both ranges of letters begin after the digits.
  have hletter : ∀ low : UInt32, 58 ≤ low.toNat → ¬low ≤ c.val := by
    intro low hlow hle
    have hc : 58 ≤ c.toNat := Nat.le_trans hlow (UInt32.le_iff_toNat_le.1 hle)
    omega
  have halpha : c.isAlpha = false := by
    have hupper : c.isUpper = false := decide_eq_false fun h => hletter 65 (by decide) h.1
    have hlower : (decide (97 ≤ c.val) && decide (c.val ≤ 122)) = false := by
      rw [decide_eq_false (hletter 97 (by decide)), Bool.false_and]
    show (c.isUpper || (decide (97 ≤ c.val) && decide (c.val ≤ 122))) = false
    rw [hupper, hlower, Bool.or_false]
  have hblank : isBlank c = false := by
    simp [isBlank, hne]
  have hword : isWordStart c = false := by
    have hsmall : ¬128 ≤ c.toNat := by omega
    simp [isWordStart, halpha, hne, hsmall]
  have hquote : c ≠ '"' := hne _ rfl
  have hquote' : c ≠ '\'' := hne _ rfl
  unfold start
  rw [hblank, hword, if_neg (by decide), if_neg hquote, if_neg hquote', if_neg (by decide),
    if_pos h]

/-- Some digits are read as a number. -/
theorem LexState.lex_number {conforming : Bool} {before : List Token} {digits rest : List Char}
    (hdigits : ∀ c ∈ digits, c.isDigit = true) (hne : digits ≠ []) (hseparated : Separated rest) :
    lex conforming (.after before) (digits ++ rest) =
      lex conforming (.after (before ++ [.number (.ofList digits)])) rest := by
  obtain ⟨c, digits, rfl⟩ := List.exists_cons_of_ne_nil hne
  obtain ⟨hc, hdigits⟩ := List.forall_mem_cons.1 hdigits
  rw [List.cons_append, lex_start, Reading.start_of_isDigit hc, lex_digits hdigits]
  have hended : (Reading.number ([c] ++ digits)).finish =
      some [.number (.ofList (c :: digits))] := rfl
  exact lex_finish hended fun d hd =>
    Reading.goOn_of_isSeparator (hseparated d hd) hended (by simp)

theorem isDigit_of_mem_toString {n : Nat} {c : Char} (hc : c ∈ (toString n).toList) :
    c.isDigit = true :=
  Nat.isDigit_of_mem_toDigits (by decide) (Nat.le_refl 10) (Nat.toList_repr ▸ hc)

theorem toList_toString_ne_nil (n : Nat) : (toString n).toList ≠ [] := by
  have htoList : (toString n).toList = Nat.toDigits 10 n := Nat.toList_repr
  rw [htoList]
  exact Nat.toDigits_ne_nil

theorem reads_int (n : Int) : Reads (toString n) (Token.ofInt n) := by
  intro conforming before rest hseparated
  cases n with
  | ofNat n =>
    refine (LexState.lex_number (fun c => isDigit_of_mem_toString) (toList_toString_ne_nil n)
      hseparated).trans ?_
    rw [String.ofList_toList]
    rfl
  | negSucc n =>
    have hchars : (toString (Int.negSucc n)).toList ++ rest =
        '-' :: ((toString (n + 1)).toList ++ rest) := by
      show ("-" ++ toString (n + 1)).toList ++ rest = _
      simp
    have hnext : ∀ c ∈ ((toString (n + 1)).toList ++ rest).head?,
        (Reading.symbol '-').goOn c = none := by
      intro c hc
      have hmem : c ∈ (toString (n + 1)).toList := by
        rw [List.head?_append] at hc
        obtain ⟨d, digits, hdigits⟩ := List.exists_cons_of_ne_nil (toList_toString_ne_nil (n + 1))
        rw [hdigits, List.head?_cons, Option.some_or, Option.mem_some_iff] at hc
        rw [hdigits, hc]
        exact List.mem_cons_self ..
      have hdash : c ≠ '-' := by
        rintro rfl
        exact absurd (isDigit_of_mem_toString hmem) (by decide)
      simp [Reading.goOn, hdash]
    rw [hchars, LexState.lex_start]
    have hdash : (Reading.symbol '-').finish = some [.symbol '-'] := rfl
    refine (LexState.lex_finish hdash hnext).trans ?_
    refine (LexState.lex_number (fun c => isDigit_of_mem_toString) (toList_toString_ne_nil (n + 1))
      hseparated).trans ?_
    rw [String.ofList_toList, List.append_assoc]
    rfl

end Pieces

end Accord.Sql
