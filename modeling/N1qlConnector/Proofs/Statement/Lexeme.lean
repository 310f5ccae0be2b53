import Mathlib.Data.List.Forall2
import N1qlConnector.Proofs.Json.Text
import N1qlConnector.Statement.Name
import N1qlConnector.Statement.Parameters
import N1qlConnector.Statement.Tags

/-!
# The lexemes of a statement

A reference lexer for statements, written without a look at how statements are printed. It is an
automaton that takes one character at a time: between lexemes, inside a name in backticks (where a
backslash takes the next character as it is), inside a JSON string, a placeholder, a word or a
comment. An automaton reads the second half of a text from the state in which the first half left
it, so the lexemes of a text that is put together come from the lexemes of its parts. That is all
the proofs about printed statements need.

Two parts may stand side by side without a change of their lexemes if the first one ends between two
lexemes (`Closed`), or if the second one starts with a character that no lexeme goes on with
(`Opens`).

## Main results

* `Spells.append`, `Closed.append`: the lexemes of a concatenation.
* `closed_quoteName`, `closed_quote`: a name or a string is one lexeme whatever characters it has.
* `Spells.tag`: a tag leaves no significant lexeme behind.
-/

namespace N1qlConnector.Statement

/-- A piece of a statement. -/
inductive Lexeme where
  /-- A name between backticks, without its escapes. -/
  | name (text : String)
  /-- A JSON string, without its escapes. -/
  | text (value : String)
  /-- A placeholder, without the dollar sign. -/
  | parameter (name : String)
  /-- A keyword, a bare name or a number. -/
  | word (text : String)
  | mark (text : String)
  | comment (text : String)
  deriving DecidableEq, Repr

/-- A comment says nothing to whoever runs the statement. -/
def Lexeme.isSignificant : Lexeme → Bool
  | comment _ => false
  | _ => true

/-- The characters of words and placeholders. -/
def isWordChar (c : Char) : Bool := c.isAlphanum || c = '_'

/-- The characters that are lexemes by themselves. -/
def isMark (c : Char) : Bool := "()[],.=*".toList.contains c

/-- A character that no lexeme goes on with. -/
def isOpening (c : Char) : Bool := !isWordChar c && c != '='

/-- What a JSON string with the given characters between its quotes stands for. -/
def textOfRaw? (raw : List Char) : Option String := do
  let (pieces, _) ← Token.pieces (raw ++ ['"'])
  let found ← Token.assemble pieces
  return String.ofList found

/-! ## The automaton -/

/-- Where the lexer is, with the characters of the lexeme that it is in. -/
inductive Mode where
  | between
  | word (soFar : List Char)
  | parameter (soFar : List Char)
  | name (soFar : List Char)
  | nameEscape (soFar : List Char)
  | text (soFar : List Char)
  | textEscape (soFar : List Char)
  /-- After `<` or `>`, which an equals sign may follow. -/
  | angle (c : Char)
  | slash
  | comment (soFar : List Char)
  | commentStar (soFar : List Char)
  deriving DecidableEq, Repr

namespace Mode

/-- What the lexer does with a character between two lexemes. -/
def start (c : Char) : Option (Mode × List Lexeme) :=
  if Token.isBlank c then some (between, [])
  else if c = '\x60' then some (name [], [])
  else if c = '"' then some (text [], [])
  else if c = '$' then some (parameter [], [])
  else if c = '/' then some (slash, [])
  else if c = '<' ∨ c = '>' then some (angle c, [])
  else if isMark c then some (between, [.mark (String.singleton c)])
  else if isWordChar c then some (word [c], [])
  else none

/-- The lexeme that ends if nothing follows, `none` where the text cannot end. -/
def last : Mode → Option (List Lexeme)
  | between => some []
  | word soFar => some [.word (String.ofList soFar)]
  | parameter soFar => if soFar = [] then none else some [.parameter (String.ofList soFar)]
  | angle c => some [.mark (String.singleton c)]
  | _ => none

/-- Ends the lexeme and starts the next one. -/
def restart (mode : Mode) (c : Char) : Option (Mode × List Lexeme) :=
  mode.last.bind fun ended => (start c).map fun next => (next.1, ended ++ next.2)

/-- One character. -/
def step : Mode → Char → Option (Mode × List Lexeme)
  | between, c => start c
  | word soFar, c =>
    if isWordChar c then some (word (soFar ++ [c]), []) else restart (word soFar) c
  | parameter soFar, c =>
    if isWordChar c then some (parameter (soFar ++ [c]), []) else restart (parameter soFar) c
  | angle a, c =>
    if c = '=' then some (between, [.mark (String.ofList [a, c])]) else restart (angle a) c
  | name soFar, c =>
    if c = '\x60' then some (between, [.name (String.ofList soFar)])
    else if c = '\\' then some (nameEscape soFar, [])
    else some (name (soFar ++ [c]), [])
  | nameEscape soFar, c => some (name (soFar ++ [c]), [])
  | text soFar, c =>
    if c = '"' then (textOfRaw? soFar).map fun value => (between, [.text value])
    else if c = '\\' then some (textEscape (soFar ++ [c]), [])
    else some (text (soFar ++ [c]), [])
  | textEscape soFar, c => some (text (soFar ++ [c]), [])
  | slash, c => if c = '*' then some (comment [], []) else none
  | comment soFar, c =>
    if c = '*' then some (commentStar soFar, []) else some (comment (soFar ++ [c]), [])
  | commentStar soFar, c =>
    if c = '/' then some (between, [.comment (String.ofList soFar)])
    else if c = '*' then some (commentStar (soFar ++ ['*']), [])
    else some (comment (soFar ++ ['*', c]), [])

/-- All characters of a text. -/
def run : Mode → List Char → Option (Mode × List Lexeme)
  | mode, [] => some (mode, [])
  | mode, c :: rest => do
    let (next, found) ← mode.step c
    let (final, more) ← next.run rest
    return (final, found ++ more)

end Mode

/-- All lexemes of a text, comments among them. -/
def lex (text : String) : Option (List Lexeme) := do
  let (mode, found) ← Mode.run .between text.toList
  let ended ← mode.last
  return found ++ ended

/-- The lexemes of a text that are not comments. -/
def lexemes (text : String) : Option (List Lexeme) :=
  (lex text).map (·.filter Lexeme.isSignificant)

/-! ## Running through a concatenation -/

namespace Mode

theorem run_append (mode : Mode) (first second : List Char) :
    mode.run (first ++ second) =
      (mode.run first).bind fun before =>
        (before.1.run second).map fun after => (after.1, before.2 ++ after.2) := by
  induction first generalizing mode with
  | nil => simp [run]
  | cons c rest ih =>
      simp only [List.cons_append, run]
      cases mode.step c with
      | none => rfl
      | some next =>
          simp only [Option.bind_eq_bind, Option.bind_some, ih]
          cases next.1.run rest with
          | none => rfl
          | some middle =>
              simp only [Option.bind_some, Option.pure_def]
              cases middle.1.run second with
              | none => rfl
              | some final => simp [List.append_assoc]

/-- A run that ends where another one starts goes on with it. -/
theorem run_trans {mode middle final : Mode} {first second : List Char}
    {before after : List Lexeme} (hFirst : mode.run first = some (middle, before))
    (hSecond : middle.run second = some (final, after)) :
    mode.run (first ++ second) = some (final, before ++ after) := by
  simp [run_append, hFirst, hSecond]

/-- A mode that collects characters goes through a text that is written block by block, if it goes
through each block. -/
theorem run_flatMap {collect : List Char → Mode} {block seen : Char → List Char} {text : List Char}
    (h : ∀ soFar, ∀ c ∈ text,
      (collect soFar).run (block c) = some (collect (soFar ++ seen c), [])) (soFar : List Char) :
    (collect soFar).run (text.flatMap block) =
      some (collect (soFar ++ text.flatMap seen), []) := by
  induction text generalizing soFar with
  | nil => simp [run]
  | cons c rest ih =>
      have hFirst := h soFar c List.mem_cons_self
      have hRest := ih (fun soFar d hd => h soFar d (List.mem_cons_of_mem _ hd))
        (soFar ++ seen c)
      rw [List.flatMap_cons, List.flatMap_cons, ← List.append_assoc]
      exact run_trans hFirst hRest

/-- The same for a text that is written as it is. -/
theorem run_of_step {collect : List Char → Mode} {text : List Char}
    (h : ∀ soFar, ∀ c ∈ text, (collect soFar).step c = some (collect (soFar ++ [c]), []))
    (soFar : List Char) : (collect soFar).run text = some (collect (soFar ++ text), []) := by
  have hBlock : ∀ soFar, ∀ c ∈ text, (collect soFar).run [c] = some (collect (soFar ++ [c]), []) :=
    fun soFar c hc => by simp [run, h soFar c hc]
  have hBlocks := run_flatMap hBlock soFar
  rwa [List.flatMap_singleton'] at hBlocks

/-- Where a lexeme may end, a character that it does not go on with starts the next one. -/
theorem step_of_last {mode : Mode} {ended : List Lexeme} (hLast : mode.last = some ended)
    {c : Char} (hc : isOpening c = true) : mode.step c = mode.restart c := by
  simp only [isOpening, Bool.and_eq_true, Bool.not_eq_true', bne_iff_ne] at hc
  cases mode <;> simp_all [last, step, restart]

/-- From where a lexeme may end a text is read as from between two lexemes, if it starts with a
character that no lexeme goes on with. -/
theorem run_of_last {mode final : Mode} {ended found : List Lexeme}
    (hLast : mode.last = some ended) {c : Char} {rest : List Char} (hc : isOpening c = true)
    (hRun : run .between (c :: rest) = some (final, found)) :
    mode.run (c :: rest) = some (final, ended ++ found) := by
  have hStep : step .between c = start c := rfl
  simp only [run, step_of_last hLast hc, restart, hLast, hStep,
    Option.bind_eq_bind, Option.bind_some] at hRun ⊢
  cases hStart : start c with
  | none => simp [hStart] at hRun
  | some next =>
      simp only [hStart, Option.map_some, Option.bind_some] at hRun ⊢
      cases hNext : next.1.run rest with
      | none => simp [hNext] at hRun
      | some after =>
          simp only [hNext, Option.bind_some, Option.pure_def, Option.some.injEq,
            Prod.mk.injEq] at hRun ⊢
          obtain ⟨hMode, hFound⟩ := hRun
          exact ⟨hMode, by rw [← hFound, List.append_assoc]⟩

end Mode

/-! ## Texts and their lexemes -/

/-- A text has the given significant lexemes. -/
def Spells (text : String) (found : List Lexeme) : Prop := lexemes text = some found

/-- A text has the given significant lexemes, and no further character can change the last one. -/
def Closed (text : String) (found : List Lexeme) : Prop :=
  ∃ all, Mode.run .between text.toList = some (.between, all) ∧
    all.filter Lexeme.isSignificant = found

/-- A text starts with a character that no lexeme goes on with. -/
def Opens (text : String) : Prop := text.toList.head?.any isOpening = true

instance (text : String) : Decidable (Opens text) := inferInstanceAs (Decidable (_ = true))

theorem Opens.exists_cons {text : String} (h : Opens text) :
    ∃ c rest, text.toList = c :: rest ∧ isOpening c = true := by
  unfold Opens at h
  cases hChars : text.toList with
  | nil => simp [hChars] at h
  | cons c rest => exact ⟨c, rest, rfl, by simpa [hChars] using h⟩

theorem Opens.append {first : String} (h : Opens first) (second : String) :
    Opens (first ++ second) := by
  obtain ⟨c, rest, hChars, hc⟩ := h.exists_cons
  simp [Opens, hChars, hc]

/-- What the lexer has found of a text, and where it is then. -/
theorem spells_iff {text : String} {found : List Lexeme} :
    Spells text found ↔ ∃ mode all ended, Mode.run .between text.toList = some (mode, all) ∧
      mode.last = some ended ∧ (all ++ ended).filter Lexeme.isSignificant = found := by
  unfold Spells lexemes lex
  constructor
  · intro h
    cases hRun : Mode.run .between text.toList with
    | none => simp [hRun] at h
    | some reached =>
        cases hLast : reached.1.last with
        | none => simp [hRun, hLast] at h
        | some ended => exact ⟨reached.1, reached.2, ended, rfl, hLast, by simpa [hRun, hLast] using h⟩
  · rintro ⟨mode, all, ended, hRun, hLast, hFound⟩
    simpa [hRun, hLast] using hFound

theorem Closed.spells {text : String} {found : List Lexeme} (h : Closed text found) :
    Spells text found := by
  obtain ⟨all, hRun, hFound⟩ := h
  exact spells_iff.2 ⟨.between, all, [], hRun, rfl, by simpa using hFound⟩

theorem closed_empty : Closed "" [] := ⟨[], rfl, rfl⟩

theorem Spells.eq_nil {found : List Lexeme} (h : Spells "" found) : found = [] :=
  (Option.some.inj h).symm

section Concatenation

variable {first second : String} {before after : List Lexeme}

theorem Closed.append_closed (hFirst : Closed first before) (hSecond : Closed second after) :
    Closed (first ++ second) (before ++ after) := by
  obtain ⟨all, hRun, hFound⟩ := hFirst
  obtain ⟨all', hRun', hFound'⟩ := hSecond
  refine ⟨all ++ all', ?_, ?_⟩
  · rw [String.toList_append]
    exact Mode.run_trans hRun hRun'
  · rw [List.filter_append, hFound, hFound']

theorem Closed.append (hFirst : Closed first before) (hSecond : Spells second after) :
    Spells (first ++ second) (before ++ after) := by
  obtain ⟨all, hRun, hFound⟩ := hFirst
  obtain ⟨mode, all', ended, hRun', hLast, hFound'⟩ := spells_iff.1 hSecond
  refine spells_iff.2 ⟨mode, all ++ all', ended, ?_, hLast, ?_⟩
  · rw [String.toList_append]
    exact Mode.run_trans hRun hRun'
  · rw [List.append_assoc, List.filter_append, hFound, hFound']

/-- The run of a concatenation whose second part no lexeme goes on with. -/
private theorem run_append_of_opens {mode : Mode} {all : List Lexeme} (hOpens : Opens second)
    (hFirst : Spells first before)
    (hSecond : Mode.run .between second.toList = some (mode, all)) :
    ∃ found, Mode.run .between (first ++ second).toList = some (mode, found ++ all) ∧
      found.filter Lexeme.isSignificant = before := by
  obtain ⟨reached, found, ended, hRun, hLast, hFound⟩ := spells_iff.1 hFirst
  obtain ⟨c, rest, hChars, hc⟩ := hOpens.exists_cons
  rw [hChars] at hSecond
  have hMore := Mode.run_of_last hLast hc hSecond
  refine ⟨found ++ ended, ?_, hFound⟩
  rw [String.toList_append, hChars, List.append_assoc]
  exact Mode.run_trans hRun hMore

theorem Spells.append (hFirst : Spells first before) (hSecond : Spells second after)
    (hOpens : Opens second) : Spells (first ++ second) (before ++ after) := by
  obtain ⟨mode, all, ended, hRun, hLast, hFound⟩ := spells_iff.1 hSecond
  obtain ⟨found, hRun', hFound'⟩ := run_append_of_opens hOpens hFirst hRun
  refine spells_iff.2 ⟨mode, found ++ all, ended, hRun', hLast, ?_⟩
  rw [List.append_assoc, List.filter_append, hFound', hFound]

theorem Spells.append_closed (hFirst : Spells first before) (hSecond : Closed second after)
    (hOpens : Opens second) : Closed (first ++ second) (before ++ after) := by
  obtain ⟨all, hRun, hFound⟩ := hSecond
  obtain ⟨found, hRun', hFound'⟩ := run_append_of_opens hOpens hFirst hRun
  refine ⟨found ++ all, hRun', ?_⟩
  rw [List.filter_append, hFound', hFound]

end Concatenation

/-! ## Names -/

theorem run_escapeNameChar (soFar : List Char) (c : Char) :
    Mode.run (.name soFar) (escapeNameChar c) = some (.name (soFar ++ [c]), []) := by
  unfold escapeNameChar
  split
  · next h => subst h; rfl
  · split
    · next h => subst h; rfl
    · next hSlash hTick => simp [Mode.run, Mode.step, hSlash, hTick]

theorem run_escapeName (soFar name : List Char) :
    Mode.run (.name soFar) (escapeName name) = some (.name (soFar ++ name), []) := by
  have hBlocks := Mode.run_flatMap (fun soFar c (_ : c ∈ name) => run_escapeNameChar soFar c) soFar
  rwa [List.flatMap_singleton'] at hBlocks

theorem run_quoteName (name : String) :
    Mode.run .between (quoteName name).toList = some (.between, [.name name]) := by
  rw [toList_quoteName]
  have hOpen : Mode.run .between ['\x60'] = some (.name [], []) := rfl
  have hClose : Mode.run (.name name.toList) ['\x60'] = some (.between, [.name name]) := by
    simp [Mode.run, Mode.step]
  exact Mode.run_trans hOpen (Mode.run_trans (run_escapeName [] name.toList) hClose)

/-- Whatever characters a name has, its quoted form is one lexeme, which is that name. -/
theorem closed_quoteName (name : String) : Closed (quoteName name) [.name name] :=
  ⟨[.name name], run_quoteName name, rfl⟩

/-! ## Strings -/

theorem run_escapeChar (soFar : List Char) (c : Char) :
    Mode.run (.text soFar) (Json.escapeChar c) =
      some (.text (soFar ++ Json.escapeChar c), []) := by
  rcases Json.escapeChar_cases c with ⟨hQuote, hSlash, -, h⟩ | ⟨d, -, -, h⟩ | ⟨hControl, h⟩
  · simp [h, Mode.run, Mode.step, hQuote, hSlash]
  · simp [h, Mode.run, Mode.step]
  · obtain ⟨hQuote, hSlash, -⟩ := Json.hexDigit_ne (n := c.toNat / 16) (by omega)
    obtain ⟨hQuote', hSlash', -⟩ := Json.hexDigit_ne (n := c.toNat % 16) (by omega)
    simp [h, Mode.run, Mode.step, hQuote, hSlash, hQuote', hSlash']

theorem run_escape (soFar text : List Char) :
    Mode.run (.text soFar) (Json.escape text) = some (.text (soFar ++ Json.escape text), []) :=
  Mode.run_flatMap (fun soFar c (_ : c ∈ text) => run_escapeChar soFar c) soFar

/-- What a JSON string escapes comes back. -/
theorem textOfRaw?_escape (text : List Char) :
    textOfRaw? (Json.escape text) = some (String.ofList text) := by
  obtain ⟨found, hFound, hText⟩ := Json.pieces_escape text []
  simp [textOfRaw?, hFound, hText]

theorem run_quote (text : String) :
    Mode.run .between (Json.quote text).toList = some (.between, [.text text]) := by
  rw [Json.toList_quote]
  have hOpen : Mode.run .between ['"'] = some (.text [], []) := rfl
  have hClose : Mode.run (.text (Json.escape text.toList)) ['"'] =
      some (.between, [.text text]) := by
    simp [Mode.run, Mode.step, textOfRaw?_escape]
  exact Mode.run_trans hOpen (Mode.run_trans (run_escape [] text.toList) hClose)

/-- Whatever characters a text has, its quoted form is one lexeme, which is that text. -/
theorem closed_quote (text : String) : Closed (Json.quote text) [.text text] :=
  ⟨[.text text], run_quote text, rfl⟩

/-! ## Words -/

theorem run_word (soFar : List Char) {more : List Char} (h : more.all isWordChar) :
    Mode.run (.word soFar) more = some (.word (soFar ++ more), []) := by
  refine Mode.run_of_step ?_ soFar
  intro soFar c hc
  simp [Mode.step, List.all_eq_true.1 h c hc]

theorem run_parameter (soFar : List Char) {more : List Char} (h : more.all isWordChar) :
    Mode.run (.parameter soFar) more = some (.parameter (soFar ++ more), []) := by
  refine Mode.run_of_step ?_ soFar
  intro soFar c hc
  simp [Mode.step, List.all_eq_true.1 h c hc]

/-- A bare word that is not empty, as a placeholder needs it for its name. -/
def IsWord (text : String) : Prop := text ≠ "" ∧ text.toList.all isWordChar

/-- The placeholder of a bare word is one lexeme. -/
theorem spells_placeholder {name : String} (h : IsWord name) :
    Spells (placeholder name) [.parameter name] := by
  have hChars : (placeholder name).toList = ['$'] ++ name.toList := by simp [placeholder]
  have hOpen : Mode.run .between ['$'] = some (.parameter [], []) := rfl
  have hNe : name.toList ≠ [] := fun hNil => h.1 (String.toList_eq_nil_iff.1 hNil)
  refine spells_iff.2 ⟨.parameter name.toList, [], [.parameter name], ?_, ?_, rfl⟩
  · rw [hChars]
    exact Mode.run_trans hOpen (run_parameter [] h.2)
  · simp [Mode.last, hNe]

theorem isWordChar_of_isDigit {c : Char} (h : c.isDigit = true) : isWordChar c = true := by
  simp [isWordChar, Char.isAlphanum, h]

theorem start_of_isDigit {c : Char} (h : c.isDigit = true) :
    Mode.start c = some (.word [c], []) := by
  have hNe : ∀ d : Char, d.isDigit = false → c ≠ d := by
    rintro d hd rfl
    rw [h] at hd
    cases hd
  have hMark : isMark c = false := by
    have hNone : "()[],.=*".toList.all (fun d => !d.isDigit) = true := rfl
    simp only [isMark, List.contains_eq_mem, decide_eq_false_iff_not]
    intro hMem
    exact hNe c (by simpa using List.all_eq_true.1 hNone c hMem) rfl
  have hBlank : Token.isBlank c = false := by
    simp [Token.isBlank, hNe ' ' (by decide), hNe '\t' (by decide), hNe '\n' (by decide),
      hNe '\r' (by decide)]
  simp [Mode.start, hBlank, hMark, isWordChar_of_isDigit h, hNe '\x60' (by decide),
    hNe '"' (by decide), hNe '$' (by decide), hNe '/' (by decide), hNe '<' (by decide),
    hNe '>' (by decide)]

/-- The digits of a number are one word. -/
theorem spells_toString (n : Nat) : Spells (toString n) [.word (toString n)] := by
  have hChars : (toString n).toList = Nat.toDigits 10 n := Nat.toList_repr
  have hDigits : ∀ c ∈ Nat.toDigits 10 n, c.isDigit = true :=
    fun c hc => Nat.isDigit_of_mem_toDigits (by decide) (by decide) hc
  obtain ⟨c, rest, hCons⟩ := List.exists_cons_of_ne_nil (Nat.toDigits_ne_nil (n := n) (b := 10))
  have hFirst : Mode.run .between [c] = some (.word [c], []) := by
    simp [Mode.run, Mode.step, start_of_isDigit (hDigits c (by simp [hCons]))]
  have hRest : rest.all isWordChar := by
    rw [List.all_eq_true]
    exact fun d hd => isWordChar_of_isDigit (hDigits d (by simp [hCons, hd]))
  refine spells_iff.2 ⟨.word (c :: rest), [], [.word (toString n)], ?_, ?_, rfl⟩
  · rw [hChars, hCons]
    exact Mode.run_trans hFirst (run_word [c] hRest)
  · rw [Mode.last, ← hCons, ← hChars, String.ofList_toList]

/-! ## Tags and lists of parts -/

theorem run_comment (soFar : List Char) {body : List Char} (h : '*' ∉ body) :
    Mode.run (.comment soFar) body = some (.comment (soFar ++ body), []) := by
  refine Mode.run_of_step ?_ soFar
  intro soFar c hc
  have hStar : c ≠ '*' := by
    rintro rfl
    exact h hc
  simp [Mode.step, hStar]

/-- What a tag puts in front of a part. -/
theorem closed_openTag {name : String} (h : '*' ∉ name.toList) :
    Closed ("/*<" ++ name ++ ">*/ ") [] := by
  have hOpen : Mode.run .between "/*<".toList = some (.comment ['<'], []) := rfl
  have hClose : Mode.run (.comment ('<' :: name.toList)) ">*/ ".toList =
      some (.between, [.comment ("<" ++ name ++ ">")]) := by
    simp [Mode.run, Mode.step, Mode.start, Token.isBlank, ← String.toList_inj]
  refine ⟨[.comment ("<" ++ name ++ ">")], ?_, rfl⟩
  rw [String.toList_append, String.toList_append]
  exact Mode.run_trans (Mode.run_trans hOpen (run_comment ['<'] h)) hClose

/-- What a tag puts after a part. -/
theorem closed_closeTag {name : String} (h : '*' ∉ name.toList) :
    Closed (" /*</" ++ name ++ ">*/") [] := by
  have hOpen : Mode.run .between " /*</".toList = some (.comment ['<', '/'], []) := rfl
  have hClose : Mode.run (.comment ('<' :: '/' :: name.toList)) ">*/".toList =
      some (.between, [.comment ("</" ++ name ++ ">")]) := by
    simp [Mode.run, Mode.step, ← String.toList_inj]
  refine ⟨[.comment ("</" ++ name ++ ">")], ?_, rfl⟩
  rw [String.toList_append, String.toList_append]
  exact Mode.run_trans (Mode.run_trans hOpen (run_comment ['<', '/'] h)) hClose

/-- Tagged or not, a part has the same significant lexemes. -/
theorem Spells.tag {name text : String} {found : List Lexeme} (tags : Tags)
    (hName : '*' ∉ name.toList) (h : Spells text found) : Spells (tags.tag name text) found := by
  unfold Tags.tag
  split
  · have hFront := (closed_openTag hName).append h
    have hOpens : Opens (" /*</" ++ name ++ ">*/") :=
      ((by decide : Opens " /*</").append name).append ">*/"
    have hBoth := hFront.append (closed_closeTag hName).spells hOpens
    simpa [String.append_assoc] using hBoth
  · exact h

/-- Parts with a separator between them that keeps them apart. -/
theorem Spells.intercalate {separator : String} {mark : List Lexeme}
    (hClosed : Closed separator mark) (hOpens : Opens separator) {parts : List String}
    {found : List (List Lexeme)} (h : List.Forall₂ Spells parts found) :
    Spells (separator.intercalate parts) (mark.intercalate found) := by
  induction h with
  | nil => exact closed_empty.spells
  | @cons part ls parts found hPart hParts ih =>
      cases hParts with
      | nil => simpa using hPart
      | @cons next ls' parts found hNext hParts =>
          rw [String.intercalate_cons_cons, List.intercalate_cons_cons, List.append_assoc,
            String.append_assoc]
          exact hPart.append (hClosed.append ih) (hOpens.append _)

/-- The lexemes of a clause: those of its opening words and of its parts, or none without parts. -/
def clauseLexemes (opening mark : List Lexeme) : List (List Lexeme) → List Lexeme
  | [] => []
  | parts => opening ++ mark.intercalate parts

theorem Spells.clause {opening ligature : String} {first mark : List Lexeme}
    (hOpening : Spells opening first) (hClosed : Closed ligature mark) (hOpens : Opens ligature)
    {parts : List String} {found : List (List Lexeme)} (h : List.Forall₂ Spells parts found) :
    Spells (Statement.clause opening ligature parts) (clauseLexemes first mark found) := by
  have hBlank : Closed " " [] := ⟨[], rfl, rfl⟩
  cases h with
  | nil => exact closed_empty.spells
  | cons hPart hParts =>
      have hParts := Spells.intercalate hClosed hOpens (.cons hPart hParts)
      have hBoth := hOpening.append (hBlank.append hParts) ((by decide : Opens " ").append _)
      simpa [Statement.clause, clauseLexemes, String.append_assoc] using hBoth

private theorem intercalate_nil_eq_flatten {α : Type} (parts : List (List α)) :
    [].intercalate parts = parts.flatten := by
  induction parts with
  | nil => rfl
  | cons part rest ih =>
      cases rest with
      | nil => simp
      | cons next rest => rw [List.intercalate_cons_cons, ih]; simp

/-- The absent clauses of a statement have no lexemes. -/
theorem Spells.joinClauses {clauses : List String} {found : List (List Lexeme)}
    (h : List.Forall₂ Spells clauses found) :
    Spells (Statement.joinClauses clauses) found.flatten := by
  have hPresent : ∃ present, List.Forall₂ Spells (clauses.filter (!·.isEmpty)) present ∧
      present.flatten = found.flatten := by
    induction h with
    | nil => exact ⟨[], .nil, rfl⟩
    | @cons clause ls clauses found hClause hClauses ih =>
        obtain ⟨present, hPresent, hFlatten⟩ := ih
        by_cases hEmpty : clause = ""
        · subst hEmpty
          have hNil := hClause.eq_nil
          subst hNil
          exact ⟨present, by simpa using hPresent, by simpa using hFlatten⟩
        · exact ⟨ls :: present, by simpa [hEmpty] using ⟨hClause, hPresent⟩, by simp [hFlatten]⟩
  obtain ⟨present, hPresent, hFlatten⟩ := hPresent
  have hBlank : Closed " " [] := ⟨[], rfl, rfl⟩
  have hJoined := Spells.intercalate hBlank (by decide) hPresent
  rwa [intercalate_nil_eq_flatten, hFlatten] at hJoined

end N1qlConnector.Statement
