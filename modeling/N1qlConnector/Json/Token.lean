import N1qlConnector.Json.Literal
import N1qlConnector.Text.Digits

/-!
# The tokens of a JSON text

A text is split into brackets, separators, words, strings and numbers. Where it goes on with none of
these the last token is `Token.unreadable` and the rest of the text is dropped, so a reader of the
tokens learns both what came before the fault and that there is one.

A string is a token as soon as its escapes have the right form. Whether they name characters is a
separate question, since only a reader that uses the string asks it: half of a surrogate pair names
none, and the token then holds `none` for its text. In the same way a number that is too large for a
floating point number has no value.
-/

namespace N1qlConnector

/-- A piece of JSON text. -/
inductive Token where
  | openArray
  | closeArray
  | openObject
  | closeObject
  | colon
  | comma
  | null
  | bool (value : Bool)
  | number (value : Option Number)
  | string (value : Option String)
  | unreadable
  deriving DecidableEq, Repr

namespace Token

/-! ## Strings -/

/-- What one step through a string yields: a character, or sixteen bits written with `\u`. -/
inductive Piece where
  | char (c : Char)
  | unit (bits : Nat)
  deriving DecidableEq, Repr

/-- The character that a single letter after a backslash stands for. -/
def escaped? (c : Char) : Option Char :=
  match c with
  | '"' => some '"'
  | '\\' => some '\\'
  | '/' => some '/'
  | 'b' => some '\x08'
  | 'f' => some '\x0c'
  | 'n' => some '\n'
  | 'r' => some '\r'
  | 't' => some '\t'
  | _ => none

/-- The pieces up to the closing quote, and what follows it. -/
def pieces : List Char → Option (List Piece × List Char)
  | [] => none
  | '"' :: rest => some ([], rest)
  | '\\' :: 'u' :: a :: b :: c :: d :: rest => do
    let bits := (← Text.hexValue? a) * 4096 + (← Text.hexValue? b) * 256 + (← Text.hexValue? c) * 16
      + (← Text.hexValue? d)
    let (found, after) ← pieces rest
    return (.unit bits :: found, after)
  | '\\' :: c :: rest => do
    let char ← escaped? c
    let (found, after) ← pieces rest
    return (.char char :: found, after)
  | c :: rest =>
    if c.toNat < 0x20 then none
    else do
      let (found, after) ← pieces rest
      return (.char c :: found, after)

/-- Sixteen bits that open a surrogate pair. -/
def isLeading (bits : Nat) : Bool := decide (0xD800 ≤ bits) && decide (bits < 0xDC00)

/-- Sixteen bits that close a surrogate pair. -/
def isTrailing (bits : Nat) : Bool := decide (0xDC00 ≤ bits) && decide (bits < 0xE000)

/-- The text of pieces, `none` if half of a surrogate pair stands alone. -/
def assemble : List Piece → Option (List Char)
  | [] => some []
  | .char c :: rest => (c :: ·) <$> assemble rest
  | .unit high :: .unit low :: rest =>
    if isLeading high && isTrailing low then
      (Char.ofNat (0x10000 + (high - 0xD800) * 0x400 + (low - 0xDC00)) :: ·) <$> assemble rest
    else if isLeading high || isTrailing high then none
    else (Char.ofNat high :: ·) <$> assemble (.unit low :: rest)
  | .unit bits :: rest =>
    if isLeading bits || isTrailing bits then none else (Char.ofNat bits :: ·) <$> assemble rest

theorem length_pieces_lt {text rest : List Char} {found : List Piece}
    (h : pieces text = some (found, rest)) : rest.length < text.length := by
  fun_induction pieces text generalizing found with
  | case1 => simp at h
  | case2 after =>
    obtain ⟨-, rfl⟩ : [] = found ∧ after = rest := by simpa using h
    simp
  | case3 a b c d after ih =>
    simp only [Option.bind_eq_bind, Option.bind_eq_some_iff, Option.pure_def] at h
    obtain ⟨_, _, _, _, _, _, _, _, ⟨found', after'⟩, hp, he⟩ := h
    obtain ⟨-, rfl⟩ : _ ∧ after' = rest := by simpa using he
    have := ih hp
    simp only [List.length_cons]
    omega
  | case4 c after _ ih =>
    simp only [Option.bind_eq_bind, Option.bind_eq_some_iff, Option.pure_def] at h
    obtain ⟨_, _, ⟨found', after'⟩, hp, he⟩ := h
    obtain ⟨-, rfl⟩ : _ ∧ after' = rest := by simpa using he
    have := ih hp
    simp only [List.length_cons]
    omega
  | case5 => simp at h
  | case6 c after _ _ _ _ ih =>
    simp only [Option.bind_eq_bind, Option.bind_eq_some_iff, Option.pure_def] at h
    obtain ⟨⟨found', after'⟩, hp, he⟩ := h
    obtain ⟨-, rfl⟩ : _ ∧ after' = rest := by simpa using he
    have := ih hp
    simp only [List.length_cons]
    omega

/-! ## Single tokens -/

/-- The blanks of JSON. -/
def isBlank (c : Char) : Bool := c == ' ' || c == '\t' || c == '\n' || c == '\r'

/-- The token that a text without leading blanks starts with, and what follows it. Nothing follows
an unreadable token. -/
def scan : List Char → Token × List Char
  | '[' :: rest => (openArray, rest)
  | ']' :: rest => (closeArray, rest)
  | '\x7b' :: rest => (openObject, rest)
  | '\x7d' :: rest => (closeObject, rest)
  | ':' :: rest => (colon, rest)
  | ',' :: rest => (comma, rest)
  | 'n' :: 'u' :: 'l' :: 'l' :: rest => (null, rest)
  | 't' :: 'r' :: 'u' :: 'e' :: rest => (bool true, rest)
  | 'f' :: 'a' :: 'l' :: 's' :: 'e' :: rest => (bool false, rest)
  | '"' :: rest =>
    match pieces rest with
    | some (found, after) => (string ((assemble found).map String.ofList), after)
    | none => (unreadable, [])
  | text =>
    match NumberLiteral.scan text with
    | some (literal, after) => (number literal.value?, after)
    | none => (unreadable, [])

/-- A token takes at least one character. -/
theorem length_scan_lt (c : Char) (text : List Char) :
    (scan (c :: text)).2.length < (c :: text).length := by
  unfold scan
  split
  case h_10 rest heq =>
    obtain ⟨-, rfl⟩ : c = '"' ∧ text = rest := by simpa using heq
    split
    · rename_i h
      have := length_pieces_lt h
      simp only [List.length_cons]
      omega
    · simp
  case h_11 =>
    split
    · rename_i h
      exact NumberLiteral.length_scan_lt h
    · simp
  all_goals (rename_i heq; simp at heq; simp [heq]; try omega)

/-! ## Whole texts -/

/-- The tokens of a text. -/
def all : List Char → List Token
  | [] => []
  | c :: rest =>
    if isBlank c then all rest
    else (scan (c :: rest)).1 :: all (scan (c :: rest)).2
termination_by text => text.length
decreasing_by
  · simp
  · exact length_scan_lt c rest

end Token

end N1qlConnector
