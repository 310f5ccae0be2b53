import N1qlConnector.Proofs.Statement.Lexeme
import N1qlConnector.Statement.Select

/-!
# Reading statements

A reference reader for the statements that select rows. It knows the grammar and nothing about who
wrote the statement: which operator binds tighter, which clauses there are and in which order they
come. What it finds is an `Outline`, the tree of the statement.

A rule reads a phrase at the front of the lexemes and leaves the rest. Negation binds tighter than
conjunction, and conjunction tighter than disjunction; parentheses leave no trace but the tree that
they make. Phrases nest, so the rules for units of a condition and for whole statements take the
depth to which they may go. The number of lexemes is always enough, since every level of nesting
takes some.

An outline holds the names of its parameters. `Outline.map` puts what a statement is run with in
their place.
-/

namespace N1qlConnector.Statement

/-! ## Trees -/

/-- A side of a comparison. A parameter is known by its name, or by the value it is bound to. -/
inductive Side (π : Type) where
  | reference (reference : Reference)
  | parameter (parameter : π)
  | text (value : String)
  | number (value : Nat)
  deriving DecidableEq, Repr

/-- A comparison as it stands in a statement. -/
inductive Predicate (π : Type) where
  | isNull (left : Side π)
  | compare (left : Side π) (operator : BinaryOperator) (right : Side π)
  | isIn (left right : Side π)
  deriving DecidableEq, Repr

/-- The tree of a statement that selects values of each row. -/
structure Outline (π : Type) where
  /-- The selected values, by their names in the result. -/
  items : List (String × Item)
  source : Keyspace
  rowAlias : String
  /-- The names bound to further statements, `none` for an empty list in place of one. -/
  bindings : List (String × Option (Outline π))
  condition : Option (Formula (Predicate π))
  order : List (Reference × Direction)
  limit : Option Nat
  offset : Option Nat

/-- Combines parts, of which a single one needs no connective. -/
def gather {α : Type} (connective : List (Formula α) → Formula α) :
    List (Formula α) → Formula α
  | [part] => part
  | parts => connective parts

/-- Parts under a connective, or the comparison of one with a number that stands for no parts. -/
def combined {π : Type} (connective : List (Formula (Predicate π)) → Formula (Predicate π))
    (truth : Nat) : List (Formula (Predicate π)) → Formula (Predicate π)
  | [] => .atom (.compare (.number 1) .equal (.number truth))
  | parts => gather connective parts

/-- A formula as a statement writes it. A connective with a single part leaves no trace, and one
without parts is a comparison of numbers. -/
def asWritten {α π : Type} (predicate : α → Predicate π) : Formula α → Formula (Predicate π)
  | .atom a => .atom (predicate a)
  | .not part => .not (asWritten predicate part)
  | .all parts => combined .all 1 (each parts)
  | .any parts => combined .any 0 (each parts)
where
  /-- All parts as a statement writes them. -/
  each : List (Formula α) → List (Formula (Predicate π))
    | [] => []
    | part :: rest => asWritten predicate part :: each rest

theorem asWritten_each_eq_map {α π : Type} (predicate : α → Predicate π)
    (parts : List (Formula α)) : asWritten.each predicate parts = parts.map (asWritten predicate) := by
  induction parts with
  | nil => rfl
  | cons part rest ih => rw [asWritten.each, ih, List.map_cons]

@[simp] theorem asWritten_all {α π : Type} (predicate : α → Predicate π)
    (parts : List (Formula α)) :
    asWritten predicate (.all parts) = combined .all 1 (parts.map (asWritten predicate)) := by
  rw [asWritten, asWritten_each_eq_map]

@[simp] theorem asWritten_any {α π : Type} (predicate : α → Predicate π)
    (parts : List (Formula α)) :
    asWritten predicate (.any parts) = combined .any 0 (parts.map (asWritten predicate)) := by
  rw [asWritten, asWritten_each_eq_map]

section Map

variable {π ρ : Type} (f : π → ρ)

def Side.map : Side π → Side ρ
  | reference found => .reference found
  | parameter p => .parameter (f p)
  | text value => .text value
  | number value => .number value

def Predicate.map : Predicate π → Predicate ρ
  | isNull left => .isNull (left.map f)
  | compare left operator right => .compare (left.map f) operator (right.map f)
  | isIn left right => .isIn (left.map f) (right.map f)

/-- Replaces the parameters of a statement and of all statements it reads from. -/
def Outline.map : Outline π → Outline ρ
  | ⟨items, source, rowAlias, bindings, condition, order, limit, offset⟩ =>
    ⟨items, source, rowAlias, mapBindings bindings, condition.map (Formula.map (Predicate.map f)),
      order, limit, offset⟩
where
  /-- Replaces the parameters of all bound statements. -/
  mapBindings : List (String × Option (Outline π)) → List (String × Option (Outline ρ))
    | [] => []
    | (name, none) :: rest => (name, none) :: mapBindings rest
    | (name, some outline) :: rest => (name, some outline.map) :: mapBindings rest

end Map

/-! ## Rules -/

/-- Reads a phrase at the front of the lexemes. -/
abbrev Rule (α : Type) := StateT (List Lexeme) Option α

namespace Rule

variable {α : Type}

def next : Rule Lexeme
  | [] => none
  | lexeme :: rest => some (lexeme, rest)

def expect (lexeme : Lexeme) : Rule Unit
  | [] => none
  | found :: rest => if found = lexeme then some ((), rest) else none

/-- Reads phrases with a separator between them, at most so many. -/
def separatedUpTo (rule : Rule α) (separator : Lexeme) : Nat → Rule (List α)
  | 0 => fun _ => none
  | count + 1 => fun lexemes => do
    let (first, rest) ← rule lexemes
    if rest.head? = some separator then
      let (others, rest) ← separatedUpTo rule separator count rest.tail
      return (first :: others, rest)
    else return ([first], rest)

/-- Reads one or more phrases with a separator between them. -/
def separated (rule : Rule α) (separator : Lexeme) : Rule (List α) := fun lexemes =>
  separatedUpTo rule separator (lexemes.length + 1) lexemes

/-- Reads a clause that is there if its opening word is. -/
def opened (word : String) (rule : Rule α) : Rule (Option α) := fun lexemes =>
  if lexemes.head? = some (.word word) then do
    let (found, rest) ← rule lexemes.tail
    return (some found, rest)
  else some (none, lexemes)

/-! ### Names, numbers and references -/

def name : Rule String
  | .name text :: rest => some (text, rest)
  | _ => none

/-- The number that a word of digits stands for. -/
def numberOf? (word : String) : Option Nat :=
  if word ≠ "" ∧ word.toList.all Char.isDigit then some (Nat.ofDigitChars 10 word.toList 0)
  else none

def number : Rule Nat
  | .word word :: rest => (numberOf? word).map fun value => (value, rest)
  | _ => none

def keyspace : Rule Keyspace
  | .name bucket :: .mark "." :: .name scope :: .mark "." :: .name collection :: rest =>
    some (⟨bucket, scope, collection⟩, rest)
  | _ => none

/-- A property may be named by a bare word. -/
def reference : Rule Reference
  | .name rowAlias :: .mark "." :: .name property :: rest => some (.property rowAlias property, rest)
  | .name rowAlias :: .mark "." :: .word property :: rest => some (.property rowAlias property, rest)
  | .word "META" :: .mark "(" :: .name rowAlias :: .mark ")" :: .mark "." :: .word "id" :: rest =>
    some (.documentKey rowAlias, rest)
  | _ => none

/-! ### Conditions -/

def side : Rule (Side String)
  | .parameter name :: rest => some (.parameter name, rest)
  | .text value :: rest => some (.text value, rest)
  | lexemes =>
    match number lexemes with
    | some (value, rest) => some (.number value, rest)
    | none => (reference lexemes).map fun (found, rest) => (.reference found, rest)

def operatorOf? (mark : String) : Option BinaryOperator :=
  [.equal, .lessThan, .lessThanOrEqual, .greaterThan, .greaterThanOrEqual].find?
    fun operator => binaryText operator = mark

def comparison : Rule (Predicate String) := do
  let left ← side
  match ← next with
  | .word "IS" => do
    expect (.word "NULL")
    return .isNull left
  | .word "IN" => return .isIn left (← side)
  | .mark mark =>
    match operatorOf? mark with
    | some operator => return .compare left operator (← side)
    | none => failure
  | _ => failure

def conjunction (unit : Rule (Formula (Predicate String))) : Rule (Formula (Predicate String)) :=
  gather .all <$> separated unit (.word "AND")

def disjunction (unit : Rule (Formula (Predicate String))) : Rule (Formula (Predicate String)) :=
  gather .any <$> separated (conjunction unit) (.word "OR")

/-- A comparison, a negated unit or a condition in parentheses. -/
def unit : Nat → Rule (Formula (Predicate String))
  | 0 => fun _ => none
  | depth + 1 => fun lexemes =>
    match lexemes with
    | .word "NOT" :: rest => (Formula.not <$> unit depth : Rule _) rest
    | .mark "(" :: rest =>
      (do let found ← disjunction (unit depth)
          expect (.mark ")")
          return found : Rule _) rest
    | _ => (Formula.atom <$> comparison : Rule _) lexemes

def condition : Rule (Formula (Predicate String)) := fun lexemes =>
  disjunction (unit lexemes.length) lexemes

/-! ### Statements -/

def item : Rule Item
  | .word "IFMISSING" :: .mark "(" :: rest =>
    (do let found ← reference
        expect (.mark ",")
        expect (.word "NULL")
        expect (.mark ")")
        return .columnOrNull found : Rule Item) rest
  | .mark "(" :: .word "SELECT" :: .mark "*" :: .word "FROM" :: .mark "[" :: .name binding
      :: .mark "]" :: .word "AS" :: .name "rows" :: .mark ")" :: .mark "[" :: .word "0"
      :: .mark "]" :: rest =>
    some (.rows binding, rest)
  | lexemes => (Item.column <$> reference : Rule Item) lexemes

def namedItem : Rule (String × Item) := do
  let found ← item
  expect (.word "AS")
  return (← name, found)

def orderElement : Rule (Reference × Direction) := do
  let found ← reference
  match ← next with
  | .word "ASC" => return (found, .ascending)
  | .word "DESC" => return (found, .descending)
  | _ => failure

def orderBy : Rule (List (Reference × Direction)) := do
  expect (.word "BY")
  separated orderElement (.mark ",")

/-- A statement, or the empty list in place of one. -/
def source (select : Rule (Outline String)) : Rule (Option (Outline String))
  | .mark "[" :: .mark "]" :: rest => some (none, rest)
  | lexemes => (some <$> select : Rule _) lexemes

def binding (select : Rule (Outline String)) : Rule (String × Option (Outline String)) := do
  let bound ← name
  expect (.mark "=")
  expect (.mark "(")
  let found ← source select
  expect (.mark ")")
  return (bound, found)

def select : Nat → Rule (Outline String)
  | 0 => fun _ => none
  | depth + 1 => do
    expect (.word "SELECT")
    let items ← separated namedItem (.mark ",")
    expect (.word "FROM")
    let source ← keyspace
    expect (.word "AS")
    let rowAlias ← name
    let bindings ← opened "LET" (separated (binding (select depth)) (.mark ","))
    let condition ← opened "WHERE" condition
    let order ← opened "ORDER" orderBy
    let limit ← opened "LIMIT" number
    let offset ← opened "OFFSET" number
    return ⟨items, source, rowAlias, bindings.getD [], condition, order.getD [], limit, offset⟩

end Rule

/-- Reads a whole text by a rule that may go as deep as there are lexemes. -/
def readWhole {α : Type} (rule : Nat → Rule α) (text : String) : Option α := do
  let found ← lexemes text
  let (value, rest) ← rule found.length found
  if rest = [] then some value else none

/-- Reads a condition and nothing else. -/
def readCondition (text : String) : Option (Formula (Predicate String)) :=
  readWhole (fun _ => Rule.condition) text

/-- Reads a statement that selects rows, and nothing else. -/
def Outline.read (text : String) : Option (Outline String) := readWhole Rule.select text

end N1qlConnector.Statement
