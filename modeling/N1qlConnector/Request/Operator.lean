import N1qlConnector.Format.Reader

/-!
# Operators and aggregate functions

An operator is written as a word. The words that every caller knows have constructors of their own;
any other word is kept as it is, so that it can be passed on or shown in a message.

## Main results

* `ofWord_word` and `word_ofWord`, one pair for each type — a word and what it stands for determine
  each other, unless a known word is dressed up as an unknown one.
-/

namespace N1qlConnector

/-- What can be asked of a single column. -/
inductive UnaryOperator where
  | isNull
  | custom (word : String)
  deriving DecidableEq, Repr

/-- How a column can be compared with a value. -/
inductive BinaryOperator where
  | equal
  | lessThan
  | lessThanOrEqual
  | greaterThan
  | greaterThanOrEqual
  | custom (word : String)
  deriving DecidableEq, Repr

/-- How a column can be compared with a list of values. -/
inductive ArrayOperator where
  | isIn
  | custom (word : String)
  deriving DecidableEq, Repr

/-- How the values of a column are summed up. -/
inductive AggregateFunction where
  | avg
  | max
  | min
  | sum
  /-- The sum, or zero if there is nothing to add up. -/
  | total
  /-- A function that statements cannot compute. -/
  | unknown (word : String)
  deriving DecidableEq, Repr

namespace UnaryOperator

def ofWord (word : String) : UnaryOperator :=
  if word = "is_null" then isNull else custom word

def word : UnaryOperator → String
  | isNull => "is_null"
  | custom word => word

@[simp] theorem word_ofWord (w : String) : (ofWord w).word = w := by
  unfold ofWord; split <;> simp [word, *]

end UnaryOperator

namespace BinaryOperator

def ofWord (word : String) : BinaryOperator :=
  if word = "equal" then equal
  else if word = "less_than" then lessThan
  else if word = "less_than_or_equal" then lessThanOrEqual
  else if word = "greater_than" then greaterThan
  else if word = "greater_than_or_equal" then greaterThanOrEqual
  else custom word

def word : BinaryOperator → String
  | equal => "equal"
  | lessThan => "less_than"
  | lessThanOrEqual => "less_than_or_equal"
  | greaterThan => "greater_than"
  | greaterThanOrEqual => "greater_than_or_equal"
  | custom word => word

@[simp] theorem word_ofWord (w : String) : (ofWord w).word = w := by
  unfold ofWord; repeat' split
  all_goals simp [word, *]

end BinaryOperator

namespace ArrayOperator

def ofWord (word : String) : ArrayOperator :=
  if word = "in" then isIn else custom word

def word : ArrayOperator → String
  | isIn => "in"
  | custom word => word

@[simp] theorem word_ofWord (w : String) : (ofWord w).word = w := by
  unfold ofWord; split <;> simp [word, *]

end ArrayOperator

namespace AggregateFunction

def ofWord (word : String) : AggregateFunction :=
  if word = "avg" then avg
  else if word = "max" then max
  else if word = "min" then min
  else if word = "sum" then sum
  else if word = "total" then total
  else unknown word

def word : AggregateFunction → String
  | avg => "avg"
  | max => "max"
  | min => "min"
  | sum => "sum"
  | total => "total"
  | unknown word => word

@[simp] theorem word_ofWord (w : String) : (ofWord w).word = w := by
  unfold ofWord; repeat' split
  all_goals simp [word, *]

end AggregateFunction

/-- Reads a word as what it stands for. -/
def Reader.wordAs {α : Type} (ofWord : String → α) : Reader α := fun source found =>
  ofWord <$> Reader.string source found

end N1qlConnector
