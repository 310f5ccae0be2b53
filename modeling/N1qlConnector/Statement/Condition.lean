import N1qlConnector.Request.Formula
import N1qlConnector.Request.Operator
import N1qlConnector.Statement.Name
import N1qlConnector.Statement.Parameters
import N1qlConnector.Statement.Tags

/-!
# Conditions

A condition is a formula over comparisons of references with references or placeholders. Every
formula is written between parentheses, so no reader has to know which operator binds tighter. The
empty conjunction is written as `(1 = 1)` and the empty disjunction as `(1 = 0)`.
-/

namespace N1qlConnector.Statement

/-- The right side of a comparison. -/
inductive Term where
  | reference (reference : Reference)
  | placeholder (name : String)
  deriving DecidableEq, Repr

/-- The atom of a condition. -/
inductive Test where
  | unary (left : Reference) (operator : UnaryOperator)
  | binary (left : Reference) (operator : BinaryOperator) (right : Term)
  | array (left : Reference) (operator : ArrayOperator) (right : String)
  deriving DecidableEq, Repr

abbrev Condition := Formula Test

/-! ## Texts -/

def unaryText : UnaryOperator → String
  | .isNull => "IS NULL"
  | .custom word => word

def binaryText : BinaryOperator → String
  | .equal => "="
  | .lessThan => "<"
  | .lessThanOrEqual => "<="
  | .greaterThan => ">"
  | .greaterThanOrEqual => ">="
  | .custom word => word

def arrayText : ArrayOperator → String
  | .isIn => "IN"
  | .custom word => word

def Term.text : Term → String
  | reference found => found.text
  | placeholder name => Statement.placeholder name

/-- The text of a comparison. -/
def Test.text (tags : Tags) : Test → String
  | unary left operator =>
    "(" ++ left.text ++ " " ++ tags.tag "uop_op" (unaryText operator) ++ ")"
  | binary left operator right =>
    "(" ++ left.text ++ " " ++ tags.tag "bop_op" (binaryText operator) ++ " " ++ right.text ++ ")"
  | array left operator right =>
    "(" ++ left.text ++ " " ++ tags.tag "bop_array" (arrayText operator) ++ " "
      ++ Statement.placeholder right ++ ")"

/-- Parts joined by a word, or what stands for no parts. -/
def combination (word empty : String) : List String → String
  | [] => empty
  | parts => "(" ++ word.intercalate parts ++ ")"

/-- The text of a condition. -/
def Condition.text (tags : Tags) : Condition → String
  | .atom test => test.text tags
  | .not part => "(NOT " ++ text tags part ++ ")"
  | .all parts => combination " AND " "(1 = 1)" (texts tags parts)
  | .any parts => combination " OR " "(1 = 0)" (texts tags parts)
where
  /-- The texts of all parts. -/
  texts (tags : Tags) : List Condition → List String
    | [] => []
    | part :: rest => text tags part :: texts tags rest

end N1qlConnector.Statement
