/-!
# Tags and clauses

A statement is made of clauses, and a clause of parts. Absent clauses are empty texts, which leave
no trace, not even a blank.

With tags on, each part of a statement stands between two comments that name what made it, so that a
reader can trace it back.
-/

namespace N1qlConnector.Statement

/-- Whether the parts of a statement are tagged. -/
structure Tags where
  enabled : Bool
  deriving DecidableEq, Repr

/-- Puts a part that is not empty between comments with a name. -/
def Tags.tag (tags : Tags) (name text : String) : String :=
  if tags.enabled && !text.isEmpty then
    "/*<" ++ name ++ ">*/ " ++ text ++ " /*</" ++ name ++ ">*/"
  else text

/-- Words that open a clause, and its parts. Without parts there is no clause. -/
def clause (opening ligature : String) : List String → String
  | [] => ""
  | parts => opening ++ " " ++ ligature.intercalate parts

/-- The clauses of a statement, with single blanks between them. -/
def joinClauses (clauses : List String) : String :=
  " ".intercalate (clauses.filter (!·.isEmpty))

end N1qlConnector.Statement
