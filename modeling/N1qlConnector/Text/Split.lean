/-!
# Splitting texts

A text that is split has one part more than it has characters that divide it, so an empty text has
one empty part.
-/

namespace N1qlConnector.Text

/-- The parts of a text between the characters that divide it. -/
def splitWhere (divides : Char → Bool) : List Char → List (List Char)
  | [] => [[]]
  | c :: rest =>
    match splitWhere divides rest with
    | [] => [[c]]
    | part :: parts => if divides c then [] :: part :: parts else (c :: part) :: parts

end N1qlConnector.Text
