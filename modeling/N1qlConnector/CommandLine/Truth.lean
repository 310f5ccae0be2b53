import N1qlConnector.Text.Blank
import N1qlConnector.Text.Folding

/-!
# Switches

A switch is on if it is set to one of a few words, in whatever case they are written and with blanks
around them or not. Every other text, the empty one too, leaves it off.
-/

namespace N1qlConnector.CommandLine

/-- The words that mean yes. -/
def wordsOfYes : List String := ["1", "true", "t", "yes", "y"]

/-- A text without the blanks around it. -/
def trimBlanks (text : List Char) : List Char :=
  ((text.dropWhile Text.isBlank).reverse.dropWhile Text.isBlank).reverse

/-- Whether a text means yes. -/
def isTruthy (text : String) : Bool :=
  wordsOfYes.contains (String.ofList ((trimBlanks text.toList).map Text.foldCase))

end N1qlConnector.CommandLine
