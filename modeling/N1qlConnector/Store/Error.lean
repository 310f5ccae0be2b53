import N1qlConnector.Json.Basic
import N1qlConnector.Text.Folding
import N1qlConnector.Text.Word

/-!
# Errors of a store

A store reports an error with a code, a message and details, and all three are kept: the code and
the message decide what kind of failure it is, and the details go back to the caller as they came.

Failures of an index are expected answers of a cluster. Two codes always mean one. Others of the
range from 4000 to 5999 mean one if the message speaks of an index, that is, if one of its words is
`index` or `indexes`, in whatever case it is written.
-/

namespace N1qlConnector

/-- An error that a store reports, or that happened on the way to it. -/
structure StoreError where
  code : Option UInt64
  message : String
  details : Json
  deriving Repr

namespace Text

/-- The words of a text, that is, its longest stretches of word characters. The first part of the
answer is the word that the text starts with, empty if it starts with none. -/
def splitWords : List Char → List Char × List (List Char)
  | [] => ([], [])
  | c :: rest =>
    let (word, words) := splitWords rest
    if isWord c then (c :: word, words) else ([], word :: words)

/-- The words of a text; some may be empty. -/
def words (text : List Char) : List (List Char) :=
  let (word, words) := splitWords text
  word :: words

end Text

namespace StoreError

/-- An error that happened before the store could answer. -/
def transport (message : String) : StoreError := ⟨none, message, .string message⟩

/-- Codes that always mean the failure of an index. -/
def indexFailureCodes : List UInt64 := [12004, 12016]

/-- Whether a message speaks of an index. -/
def mentionsIndex (message : String) : Bool :=
  (Text.words message.toList).any fun word =>
    let word := word.map Text.foldCase
    word == "index".toList || word == "indexes".toList

/-- Whether the error is the failure of an index. -/
def isIndexFailure (error : StoreError) : Bool :=
  match error.code with
  | none => false
  | some code =>
    indexFailureCodes.contains code
      || (decide (4000 ≤ code) && decide (code < 6000) && mentionsIndex error.message)

/-- The message with the code, if there is one. -/
def display (error : StoreError) : String :=
  match error.code with
  | some code => error.message ++ " (code " ++ toString code.toNat ++ ")"
  | none => error.message

end StoreError

end N1qlConnector
