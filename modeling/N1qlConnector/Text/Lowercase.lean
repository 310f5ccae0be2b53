import N1qlConnector.Text.LowercaseRuns
import N1qlConnector.Text.Cased
import N1qlConnector.Text.CaseIgnorable

/-!
# Lower case

Each letter is replaced by its lower case form. Two letters are special: the dotted capital I
becomes an i with a dot above, and the capital sigma has a form of its own at the end of a word. A
sigma ends a word if the nearest character before it that casing does not look past is a cased
letter, and the nearest such character after it is not.
-/

namespace N1qlConnector.Text

/-- The lower case form of a letter, regardless of where it stands. -/
def lowerChar (c : Char) : List Char :=
  if c.toNat < 0x80 then [c.toLower]
  else if c = '\u0130' then ['i', '\u0307']
  else
    match lowercaseRuns.find? (·.contains c.toNat) with
    | some run => [Char.ofNat (c.toNat + run.lower - run.first)]
    | none => [c]

/-- Whether the first character that casing does not look past is a cased letter. -/
def meetsCased : List Char → Bool
  | [] => false
  | c :: rest => if isCaseIgnorable c then meetsCased rest else isCased c

/-- The lower case form of a text, of which `before` came already, last character first. -/
def lowerAfter (before : List Char) : List Char → List Char
  | [] => []
  | c :: rest =>
    let form :=
      if c = '\u03a3' then
        if meetsCased before && !meetsCased rest then ['\u03c2'] else ['\u03c3']
      else lowerChar c
    form ++ lowerAfter (c :: before) rest

/-- The lower case form of a text. -/
def lower (text : String) : String := String.ofList (lowerAfter [] text.toList)

end N1qlConnector.Text
