import N1qlConnector.Text.Unprintable
import N1qlConnector.Text.GraphemeExtend
import N1qlConnector.Text.Digits

/-!
# Listing texts in a message

A message that shows a caller's texts puts each between quotes and separates them with commas, as in
`["a", "b"]`. What would not be seen, or would be drawn onto the quote, is written as its code
point.
-/

namespace N1qlConnector.Text

/-- The letters that stand for a missing part of a Hangul syllable. They show nothing. -/
def isFiller (c : Char) : Bool := "\u115f\u1160\u3164\uffa0".toList.contains c

/-- The sound marks of half width, which have a place of their own beside the letter before. -/
def isHalfwidthMark (c : Char) : Bool := c == '\uff9e' || c == '\uff9f'

/-- Whether a character would not be seen between quotes, or not apart from its neighbour. -/
def isHidden (c : Char) : Bool :=
  isUnprintable c || isFiller c || (isGraphemeExtend c && !isHalfwidthMark c)

/-- How a character is shown between quotes. -/
def shown (c : Char) : List Char :=
  if c = '\x00' then ['\\', '0']
  else if c = '\t' then ['\\', 't']
  else if c = '\r' then ['\\', 'r']
  else if c = '\n' then ['\\', 'n']
  else if c = '"' || c = '\\' then ['\\', c]
  else if isHidden c then
    ['\\', 'u', '\x7b'] ++ hexDigits c.toNat ++ ['\x7d']
  else [c]

/-- A text between quotes. -/
def showQuoted (text : String) : String :=
  String.ofList ('"' :: text.toList.flatMap shown ++ ['"'])

/-- Texts between brackets, each in quotes. -/
def listing (texts : List String) : String :=
  "[" ++ ", ".intercalate (texts.map showQuoted) ++ "]"

end N1qlConnector.Text
