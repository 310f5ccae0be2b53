import N1qlConnector.Cluster.Url.Percent
import N1qlConnector.Text.Split

/-!
# Paths

A path is a list of segments, each of which follows a slash. A segment of one dot stays where it is,
one of two dots goes back by a segment, and either leaves an empty segment if it comes last. A
segment that names a drive is not left by two dots.
-/

namespace N1qlConnector.Cluster.Url

/-- The ways to write one dot. -/
def oneDot : List (List Char) := [".".toList, "%2e".toList]

/-- The ways to write two dots. -/
def twoDots : List (List Char) := oneDot.flatMap fun first => oneDot.map (first ++ ·)

/-- Whether a segment is a letter and a colon or bar, the name of a drive. -/
def isDrive : List Char → Bool
  | [letter, mark] => letter.isAlpha && (mark == ':' || mark == '|')
  | _ => false

/-- Goes back by one of the segments, which are given last first. -/
def goBack : List (List Char) → List (List Char)
  | [] => []
  | last :: earlier => if isDrive last then last :: earlier else earlier

/-- Walks through segments, from a place that is given by the segments before it, last first. -/
def walk (place : List (List Char)) : List (List Char) → List (List Char)
  | [] => place.reverse
  | segment :: rest =>
    let spelled := segment.map Char.toLower
    let arrived? :=
      if oneDot.contains spelled then some place
      else if twoDots.contains spelled then some (goBack place)
      else none
    match arrived? with
    | none => walk (segment :: place) rest
    | some arrived => walk (if rest.isEmpty then [] :: arrived else arrived) rest

/-- The segments of a path after its first slash. -/
def pathSegments (isSlash : Char → Bool) (path : List Char) : List String :=
  (walk [] (Text.splitWhere isSlash path)).map (percentEncode isPlainInPath)

/-- The path without one empty segment at its end, or without any if nothing else is left. -/
def dropEmpty (segments : List String) : List String :=
  let segments := if segments.getLast? = some "" then segments.dropLast else segments
  if segments = [""] then [] else segments

/-- Line breaks and tabs have no place in a URL and are left out. -/
def isLineBreakOrTab (c : Char) : Bool := c == '\t' || c == '\n' || c == '\r'

/-- The path with one more segment. Dots are skipped, but if they are told apart from dots only by
line breaks or tabs they lead where they say. -/
def addSegment (backslashDivides : Bool) (segments : List String) (segment : String) :
    List String :=
  if segment = "." ∨ segment = ".." then segments
  else
    let place := (segments.map String.toList).reverse
    let added := (percentEncode (isPlainInSegment backslashDivides)
      (segment.toList.filter (!isLineBreakOrTab ·))).toList
    (walk place [added]).map String.ofList

end N1qlConnector.Cluster.Url
