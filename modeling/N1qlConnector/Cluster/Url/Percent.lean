import N1qlConnector.Text.Digits

/-!
# Percent signs

A character that has a meaning in a URL, or that must not stand in one, is written as the bytes of
its UTF-8 form, each as two hexadecimal digits after a percent sign. Which characters are plain,
that is, stand for themselves, depends on the part of the URL. Blanks, control characters and all
beyond ASCII never do.
-/

namespace N1qlConnector.Cluster.Url

/-! ## Writing -/

/-- A byte after a percent sign. -/
def percentByte (byte : UInt8) : List Char :=
  let digit (n : Nat) : Char := (Text.hexDigit n).toUpper
  ['%', digit (byte.toNat / 16), digit (byte.toNat % 16)]

/-- A text in which the characters that are not plain are replaced by their bytes. -/
def percentEncode (isPlain : Char → Bool) (text : List Char) : String :=
  String.ofList <| text.flatMap fun c =>
    if isPlain c then [c] else (String.singleton c).toUTF8.toList.flatMap percentByte

/-- The visible characters of ASCII. They are plain in the name of a host. -/
def isVisible (c : Char) : Bool := decide (' ' < c) && decide (c ≤ '~')

/-- The characters that are plain in the name or password of a user. -/
def isPlainInUserinfo (c : Char) : Bool :=
  isVisible c && !"\"#/:;<=>?@[\\]^`\x7b|\x7d".toList.contains c

/-- The characters that are plain in a path. -/
def isPlainInPath (c : Char) : Bool := isVisible c && !"\"#<>?`\x7b\x7d".toList.contains c

/-- The characters that are plain in a single segment of a path. A backslash is one unless it could
be taken for a slash. -/
def isPlainInSegment (backslashDivides : Bool) (c : Char) : Bool :=
  isPlainInPath c && c != '/' && c != '%' && !(backslashDivides && c == '\\')

/-- The characters that are plain in a query. The apostrophe is one unless the scheme is special. -/
def isPlainInQuery (special : Bool) (c : Char) : Bool :=
  isVisible c && !"\"#<>".toList.contains c && !(special && c == '\'')

/-- The characters that are plain in a fragment. -/
def isPlainInFragment (c : Char) : Bool := isVisible c && !"\"<>`".toList.contains c

/-! ## Reading -/

/-- The bytes that a text stands for. A percent sign without two digits stands for itself. -/
def percentDecode : List Char → List UInt8
  | [] => []
  | '%' :: first :: second :: rest =>
    match Text.hexValue? first, Text.hexValue? second with
    | some high, some low => UInt8.ofNat (16 * high + low) :: percentDecode rest
    | _, _ => '%'.toUInt8 :: percentDecode (first :: second :: rest)
  | c :: rest => (String.singleton c).toUTF8.toList ++ percentDecode rest

/-- The text that the bytes spell, if they are the UTF-8 form of one. -/
def percentDecoded? (text : List Char) : Option String :=
  String.fromUTF8? ⟨(percentDecode text).toArray⟩

end N1qlConnector.Cluster.Url
