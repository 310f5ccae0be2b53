/-!
# JSON text out of bytes

What is sent as JSON are bytes, and they need not spell characters. Where they do not, only a reader
that uses the string they stand in takes notice; outside of strings they are as wrong as any other
character. That is just how half of a surrogate pair fares, so a stray byte is read as if one had
been escaped there, and the readers of texts need not know of bytes.
-/

namespace N1qlConnector.Json

/-- What is read in place of a byte that is no part of a character. Of two halves that both close a
surrogate pair at least one stands alone, whatever comes before them. No escape has the letter that
is read after a backslash. -/
def strayByte (afterBackslash : Bool) : List Char :=
  if afterBackslash then ['x'] else "\\udc00\\udc00".toList

/-- The characters that bytes spell from a position on, given whether an escape begins before it. -/
def charsFrom (bytes : ByteArray) (afterBackslash : Bool) (position : Nat) : List Char :=
  if position < bytes.size then
    match bytes.utf8DecodeChar? position with
    | some c => c :: charsFrom bytes (c == '\\' && !afterBackslash) (position + c.utf8Size)
    | none => strayByte afterBackslash ++ charsFrom bytes false (position + 1)
  else []
termination_by bytes.size - position
decreasing_by
  · have := c.utf8Size_pos
    omega
  · omega

/-- The text that bytes spell. -/
def textOfBytes (bytes : ByteArray) : String :=
  match String.fromUTF8? bytes with
  | some text => text
  | none => String.ofList (charsFrom bytes false 0)

end N1qlConnector.Json
