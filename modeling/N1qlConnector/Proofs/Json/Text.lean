import N1qlConnector.Proofs.Json.Numbers
import N1qlConnector.Proofs.Json.Values

/-!
# Texts that were printed

What a value is printed as, without blanks, is read as the value again. The text is followed token
by token: whatever comes after the text of a part, as long as no number goes on with it, the tokens
up to its end put the part where it belongs, and leave the tokens of what comes after. So the text of
a whole is read as the whole if the texts of its parts are, and `Json.Legible` says of a value that
this is so.

A text may nest only so deep, so a legible value needs a number of levels. It also needs numbers that
are read as themselves. `Json.Spelled` asks for these two things and for nothing else.

## Main results

* `Json.pieces_escape` : what a string escapes comes back.
* `Written.ofTokens_separated` : what stands between commas is read part by part.
* `Json.Legible.array`, `Json.Legible.object` : arrays and objects are legible if their parts are.
* `Json.Legible.ofText_compact` : a legible value is read from its text.
* `Json.Spelled.legible` : what nests within so many levels and spells its numbers out is legible.
-/

namespace N1qlConnector

/-! ## Strings -/

namespace Json

theorem hexDigit_ne {n : Nat} (h : n < 16) :
    Text.hexDigit n ≠ '"' ∧ Text.hexDigit n ≠ '\\' ∧ Text.hexValue? (Text.hexDigit n) = some n := by
  revert n
  decide

/-- The three ways in which a character stands in a JSON string. -/
theorem escapeChar_cases (c : Char) :
    (c ≠ '"' ∧ c ≠ '\\' ∧ ¬c.toNat < 0x20 ∧ escapeChar c = [c]) ∨
    (∃ d, d ≠ 'u' ∧ Token.escaped? d = some c ∧ escapeChar c = ['\\', d]) ∨
    (c.toNat < 0x20 ∧ escapeChar c =
      ['\\', 'u', '0', '0', Text.hexDigit (c.toNat / 16), Text.hexDigit (c.toNat % 16)]) := by
  by_cases hShort : c ∈ ['"', '\\', '\x08', '\t', '\n', '\x0c', '\r']
  · refine .inr (.inl ?_)
    simp only [List.mem_cons, List.not_mem_nil, or_false] at hShort
    rcases hShort with rfl | rfl | rfl | rfl | rfl | rfl | rfl
    · exact ⟨'"', by decide, rfl, rfl⟩
    · exact ⟨'\\', by decide, rfl, rfl⟩
    · exact ⟨'b', by decide, rfl, rfl⟩
    · exact ⟨'t', by decide, rfl, rfl⟩
    · exact ⟨'n', by decide, rfl, rfl⟩
    · exact ⟨'f', by decide, rfl, rfl⟩
    · exact ⟨'r', by decide, rfl, rfl⟩
  · simp only [List.mem_cons, List.not_mem_nil, or_false, not_or] at hShort
    obtain ⟨h₁, h₂, h₃, h₄, h₅, h₆, h₇⟩ := hShort
    by_cases hControl : c.toNat < 0x20
    · refine .inr (.inr ⟨hControl, ?_⟩)
      simp [escapeChar, h₁, h₂, h₃, h₄, h₅, h₆, h₇, hControl]
    · refine .inl ⟨h₁, h₂, hControl, ?_⟩
      simp [escapeChar, h₁, h₂, h₃, h₄, h₅, h₆, h₇, hControl]

/-- A unit that is no half of a surrogate pair is a character, whatever follows it. -/
theorem assemble_unit {bits : Nat} (hBits : bits < 0xD800) (rest : List Token.Piece) :
    Token.assemble (.unit bits :: rest) =
      (Token.assemble rest).map fun text => Char.ofNat bits :: text := by
  have hLeading : Token.isLeading bits = false := by
    simp [Token.isLeading, Nat.not_le.2 hBits]
  have hTrailing : Token.isTrailing bits = false := by
    simp [Token.isTrailing, show ¬0xDC00 ≤ bits by omega]
  cases rest with
  | nil => simp [Token.assemble, hLeading, hTrailing]
  | cons next others =>
      cases next with
      | char c => simp [Token.assemble, hLeading, hTrailing]
      | unit low => simp [Token.assemble, hLeading, hTrailing]

/-- One escaped character, read as JSON. -/
theorem pieces_escapeChar (c : Char) (rest : List Char) :
    ∃ piece, Token.pieces (escapeChar c ++ rest) =
        (Token.pieces rest).map (fun found => (piece :: found.1, found.2)) ∧
      ∀ others, Token.assemble (piece :: others) = (Token.assemble others).map (c :: ·) := by
  rcases escapeChar_cases c with
    ⟨hQuote, hSlash, hControl, h⟩ | ⟨d, hd, hEscaped, h⟩ | ⟨hControl, h⟩
  · refine ⟨.char c, ?_, fun others => by simp [Token.assemble]⟩
    rw [h, List.singleton_append, Token.pieces.eq_5 c rest hQuote (by simp [hSlash])
      (by simp [hSlash]), if_neg hControl]
    cases Token.pieces rest <;> rfl
  · refine ⟨.char c, ?_, fun others => by simp [Token.assemble]⟩
    rw [h, List.cons_append, List.singleton_append, Token.pieces.eq_4 d rest (by simp [hd]),
      hEscaped]
    cases Token.pieces rest <;> rfl
  · refine ⟨.unit c.toNat, ?_, fun others => ?_⟩
    · obtain ⟨-, -, hHigh⟩ := hexDigit_ne (n := c.toNat / 16) (by omega)
      obtain ⟨-, -, hLow⟩ := hexDigit_ne (n := c.toNat % 16) (by omega)
      have hZero : Text.hexValue? '0' = some 0 := rfl
      have hBits : 0 * 4096 + 0 * 256 + c.toNat / 16 * 16 + c.toNat % 16 = c.toNat := by omega
      rw [h, List.cons_append, List.cons_append, List.cons_append, List.cons_append,
        List.cons_append, List.singleton_append, Token.pieces.eq_3, hZero, hHigh, hLow]
      simp only [Option.bind_eq_bind, Option.bind_some, hBits]
      cases Token.pieces rest <;> rfl
    · rw [assemble_unit (by omega), Char.ofNat_toNat]

/-- What a JSON string escapes comes back, whatever follows the closing quote. -/
theorem pieces_escape (text rest : List Char) :
    ∃ found, Token.pieces (escape text ++ '"' :: rest) = some (found, rest) ∧
      Token.assemble found = some text := by
  induction text with
  | nil => exact ⟨[], by rw [escape, List.flatMap_nil, List.nil_append, Token.pieces], rfl⟩
  | cons c others ih =>
      obtain ⟨found, hFound, hText⟩ := ih
      obtain ⟨piece, hPiece, hAssemble⟩ := pieces_escapeChar c (escape others ++ '"' :: rest)
      have hCons : escape (c :: others) = escapeChar c ++ escape others := List.flatMap_cons ..
      refine ⟨piece :: found, ?_, ?_⟩
      · rw [hCons, List.append_assoc, hPiece, hFound]
        rfl
      · rw [hAssemble, hText]
        rfl

end Json

/-! ## Tokens -/

namespace Token

/-- A text that does not start with a blank starts with a token. -/
theorem all_eq_of_scan {c : Char} {text rest : List Char} {token : Token}
    (hBlank : isBlank c = false) (h : scan (c :: text) = (token, rest)) :
    all (c :: text) = token :: all rest := by
  rw [all, if_neg (by rw [hBlank]; exact Bool.false_ne_true), h]

theorem all_quote (text : String) (rest : List Char) :
    all ((Json.quote text).toList ++ rest) = .string (some text) :: all rest := by
  obtain ⟨found, hFound, hText⟩ := Json.pieces_escape text.toList rest
  have hQuote : (Json.quote text).toList ++ rest =
      '"' :: (Json.escape text.toList ++ '"' :: rest) := by
    simp
  rw [hQuote]
  refine all_eq_of_scan rfl ?_
  rw [scan, hFound]
  dsimp only
  rw [hText, Option.map_some, String.ofList_toList]

theorem all_openArray (rest : List Char) : all ('[' :: rest) = .openArray :: all rest :=
  all_eq_of_scan rfl rfl

theorem all_closeArray (rest : List Char) : all (']' :: rest) = .closeArray :: all rest :=
  all_eq_of_scan rfl rfl

theorem all_openObject (rest : List Char) : all ('\x7b' :: rest) = .openObject :: all rest :=
  all_eq_of_scan rfl rfl

theorem all_closeObject (rest : List Char) : all ('\x7d' :: rest) = .closeObject :: all rest :=
  all_eq_of_scan rfl rfl

theorem all_colon (rest : List Char) : all (':' :: rest) = .colon :: all rest :=
  all_eq_of_scan rfl rfl

theorem all_comma (rest : List Char) : all (',' :: rest) = .comma :: all rest :=
  all_eq_of_scan rfl rfl

end Token

/-! ## Values -/

namespace Written

/-- What is read once a value is complete: the value, if no bracket is open, or else what the frames
around it become. -/
def afterValue (value : Written) (frames : List Frame) (rest : List Token) : Written × List Token :=
  match frames with
  | [] => (value, rest)
  | frame :: outer => ofTokens rest .commaOrClose (frame.add value :: outer)

/-- A token that completes a value puts it where it belongs. -/
theorem ofTokens_of_place {token : Token} {frames : List Frame} (outer : List Frame)
    {expected : Expected} {value : Written} (h : advance token frames expected = place value outer)
    (rest : List Token) :
    ofTokens (token :: rest) expected frames = afterValue value outer rest := by
  rw [ofTokens, h]
  cases outer <;> rfl

/-- A value may start where one is expected, and at the start of an array. -/
theorem advance_eq_begin? (token : Token) (frames : List Frame) {expected : Expected}
    (hExpected : expected = .value ∨ expected = .valueOrClose) (hToken : token ≠ .closeArray) :
    advance token frames expected = begin? token frames := by
  rcases hExpected with rfl | rfl
  · rfl
  · exact if_neg hToken

/-- A key may start where one is expected, and at the start of an object. -/
theorem advance_eq_key? (token : Token) (frames : List Frame) {expected : Expected}
    (hExpected : expected = .key ∨ expected = .keyOrClose) (hToken : token ≠ .closeObject) :
    advance token frames expected = key? token frames := by
  rcases hExpected with rfl | rfl
  · rfl
  · exact if_neg hToken

/-- Where an array may end its bracket completes it, if it does not lie too deep. -/
theorem ofTokens_closeArray {seen : List Written} {outer : List Frame} {expected : Expected}
    (hExpected : expected = .valueOrClose ∨ expected = .commaOrClose)
    (hDepth : outer.length + 1 ≤ maxDepth) (rest : List Token) :
    ofTokens (.closeArray :: rest) expected (.array seen :: outer) =
      afterValue (.array seen.reverse true) outer rest := by
  have hFinish : (Frame.array seen).finish (outer.length + 1) true = .array seen.reverse true :=
    if_neg (Nat.not_lt.2 hDepth)
  refine ofTokens_of_place outer ?_ rest
  rw [← hFinish]
  rcases hExpected with rfl | rfl <;> rfl

/-- Where an object may end its bracket completes it, if it does not lie too deep. -/
theorem ofTokens_closeObject {seen : List (Option String × Written)} {outer : List Frame}
    {expected : Expected} (hExpected : expected = .keyOrClose ∨ expected = .commaOrClose)
    (hDepth : outer.length + 1 ≤ maxDepth) (rest : List Token) :
    ofTokens (.closeObject :: rest) expected (.object seen :: outer) =
      afterValue (.object seen.reverse true) outer rest := by
  have hFinish : (Frame.object seen).finish (outer.length + 1) true = .object seen.reverse true :=
    if_neg (Nat.not_lt.2 hDepth)
  refine ofTokens_of_place outer ?_ rest
  rw [← hFinish]
  rcases hExpected with rfl | rfl <;> rfl

/-- Texts with commas between them are put into the innermost frame if each of them is, the first
one and those after a comma alike. -/
theorem ofTokens_separated {α β : Type} {text : α → String} {put : α → β} {frame : List β → Frame}
    {outer : List Frame} {opening next expected : Expected} {first : α} {others : List α}
    (hComma : ∀ seen,
      advance .comma (frame seen :: outer) .commaOrClose = .more next (frame seen :: outer))
    (hParts : ∀ part ∈ first :: others, ∀ ⦃expected⦄, expected = next ∨ expected = opening →
      ∀ seen rest, NumberLiteral.Stops rest →
        ofTokens (Token.all ((text part).toList ++ rest)) expected (frame seen :: outer) =
          ofTokens (Token.all rest) .commaOrClose (frame (put part :: seen) :: outer))
    (hExpected : expected = next ∨ expected = opening) (seen : List β) {rest : List Char}
    (hRest : NumberLiteral.Stops rest) :
    ofTokens (Token.all ((",".intercalate ((first :: others).map text)).toList ++ rest)) expected
        (frame seen :: outer) =
      ofTokens (Token.all rest) .commaOrClose
        (frame (((first :: others).map put).reverse ++ seen) :: outer) := by
  -- The first text stands where the frame was opened, and every later one where a comma leads.
  have hFirst := hParts first List.mem_cons_self hExpected seen
  induction others generalizing first seen expected with
  | nil =>
      rw [List.map_singleton, String.intercalate_singleton, hFirst rest hRest]
      rfl
  | cons second others ih =>
      have hOthers := fun part hPart => hParts part (List.mem_cons_of_mem first hPart)
      have hText : (",".intercalate ((first :: second :: others).map text)).toList ++ rest =
          (text first).toList ++ ',' ::
            ((",".intercalate ((second :: others).map text)).toList ++ rest) := by
        rw [List.map_cons, List.map_cons, String.intercalate_cons_cons]
        simp
      rw [hText, hFirst _ (NumberLiteral.stops_comma _), Token.all_comma, ofTokens, hComma]
      dsimp only
      have hPut : ((first :: second :: others).map put).reverse ++ seen =
          ((second :: others).map put).reverse ++ put first :: seen := by
        rw [List.map_cons, List.reverse_cons, List.append_assoc, List.singleton_append]
      rw [hPut]
      exact ih hOthers (.inl rfl) _ (hOthers second List.mem_cons_self (.inl rfl) _)

end Written

namespace Json

open Written

@[simp] theorem compact_each_eq_map (items : List Json) :
    compact.each items = items.map compact := by
  induction items with
  | nil => rfl
  | cons item rest ih => rw [compact.each, ih, List.map_cons]

/-- The text of a member. -/
def memberText (member : String × Json) : String := quote member.1 ++ ":" ++ member.2.compact

@[simp] theorem compact_eachMember_eq_map (members : List (String × Json)) :
    compact.eachMember members = members.map memberText := by
  induction members with
  | nil => rfl
  | cons member rest ih => rw [compact.eachMember, ih, List.map_cons, memberText]

/-- Below few enough brackets for `depth` more, the text of the value is read as the value, whatever
comes after it that no number goes on with. -/
def Legible (depth : Nat) (value : Json) : Prop :=
  ∀ ⦃expected : Expected⦄ ⦃frames : List Frame⦄,
    expected = .value ∨ expected = .valueOrClose → frames.length + depth ≤ maxDepth →
    ∀ rest, NumberLiteral.Stops rest →
      ofTokens (Token.all (value.compact.toList ++ rest)) expected frames =
        afterValue (ofJson value) frames (Token.all rest)

namespace Legible

variable {depth : Nat}

/-- A value of one token. -/
theorem of_token {value : Json} (token : Token) (hToken : token ≠ .closeArray)
    (hText : ∀ rest, NumberLiteral.Stops rest →
      Token.all (value.compact.toList ++ rest) = token :: Token.all rest)
    (hBegin : ∀ frames, begin? token frames = place (ofJson value) frames) :
    Legible depth value := by
  intro expected frames hExpected _ rest hRest
  rw [hText rest hRest]
  exact ofTokens_of_place frames
    ((advance_eq_begin? token frames hExpected hToken).trans (hBegin frames)) _

theorem null : Legible depth .null :=
  of_token .null nofun (fun _ _ => Token.all_eq_of_scan rfl rfl) fun _ => rfl

theorem bool (truth : Bool) : Legible depth (.bool truth) := by
  cases truth with
  | false =>
      exact of_token (.bool false) nofun (fun _ _ => Token.all_eq_of_scan rfl rfl) fun _ => rfl
  | true =>
      exact of_token (.bool true) nofun (fun _ _ => Token.all_eq_of_scan rfl rfl) fun _ => rfl

theorem string (text : String) : Legible depth (.string text) :=
  of_token (.string (some text)) nofun (fun rest _ => Token.all_quote text rest) fun _ => rfl

theorem number {value : Number} (h : value.Rereads) : Legible depth (.number value) :=
  of_token (.number (some value)) nofun (fun _ hRest => Token.all_number h hRest) fun _ => rfl

/-- An item up to its end. -/
theorem ofTokens_item {item : Json} {seen : List Written} {outer : List Frame} {expected : Expected}
    (h : Legible depth item) (hExpected : expected = .value ∨ expected = .valueOrClose)
    (hDepth : outer.length + (depth + 1) ≤ maxDepth) (rest : List Char)
    (hRest : NumberLiteral.Stops rest) :
    ofTokens (Token.all (item.compact.toList ++ rest)) expected (.array seen :: outer) =
      ofTokens (Token.all rest) .commaOrClose (.array (ofJson item :: seen) :: outer) := by
  have hLength : (Frame.array seen :: outer).length + depth ≤ maxDepth := by
    rw [List.length_cons]
    omega
  exact h hExpected hLength rest hRest

theorem array {items : List Json} (h : ∀ item ∈ items, Legible depth item) :
    Legible (depth + 1) (.array items) := by
  intro expected frames hExpected hDepth rest _
  have hText : (compact (.array items)).toList ++ rest =
      '[' :: ((",".intercalate (items.map compact)).toList ++ ']' :: rest) := by
    simp [compact]
  have hOpen := advance_eq_begin? .openArray frames hExpected nofun
  have hOuter : frames.length + 1 ≤ maxDepth := by omega
  rw [hText, Token.all_openArray, ofTokens, hOpen, ofJson_array]
  show ofTokens _ .valueOrClose (.array [] :: frames) = _
  cases items with
  | nil =>
      show ofTokens (Token.all (']' :: rest)) _ _ = _
      rw [Token.all_closeArray, ofTokens_closeArray (.inl rfl) hOuter]
      rfl
  | cons first others =>
      rw [ofTokens_separated (fun _ => rfl)
          (fun item hItem _ hExpected _ => (h item hItem).ofTokens_item hExpected hDepth)
          (.inr rfl) _ (NumberLiteral.stops_closeArray rest), Token.all_closeArray,
        ofTokens_closeArray (.inr rfl) hOuter, List.append_nil, List.reverse_reverse]

/-- A member up to the end of its value. -/
theorem ofTokens_member {member : String × Json} {seen : List (Option String × Written)}
    {outer : List Frame} {expected : Expected} (h : Legible depth member.2)
    (hExpected : expected = .key ∨ expected = .keyOrClose)
    (hDepth : outer.length + (depth + 1) ≤ maxDepth) (rest : List Char)
    (hRest : NumberLiteral.Stops rest) :
    ofTokens (Token.all ((memberText member).toList ++ rest)) expected (.object seen :: outer) =
      ofTokens (Token.all rest) .commaOrClose
        (.object ((some member.1, ofJson member.2) :: seen) :: outer) := by
  have hText : (memberText member).toList ++ rest =
      (quote member.1).toList ++ ':' :: (member.2.compact.toList ++ rest) := by
    simp [memberText]
  have hKey := advance_eq_key? (.string (some member.1)) (.object seen :: outer) hExpected nofun
  have hLength : (Frame.member seen (some member.1) :: outer).length + depth ≤ maxDepth := by
    rw [List.length_cons]
    omega
  rw [hText, Token.all_quote, ofTokens, hKey, Token.all_colon]
  exact h (.inl rfl) hLength rest hRest

theorem object {members : List (String × Json)} (h : ∀ member ∈ members, Legible depth member.2) :
    Legible (depth + 1) (.object members) := by
  intro expected frames hExpected hDepth rest _
  have hText : (compact (.object members)).toList ++ rest =
      '\x7b' :: ((",".intercalate (members.map memberText)).toList ++ '\x7d' :: rest) := by
    simp [compact]
  have hOpen := advance_eq_begin? .openObject frames hExpected nofun
  have hOuter : frames.length + 1 ≤ maxDepth := by omega
  rw [hText, Token.all_openObject, ofTokens, hOpen, ofJson_object]
  show ofTokens _ .keyOrClose (.object [] :: frames) = _
  cases members with
  | nil =>
      show ofTokens (Token.all ('\x7d' :: rest)) _ _ = _
      rw [Token.all_closeObject, ofTokens_closeObject (.inl rfl) hOuter]
      rfl
  | cons first others =>
      rw [ofTokens_separated (fun _ => rfl)
          (fun member hMember _ hExpected _ => (h member hMember).ofTokens_member hExpected hDepth)
          (.inr rfl) _ (NumberLiteral.stops_closeObject rest), Token.all_closeObject,
        ofTokens_closeObject (.inr rfl) hOuter, List.append_nil, List.reverse_reverse]

/-- A value whose text nests no deeper than a text may is what its text is read as. -/
theorem ofText_compact {value : Json} (h : Legible maxDepth value) :
    ofText value.compact = ofJson value := by
  have hDepth : ([] : List Frame).length + maxDepth ≤ maxDepth := by
    simp
  have hRead := h (.inl rfl) hDepth [] NumberLiteral.stops_nil
  rw [List.append_nil, Token.all] at hRead
  unfold ofText
  rw [hRead]
  rfl

end Legible

/-- The value nests within so many levels, and all numbers in it are read as themselves. -/
inductive Spelled : Nat → Json → Prop
  | null {depth : Nat} : Spelled depth .null
  | bool {depth : Nat} (truth : Bool) : Spelled depth (.bool truth)
  | string {depth : Nat} (text : String) : Spelled depth (.string text)
  | number {depth : Nat} {value : Number} (h : value.Rereads) : Spelled depth (.number value)
  | array {depth : Nat} {items : List Json} (h : ∀ item ∈ items, Spelled depth item) :
      Spelled (depth + 1) (.array items)
  | object {depth : Nat} {members : List (String × Json)}
      (h : ∀ member ∈ members, Spelled depth member.2) : Spelled (depth + 1) (.object members)

/-- A value that nests little enough and spells its numbers out is legible. -/
theorem Spelled.legible {depth : Nat} {value : Json} (h : Spelled depth value) :
    Legible depth value := by
  induction h with
  | null => exact .null
  | bool truth => exact .bool truth
  | string text => exact .string text
  | number h => exact .number h
  | array _ ih => exact .array ih
  | object _ ih => exact .object ih

/-- What is spelled out is read from its text. -/
theorem Spelled.ofText_compact {value : Json} (h : Spelled maxDepth value) :
    ofText value.compact = ofJson value :=
  h.legible.ofText_compact

end Json

end N1qlConnector
