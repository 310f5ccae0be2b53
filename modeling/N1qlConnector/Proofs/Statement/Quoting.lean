import N1qlConnector.Proofs.Statement.Lexeme
import N1qlConnector.Schema

/-!
# Names between backticks come apart again

A name is escaped in two passes over the whole text, first the backslashes and then the backticks,
and the second pass must leave the work of the first one alone. It does, since a backslash in front
of a backtick is put there only after all backslashes of the name itself were doubled. So the two
passes come to the same as one in which every character is escaped on its own, and a scanner that
takes the character after a backslash as it is stops at the backtick that closes the name, whatever
stands after it.

A text that was made of names is then taken apart name by name from the left. No separator has to be
looked for, so a dot in a name does no harm.

## Main results

* `escapeName_eq_replaceEach` : the two passes and the single one.
* `scanName?_quoteName_append`, `quoteName_append_inj` : a name comes off the front of a text.
* `quoteName_scansBack` : the texts made of names have one reading each.
-/

namespace N1qlConnector.Statement

/-! ## Escaping in two passes -/

/-- Puts `replacement` in the place of every `target`. -/
def replaceEach (target : Char) (replacement text : List Char) : List Char :=
  text.flatMap fun c => if c = target then replacement else [c]

theorem replaceEach_append (target : Char) (replacement first second : List Char) :
    replaceEach target replacement (first ++ second) =
      replaceEach target replacement first ++ replaceEach target replacement second :=
  List.flatMap_append

/-- Doubling the backslashes and then escaping the backticks escapes every character on its own. -/
theorem escapeName_eq_replaceEach (name : List Char) :
    escapeName name = replaceEach '\x60' ['\\', '\x60'] (replaceEach '\\' ['\\', '\\'] name) := by
  induction name with
  | nil => rfl
  | cons c rest ih =>
      have hChar : escapeNameChar c =
          replaceEach '\x60' ['\\', '\x60'] (if c = '\\' then ['\\', '\\'] else [c]) := by
        unfold escapeNameChar
        by_cases hSlash : c = '\\'
        · rw [if_pos hSlash, if_pos hSlash]
          rfl
        · rw [if_neg hSlash, if_neg hSlash]
          simp [replaceEach]
      calc escapeName (c :: rest)
        _ = escapeNameChar c ++ escapeName rest := rfl
        _ = replaceEach '\x60' ['\\', '\x60'] (if c = '\\' then ['\\', '\\'] else [c]) ++
              replaceEach '\x60' ['\\', '\x60'] (replaceEach '\\' ['\\', '\\'] rest) := by
            rw [hChar, ih]
        _ = replaceEach '\x60' ['\\', '\x60'] (replaceEach '\\' ['\\', '\\'] (c :: rest)) :=
            (replaceEach_append ..).symm

/-! ## Scanning -/

/-- What comes before the first backtick that no backslash escapes, and what comes after it. A
character is escaped if the one before it was a backslash that was not. -/
def scanEscaped (isEscaped : Bool) : List Char → Option (List Char × List Char)
  | [] => none
  | c :: rest =>
    if isEscaped then (scanEscaped false rest).map fun found => (c :: found.1, found.2)
    else if c = '\\' then scanEscaped true rest
    else if c = '\x60' then some ([], rest)
    else (scanEscaped false rest).map fun found => (c :: found.1, found.2)

/-- The name between backticks that a text starts with, and what comes after it. -/
def scanName? (text : String) : Option (String × String) :=
  match text.toList with
  | [] => none
  | c :: rest =>
    if c = '\x60' then
      (scanEscaped false rest).map fun found => (String.ofList found.1, String.ofList found.2)
    else none

theorem scanEscaped_escapeNameChar (c : Char) (rest : List Char) :
    scanEscaped false (escapeNameChar c ++ rest) =
      (scanEscaped false rest).map fun found => (c :: found.1, found.2) := by
  unfold escapeNameChar
  by_cases hSlash : c = '\\'
  · subst hSlash
    rfl
  by_cases hTick : c = '\x60'
  · subst hTick
    rfl
  · simp [scanEscaped, hSlash, hTick]

theorem scanEscaped_escapeName (name rest : List Char) :
    scanEscaped false (escapeName name ++ '\x60' :: rest) = some (name, rest) := by
  induction name with
  | nil => rfl
  | cons c name ih =>
      show scanEscaped false (escapeNameChar c ++ escapeName name ++ '\x60' :: rest) = _
      rw [List.append_assoc, scanEscaped_escapeNameChar, ih]
      rfl

/-- A quoted name is scanned to its end and no further. -/
theorem scanName?_quoteName_append (name rest : String) :
    scanName? (quoteName name ++ rest) = some (name, rest) := by
  have hChars : (quoteName name ++ rest).toList =
      '\x60' :: (escapeName name.toList ++ '\x60' :: rest.toList) := by simp
  rw [scanName?, hChars]
  simp [scanEscaped_escapeName]

/-- A name comes off the front of a text in one way only. -/
theorem quoteName_append_inj {name other rest more : String} :
    quoteName name ++ rest = quoteName other ++ more ↔ name = other ∧ rest = more := by
  constructor
  · intro h
    have hScan := congrArg scanName? h
    simpa only [scanName?_quoteName_append, Option.some.injEq, Prod.mk.injEq] using hScan
  · rintro ⟨rfl, rfl⟩
    rfl

theorem quoteName_inj {name other : String} : quoteName name = quoteName other ↔ name = other := by
  have h := @quoteName_append_inj name other "" ""
  simpa using h

/-- Strings come apart as names do, since each is one lexeme. -/
theorem quote_inj {text other : String} : Json.quote text = Json.quote other ↔ text = other := by
  refine ⟨fun h => ?_, fun h => h ▸ rfl⟩
  have hRun := congrArg (fun quoted => Mode.run .between (String.toList quoted)) h
  simpa only [run_quote, Option.some.injEq, Prod.mk.injEq, true_and, List.cons.injEq,
    Lexeme.text.injEq, and_true] using hRun

/-! ## Texts made of names -/

theorem Keyspace.text_inj {keyspace other : Keyspace} :
    keyspace.text = other.text ↔ keyspace = other := by
  obtain ⟨bucket, scope, collection⟩ := keyspace
  obtain ⟨bucket', scope', collection'⟩ := other
  simp only [Keyspace.text, String.append_assoc, quoteName_append_inj, String.append_right_inj,
    quoteName_inj, Keyspace.mk.injEq]

theorem queryContext_inj {bucket scope bucket' scope' : String} :
    queryContext bucket scope = queryContext bucket' scope' ↔ bucket = bucket' ∧ scope = scope' := by
  simp only [queryContext, String.append_assoc, quoteName_append_inj, String.append_right_inj,
    quoteName_inj]

theorem inferStatement_inj {bucket scope collection bucket' scope' collection' : String} :
    inferStatement bucket scope collection = inferStatement bucket' scope' collection' ↔
      bucket = bucket' ∧ scope = scope' ∧ collection = collection' := by
  simp only [inferStatement, String.append_right_inj, Keyspace.text_inj, Keyspace.mk.injEq]

namespace Reference

/-- The key of a document starts with a letter, and a property with a backtick. -/
theorem text_documentKey_ne_text_property (rowAlias other name : String) :
    (documentKey rowAlias).text ≠ (property other name).text := by
  intro h
  have hChars := congrArg String.toList h
  simp [text] at hChars

theorem text_inj {reference other : Reference} : reference.text = other.text ↔ reference = other := by
  refine ⟨fun h => ?_, fun h => h ▸ rfl⟩
  cases reference with
  | documentKey rowAlias =>
      cases other with
      | documentKey rowAlias' =>
          simp only [text, String.append_assoc, String.append_right_inj, quoteName_append_inj] at h
          rw [h.1]
      | property rowAlias' name => exact absurd h (text_documentKey_ne_text_property _ _ _)
  | property rowAlias name =>
      cases other with
      | documentKey rowAlias' => exact absurd h.symm (text_documentKey_ne_text_property _ _ _)
      | property rowAlias' name' =>
          simp only [text, String.append_assoc, quoteName_append_inj, String.append_right_inj,
            quoteName_inj] at h
          rw [h.1, h.2]

theorem ofColumn_inj {rowAlias column rowAlias' column' : String} :
    ofColumn rowAlias column = ofColumn rowAlias' column' ↔
      rowAlias = rowAlias' ∧ column = column' := by
  refine ⟨fun h => ?_, fun h => by rw [h.1, h.2]⟩
  unfold ofColumn at h
  split at h <;> split at h
  · next hKey hKey' => exact ⟨Reference.documentKey.inj h, hKey.trans hKey'.symm⟩
  · cases h
  · cases h
  · exact Reference.property.inj h

theorem text_ofColumn_inj {rowAlias column rowAlias' column' : String} :
    (ofColumn rowAlias column).text = (ofColumn rowAlias' column').text ↔
      rowAlias = rowAlias' ∧ column = column' :=
  text_inj.trans ofColumn_inj

end Reference

/-- A name that was escaped in two passes is read back by a scanner, whatever comes after it. So
keyspaces, contexts, inferring statements and references to columns differ in their texts as soon as
they differ in one of their names, and the key of a document is never written like a property. -/
theorem quoteName_scansBack :
    (∀ name : String, (quoteName name).toList =
      '\x60' :: replaceEach '\x60' ['\\', '\x60'] (replaceEach '\\' ['\\', '\\'] name.toList)
        ++ ['\x60']) ∧
    (∀ name rest : String, scanName? (quoteName name ++ rest) = some (name, rest)) ∧
    (∀ bucket scope collection bucket' scope' collection' : String,
      Keyspace.text ⟨bucket, scope, collection⟩ = Keyspace.text ⟨bucket', scope', collection'⟩ ↔
        bucket = bucket' ∧ scope = scope' ∧ collection = collection') ∧
    (∀ bucket scope bucket' scope' : String,
      queryContext bucket scope = queryContext bucket' scope' ↔
        bucket = bucket' ∧ scope = scope') ∧
    (∀ bucket scope collection bucket' scope' collection' : String,
      inferStatement bucket scope collection = inferStatement bucket' scope' collection' ↔
        bucket = bucket' ∧ scope = scope' ∧ collection = collection') ∧
    (∀ rowAlias column rowAlias' column' : String,
      (Reference.ofColumn rowAlias column).text = (Reference.ofColumn rowAlias' column').text ↔
        rowAlias = rowAlias' ∧ column = column') ∧
    ∀ rowAlias rowAlias' name : String,
      (Reference.documentKey rowAlias).text ≠ (Reference.property rowAlias' name).text := by
  refine ⟨fun name => ?_, scanName?_quoteName_append, ?_, ?_, ?_, ?_, ?_⟩
  · rw [toList_quoteName, escapeName_eq_replaceEach]
  · intro bucket scope collection bucket' scope' collection'
    rw [Keyspace.text_inj, Keyspace.mk.injEq]
  · exact fun bucket scope bucket' scope' => queryContext_inj
  · exact fun bucket scope collection bucket' scope' collection' => inferStatement_inj
  · exact fun rowAlias column rowAlias' column' => Reference.text_ofColumn_inj
  · exact Reference.text_documentKey_ne_text_property

/-- Backslashes in front of a backtick and at the end, with a name after them. -/
example : scanName? (quoteName "\\\x60\\" ++ quoteName ".") = some ("\\\x60\\", "\x60.\x60") := by
  decide +kernel

end N1qlConnector.Statement
