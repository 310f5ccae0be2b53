import N1qlConnector.Proofs.Statement.Totals

/-!
# Statements without comments

Whoever drops comments cannot tell whether a text has any. The lexemes of a printed statement are
known up to comments; here it is shown that without tags there are none.

A comment opens with a slash. A slash in a name or in a string opens nothing, and no other part of a
statement has one, so it is enough to know of a text that it is made of names, of strings and of
characters that open neither those nor a comment (`Uncommented`). In such a text the lexer is never
closer to a comment than between two parts.

## Main results

* `Spells.lex_eq` : all lexemes of such a text are significant.
* `Select.uncommented`, `TotalsSelect.uncommented` : statements without tags are such texts.
-/

namespace N1qlConnector.Statement

/-- A character that opens no name, no string and no comment. -/
def isBare (c : Char) : Bool := c != '\x60' && c != '"' && c != '/'

/-- A text made of names, strings and bare characters. -/
inductive Uncommented : String → Prop
  | bare {chars : List Char} (h : chars.all isBare) : Uncommented (String.ofList chars)
  | name (name : String) : Uncommented (quoteName name)
  | string (value : String) : Uncommented (Json.quote value)
  | append {first second : String} (hFirst : Uncommented first) (hSecond : Uncommented second) :
      Uncommented (first ++ second)

/-! ## Through a text without comments -/

/-- The lexer is in no name, no string and no comment. -/
def Mode.isOutside : Mode → Bool
  | between | word _ | parameter _ | angle _ => true
  | _ => false

/-- The lexer has found no comment and is not about to find one. -/
def Mode.Clear (reached : Mode × List Lexeme) : Prop :=
  reached.1.isOutside ∧ reached.2.all Lexeme.isSignificant

namespace Mode

/-- No comment before, and none since. -/
theorem Clear.prepend {found more : List Lexeme} {final : Mode}
    (hFound : found.all Lexeme.isSignificant) (h : Clear (final, more)) :
    Clear (final, found ++ more) :=
  ⟨h.1, by rw [List.all_append, hFound, h.2, Bool.and_self]⟩

theorem clear_start {c : Char} (hc : isBare c) {reached : Mode × List Lexeme}
    (h : start c = some reached) : Clear reached := by
  simp only [isBare, Bool.and_eq_true, bne_iff_ne] at hc
  obtain ⟨⟨hName, hText⟩, hSlash⟩ := hc
  simp only [start, if_neg hName, if_neg hText, if_neg hSlash] at h
  split_ifs at h <;> (cases h; exact ⟨rfl, rfl⟩)

theorem all_isSignificant_of_last {mode : Mode} {ended : List Lexeme}
    (h : mode.last = some ended) : ended.all Lexeme.isSignificant := by
  cases mode with
  | parameter soFar =>
      simp only [last] at h
      split_ifs at h
      cases h
      rfl
  | _ => cases h <;> rfl

theorem clear_restart {mode : Mode} {c : Char} (hc : isBare c) {reached : Mode × List Lexeme}
    (h : mode.restart c = some reached) : Clear reached := by
  obtain ⟨ended, hEnded, h⟩ := Option.bind_eq_some_iff.1 h
  obtain ⟨next, hNext, rfl⟩ := Option.map_eq_some_iff.1 h
  exact (clear_start hc hNext).prepend (all_isSignificant_of_last hEnded)

theorem clear_step {mode : Mode} (hMode : mode.isOutside) {c : Char} (hc : isBare c)
    {reached : Mode × List Lexeme} (h : mode.step c = some reached) : Clear reached := by
  cases mode with
  | between => exact clear_start hc h
  | word soFar | parameter soFar | angle a =>
      simp only [step] at h
      split_ifs at h
      · cases h
        exact ⟨rfl, rfl⟩
      · exact clear_restart hc h
  | _ => cases hMode

/-- Where a lexeme cannot end, the character that would start the next one is no good. -/
theorem step_eq_none {mode : Mode} (hMode : mode.isOutside) (hLast : mode.last = none) {c : Char}
    (hc : isOpening c) : mode.step c = none := by
  simp only [isOpening, Bool.and_eq_true, Bool.not_eq_true', bne_iff_ne] at hc
  cases mode with
  | parameter soFar => simp [step, restart, hLast, hc.1]
  | between | word soFar | angle a => cases hLast
  | _ => cases hMode

theorem clear_run_of_isBare {chars : List Char} (hChars : chars.all isBare) {mode : Mode}
    (hMode : mode.isOutside) {reached : Mode × List Lexeme} (h : mode.run chars = some reached) :
    Clear reached := by
  induction chars generalizing mode reached with
  | nil =>
      obtain rfl := Option.some.inj h
      exact ⟨hMode, rfl⟩
  | cons c rest ih =>
      rw [List.all_cons, Bool.and_eq_true] at hChars
      obtain ⟨next, hStep, h⟩ := Option.bind_eq_some_iff.1 h
      obtain ⟨final, hRest, h⟩ := Option.bind_eq_some_iff.1 h
      obtain rfl := Option.some.inj h
      obtain ⟨hNext, hFound⟩ := clear_step hMode hChars.1 hStep
      exact (ih hChars.2 hNext hRest).prepend hFound

/-- A part that is one lexeme between two others brings no comment anywhere else, since its first
character ends the lexeme before it. -/
theorem clear_run_of_opening {mode : Mode} (hMode : mode.isOutside) {chars : List Char}
    (hOpening : chars.head?.any isOpening) {lexeme : Lexeme} (hLexeme : lexeme.isSignificant)
    (hChars : run .between chars = some (.between, [lexeme])) {reached : Mode × List Lexeme}
    (h : mode.run chars = some reached) : Clear reached := by
  cases chars with
  | nil => cases hOpening
  | cons c rest =>
      cases hLast : mode.last with
      | none => simp [run, step_eq_none hMode hLast hOpening] at h
      | some ended =>
          obtain rfl := Option.some.inj ((run_of_last hLast hOpening hChars).symm.trans h)
          have hFound : Clear (.between, [lexeme]) := ⟨rfl, by simp [hLexeme]⟩
          exact hFound.prepend (all_isSignificant_of_last hLast)

theorem clear_run {text : String} (h : Uncommented text) :
    ∀ {mode : Mode} {reached : Mode × List Lexeme}, mode.isOutside →
      mode.run text.toList = some reached → Clear reached := by
  induction h with
  | bare hBare =>
      intro mode reached hMode h
      rw [String.toList_ofList] at h
      exact clear_run_of_isBare hBare hMode h
  | name name =>
      intro mode reached hMode h
      have hOpening : (quoteName name).toList.head?.any isOpening := by
        rw [toList_quoteName]
        rfl
      exact clear_run_of_opening hMode hOpening rfl (run_quoteName name) h
  | string value =>
      intro mode reached hMode h
      have hOpening : (Json.quote value).toList.head?.any isOpening := by
        rw [Json.toList_quote]
        rfl
      exact clear_run_of_opening hMode hOpening rfl (run_quote value) h
  | append hFirst hSecond ihFirst ihSecond =>
      intro mode reached hMode h
      rw [String.toList_append, run_append] at h
      obtain ⟨before, hBefore, h⟩ := Option.bind_eq_some_iff.1 h
      obtain ⟨after, hAfter, rfl⟩ := Option.map_eq_some_iff.1 h
      obtain ⟨hMiddle, hFound⟩ := ihFirst hMode hBefore
      exact (ihSecond hMiddle hAfter).prepend hFound

end Mode

/-- The lexemes of an uncommented text, with nothing left out. -/
theorem Spells.lex_eq {text : String} {found : List Lexeme} (h : Spells text found)
    (hUncommented : Uncommented text) : lex text = some found := by
  obtain ⟨mode, all, ended, hRun, hLast, hFound⟩ := spells_iff.1 h
  obtain ⟨-, hAll⟩ := Mode.clear_run hUncommented rfl hRun
  have hSignificant : (all ++ ended).all Lexeme.isSignificant := by
    rw [List.all_append, hAll, Mode.all_isSignificant_of_last hLast, Bool.and_self]
  rw [List.filter_eq_self.2 (List.all_eq_true.1 hSignificant)] at hFound
  simp [lex, hRun, hLast, hFound]

/-! ## Parts of texts -/

/-- The tags of statements that nobody has to trace back. -/
def Tags.off : Tags := ⟨false⟩

@[simp] theorem Tags.tag_off (name text : String) : off.tag name text = text := rfl

theorem isBare_of_isWordChar {c : Char} (h : isWordChar c) : isBare c := by
  have hNe : ∀ d : Char, isWordChar d = false → c ≠ d := by
    rintro d hd rfl
    rw [h] at hd
    cases hd
  simp [isBare, hNe '\x60' (by decide), hNe '"' (by decide), hNe '/' (by decide)]

namespace Uncommented

theorem empty : Uncommented "" := .bare rfl

theorem word {text : String} (h : text.toList.all isWordChar) : Uncommented text := by
  have hBare : text.toList.all isBare :=
    List.all_eq_true.2 fun c hc => isBare_of_isWordChar (List.all_eq_true.1 h c hc)
  simpa using Uncommented.bare hBare

theorem number (n : Nat) : Uncommented (toString n) := by
  have hChars : (toString n).toList = Nat.toDigits 10 n := Nat.toList_repr
  refine word (List.all_eq_true.2 fun c hc => isWordChar_of_isDigit ?_)
  rw [hChars] at hc
  exact Nat.isDigit_of_mem_toDigits (by decide) (by decide) hc

theorem intercalate {separator : String} (hSeparator : Uncommented separator)
    {parts : List String} (h : ∀ part ∈ parts, Uncommented part) :
    Uncommented (separator.intercalate parts) := by
  induction parts with
  | nil => exact empty
  | cons part rest ih =>
      have hPart := h part List.mem_cons_self
      have hRest := ih fun other hMem => h other (List.mem_cons_of_mem _ hMem)
      cases rest with
      | nil => simpa using hPart
      | cons next rest =>
          rw [String.intercalate_cons_cons]
          exact .append (.append hPart hSeparator) hRest

theorem clause {opening ligature : String} (hOpening : Uncommented opening)
    (hLigature : Uncommented ligature) {parts : List String}
    (h : ∀ part ∈ parts, Uncommented part) :
    Uncommented (Statement.clause opening ligature parts) := by
  cases parts with
  | nil => exact empty
  | cons part rest => exact .append (.append hOpening (.bare rfl)) (intercalate hLigature h)

theorem joinClauses {clauses : List String} (h : ∀ clause ∈ clauses, Uncommented clause) :
    Uncommented (Statement.joinClauses clauses) :=
  intercalate (.bare rfl) fun clause hMem => h clause (List.mem_of_mem_filter hMem)

end Uncommented

/-! ## Conditions -/

theorem Reference.uncommented (reference : Reference) : Uncommented reference.text := by
  cases reference with
  | documentKey rowAlias => exact .append (.append (.bare rfl) (.name rowAlias)) (.bare rfl)
  | property rowAlias name => exact .append (.append (.name rowAlias) (.bare rfl)) (.name name)

theorem uncommented_placeholder {name : String} (h : IsWord name) :
    Uncommented (placeholder name) :=
  .append (.bare rfl) (.word h.2)

theorem Term.uncommented {term : Term} (h : term.IsPlain) : Uncommented term.text := by
  cases term with
  | reference found => exact found.uncommented
  | placeholder name => exact uncommented_placeholder h

theorem uncommented_unaryText {operator : UnaryOperator} (h : operator.isBuiltIn) :
    Uncommented (unaryText operator) := by
  cases operator with
  | isNull => exact .bare rfl
  | custom word => cases h

theorem uncommented_binaryText {operator : BinaryOperator} (h : operator.isBuiltIn) :
    Uncommented (binaryText operator) := by
  cases operator with
  | custom word => cases h
  | _ => exact .bare rfl

theorem uncommented_arrayText {operator : ArrayOperator} (h : operator.isBuiltIn) :
    Uncommented (arrayText operator) := by
  cases operator with
  | isIn => exact .bare rfl
  | custom word => cases h

theorem Test.uncommented {test : Test} (h : test.IsPlain) : Uncommented (test.text .off) := by
  have hOpen : Uncommented "(" := .bare rfl
  have hBlank : Uncommented " " := .bare rfl
  have hClose : Uncommented ")" := .bare rfl
  cases test with
  | unary left operator =>
      have hLeft := (hOpen.append left.uncommented).append hBlank
      exact (hLeft.append (uncommented_unaryText h)).append hClose
  | binary left operator right =>
      have hLeft := (hOpen.append left.uncommented).append hBlank
      have hOperator := (hLeft.append (uncommented_binaryText h.1)).append hBlank
      exact (hOperator.append (Term.uncommented h.2)).append hClose
  | array left operator right =>
      have hLeft := (hOpen.append left.uncommented).append hBlank
      have hOperator := (hLeft.append (uncommented_arrayText h.1)).append hBlank
      exact (hOperator.append (uncommented_placeholder h.2)).append hClose

theorem uncommented_combination {ligature empty : String} (hLigature : Uncommented ligature)
    (hEmpty : Uncommented empty) {parts : List String} (h : ∀ part ∈ parts, Uncommented part) :
    Uncommented (combination ligature empty parts) := by
  cases parts with
  | nil => exact hEmpty
  | cons part rest => exact .append (.append (.bare rfl) (hLigature.intercalate h)) (.bare rfl)

theorem Condition.uncommented {condition : Condition} (h : condition.IsPlain) :
    Uncommented (condition.text .off) := by
  revert h
  induction condition using Formula.induct with
  | atom test => exact fun h => Test.uncommented (h test (by simp [Formula.atoms]))
  | not part ih => exact fun h => .append (.append (.bare rfl) (ih h)) (.bare rfl)
  | combination parts ih =>
      have hParts (hPlain : ∀ part ∈ parts, ∀ test ∈ part.atoms, test.IsPlain) :
          ∀ text ∈ parts.map (Condition.text .off), Uncommented text :=
        List.forall_mem_map.2 fun part hPart => ih part hPart (hPlain part hPart)
      constructor
      · intro h
        rw [Condition.text, texts_eq_map]
        exact uncommented_combination (.bare rfl) (.bare rfl) (hParts (Condition.isPlain_all.1 h))
      · intro h
        rw [Condition.text, texts_eq_map]
        exact uncommented_combination (.bare rfl) (.bare rfl) (hParts (Condition.isPlain_any.1 h))

/-! ## Rows -/

namespace RowSet

theorem uncommented_fromText (rows : RowSet) : Uncommented rows.fromText := by
  have hDot : Uncommented "." := .bare rfl
  have hBucket := (Uncommented.name rows.source.bucket).append hDot
  have hScope := (hBucket.append (.name rows.source.scope)).append hDot
  have hSource : Uncommented rows.source.text := hScope.append (.name rows.source.collection)
  exact .append (.append (.append (.bare rfl) hSource) (.bare rfl)) (.name rows.rowAlias)

theorem uncommented_whereText {rows : RowSet}
    (h : ∀ condition ∈ rows.condition, condition.IsPlain) : Uncommented (rows.whereText .off) := by
  have hKind : Uncommented rows.kindTest :=
    .append (.append (.name rows.rowAlias) (.bare rfl)) (.string rows.kind)
  refine Uncommented.clause (.bare rfl) (.bare rfl) (List.forall_mem_cons.2 ⟨hKind, ?_⟩)
  cases hCondition : rows.condition with
  | none => exact List.forall_mem_nil _
  | some condition =>
      exact List.forall_mem_singleton.2 (Condition.uncommented (h condition hCondition))

theorem uncommented_orderText (rows : RowSet) : Uncommented (rows.orderText .off) := by
  refine Uncommented.clause (.bare rfl) (.bare rfl) (List.forall_mem_map.2 ?_)
  intro element _
  have hDirection : Uncommented (directionText element.2) := by
    cases element.2 <;> exact .bare rfl
  exact .append (.append element.1.uncommented (.bare rfl)) hDirection

theorem uncommented_limitText (rows : RowSet) : Uncommented (rows.limitText .off) := by
  unfold limitText
  cases rows.limit with
  | none => exact .empty
  | some limit => exact .append (.bare rfl) (.number limit.toNat)

theorem uncommented_offsetText (rows : RowSet) : Uncommented (rows.offsetText .off) := by
  unfold offsetText
  cases rows.offset with
  | none => exact .empty
  | some offset => exact .append (.bare rfl) (.number offset.toNat)

end RowSet

/-! ## Statements -/

theorem uncommented_itemText (item : String × Item) : Uncommented (itemText item) := by
  have hItem : Uncommented item.2.text := by
    cases item.2 with
    | column reference => exact reference.uncommented
    | columnOrNull reference =>
        exact .append (.append (.bare rfl) reference.uncommented) (.bare rfl)
    | rows binding =>
        have hClose : Uncommented ("] AS " ++ quoteName "rows" ++ ")[0]") :=
          .append (.append (.bare rfl) (.name "rows")) (.bare rfl)
        exact .append (.append (.bare rfl) (.name binding)) hClose
  exact .append (.append hItem (.bare rfl)) (.name item.1)

theorem uncommented_bindingTexts {bindings : List (String × Option Select)}
    (h : ∀ name select, (name, some select) ∈ bindings → Uncommented (select.text .off)) :
    ∀ text ∈ Select.text.bindingTexts .off bindings, Uncommented text := by
  induction bindings with
  | nil => exact List.forall_mem_nil _
  | cons first rest ih =>
      have hRest := ih fun name select hMem => h name select (List.mem_cons_of_mem _ hMem)
      obtain ⟨name, found⟩ := first
      cases found with
      | none => exact List.forall_mem_cons.2 ⟨.append (.name name) (.bare rfl), hRest⟩
      | some select =>
          refine List.forall_mem_cons.2 ⟨?_, hRest⟩
          have hSelect := h name select List.mem_cons_self
          exact .append (.append (.append (.name name) (.bare rfl)) hSelect) (.bare rfl)

/-- A statement without tags has no comments. -/
theorem Select.uncommented {select : Select} (h : select.IsPlain) :
    Uncommented (select.text .off) := by
  induction select using Select.induct with
  | mk items bindings rows ih =>
      obtain ⟨-, hCondition, hBindings⟩ := h
      have hItems : Uncommented (", ".intercalate (items.map itemText)) :=
        .intercalate (.bare rfl) (List.forall_mem_map.2 fun item _ => uncommented_itemText item)
      have hSelect : Uncommented ("SELECT " ++ ", ".intercalate (items.map itemText)) :=
        .append (.bare rfl) hItems
      have hLet : Uncommented (clause "LET" ", " (Select.text.bindingTexts .off bindings)) :=
        .clause (.bare rfl) (.bare rfl) (uncommented_bindingTexts fun name select hMem =>
          ih name select hMem (hBindings name select hMem))
      refine Uncommented.joinClauses ?_
      simp only [List.forall_mem_cons, Tags.tag_off]
      exact ⟨hSelect, rows.uncommented_fromText, hLet, RowSet.uncommented_whereText hCondition,
        rows.uncommented_orderText, rows.uncommented_limitText, rows.uncommented_offsetText,
        List.forall_mem_nil _⟩

/-! ## Statements that compute totals -/

theorem uncommented_totalText (item : String × Total) : Uncommented (totalText item) := by
  have hTotal : Uncommented item.2.text := by
    cases item.2 with
    | countRows => exact .bare rfl
    | ofColumn function column =>
        cases function <;> exact .append (.append (.bare rfl) column.uncommented) (.bare rfl)
  exact .append (.append hTotal (.bare rfl)) (.name item.1)

theorem RowSet.uncommented_documentsText {rows : RowSet}
    (h : ∀ condition ∈ rows.condition, condition.IsPlain) :
    Uncommented (rows.documentsText .off) := by
  have hPut : Uncommented ("SELECT RAW OBJECT_PUT(" ++ quoteName rows.rowAlias ++ ", "
      ++ Json.quote keyColumn ++ ", META(" ++ quoteName rows.rowAlias ++ ").id)") :=
    .append (.append (.append (.append (.append (.append (.bare rfl) (.name _)) (.bare rfl))
      (.string _)) (.bare rfl)) (.name _)) (.bare rfl)
  refine Uncommented.joinClauses ?_
  simp only [List.forall_mem_cons]
  exact ⟨hPut, rows.uncommented_fromText, uncommented_whereText h, rows.uncommented_orderText,
    rows.uncommented_limitText, rows.uncommented_offsetText, List.forall_mem_nil _⟩

/-- An aggregate statement without tags has no comments. -/
theorem TotalsSelect.uncommented {select : TotalsSelect} (h : select.IsPlain) :
    Uncommented (select.text .off) := by
  have hItems : Uncommented (", ".intercalate (select.items.map totalText)) :=
    .intercalate (.bare rfl) (List.forall_mem_map.2 fun item _ => uncommented_totalText item)
  have hOpening : Uncommented ("SELECT " ++ ", ".intercalate (select.items.map totalText)) :=
    .append (.bare rfl) hItems
  unfold text
  simp only [Tags.tag_off]
  split
  · have hRows := RowSet.uncommented_documentsText h.condition
    have hFrom : Uncommented ("FROM (" ++ select.rows.documentsText .off ++ ") AS "
        ++ quoteName select.rows.rowAlias) :=
      .append (.append (.append (.bare rfl) hRows) (.bare rfl)) (.name _)
    refine Uncommented.joinClauses ?_
    simp only [List.forall_mem_cons]
    exact ⟨hOpening, hFrom, List.forall_mem_nil _⟩
  · refine Uncommented.joinClauses ?_
    simp only [List.forall_mem_cons]
    exact ⟨hOpening, select.rows.uncommented_fromText, RowSet.uncommented_whereText h.condition,
      List.forall_mem_nil _⟩

end N1qlConnector.Statement
