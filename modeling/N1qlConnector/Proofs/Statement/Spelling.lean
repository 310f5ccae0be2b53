import N1qlConnector.Proofs.Nesting
import N1qlConnector.Proofs.Statement.Lexeme
import N1qlConnector.Statement.Select

/-!
# The lexemes of printed statements

What the text of a statement looks like to the lexer. Every part of a statement that selects rows
has its lexemes given by a function beside its text, and the text has exactly these lexemes, with
tags or without. No name, string or number can spill over into its neighbours, whatever characters
it has.

Two things are asked of a statement. Its operators have to be those that every caller knows, since
any other operator is written as the caller spelled it, and the names of its parameters have to be
bare words. `Select.IsPlain` says both, and that something is selected at all.

## Main results

* `Condition.spells`, `Select.spells`: texts and their lexemes.
-/

namespace N1qlConnector

def UnaryOperator.isBuiltIn : UnaryOperator → Bool
  | isNull => true
  | custom _ => false

def BinaryOperator.isBuiltIn : BinaryOperator → Bool
  | custom _ => false
  | _ => true

def ArrayOperator.isBuiltIn : ArrayOperator → Bool
  | isIn => true
  | custom _ => false

namespace Statement

/-! ## References -/

def Reference.lexemes : Reference → List Lexeme
  | documentKey rowAlias =>
    [.word "META", .mark "(", .name rowAlias, .mark ")", .mark ".", .word "id"]
  | property rowAlias name => [.name rowAlias, .mark ".", .name name]

theorem Reference.spells (reference : Reference) : Spells reference.text reference.lexemes := by
  cases reference with
  | documentKey rowAlias =>
      have hOpen : Closed "META(" [.word "META", .mark "("] := ⟨_, rfl, rfl⟩
      have hClose : Spells ").id" [.mark ")", .mark ".", .word "id"] := rfl
      exact (hOpen.append_closed (closed_quoteName rowAlias)).append hClose
  | property rowAlias name =>
      have hDot : Closed "." [.mark "."] := ⟨_, rfl, rfl⟩
      have hRow := (closed_quoteName rowAlias).append_closed hDot
      exact (hRow.append_closed (closed_quoteName name)).spells

/-! ## Conditions -/

/-- A term whose placeholder, if it is one, is a bare word. -/
def Term.IsPlain : Term → Prop
  | reference _ => True
  | placeholder name => IsWord name

def Term.lexemes : Term → List Lexeme
  | reference found => found.lexemes
  | placeholder name => [.parameter name]

theorem Term.spells {term : Term} (h : term.IsPlain) : Spells term.text term.lexemes := by
  cases term with
  | reference found => exact found.spells
  | placeholder name => exact spells_placeholder h

/-- A test with an operator that every caller knows, and with a bare word for a placeholder. -/
def Test.IsPlain : Test → Prop
  | unary _ operator => operator.isBuiltIn
  | binary _ operator right => operator.isBuiltIn ∧ right.IsPlain
  | array _ operator right => operator.isBuiltIn ∧ IsWord right

def Test.lexemes : Test → List Lexeme
  | unary left _ => [.mark "("] ++ left.lexemes ++ [.word "IS", .word "NULL", .mark ")"]
  | binary left operator right =>
    [.mark "("] ++ left.lexemes ++ [.mark (binaryText operator)] ++ right.lexemes ++ [.mark ")"]
  | array left _ right =>
    [.mark "("] ++ left.lexemes ++ [.word "IN", .parameter right, .mark ")"]

theorem spells_unaryText {operator : UnaryOperator} (h : operator.isBuiltIn) :
    Spells (unaryText operator) [.word "IS", .word "NULL"] := by
  cases operator with
  | isNull => rfl
  | custom word => cases h

theorem spells_binaryText {operator : BinaryOperator} (h : operator.isBuiltIn) :
    Spells (binaryText operator) [.mark (binaryText operator)] := by
  cases operator with
  | custom word => cases h
  | _ => rfl

theorem spells_arrayText {operator : ArrayOperator} (h : operator.isBuiltIn) :
    Spells (arrayText operator) [.word "IN"] := by
  cases operator with
  | isIn => rfl
  | custom word => cases h

section Parts

theorem closed_blank : Closed " " [] := ⟨_, rfl, rfl⟩

theorem opens_blank : Opens " " := by decide

theorem closed_openParen : Closed "(" [.mark "("] := ⟨_, rfl, rfl⟩

theorem closed_closeParen : Closed ")" [.mark ")"] := ⟨_, rfl, rfl⟩

theorem opens_closeParen : Opens ")" := by decide

/-- What stands between parentheses. -/
theorem Spells.parenthesised {text : String} {found : List Lexeme} (h : Spells text found) :
    Closed ("(" ++ text ++ ")") ([.mark "("] ++ found ++ [.mark ")"]) :=
  (closed_openParen.append h).append_closed closed_closeParen opens_closeParen

/-- Two parts with a blank between them. -/
theorem Spells.blank {first second : String} {before after : List Lexeme}
    (hFirst : Spells first before) (hSecond : Spells second after) :
    Spells (first ++ " " ++ second) (before ++ after) := by
  have hFront := hFirst.append_closed closed_blank opens_blank
  simpa using hFront.append hSecond

end Parts

theorem Test.closed (tags : Tags) {test : Test} (h : test.IsPlain) :
    Closed (test.text tags) test.lexemes := by
  cases test with
  | unary left operator =>
      have hOperator := (spells_unaryText h).tag tags (by decide : '*' ∉ "uop_op".toList)
      have hInner := left.spells.blank hOperator
      simpa [text, lexemes, String.append_assoc] using hInner.parenthesised
  | binary left operator right =>
      have hOperator := (spells_binaryText h.1).tag tags (by decide : '*' ∉ "bop_op".toList)
      have hInner := (left.spells.blank hOperator).blank (Term.spells h.2)
      simpa [text, lexemes, String.append_assoc] using hInner.parenthesised
  | array left operator right =>
      have hOperator := (spells_arrayText h.1).tag tags (by decide : '*' ∉ "bop_array".toList)
      have hInner := (left.spells.blank hOperator).blank (spells_placeholder h.2)
      simpa [text, lexemes, String.append_assoc] using hInner.parenthesised

/-- The lexemes of a combination: parts joined by a word, or the comparison that stands for none. -/
def combinationLexemes (word truth : String) : List (List Lexeme) → List Lexeme
  | [] => [.mark "(", .word "1", .mark "=", .word truth, .mark ")"]
  | parts => [.mark "("] ++ [.word word].intercalate parts ++ [.mark ")"]

def Condition.lexemes : Condition → List Lexeme
  | .atom test => test.lexemes
  | .not part => [.mark "(", .word "NOT"] ++ lexemes part ++ [.mark ")"]
  | .all parts => combinationLexemes "AND" "1" (each parts)
  | .any parts => combinationLexemes "OR" "0" (each parts)
where
  /-- The lexemes of all parts. -/
  each : List Condition → List (List Lexeme)
    | [] => []
    | part :: rest => lexemes part :: each rest

@[simp] theorem each_eq_map (parts : List Condition) :
    Condition.lexemes.each parts = parts.map Condition.lexemes := by
  induction parts with
  | nil => rfl
  | cons part rest ih => rw [Condition.lexemes.each, ih, List.map_cons]

/-- A condition all of whose tests are plain. -/
def Condition.IsPlain (condition : Condition) : Prop := ∀ test ∈ condition.atoms, test.IsPlain

theorem Condition.isPlain_all {parts : List Condition} :
    Condition.IsPlain (.all parts) ↔ ∀ part ∈ parts, ∀ test ∈ part.atoms, test.IsPlain := by
  simp only [Condition.IsPlain, Formula.atoms_all, List.mem_flatMap]
  exact ⟨fun h part hPart test hTest => h test ⟨part, hPart, hTest⟩,
    fun h test ⟨part, hPart, hTest⟩ => h part hPart test hTest⟩

theorem Condition.isPlain_any {parts : List Condition} :
    Condition.IsPlain (.any parts) ↔ ∀ part ∈ parts, ∀ test ∈ part.atoms, test.IsPlain := by
  rw [← Condition.isPlain_all, Condition.IsPlain, Condition.IsPlain, Formula.atoms_any,
    Formula.atoms_all]

theorem closed_combination {separator empty word truth : String}
    (hClosed : Closed separator [.word word]) (hOpens : Opens separator)
    (hEmpty : Closed empty (combinationLexemes word truth [])) {parts : List String}
    {found : List (List Lexeme)} (h : List.Forall₂ Spells parts found) :
    Closed (combination separator empty parts) (combinationLexemes word truth found) := by
  cases h with
  | nil => exact hEmpty
  | cons hPart hParts => exact (Spells.intercalate hClosed hOpens (.cons hPart hParts)).parenthesised

/-- The texts of parts, if each part has its lexemes. -/
theorem forall₂_spells_map {α : Type} {parts : List α} {text : α → String}
    {found : α → List Lexeme} (h : ∀ part ∈ parts, Spells (text part) (found part)) :
    List.Forall₂ Spells (parts.map text) (parts.map found) := by
  rw [List.forall₂_map_left_iff, List.forall₂_map_right_iff, List.forall₂_same]
  exact h

theorem Condition.closed (tags : Tags) {condition : Condition} (h : condition.IsPlain) :
    Closed (condition.text tags) condition.lexemes := by
  revert h
  induction condition using Formula.induct with
  | atom test => exact fun h => Test.closed tags (h test (by simp [Formula.atoms]))
  | not part ih =>
      intro h
      have hOpen : Closed "(NOT " [.mark "(", .word "NOT"] := ⟨_, rfl, rfl⟩
      exact (hOpen.append_closed (ih h)).append_closed closed_closeParen
  | combination parts ih =>
      have hSpells (hPlain : ∀ part ∈ parts, ∀ test ∈ part.atoms, test.IsPlain) :
          List.Forall₂ Spells (parts.map (Condition.text tags)) (parts.map Condition.lexemes) :=
        forall₂_spells_map fun part hPart => (ih part hPart (hPlain part hPart)).spells
      constructor
      · intro h
        rw [Condition.text, Condition.lexemes, texts_eq_map, each_eq_map]
        exact closed_combination ⟨_, rfl, rfl⟩ (by decide) ⟨_, rfl, rfl⟩
          (hSpells (Condition.isPlain_all.1 h))
      · intro h
        rw [Condition.text, Condition.lexemes, texts_eq_map, each_eq_map]
        exact closed_combination ⟨_, rfl, rfl⟩ (by decide) ⟨_, rfl, rfl⟩
          (hSpells (Condition.isPlain_any.1 h))

/-! ## Rows -/

def Keyspace.lexemes (keyspace : Keyspace) : List Lexeme :=
  [.name keyspace.bucket, .mark ".", .name keyspace.scope, .mark ".", .name keyspace.collection]

theorem Keyspace.closed (keyspace : Keyspace) : Closed keyspace.text keyspace.lexemes := by
  have hDot : Closed "." [.mark "."] := ⟨_, rfl, rfl⟩
  have hBucket := (closed_quoteName keyspace.bucket).append_closed hDot
  have hScope := (hBucket.append_closed (closed_quoteName keyspace.scope)).append_closed hDot
  exact hScope.append_closed (closed_quoteName keyspace.collection)

namespace RowSet

def fromLexemes (rows : RowSet) : List Lexeme :=
  [.word "FROM"] ++ rows.source.lexemes ++ [.word "AS", .name rows.rowAlias]

def kindLexemes (rows : RowSet) : List Lexeme :=
  [.name rows.rowAlias, .mark ".", .word "type", .mark "=", .text rows.kind]

def whereLexemes (rows : RowSet) : List Lexeme :=
  clauseLexemes [.word "WHERE"] [.word "AND"]
    (rows.kindLexemes :: (rows.condition.map Condition.lexemes).toList)

def orderElementLexemes (element : Reference × Direction) : List Lexeme :=
  element.1.lexemes ++ [.word (directionText element.2)]

def orderLexemes (rows : RowSet) : List Lexeme :=
  clauseLexemes [.word "ORDER", .word "BY"] [.mark ","]
    ((rows.order.getD []).map orderElementLexemes)

/-- The lexemes of a clause that is a word and a number. -/
def countLexemes (word : String) : Option UInt64 → List Lexeme
  | some count => [.word word, .word (toString count.toNat)]
  | none => []

theorem spells_fromText (rows : RowSet) : Spells rows.fromText rows.fromLexemes := by
  have hFrom : Closed "FROM " [.word "FROM"] := ⟨_, rfl, rfl⟩
  have hAs : Closed " AS " [.word "AS"] := ⟨_, rfl, rfl⟩
  have hSource := (hFrom.append_closed rows.source.closed).append_closed hAs
  have hText := hSource.append_closed (closed_quoteName rows.rowAlias)
  simpa [fromText, fromLexemes] using hText.spells

theorem spells_kindTest (rows : RowSet) : Spells rows.kindTest rows.kindLexemes := by
  have hType : Closed ".type = " [.mark ".", .word "type", .mark "="] := ⟨_, rfl, rfl⟩
  have hLeft := (closed_quoteName rows.rowAlias).append_closed hType
  have hTest := hLeft.append_closed (closed_quote rows.kind)
  exact hTest.spells

theorem spells_whereText (tags : Tags) {rows : RowSet}
    (h : ∀ condition ∈ rows.condition, condition.IsPlain) :
    Spells (rows.whereText tags) rows.whereLexemes := by
  have hParts : List.Forall₂ Spells
      (rows.kindTest :: (rows.condition.map (Condition.text tags)).toList)
      (rows.kindLexemes :: (rows.condition.map Condition.lexemes).toList) := by
    refine .cons rows.spells_kindTest ?_
    cases hCondition : rows.condition with
    | none => exact .nil
    | some condition => exact .cons (Condition.closed tags (h condition hCondition)).spells .nil
  have hClause := Spells.clause (rfl : Spells "WHERE" [.word "WHERE"])
    (⟨_, rfl, rfl⟩ : Closed " AND " [.word "AND"]) (by decide) hParts
  exact hClause.tag tags (by decide)

theorem spells_orderText (tags : Tags) (rows : RowSet) :
    Spells (rows.orderText tags) rows.orderLexemes := by
  have hElement : ∀ element ∈ rows.order.getD [],
      Spells (element.1.text ++ " " ++ directionText element.2) (orderElementLexemes element) := by
    intro element _
    have hDirection : Spells (directionText element.2) [.word (directionText element.2)] := by
      cases element.2 <;> rfl
    exact element.1.spells.blank hDirection
  have hClause := Spells.clause (rfl : Spells "ORDER BY" [.word "ORDER", .word "BY"])
    (⟨_, rfl, rfl⟩ : Closed ", " [.mark ","]) (by decide) (forall₂_spells_map hElement)
  exact hClause.tag tags (by decide)

theorem spells_limitText (tags : Tags) (rows : RowSet) :
    Spells (rows.limitText tags) (countLexemes "LIMIT" rows.limit) := by
  unfold limitText
  cases rows.limit with
  | none => exact closed_empty.spells
  | some limit =>
      have hWord : Closed "LIMIT " [.word "LIMIT"] := ⟨_, rfl, rfl⟩
      exact (hWord.append (spells_toString limit.toNat)).tag tags (by decide)

theorem spells_offsetText (tags : Tags) (rows : RowSet) :
    Spells (rows.offsetText tags) (countLexemes "OFFSET" rows.offset) := by
  unfold offsetText
  cases rows.offset with
  | none => exact closed_empty.spells
  | some offset =>
      have hWord : Closed "OFFSET " [.word "OFFSET"] := ⟨_, rfl, rfl⟩
      exact (hWord.append (spells_toString offset.toNat)).tag tags (by decide)

end RowSet

/-! ## Statements -/

def Item.lexemes : Item → List Lexeme
  | column reference => reference.lexemes
  | columnOrNull reference =>
    [.word "IFMISSING", .mark "("] ++ reference.lexemes ++ [.mark ",", .word "NULL", .mark ")"]
  | rows binding =>
    [.mark "(", .word "SELECT", .mark "*", .word "FROM", .mark "[", .name binding, .mark "]",
      .word "AS", .name "rows", .mark ")", .mark "[", .word "0", .mark "]"]

theorem Item.spells (item : Item) : Spells item.text item.lexemes := by
  cases item with
  | column reference => exact reference.spells
  | columnOrNull reference =>
      have hOpen : Closed "IFMISSING(" [.word "IFMISSING", .mark "("] := ⟨_, rfl, rfl⟩
      have hClose : Closed ", NULL)" [.mark ",", .word "NULL", .mark ")"] := ⟨_, rfl, rfl⟩
      have hText := (hOpen.append reference.spells).append_closed hClose (by decide)
      exact hText.spells
  | rows binding =>
      have hOpen : Closed "(SELECT * FROM ["
          [.mark "(", .word "SELECT", .mark "*", .word "FROM", .mark "["] := ⟨_, rfl, rfl⟩
      have hClose : Closed "] AS `rows`)[0]" [.mark "]", .word "AS", .name "rows", .mark ")",
          .mark "[", .word "0", .mark "]"] := ⟨_, rfl, rfl⟩
      have hText := (hOpen.append_closed (closed_quoteName binding)).append_closed hClose
      exact hText.spells

def namedItemLexemes (item : String × Item) : List Lexeme :=
  item.2.lexemes ++ [.word "AS", .name item.1]

theorem spells_itemText (item : String × Item) : Spells (itemText item) (namedItemLexemes item) := by
  have hAs : Closed " AS " [.word "AS"] := ⟨_, rfl, rfl⟩
  have hItem := item.2.spells.append_closed hAs (by decide)
  have hText := hItem.append_closed (closed_quoteName item.1)
  simpa [namedItemLexemes, itemText] using hText.spells

def Select.lexemes : Select → List Lexeme
  | ⟨items, bindings, rows⟩ =>
    [[.word "SELECT"] ++ [.mark ","].intercalate (items.map namedItemLexemes),
      rows.fromLexemes,
      clauseLexemes [.word "LET"] [.mark ","] (bindingLexemes bindings),
      rows.whereLexemes,
      rows.orderLexemes,
      RowSet.countLexemes "LIMIT" rows.limit,
      RowSet.countLexemes "OFFSET" rows.offset].flatten
where
  /-- The lexemes of all bindings. -/
  bindingLexemes : List (String × Option Select) → List (List Lexeme)
    | [] => []
    | (name, none) :: rest =>
      [.name name, .mark "=", .mark "(", .mark "[", .mark "]", .mark ")"] :: bindingLexemes rest
    | (name, some select) :: rest =>
      ([.name name, .mark "=", .mark "("] ++ select.lexemes ++ [.mark ")"]) :: bindingLexemes rest

/-- A statement that selects something, with plain conditions, and the same for all statements that
it reads from. -/
inductive Select.IsPlain : Select → Prop
  | mk {items : List (String × Item)} {bindings : List (String × Option Select)} {rows : RowSet}
      (items_ne_nil : items ≠ [])
      (condition : ∀ condition ∈ rows.condition, condition.IsPlain)
      (bindings_isPlain : ∀ name select, (name, some select) ∈ bindings → select.IsPlain) :
      IsPlain ⟨items, bindings, rows⟩

theorem forall₂_spells_bindingTexts (tags : Tags) {bindings : List (String × Option Select)}
    (h : ∀ name select, (name, some select) ∈ bindings →
      Spells (select.text tags) select.lexemes) :
    List.Forall₂ Spells (Select.text.bindingTexts tags bindings)
      (Select.lexemes.bindingLexemes bindings) := by
  induction bindings with
  | nil => exact .nil
  | cons first rest ih =>
      have hRest := ih fun name select hMem => h name select (List.mem_cons_of_mem _ hMem)
      obtain ⟨name, found⟩ := first
      cases found with
      | none =>
          have hEmpty : Closed " = ([])"
              [.mark "=", .mark "(", .mark "[", .mark "]", .mark ")"] := ⟨_, rfl, rfl⟩
          exact .cons ((closed_quoteName name).append_closed hEmpty).spells hRest
      | some select =>
          have hEquals : Closed " = (" [.mark "=", .mark "("] := ⟨_, rfl, rfl⟩
          have hSelect := h name select List.mem_cons_self
          have hOpen := (closed_quoteName name).append_closed hEquals
          have hText := (hOpen.append hSelect).append_closed closed_closeParen opens_closeParen
          exact .cons hText.spells hRest

/-- Tagged or not, a statement is made of its lexemes. -/
theorem Select.spells (tags : Tags) {select : Select} (h : select.IsPlain) :
    Spells (select.text tags) select.lexemes := by
  induction select using Select.induct with
  | mk items bindings rows ih =>
      obtain ⟨-, hCondition, hBindings⟩ := h
      have hItems := Spells.intercalate (⟨_, rfl, rfl⟩ : Closed ", " [.mark ","]) (by decide)
        (forall₂_spells_map fun item (_ : item ∈ items) => spells_itemText item)
      have hSelect : Closed "SELECT " [.word "SELECT"] := ⟨_, rfl, rfl⟩
      have hLet := Spells.clause (rfl : Spells "LET" [.word "LET"])
        (⟨_, rfl, rfl⟩ : Closed ", " [.mark ","]) (by decide)
        (forall₂_spells_bindingTexts tags fun name select hMem =>
          ih name select hMem (hBindings name select hMem))
      refine Spells.joinClauses (.cons ?_ (.cons ?_ (.cons ?_ (.cons ?_ (.cons ?_ (.cons ?_
        (.cons ?_ .nil)))))))
      · exact hSelect.append (hItems.tag tags (by decide))
      · exact rows.spells_fromText
      · exact hLet.tag tags (by decide)
      · exact RowSet.spells_whereText tags hCondition
      · exact rows.spells_orderText tags
      · exact rows.spells_limitText tags
      · exact rows.spells_offsetText tags

end Statement

end N1qlConnector
