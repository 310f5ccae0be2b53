import N1qlConnector.Proofs.Statement.Outline
import N1qlConnector.Proofs.Statement.Spelling

/-!
# Reading printed statements back

The reference reader finds in the text of a statement the tree that the statement was printed from:
nothing is lost, added or attached elsewhere. The text is not the only form of its statement, so
the tree says less than the statement in three places. An order without elements leaves no clause,
a connective with one part leaves no word, and the empty combinations are comparisons of numbers.

## Main results

* `readCondition_text`: the text of a condition reads back.
* `Outline.read_text`: the text of a statement reads back, with all statements that it reads from.
-/

namespace N1qlConnector.Statement

/-! ## The tree of a statement -/

def Term.side : Term → Side String
  | reference found => .reference found
  | placeholder name => .parameter name

def Test.predicate : Test → Predicate String
  | unary left _ => .isNull (.reference left)
  | binary left operator right => .compare (.reference left) operator right.side
  | array left _ right => .isIn (.reference left) (.parameter right)

/-- The tree of a condition. -/
def Condition.outline (condition : Condition) : Formula (Predicate String) :=
  asWritten Test.predicate condition

/-- The comparison that tells documents of a kind from others. -/
def kindPredicate {π : Type} (rowAlias kind : String) : Predicate π :=
  .compare (.reference (.property rowAlias "type")) .equal (.text kind)

/-- The condition of a row set, which always asks for the kind. -/
def RowSet.outline (rows : RowSet) : Formula (Predicate String) :=
  gather .all
    (.atom (kindPredicate rows.rowAlias rows.kind) :: (rows.condition.map Condition.outline).toList)

def Select.outline : Select → Outline String
  | ⟨items, bindings, rows⟩ =>
    { items
      source := rows.source
      rowAlias := rows.rowAlias
      bindings := bindingOutlines bindings
      condition := some rows.outline
      order := rows.order.getD []
      limit := rows.limit.map UInt64.toNat
      offset := rows.offset.map UInt64.toNat }
where
  /-- The trees of all bindings. -/
  bindingOutlines : List (String × Option Select) → List (String × Option (Outline String))
    | [] => []
    | (name, none) :: rest => (name, none) :: bindingOutlines rest
    | (name, some select) :: rest => (name, some select.outline) :: bindingOutlines rest

/-! ## How rules compose -/

namespace Rule

variable {α β : Type}

/-- A rule that goes on where another one stops. -/
theorem bind_eq_some {rule : Rule α} {next : α → Rule β} {input middle rest : List Lexeme}
    {a : α} {b : β} (hFirst : rule input = some (a, middle))
    (hNext : next a middle = some (b, rest)) : (rule >>= next) input = some (b, rest) := by
  show (rule input).bind (fun found => next found.1 found.2) = _
  rw [hFirst]
  exact hNext

theorem map_eq_some {rule : Rule α} {f : α → β} {input rest : List Lexeme} {a : α}
    (h : rule input = some (a, rest)) : (f <$> rule : Rule β) input = some (f a, rest) := by
  show (rule input).bind (fun found => some (f found.1, found.2)) = _
  rw [h]
  rfl

@[simp] theorem expect_cons (lexeme : Lexeme) (rest : List Lexeme) :
    expect lexeme (lexeme :: rest) = some ((), rest) := by
  simp [expect]

theorem separatedUpTo_intercalate {rule : Rule α} {separator : Lexeme} {γ : Type}
    {found : γ → List Lexeme} {value : γ → α} {rest : List Lexeme}
    (hRest : rest.head? ≠ some separator) :
    ∀ (parts : List γ) (count : Nat), parts ≠ [] → parts.length ≤ count →
      (∀ part ∈ parts, ∀ others, others.head? = some separator ∨ others = rest →
        rule (found part ++ others) = some (value part, others)) →
      separatedUpTo rule separator count ([separator].intercalate (parts.map found) ++ rest) =
        some (parts.map value, rest)
  | [], _, hNe, _, _ => absurd rfl hNe
  | [part], 0, _, hCount, _ => absurd hCount (by simp)
  | [part], count + 1, _, _, hParts => by
      have hPart := hParts part (by simp) rest (.inr rfl)
      simp [separatedUpTo, hPart, hRest]
  | part :: next :: parts, 0, _, hCount, _ => absurd hCount (by simp)
  | part :: next :: parts, count + 1, _, hCount, hParts => by
      let others := [separator].intercalate ((next :: parts).map found) ++ rest
      have hPart := hParts part (by simp) (separator :: others) (.inl rfl)
      have hOthers := separatedUpTo_intercalate hRest (next :: parts) count (by simp)
        (by simpa using hCount) (fun p hp => hParts p (List.mem_cons_of_mem _ hp))
      have hInput : [separator].intercalate ((part :: next :: parts).map found) ++ rest =
          found part ++ (separator :: others) := by
        simp [others]
      rw [hInput]
      simp only [separatedUpTo, hPart, Option.bind_eq_bind, Option.bind_some, List.head?_cons,
        if_true, List.tail_cons, others, hOthers]
      rfl

/-- One or more phrases with a separator between them, before something that is none. -/
theorem separated_intercalate {rule : Rule α} (separator : Lexeme) {γ : Type} {parts : List γ}
    {found : γ → List Lexeme} {value : γ → α} (rest : List Lexeme) (hNe : parts ≠ [])
    (hRest : rest.head? ≠ some separator)
    (hParts : ∀ part ∈ parts, ∀ others, others.head? = some separator ∨ others = rest →
      rule (found part ++ others) = some (value part, others)) :
    separated rule separator ([separator].intercalate (parts.map found) ++ rest) =
      some (parts.map value, rest) := by
  have hLength : ∀ parts : List γ,
      parts.length ≤ ([separator].intercalate (parts.map found)).length + 1 := by
    intro parts
    induction parts with
    | nil => simp
    | cons part parts ih =>
        cases parts with
        | nil => simp
        | cons next parts =>
            simp only [List.map_cons, List.length_cons, List.intercalate_cons_cons,
              List.length_append] at ih ⊢
            omega
  refine separatedUpTo_intercalate hRest parts _ hNe ?_ hParts
  have := hLength parts
  rw [List.length_append]
  omega

/-- A single phrase, before something that is no separator. -/
theorem separated_single {rule : Rule α} {separator : Lexeme} {input rest : List Lexeme} {a : α}
    (hRest : rest.head? ≠ some separator) (h : rule input = some (a, rest)) :
    separated rule separator input = some ([a], rest) := by
  simp [separated, separatedUpTo, h, hRest]

/-! ## Conditions -/

theorem reference_lexemes (found : Reference) (rest : List Lexeme) :
    reference (found.lexemes ++ rest) = some (found, rest) := by
  cases found <;> rfl

theorem side_reference (found : Reference) (rest : List Lexeme) :
    side (found.lexemes ++ rest) = some (.reference found, rest) := by
  cases found <;> rfl

theorem side_term (term : Term) (rest : List Lexeme) :
    side (term.lexemes ++ rest) = some (term.side, rest) := by
  cases term with
  | reference found => exact side_reference found rest
  | placeholder name => rfl

theorem operatorOf?_binaryText {operator : BinaryOperator} (h : operator.isBuiltIn) :
    operatorOf? (binaryText operator) = some operator := by
  cases operator with
  | custom word => cases h
  | _ => rfl

/-- The lexemes between the parentheses of a test. -/
def testLexemes : Test → List Lexeme
  | .unary left _ => left.lexemes ++ [.word "IS", .word "NULL"]
  | .binary left operator right =>
    left.lexemes ++ .mark (binaryText operator) :: right.lexemes
  | .array left _ right => left.lexemes ++ [.word "IN", .parameter right]

theorem lexemes_test (test : Test) (rest : List Lexeme) :
    test.lexemes ++ rest = .mark "(" :: (testLexemes test ++ .mark ")" :: rest) := by
  cases test <;> simp [Test.lexemes, testLexemes]

theorem comparison_testLexemes {test : Test} (h : test.IsPlain) (rest : List Lexeme) :
    comparison (testLexemes test ++ rest) = some (test.predicate, rest) := by
  cases test with
  | unary left operator =>
      rw [testLexemes, List.append_assoc]
      exact bind_eq_some (side_reference left _) rfl
  | binary left operator right =>
      rw [testLexemes, List.append_assoc, List.cons_append]
      refine bind_eq_some (side_reference left _) (bind_eq_some rfl ?_)
      simp only [operatorOf?_binaryText h.1]
      exact bind_eq_some (side_term right rest) rfl
  | array left operator right =>
      rw [testLexemes, List.append_assoc]
      exact bind_eq_some (side_reference left _) rfl

theorem conjunction_single {unit : Rule (Formula (Predicate String))} {input rest : List Lexeme}
    {found : Formula (Predicate String)} (hRest : rest.head? ≠ some (.word "AND"))
    (h : unit input = some (found, rest)) : conjunction unit input = some (found, rest) :=
  map_eq_some (separated_single hRest h)

theorem disjunction_single {unit : Rule (Formula (Predicate String))} {input rest : List Lexeme}
    {found : Formula (Predicate String)} (hRest : rest.head? ≠ some (.word "OR"))
    (h : conjunction unit input = some (found, rest)) :
    disjunction unit input = some (found, rest) :=
  map_eq_some (separated_single hRest h)

/-- A condition in parentheses is a unit. -/
theorem unit_parenthesised {depth : Nat} {input rest : List Lexeme}
    {found : Formula (Predicate String)}
    (h : disjunction (unit depth) input = some (found, .mark ")" :: rest)) :
    unit (depth + 1) (.mark "(" :: input) = some (found, rest) :=
  bind_eq_some h (bind_eq_some (expect_cons _ _) rfl)

/-- A comparison is a unit, since it starts with no parenthesis and no negation. -/
theorem unit_testLexemes {test : Test} (h : test.IsPlain) (depth : Nat) (rest : List Lexeme) :
    unit (depth + 1) (testLexemes test ++ rest) = some (.atom test.predicate, rest) := by
  have hComparison := map_eq_some (f := Formula.atom) (comparison_testLexemes h rest)
  rw [← hComparison]
  cases test with
  | unary left operator => cases left <;> rfl
  | binary left operator right => cases left <;> rfl
  | array left operator right => cases left <;> rfl

theorem length_le_intercalate {γ : Type} (separator : Lexeme) (found : γ → List Lexeme)
    {parts : List γ} {part : γ} (h : part ∈ parts) :
    (found part).length ≤ ([separator].intercalate (parts.map found)).length := by
  induction parts with
  | nil => cases h
  | cons first rest ih =>
      cases rest with
      | nil =>
          obtain rfl : part = first := by simpa using h
          simp
      | cons next rest =>
          simp only [List.map_cons, List.intercalate_cons_cons, List.length_append] at ih ⊢
          rcases List.mem_cons.1 h with rfl | hMem
          · omega
          · have := ih hMem
            omega

/-- The comparison of two numbers that stands for an empty combination. -/
theorem unit_truth (depth : Nat) {truth : String} {n : Nat} (h : numberOf? truth = some n)
    (rest : List Lexeme) :
    unit (depth + 2) ([.mark "(", .word "1", .mark "=", .word truth, .mark ")"] ++ rest) =
      some (.atom (.compare (.number 1) .equal (.number n)), rest) := by
  have hNumber : side (.word truth :: .mark ")" :: rest) =
      some (.number n, .mark ")" :: rest) := by
    simp [side, number, h]
  have hComparison : comparison (.word "1" :: .mark "=" :: .word truth :: .mark ")" :: rest) =
      some (.compare (.number 1) .equal (.number n), .mark ")" :: rest) :=
    bind_eq_some rfl (bind_eq_some rfl (bind_eq_some hNumber rfl))
  have hUnit : unit (depth + 1) (.word "1" :: .mark "=" :: .word truth :: .mark ")" :: rest) =
      some (.atom (.compare (.number 1) .equal (.number n)), .mark ")" :: rest) :=
    map_eq_some hComparison
  exact unit_parenthesised (disjunction_single (by simp) (conjunction_single (by simp) hUnit))

/-- The lexemes of a combination that has parts. -/
theorem combinationLexemes_append {parts : List Condition} (hNe : parts ≠ [])
    (word truth : String) (rest : List Lexeme) :
    combinationLexemes word truth (parts.map Condition.lexemes) ++ rest =
      .mark "(" :: ([.word word].intercalate (parts.map Condition.lexemes)
        ++ .mark ")" :: rest) := by
  obtain ⟨part, others, rfl⟩ := List.exists_cons_of_ne_nil hNe
  simp [combinationLexemes]

/-- Whatever is deep enough for a combination is deep enough for its parts. -/
theorem depth_of_combination {parts : List Condition} {word truth : String} {depth : Nat}
    (h : (combinationLexemes word truth (parts.map Condition.lexemes)).length ≤ depth) :
    ∃ d, depth = d + 2 ∧ ∀ part ∈ parts, (Condition.lexemes part).length ≤ d + 1 := by
  by_cases hNe : parts = []
  · subst hNe
    obtain ⟨d, rfl⟩ := Nat.exists_eq_add_of_le' (show 2 ≤ depth by
      simp only [combinationLexemes, List.map_nil, List.length_cons] at h; omega)
    exact ⟨d, rfl, by simp⟩
  · have hInput := combinationLexemes_append hNe word truth []
    rw [List.append_nil] at hInput
    simp only [hInput, List.length_cons, List.length_append] at h
    obtain ⟨d, rfl⟩ := Nat.exists_eq_add_of_le' (show 2 ≤ depth by omega)
    refine ⟨d, rfl, fun part hPart => ?_⟩
    have := length_le_intercalate (.word word) Condition.lexemes hPart
    omega

theorem combined_of_ne_nil {π : Type}
    {connective : List (Formula (Predicate π)) → Formula (Predicate π)} {truth : Nat}
    {parts : List (Formula (Predicate π))} (h : parts ≠ []) :
    combined connective truth parts = gather connective parts := by
  obtain ⟨part, others, rfl⟩ := List.exists_cons_of_ne_nil h
  rfl

/-- A plain condition is read as a unit, if the rule may go as deep as the condition is long. -/
theorem unit_lexemes {condition : Condition} (h : condition.IsPlain) :
    ∀ (depth : Nat) (rest : List Lexeme), condition.lexemes.length ≤ depth →
      unit depth (condition.lexemes ++ rest) = some (condition.outline, rest) := by
  revert h
  induction condition using Formula.induct with
  | atom test =>
      intro h depth rest hDepth
      have hLength : 2 ≤ depth := by
        refine Nat.le_trans ?_ hDepth
        simp only [Condition.lexemes]
        cases test <;> simp [Test.lexemes]; omega
      obtain ⟨d, rfl⟩ := Nat.exists_eq_add_of_le' hLength
      have hTest : test.IsPlain := h test (by simp [Formula.atoms])
      rw [Condition.lexemes, lexemes_test]
      exact unit_parenthesised (disjunction_single (by simp)
        (conjunction_single (by simp) (unit_testLexemes hTest d _)))
  | not part ih =>
      intro h depth rest hDepth
      have hLength : (Condition.lexemes part).length + 3 ≤ depth := by
        simp only [Condition.lexemes, List.length_append, List.length_cons, List.length_nil]
          at hDepth
        omega
      obtain ⟨d, rfl⟩ := Nat.exists_eq_add_of_le' (show 2 ≤ depth by omega)
      have hPart := ih h d (.mark ")" :: rest) (by omega)
      have hNot : unit (d + 1) (.word "NOT" :: (Condition.lexemes part ++ .mark ")" :: rest)) =
          some (.not (Condition.outline part), .mark ")" :: rest) := map_eq_some hPart
      have hInput : Condition.lexemes (.not part) ++ rest =
          .mark "(" :: .word "NOT" :: (Condition.lexemes part ++ .mark ")" :: rest) := by
        simp [Condition.lexemes]
      rw [hInput]
      exact unit_parenthesised (disjunction_single (by simp) (conjunction_single (by simp) hNot))
  | combination parts ih =>
      have hUnits (hPlain : ∀ part ∈ parts, ∀ test ∈ part.atoms, test.IsPlain) {d : Nat}
          (hParts : ∀ part ∈ parts, (Condition.lexemes part).length ≤ d + 1) :
          ∀ part ∈ parts, ∀ others, unit (d + 1) (Condition.lexemes part ++ others) =
            some (Condition.outline part, others) := fun part hPart others =>
        ih part hPart (hPlain part hPart) (d + 1) others (hParts part hPart)
      constructor
      · intro h depth rest hDepth
        rw [Condition.lexemes, each_eq_map] at hDepth ⊢
        rw [Condition.outline, asWritten_all]
        obtain ⟨d, rfl, hParts⟩ := depth_of_combination hDepth
        by_cases hNe : parts = []
        · subst hNe
          exact unit_truth d rfl rest
        · have hAll := map_eq_some (f := gather Formula.all)
            (separated_intercalate (.word "AND") (.mark ")" :: rest) hNe (by simp)
              fun part hPart others _ => hUnits (Condition.isPlain_all.1 h) hParts part hPart others)
          rw [combinationLexemes_append hNe, combined_of_ne_nil (by simpa using hNe)]
          exact unit_parenthesised (disjunction_single (by simp) hAll)
      · intro h depth rest hDepth
        rw [Condition.lexemes, each_eq_map] at hDepth ⊢
        rw [Condition.outline, asWritten_any]
        obtain ⟨d, rfl, hParts⟩ := depth_of_combination hDepth
        by_cases hNe : parts = []
        · subst hNe
          exact unit_truth d rfl rest
        · have hAny := map_eq_some (f := gather Formula.any)
            (separated_intercalate (.word "OR") (.mark ")" :: rest) hNe
              (by simp) fun part hPart others hOthers => conjunction_single
                (by rcases hOthers with hHead | rfl <;> simp_all)
                (hUnits (Condition.isPlain_any.1 h) hParts part hPart others))
          rw [combinationLexemes_append hNe, combined_of_ne_nil (by simpa using hNe)]
          exact unit_parenthesised hAny

/-- A plain condition is read back before anything that is no connective. -/
theorem condition_lexemes {condition : Condition} (h : condition.IsPlain) :
    Rule.condition condition.lexemes = some (condition.outline, []) := by
  have hUnit := unit_lexemes h condition.lexemes.length [] (Nat.le_refl _)
  rw [List.append_nil] at hUnit
  exact disjunction_single (by simp) (conjunction_single (by simp) hUnit)

/-! ## Clauses -/

/-- What may follow a clause: the end, a closing parenthesis or a clause that starts with one of
some words. -/
def Continues (words : List String) (rest : List Lexeme) : Prop :=
  ∀ lexeme ∈ rest.head?, lexeme = .mark ")" ∨ ∃ word ∈ words, lexeme = .word word

theorem continues_nil (words : List String) : Continues words [] := by
  simp [Continues]

theorem continues_closeParen (words : List String) (rest : List Lexeme) :
    Continues words (.mark ")" :: rest) := by
  simp [Continues]

section Continues

variable {words : List String} {rest : List Lexeme}

theorem Continues.head?_ne (h : Continues words rest) {lexeme : Lexeme}
    (hMark : lexeme ≠ .mark ")") (hWords : ∀ word ∈ words, lexeme ≠ .word word) :
    rest.head? ≠ some lexeme := by
  intro hHead
  rcases h lexeme hHead with hEq | ⟨word, hMem, hEq⟩
  · exact hMark hEq
  · exact hWords word hMem hEq

/-- A clause that may be absent, before what may follow it. -/
theorem Continues.append (h : Continues words rest) {word : String} {found : List Lexeme}
    (hFound : ∀ lexeme ∈ found.head?, lexeme = .word word) :
    Continues (word :: words) (found ++ rest) := by
  cases found with
  | nil =>
      intro lexeme hHead
      rcases h lexeme hHead with hEq | ⟨other, hMem, hEq⟩
      · exact .inl hEq
      · exact .inr ⟨other, List.mem_cons_of_mem _ hMem, hEq⟩
  | cons first others =>
      intro lexeme hHead
      exact .inr ⟨word, List.mem_cons_self, hFound lexeme hHead⟩

end Continues

theorem opened_present {rule : Rule α} {word : String} {input rest : List Lexeme} {a : α}
    (h : rule input = some (a, rest)) :
    opened word rule (.word word :: input) = some (some a, rest) := by
  simp [opened, h]

theorem opened_absent {rule : Rule α} {word : String} {rest : List Lexeme}
    (h : rest.head? ≠ some (.word word)) : opened word rule rest = some (none, rest) := by
  simp [opened, h]

/-! ### Items and sources -/

theorem reference_unit (found : Reference) (rest : List Lexeme) :
    item (found.lexemes ++ rest) = some (.column found, rest) := by
  cases found <;> rfl

theorem namedItem_lexemes (found : String × Item) (rest : List Lexeme) :
    namedItem (namedItemLexemes found ++ rest) = some (found, rest) := by
  have hItem : ∀ rest, item (found.2.lexemes ++ rest) = some (found.2, rest) := by
    intro rest
    cases found.2 with
    | column reference => exact reference_unit reference rest
    | columnOrNull reference =>
        have hReference := reference_lexemes reference
          (.mark "," :: .word "NULL" :: .mark ")" :: rest)
        have hInput : (Item.columnOrNull reference).lexemes ++ rest =
            .word "IFMISSING" :: .mark "(" :: (reference.lexemes
              ++ .mark "," :: .word "NULL" :: .mark ")" :: rest) := by
          simp [Item.lexemes]
        rw [hInput]
        exact bind_eq_some hReference rfl
    | rows binding => rfl
  rw [namedItemLexemes, List.append_assoc]
  exact bind_eq_some (hItem _) rfl

theorem keyspace_lexemes (found : Keyspace) (rest : List Lexeme) :
    keyspace (found.lexemes ++ rest) = some (found, rest) := rfl

/-! ### Conditions of rows -/

theorem unit_kindLexemes (rows : RowSet) (depth : Nat) (rest : List Lexeme) :
    unit (depth + 1) (rows.kindLexemes ++ rest) =
      some (.atom (kindPredicate rows.rowAlias rows.kind), rest) := rfl

theorem opened_whereLexemes {rows : RowSet} {rest : List Lexeme}
    (h : ∀ condition ∈ rows.condition, condition.IsPlain)
    (hRest : Continues ["ORDER", "LIMIT", "OFFSET"] rest) :
    opened "WHERE" condition (rows.whereLexemes ++ rest) = some (some rows.outline, rest) := by
  let parts : List (List Lexeme × Formula (Predicate String)) :=
    (rows.kindLexemes, .atom (kindPredicate rows.rowAlias rows.kind)) ::
      (rows.condition.map fun found => (Condition.lexemes found, Condition.outline found)).toList
  have hLexemes : parts.map Prod.fst =
      rows.kindLexemes :: (rows.condition.map Condition.lexemes).toList := by
    cases hCondition : rows.condition <;> simp [parts, hCondition]
  have hOutlines : gather .all (parts.map Prod.snd) = rows.outline := by
    cases hCondition : rows.condition <;> simp [parts, RowSet.outline, hCondition]
  have hInput : rows.whereLexemes ++ rest =
      .word "WHERE" :: ([.word "AND"].intercalate (parts.map Prod.fst) ++ rest) := by
    rw [hLexemes]
    rfl
  let depth := ([.word "AND"].intercalate (parts.map Prod.fst) ++ rest).length
  have hUnits : ∀ part ∈ parts, ∀ others, unit depth (part.1 ++ others) = some (part.2, others) := by
    intro part hPart others
    have hDepth : part.1.length ≤ depth := by
      have hLength := length_le_intercalate (.word "AND") Prod.fst hPart
      simp only [depth, List.length_append]
      omega
    rcases List.mem_cons.1 hPart with rfl | hMem
    · obtain ⟨d, hd⟩ := Nat.exists_eq_add_of_le' (Nat.le_trans (by decide : 1 ≤ 5) hDepth)
      rw [hd]
      exact unit_kindLexemes rows d others
    · obtain ⟨found, hFound, rfl⟩ : ∃ found, rows.condition = some found ∧
          (Condition.lexemes found, Condition.outline found) = part := by
        simpa using hMem
      exact unit_lexemes (h found hFound) depth others hDepth
  have hConjunction := map_eq_some (f := gather Formula.all)
    (separated_intercalate (.word "AND") rest (show parts ≠ [] from List.cons_ne_nil _ _)
      (hRest.head?_ne (by simp) (by simp)) fun part hPart others _ => hUnits part hPart others)
  rw [hInput, ← hOutlines]
  exact opened_present (disjunction_single (hRest.head?_ne (by simp) (by simp)) hConjunction)

/-! ### Orders and counts -/

theorem orderElement_lexemes (element : Reference × Direction) (rest : List Lexeme) :
    orderElement (RowSet.orderElementLexemes element ++ rest) = some (element, rest) := by
  rw [RowSet.orderElementLexemes, List.append_assoc]
  refine bind_eq_some (reference_lexemes element.1 _) ?_
  obtain ⟨reference, direction⟩ := element
  cases direction <;> rfl

theorem opened_orderLexemes (rows : RowSet) {rest : List Lexeme}
    (hRest : Continues ["LIMIT", "OFFSET"] rest) :
    ∃ found, opened "ORDER" orderBy (rows.orderLexemes ++ rest) = some (found, rest) ∧
      found.getD [] = rows.order.getD [] := by
  unfold RowSet.orderLexemes
  cases hOrder : rows.order.getD [] with
  | nil => exact ⟨none, opened_absent (hRest.head?_ne (by simp) (by simp)), rfl⟩
  | cons first others =>
      have hElements := separated_intercalate (.mark ",") rest
        (List.cons_ne_nil first others) (hRest.head?_ne (by simp) (by simp))
        fun element _ others _ => orderElement_lexemes element others
      rw [List.map_id'] at hElements
      refine ⟨some (first :: others), ?_, rfl⟩
      exact opened_present (bind_eq_some (expect_cons _ _) hElements)

theorem numberOf?_toString (n : Nat) : numberOf? (toString n) = some n := by
  have hChars : (toString n).toList = Nat.toDigits 10 n := Nat.toList_repr
  have hNe : toString n ≠ "" := by
    intro hEmpty
    rw [hEmpty] at hChars
    exact Nat.toDigits_ne_nil hChars.symm
  have hDigits : (Nat.toDigits 10 n).all Char.isDigit := by
    rw [List.all_eq_true]
    exact fun c hc => Nat.isDigit_of_mem_toDigits (by decide) (by decide) hc
  rw [numberOf?, hChars, if_pos ⟨hNe, hDigits⟩, Nat.ofDigitChars_ten_toDigits]

theorem number_word (n : Nat) (rest : List Lexeme) :
    number (.word (toString n) :: rest) = some (n, rest) := by
  show (numberOf? (toString n)).map (fun value => (value, rest)) = _
  rw [numberOf?_toString]
  rfl

theorem opened_countLexemes {word : String} (count : Option UInt64) {rest : List Lexeme}
    (hRest : rest.head? ≠ some (.word word)) :
    opened word number (RowSet.countLexemes word count ++ rest) =
      some (count.map UInt64.toNat, rest) := by
  cases count with
  | none => exact opened_absent hRest
  | some count => exact opened_present (number_word count.toNat rest)

theorem head?_countLexemes {word : String} {count : Option UInt64} :
    ∀ lexeme ∈ (RowSet.countLexemes word count).head?, lexeme = .word word := by
  cases count <;> simp [RowSet.countLexemes, eq_comm]

theorem head?_orderLexemes {rows : RowSet} :
    ∀ lexeme ∈ rows.orderLexemes.head?, lexeme = .word "ORDER" := by
  unfold RowSet.orderLexemes
  cases rows.order.getD [] <;> simp [clauseLexemes, eq_comm]

/-! ## Statements -/

/-- The lexemes of a single binding. -/
def bindingLexemes : String × Option Select → List Lexeme
  | (name, none) => [.name name, .mark "=", .mark "(", .mark "[", .mark "]", .mark ")"]
  | (name, some select) =>
    [.name name, .mark "=", .mark "("] ++ select.lexemes ++ [.mark ")"]

theorem bindingLexemes_eq_map (bindings : List (String × Option Select)) :
    Select.lexemes.bindingLexemes bindings = bindings.map bindingLexemes := by
  induction bindings with
  | nil => rfl
  | cons first rest ih =>
      obtain ⟨name, found⟩ := first
      cases found <;> simp only [Select.lexemes.bindingLexemes, bindingLexemes, ih, List.map_cons]

theorem bindingOutlines_eq_map (bindings : List (String × Option Select)) :
    Select.outline.bindingOutlines bindings =
      bindings.map fun binding => (binding.1, binding.2.map Select.outline) := by
  induction bindings with
  | nil => rfl
  | cons first rest ih =>
      obtain ⟨name, found⟩ := first
      cases found <;> simp only [Select.outline.bindingOutlines, ih, List.map_cons, Option.map]

theorem lexemes_eq_cons (select : Select) :
    ∃ more, select.lexemes = .word "SELECT" :: more := by
  cases select
  exact ⟨_, rfl⟩

/-- A binding is read back if the statement in it is. -/
theorem binding_bindingLexemes (rule : Rule (Outline String)) {bound : String × Option Select}
    (h : ∀ select, bound.2 = some select → ∀ rest, Continues [] rest →
      rule (select.lexemes ++ rest) = some (select.outline, rest)) (rest : List Lexeme) :
    binding rule (bindingLexemes bound ++ rest) =
      some ((bound.1, bound.2.map Select.outline), rest) := by
  obtain ⟨name, found⟩ := bound
  cases found with
  | none => rfl
  | some select =>
      have hSelect := h select rfl (.mark ")" :: rest) (continues_closeParen _ _)
      have hSource : source rule (select.lexemes ++ .mark ")" :: rest) =
          some (some select.outline, .mark ")" :: rest) := by
        obtain ⟨more, hMore⟩ := lexemes_eq_cons select
        rw [hMore] at hSelect ⊢
        exact map_eq_some hSelect
      have hInput : bindingLexemes (name, some select) ++ rest =
          .name name :: .mark "=" :: .mark "(" :: (select.lexemes ++ .mark ")" :: rest) := by
        simp [bindingLexemes]
      rw [hInput]
      exact bind_eq_some rfl (bind_eq_some (expect_cons _ _) (bind_eq_some (expect_cons _ _)
        (bind_eq_some hSource (bind_eq_some (expect_cons _ _) rfl))))

theorem opened_bindingLexemes {rule : Rule (Outline String)}
    {bindings : List (String × Option Select)} {rest : List Lexeme}
    (h : ∀ name select, (name, some select) ∈ bindings → ∀ rest, Continues [] rest →
      rule (select.lexemes ++ rest) = some (select.outline, rest))
    (hRest : Continues ["WHERE"] rest) :
    ∃ found, opened "LET" (separated (binding rule) (.mark ","))
        (clauseLexemes [.word "LET"] [.mark ","] (Select.lexemes.bindingLexemes bindings) ++ rest) =
          some (found, rest) ∧
      found.getD [] = Select.outline.bindingOutlines bindings := by
  rw [bindingLexemes_eq_map, bindingOutlines_eq_map]
  cases bindings with
  | nil => exact ⟨none, opened_absent (hRest.head?_ne (by simp) (by simp)), rfl⟩
  | cons first others =>
      have hBindings := separated_intercalate (.mark ",") rest
        (List.cons_ne_nil first others) (hRest.head?_ne (by simp) (by simp))
        fun bound hBound others _ => binding_bindingLexemes rule
          (fun select hSelect => h bound.1 select (by rw [← hSelect]; exact hBound)) others
      exact ⟨_, opened_present hBindings, rfl⟩

theorem length_le_flatten {γ : Type} {part : List γ} {parts : List (List γ)} (h : part ∈ parts) :
    part.length ≤ parts.flatten.length :=
  (List.sublist_flatten_of_mem h).length_le

/-- A statement is longer than every statement that it reads from. -/
theorem length_lt_of_mem (items : List (String × Item))
    {bindings : List (String × Option Select)} (rows : RowSet) {name : String} {select : Select}
    (h : (name, some select) ∈ bindings) :
    select.lexemes.length < (Select.lexemes ⟨items, bindings, rows⟩).length := by
  have hBinding := length_le_intercalate (.mark ",") bindingLexemes h
  have hInner : select.lexemes.length < (bindingLexemes (name, some select)).length := by
    simp [bindingLexemes]
    omega
  have hClause : ([.mark ","].intercalate (bindings.map bindingLexemes)).length ≤
      (clauseLexemes [.word "LET"] [.mark ","]
        (Select.lexemes.bindingLexemes bindings)).length := by
    rw [bindingLexemes_eq_map]
    cases bindings with
    | nil => simp [clauseLexemes]
    | cons first others => simp [clauseLexemes]
  have hWhole : (clauseLexemes [.word "LET"] [.mark ","]
      (Select.lexemes.bindingLexemes bindings)).length ≤
        (Select.lexemes ⟨items, bindings, rows⟩).length :=
    length_le_flatten (by simp)
  omega

/-- A plain statement is read back, if the rule may go as deep as the statement is long. -/
theorem select_lexemes {statement : Select} (h : statement.IsPlain) :
    ∀ (depth : Nat) (rest : List Lexeme), statement.lexemes.length ≤ depth → Continues [] rest →
      select depth (statement.lexemes ++ rest) = some (statement.outline, rest) := by
  induction statement using Select.induct with
  | mk items bindings rows ih =>
      intro depth rest hDepth hRest
      obtain ⟨hItems, hCondition, hBindings⟩ := h
      obtain ⟨more, hMore⟩ := lexemes_eq_cons ⟨items, bindings, rows⟩
      obtain ⟨d, rfl⟩ := Nat.exists_eq_add_of_le' (show 1 ≤ depth by
        rw [hMore, List.length_cons] at hDepth
        omega)
      have hInner : ∀ name bound, (name, some bound) ∈ bindings → ∀ rest, Continues [] rest →
          select d (bound.lexemes ++ rest) = some (bound.outline, rest) := by
        intro name bound hMem rest
        have hLength := length_lt_of_mem items rows hMem
        exact ih name bound hMem (hBindings name bound hMem) d rest (by omega)
      -- What follows each clause, from the last one to the first.
      let afterLimit := RowSet.countLexemes "OFFSET" rows.offset ++ rest
      let afterOrder := RowSet.countLexemes "LIMIT" rows.limit ++ afterLimit
      let afterWhere := rows.orderLexemes ++ afterOrder
      let afterLet := rows.whereLexemes ++ afterWhere
      have hAfterLimit : Continues ["OFFSET"] afterLimit := hRest.append head?_countLexemes
      have hAfterOrder : Continues ["LIMIT", "OFFSET"] afterOrder :=
        hAfterLimit.append head?_countLexemes
      have hAfterWhere : Continues ["ORDER", "LIMIT", "OFFSET"] afterWhere :=
        hAfterOrder.append head?_orderLexemes
      have hAfterLet : Continues ["WHERE"] afterLet := by
        simp [Continues, afterLet, RowSet.whereLexemes, clauseLexemes]
      -- What each clause reads.
      let afterItems := rows.fromLexemes ++
        (clauseLexemes [.word "LET"] [.mark ","] (Select.lexemes.bindingLexemes bindings)
          ++ afterLet)
      have hItemsRead := separated_intercalate (.mark ",") afterItems
        hItems (by simp [afterItems, RowSet.fromLexemes])
        fun found _ others _ => namedItem_lexemes found others
      rw [List.map_id'] at hItemsRead
      obtain ⟨foundBindings, hBindingsRead, hFoundBindings⟩ :=
        opened_bindingLexemes hInner hAfterLet
      have hConditionRead := opened_whereLexemes hCondition hAfterWhere
      obtain ⟨foundOrder, hOrderRead, hFoundOrder⟩ := opened_orderLexemes rows hAfterOrder
      have hNoLimit : afterLimit.head? ≠ some (.word "LIMIT") :=
        hAfterLimit.head?_ne (by simp) (by simp)
      have hLimitRead := opened_countLexemes rows.limit hNoLimit
      have hNoOffset : rest.head? ≠ some (.word "OFFSET") := hRest.head?_ne (by simp) (by simp)
      have hOffsetRead := opened_countLexemes rows.offset hNoOffset
      have hInput : Select.lexemes ⟨items, bindings, rows⟩ ++ rest =
          .word "SELECT" :: ([.mark ","].intercalate (items.map namedItemLexemes)
            ++ afterItems) := by
        simp [Select.lexemes, afterItems, afterLet, afterWhere, afterOrder, afterLimit]
      rw [hInput]
      refine bind_eq_some (expect_cons _ _) (bind_eq_some hItemsRead
        (bind_eq_some (expect_cons _ _) (bind_eq_some (keyspace_lexemes rows.source _)
        (bind_eq_some (expect_cons _ _) (bind_eq_some rfl (bind_eq_some hBindingsRead
        (bind_eq_some hConditionRead (bind_eq_some hOrderRead (bind_eq_some hLimitRead
        (bind_eq_some hOffsetRead ?_))))))))))
      rw [hFoundBindings, hFoundOrder]
      rfl

end Rule

/-! ## Texts -/

/-- The text of a plain condition reads back as the tree of the condition. -/
theorem readCondition_text (tags : Tags) {condition : Condition} (h : condition.IsPlain) :
    readCondition (condition.text tags) = some condition.outline := by
  have hLexemes : lexemes (condition.text tags) = some condition.lexemes :=
    (Condition.closed tags h).spells
  simp [readCondition, readWhole, hLexemes, Rule.condition_lexemes h]

/-- A text with the lexemes of a plain statement reads back as the tree of the statement. -/
theorem Spells.read {text : String} {select : Select} (h : select.IsPlain)
    (hText : Spells text select.lexemes) : Outline.read text = some select.outline := by
  have hLexemes : lexemes text = some select.lexemes := hText
  have hSelect := Rule.select_lexemes h select.lexemes.length [] (Nat.le_refl _)
    (Rule.continues_nil _)
  rw [List.append_nil] at hSelect
  simp [Outline.read, readWhole, hLexemes, hSelect]

/-- The text of a plain statement reads back as the tree of the statement. -/
theorem Outline.read_text (tags : Tags) {select : Select} (h : select.IsPlain) :
    Outline.read (select.text tags) = some select.outline := (Select.spells tags h).read h

end N1qlConnector.Statement
