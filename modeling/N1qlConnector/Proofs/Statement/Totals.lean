import N1qlConnector.Proofs.Statement.ReadBack

/-!
# Reading aggregate statements

The reference reader for the statements that compute values from all rows. They have the clauses of
other statements and no bindings, and their rows may come from a statement in parentheses instead of
a keyspace. The reader accepts every clause in both places, so that a tree says of each statement
which clauses it has and which it has not.

What a condition is depends on who looks at the tree: a reader finds a formula of comparisons, while
a statement that was never written down has tests whose operators no reader may know. So trees take
the type of conditions as a parameter.

## Main results

* `TotalsSelect.spells` : texts and their lexemes.
* `TotalsOutline.read_text` : the text of an aggregate statement reads back.
-/

namespace N1qlConnector.Statement

/-! ## Trees -/

/-- The rows that the clauses of a statement select from a source. -/
structure RowsOutline (σ γ : Type) where
  source : σ
  rowAlias : String
  condition : Option γ
  order : List (Reference × Direction)
  limit : Option Nat
  offset : Option Nat

/-- An object with a member put into it. -/
structure Put where
  /-- The alias of the object. -/
  object : String
  member : String
  value : Reference
  deriving DecidableEq, Repr

/-- Where the rows of an aggregate statement come from. -/
inductive TotalsSource (γ : Type) where
  | stored (keyspace : Keyspace)
  /-- The values of a statement in parentheses, one for each of its rows. -/
  | values (put : Put) (rows : RowsOutline Keyspace γ)

/-- The tree of a statement that computes values from all rows. -/
structure TotalsOutline (γ : Type) where
  items : List (String × Total)
  rows : RowsOutline (TotalsSource γ) γ

/-- The rows of a source that meet a condition, all of them and in no order. -/
def RowsOutline.all {σ γ : Type} (source : σ) (rowAlias : String) (condition : Option γ) :
    RowsOutline σ γ :=
  ⟨source, rowAlias, condition, [], none, none⟩

/-- The rows of a statement, apart from what it selects of them. -/
def Outline.rows {π : Type} (outline : Outline π) : RowsOutline Keyspace (Formula (Predicate π)) :=
  ⟨outline.source, outline.rowAlias, outline.condition, outline.order, outline.limit,
    outline.offset⟩

namespace RowSet

/-- A row set as a statement with all its clauses has it. -/
def outlineWith {γ : Type} (condition : γ) (rows : RowSet) : RowsOutline Keyspace γ where
  source := rows.source
  rowAlias := rows.rowAlias
  condition := some condition
  order := rows.order.getD []
  limit := rows.limit.map UInt64.toNat
  offset := rows.offset.map UInt64.toNat

/-- A document with its key in it. -/
def keyed (rows : RowSet) : Put := ⟨rows.rowAlias, keyColumn, .documentKey rows.rowAlias⟩

/-- A row set as the source of totals. The clauses for a page are those of a statement in
parentheses; without a page there is no such statement and no order. -/
def totalsOutline {γ : Type} (condition : γ) (rows : RowSet) : RowsOutline (TotalsSource γ) γ :=
  if rows.isPaged then .all (.values rows.keyed (rows.outlineWith condition)) rows.rowAlias none
  else .all (.stored rows.source) rows.rowAlias (some condition)

end RowSet

/-- The tree of a statement, with what its condition is for whoever looks at it. -/
def TotalsSelect.outlineWith {γ : Type} (condition : γ) (select : TotalsSelect) :
    TotalsOutline γ :=
  ⟨select.items, select.rows.totalsOutline condition⟩

def TotalsSelect.outline (select : TotalsSelect) : TotalsOutline (Formula (Predicate String)) :=
  select.outlineWith select.rows.outline

/-! ## Rules -/

namespace Rule

/-- A function of the values of a column, by its word. -/
def functionOf? : String → Option TotalFunction
  | "COUNT" => some .count
  | "AVG" => some .avg
  | "MAX" => some .max
  | "MIN" => some .min
  | "SUM" => some .sum
  | _ => none

/-- A column as the last argument of a function. -/
def argument (function : TotalFunction) : Rule Total := do
  let column ← reference
  expect (.mark ")")
  return .ofColumn function column

def total : Rule Total
  | .word "COUNT" :: .mark "(" :: .mark "*" :: .mark ")" :: rest => some (.countRows, rest)
  | .word "COUNT" :: .mark "(" :: .word "DISTINCT" :: rest => argument .countDistinct rest
  | .word "IFMISSINGORNULL" :: .mark "(" :: .word "SUM" :: .mark "(" :: rest =>
    (do let found ← argument .sumOrZero
        expect (.mark ",")
        expect (.word "0")
        expect (.mark ")")
        return found : Rule Total) rest
  | .word word :: .mark "(" :: rest =>
    (functionOf? word).bind fun function => argument function rest
  | _ => none

def namedTotal : Rule (String × Total) := do
  let found ← total
  expect (.word "AS")
  return (← name, found)

def text : Rule String
  | .text value :: rest => some (value, rest)
  | _ => none

def put : Rule Put := do
  expect (.word "OBJECT_PUT")
  expect (.mark "(")
  let object ← name
  expect (.mark ",")
  let member ← text
  expect (.mark ",")
  let value ← reference
  expect (.mark ")")
  return ⟨object, member, value⟩

/-- The clauses from `FROM` on. -/
def rowClauses {σ : Type} (source : Rule σ) :
    Rule (RowsOutline σ (Formula (Predicate String))) := do
  expect (.word "FROM")
  let source ← source
  expect (.word "AS")
  let rowAlias ← name
  let condition ← opened "WHERE" condition
  let order ← opened "ORDER" orderBy
  let limit ← opened "LIMIT" number
  let offset ← opened "OFFSET" number
  return ⟨source, rowAlias, condition, order.getD [], limit, offset⟩

/-- A keyspace, or a statement in parentheses. -/
def totalsSource : Rule (TotalsSource (Formula (Predicate String)))
  | .mark "(" :: rest =>
    (do expect (.word "SELECT")
        expect (.word "RAW")
        let found ← put
        let rows ← rowClauses keyspace
        expect (.mark ")")
        return .values found rows : Rule (TotalsSource (Formula (Predicate String)))) rest
  | lexemes => (.stored <$> keyspace : Rule (TotalsSource (Formula (Predicate String)))) lexemes

def totals : Rule (TotalsOutline (Formula (Predicate String))) := do
  expect (.word "SELECT")
  let items ← separated namedTotal (.mark ",")
  let rows ← rowClauses totalsSource
  return ⟨items, rows⟩

end Rule

/-- Reads an aggregate statement, and nothing else. -/
def TotalsOutline.read (text : String) : Option (TotalsOutline (Formula (Predicate String))) :=
  readWhole (fun _ => Rule.totals) text

/-! ## Lexemes -/

namespace TotalFunction

/-- What a function writes before its column, as a text and as lexemes. -/
def opening : TotalFunction → String × List Lexeme
  | count => ("COUNT(", [.word "COUNT", .mark "("])
  | countDistinct => ("COUNT(DISTINCT ", [.word "COUNT", .mark "(", .word "DISTINCT"])
  | avg => ("AVG(", [.word "AVG", .mark "("])
  | max => ("MAX(", [.word "MAX", .mark "("])
  | min => ("MIN(", [.word "MIN", .mark "("])
  | sum => ("SUM(", [.word "SUM", .mark "("])
  | sumOrZero =>
    ("IFMISSINGORNULL(SUM(", [.word "IFMISSINGORNULL", .mark "(", .word "SUM", .mark "("])

/-- What a function writes after its column. -/
def closing : TotalFunction → String × List Lexeme
  | sumOrZero => ("), 0)", [.mark ")", .mark ",", .word "0", .mark ")"])
  | _ => (")", [.mark ")"])

theorem closed_opening (function : TotalFunction) :
    Closed function.opening.1 function.opening.2 := by
  cases function <;> exact ⟨_, rfl, rfl⟩

theorem closed_closing (function : TotalFunction) :
    Closed function.closing.1 function.closing.2 := by
  cases function <;> exact ⟨_, rfl, rfl⟩

theorem opens_closing (function : TotalFunction) : Opens function.closing.1 := by
  cases function <;> decide

end TotalFunction

def Total.lexemes : Total → List Lexeme
  | countRows => [.word "COUNT", .mark "(", .mark "*", .mark ")"]
  | ofColumn function column => function.opening.2 ++ column.lexemes ++ function.closing.2

theorem Total.closed (total : Total) : Closed total.text total.lexemes := by
  cases total with
  | countRows => exact ⟨_, rfl, rfl⟩
  | ofColumn function column =>
      have hText : (ofColumn function column).text =
          function.opening.1 ++ column.text ++ function.closing.1 := by
        cases function <;> rfl
      rw [hText]
      have hFront := function.closed_opening.append column.spells
      exact hFront.append_closed function.closed_closing function.opens_closing

def namedTotalLexemes (item : String × Total) : List Lexeme :=
  item.2.lexemes ++ [.word "AS", .name item.1]

theorem spells_totalText (item : String × Total) :
    Spells (totalText item) (namedTotalLexemes item) := by
  have hAs : Closed " AS " [.word "AS"] := ⟨_, rfl, rfl⟩
  have hText := (item.2.closed.append_closed hAs).append_closed (closed_quoteName item.1)
  simpa [namedTotalLexemes, totalText] using hText.spells

def Put.lexemes (put : Put) : List Lexeme :=
  [.word "OBJECT_PUT", .mark "(", .name put.object, .mark ",", .text put.member, .mark ","]
    ++ put.value.lexemes ++ [.mark ")"]

namespace RowSet

/-- The lexemes of all clauses of a row set. -/
def lexemes (rows : RowSet) : List Lexeme :=
  [rows.fromLexemes, rows.whereLexemes, rows.orderLexemes, countLexemes "LIMIT" rows.limit,
    countLexemes "OFFSET" rows.offset].flatten

def documentsLexemes (rows : RowSet) : List Lexeme :=
  [.word "SELECT", .word "RAW"] ++ rows.keyed.lexemes ++ rows.lexemes

theorem spells_documentsText (tags : Tags) {rows : RowSet}
    (h : ∀ condition ∈ rows.condition, condition.IsPlain) :
    Spells (rows.documentsText tags) rows.documentsLexemes := by
  unfold documentsText
  have hOpening : Closed "SELECT RAW OBJECT_PUT("
      [.word "SELECT", .word "RAW", .word "OBJECT_PUT", .mark "("] := ⟨_, rfl, rfl⟩
  have hComma : Closed ", " [.mark ","] := ⟨_, rfl, rfl⟩
  have hMeta : Closed ", META(" [.mark ",", .word "META", .mark "("] := ⟨_, rfl, rfl⟩
  have hKey : Spells ").id)" [.mark ")", .mark ".", .word "id", .mark ")"] := rfl
  have hAlias := closed_quoteName rows.rowAlias
  have hObject := (hOpening.append_closed hAlias).append_closed hComma
  have hMember := (hObject.append_closed (closed_quote keyColumn)).append_closed hMeta
  have hPut := (hMember.append_closed hAlias).append hKey
  have hWhole := Spells.joinClauses (.cons hPut (.cons rows.spells_fromText
    (.cons (spells_whereText tags h) (.cons (rows.spells_orderText tags)
      (.cons (rows.spells_limitText tags) (.cons (rows.spells_offsetText tags) .nil))))))
  simpa [documentsLexemes, keyed, Put.lexemes, Reference.lexemes, lexemes] using hWhole

end RowSet

namespace TotalsSelect

/-- The lexemes of the clauses that a statement has itself. -/
def rowLexemes (rows : RowSet) : List Lexeme :=
  if rows.isPaged then
    [.word "FROM", .mark "("] ++ rows.documentsLexemes ++
      [.mark ")", .word "AS", .name rows.rowAlias]
  else rows.fromLexemes ++ rows.whereLexemes

def lexemes (select : TotalsSelect) : List Lexeme :=
  [.word "SELECT"] ++ [.mark ","].intercalate (select.items.map namedTotalLexemes)
    ++ rowLexemes select.rows

/-- A statement that computes something, with a plain condition. -/
structure IsPlain (select : TotalsSelect) : Prop where
  items_ne_nil : select.items ≠ []
  condition : ∀ condition ∈ select.rows.condition, condition.IsPlain

/-- Tagged or not, an aggregate statement is made of its lexemes. -/
theorem spells (tags : Tags) {select : TotalsSelect} (h : select.IsPlain) :
    Spells (select.text tags) select.lexemes := by
  have hItems := Spells.intercalate (⟨_, rfl, rfl⟩ : Closed ", " [.mark ","]) (by decide)
    (forall₂_spells_map fun item (_ : item ∈ select.items) => spells_totalText item)
  have hSelect : Closed "SELECT " [.word "SELECT"] := ⟨_, rfl, rfl⟩
  have hOpening := hSelect.append (hItems.tag tags (by decide : '*' ∉ "aggregate_fields".toList))
  unfold text lexemes rowLexemes
  by_cases hPaged : select.rows.isPaged = true
  · have hFrom : Closed "FROM (" [.word "FROM", .mark "("] := ⟨_, rfl, rfl⟩
    have hAs : Closed ") AS " [.mark ")", .word "AS"] := ⟨_, rfl, rfl⟩
    have hRows := (hFrom.append (RowSet.spells_documentsText tags h.condition)).append_closed hAs
      (by decide)
    have hSource := (hRows.append_closed (closed_quoteName select.rows.rowAlias)).spells
    have hWhole := Spells.joinClauses (.cons hOpening (.cons hSource .nil))
    simpa [hPaged] using hWhole
  · have hWhere := RowSet.spells_whereText tags h.condition
    have hWhole := Spells.joinClauses (.cons hOpening
      (.cons select.rows.spells_fromText (.cons hWhere .nil)))
    simpa [hPaged] using hWhole

end TotalsSelect

/-! ## Reading back -/

namespace Rule

theorem argument_lexemes (function : TotalFunction) (column : Reference) (rest : List Lexeme) :
    argument function (column.lexemes ++ .mark ")" :: rest) =
      some (.ofColumn function column, rest) :=
  bind_eq_some (reference_lexemes column _) (bind_eq_some (expect_cons _ _) rfl)

theorem total_lexemes (found : Total) (rest : List Lexeme) :
    total (found.lexemes ++ rest) = some (found, rest) := by
  cases found with
  | countRows => rfl
  | ofColumn function column =>
      have hInput : (Total.ofColumn function column).lexemes ++ rest =
          function.opening.2 ++ (column.lexemes ++ (function.closing.2 ++ rest)) := by
        simp [Total.lexemes]
      rw [hInput]
      cases function with
      | sumOrZero =>
          have hColumn := argument_lexemes .sumOrZero column
            (.mark "," :: .word "0" :: .mark ")" :: rest)
          exact bind_eq_some hColumn rfl
      | count =>
          have hColumn := argument_lexemes .count column rest
          -- Only the first lexeme of the column tells that it is no star and no `DISTINCT`.
          cases column with
          | documentKey rowAlias => exact hColumn
          | property rowAlias name => exact hColumn
      | _ => exact argument_lexemes _ column rest

theorem namedTotal_lexemes (found : String × Total) (rest : List Lexeme) :
    namedTotal (namedTotalLexemes found ++ rest) = some (found, rest) := by
  rw [namedTotalLexemes, List.append_assoc]
  exact bind_eq_some (total_lexemes found.2 _) rfl

theorem put_lexemes (found : Put) (rest : List Lexeme) :
    put (found.lexemes ++ rest) = some (found, rest) := by
  rw [Put.lexemes, List.append_assoc, List.append_assoc]
  have hValue := reference_lexemes found.value (.mark ")" :: rest)
  exact bind_eq_some (expect_cons _ _) (bind_eq_some (expect_cons _ _) (bind_eq_some rfl
    (bind_eq_some (expect_cons _ _) (bind_eq_some rfl (bind_eq_some (expect_cons _ _)
      (bind_eq_some hValue (bind_eq_some (expect_cons _ _) rfl)))))))

section Clauses

variable {σ : Type} {source : Rule σ} {value : σ} {rest : List Lexeme}

/-- All clauses of a row set are read back. -/
theorem rowClauses_lexemes {rows : RowSet} (h : ∀ condition ∈ rows.condition, condition.IsPlain)
    (hSource : ∀ rest, source (rows.source.lexemes ++ rest) = some (value, rest))
    (hRest : Continues [] rest) :
    rowClauses source (rows.lexemes ++ rest) =
      some (⟨value, rows.rowAlias, some rows.outline, rows.order.getD [],
        rows.limit.map UInt64.toNat, rows.offset.map UInt64.toNat⟩, rest) := by
  -- What follows each clause, from the last one to the first.
  let afterLimit := RowSet.countLexemes "OFFSET" rows.offset ++ rest
  let afterOrder := RowSet.countLexemes "LIMIT" rows.limit ++ afterLimit
  let afterWhere := rows.orderLexemes ++ afterOrder
  have hAfterLimit : Continues ["OFFSET"] afterLimit := hRest.append head?_countLexemes
  have hAfterOrder : Continues ["LIMIT", "OFFSET"] afterOrder :=
    hAfterLimit.append head?_countLexemes
  have hAfterWhere : Continues ["ORDER", "LIMIT", "OFFSET"] afterWhere :=
    hAfterOrder.append head?_orderLexemes
  have hWhere := opened_whereLexemes h hAfterWhere
  obtain ⟨order, hOrder, hFound⟩ := opened_orderLexemes rows hAfterOrder
  have hLimit := opened_countLexemes rows.limit
    (hAfterLimit.head?_ne (by simp) (by simp) : afterLimit.head? ≠ some (.word "LIMIT"))
  have hOffset := opened_countLexemes rows.offset
    (hRest.head?_ne (by simp) (by simp) : rest.head? ≠ some (.word "OFFSET"))
  have hInput : rows.lexemes ++ rest = .word "FROM" :: (rows.source.lexemes
      ++ .word "AS" :: .name rows.rowAlias :: (rows.whereLexemes ++ afterWhere)) := by
    simp [RowSet.lexemes, RowSet.fromLexemes, afterWhere, afterOrder, afterLimit]
  rw [hInput, ← hFound]
  exact bind_eq_some (expect_cons _ _) (bind_eq_some (hSource _) (bind_eq_some (expect_cons _ _)
    (bind_eq_some rfl (bind_eq_some hWhere (bind_eq_some hOrder (bind_eq_some hLimit
      (bind_eq_some hOffset rfl)))))))

/-- Where no clause follows the source, none is read. -/
theorem rowClauses_bare {given : List Lexeme} (rowAlias : String)
    (hSource : ∀ rest, source (given ++ rest) = some (value, rest)) (hRest : Continues [] rest) :
    rowClauses source (.word "FROM" :: (given ++ .word "AS" :: .name rowAlias :: rest)) =
      some (.all value rowAlias none, rest) := by
  have hAbsent : ∀ {α : Type} (rule : Rule α) (word : String),
      opened word rule rest = some (none, rest) := by
    intro α rule word
    exact opened_absent (hRest.head?_ne (by simp) (by simp))
  exact bind_eq_some (expect_cons _ _) (bind_eq_some (hSource _) (bind_eq_some (expect_cons _ _)
    (bind_eq_some rfl (bind_eq_some (hAbsent _ _) (bind_eq_some (hAbsent _ _)
      (bind_eq_some (hAbsent _ _) (bind_eq_some (hAbsent _ _) rfl)))))))

end Clauses

theorem totalsSource_documentsLexemes {rows : RowSet}
    (h : ∀ condition ∈ rows.condition, condition.IsPlain) (rest : List Lexeme) :
    totalsSource ([.mark "("] ++ rows.documentsLexemes ++ [.mark ")"] ++ rest) =
      some (.values rows.keyed (rows.outlineWith rows.outline), rest) := by
  have hRows := rowClauses_lexemes h (keyspace_lexemes rows.source)
    (continues_closeParen [] rest)
  have hPut := put_lexemes rows.keyed (rows.lexemes ++ .mark ")" :: rest)
  have hInput : [.mark "("] ++ rows.documentsLexemes ++ [.mark ")"] ++ rest =
      .mark "(" :: .word "SELECT" :: .word "RAW" ::
        (rows.keyed.lexemes ++ (rows.lexemes ++ .mark ")" :: rest)) := by
    simp [RowSet.documentsLexemes]
  rw [hInput]
  exact bind_eq_some (expect_cons _ _) (bind_eq_some (expect_cons _ _) (bind_eq_some hPut
    (bind_eq_some hRows (bind_eq_some (expect_cons _ _) rfl))))

theorem rowClauses_rowLexemes {rows : RowSet}
    (h : ∀ condition ∈ rows.condition, condition.IsPlain) :
    rowClauses totalsSource (TotalsSelect.rowLexemes rows) =
      some (rows.totalsOutline rows.outline, []) := by
  unfold TotalsSelect.rowLexemes RowSet.totalsOutline
  by_cases hPaged : rows.isPaged = true
  · have hRows := rowClauses_bare rows.rowAlias (totalsSource_documentsLexemes h)
      (continues_nil [])
    simpa [hPaged] using hRows
  · -- Without a page the statement has the clauses of rows that are not ordered.
    let unordered : RowSet := { rows with order := none, limit := none, offset := none }
    have hSource : ∀ rest, totalsSource (unordered.source.lexemes ++ rest) =
        some (.stored rows.source, rest) := fun rest => rfl
    have hCondition : ∀ condition ∈ unordered.condition, condition.IsPlain := h
    have hRows := rowClauses_lexemes hCondition hSource (continues_nil [])
    have hLexemes : unordered.lexemes ++ [] = rows.fromLexemes ++ rows.whereLexemes := by
      simp [unordered, RowSet.lexemes, RowSet.fromLexemes, RowSet.whereLexemes,
        RowSet.orderLexemes, RowSet.countLexemes, RowSet.kindLexemes, clauseLexemes]
    rw [hLexemes] at hRows
    rw [if_neg hPaged, if_neg hPaged]
    exact hRows

theorem totals_lexemes {select : TotalsSelect} (h : select.IsPlain) :
    totals select.lexemes = some (select.outline, []) := by
  have hRows := rowClauses_rowLexemes h.condition
  have hHead : (TotalsSelect.rowLexemes select.rows).head? ≠ some (.mark ",") := by
    unfold TotalsSelect.rowLexemes
    split <;> simp [RowSet.fromLexemes]
  have hItems := separated_intercalate (.mark ",") (TotalsSelect.rowLexemes select.rows)
    h.items_ne_nil hHead fun found _ others _ => namedTotal_lexemes found others
  rw [List.map_id'] at hItems
  rw [TotalsSelect.lexemes, List.append_assoc]
  exact bind_eq_some (expect_cons _ _) (bind_eq_some hItems (bind_eq_some hRows rfl))

end Rule

/-- A text with the lexemes of a plain aggregate statement reads back as its tree. -/
theorem Spells.read_totals {text : String} {select : TotalsSelect} (h : select.IsPlain)
    (hText : Spells text select.lexemes) : TotalsOutline.read text = some select.outline := by
  have hLexemes : Statement.lexemes text = some select.lexemes := hText
  simp [TotalsOutline.read, readWhole, hLexemes, Rule.totals_lexemes h]

/-- The text of a plain aggregate statement reads back as its tree. -/
theorem TotalsOutline.read_text (tags : Tags) {select : TotalsSelect} (h : select.IsPlain) :
    TotalsOutline.read (select.text tags) = some select.outline :=
  (TotalsSelect.spells tags h).read_totals h

end N1qlConnector.Statement
