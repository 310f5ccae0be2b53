import N1qlConnector.Proofs.Compile.Evaluation
import N1qlConnector.Proofs.Compile.Support

/-!
# Totals of pages

The aggregates of a request are about the rows that the request selects: those of a page, if it asks
for one. `Request.pageTotals` says what they are, in terms of the documents of a store and of the
request alone. Two different statements compute them. Without a page the documents are read as they
are, and their keys come from `META`. With a page the rows are values that a statement in
parentheses selected, in which the key is a property; a document that has an `id` of its own loses
it there, but no column of a request ever means that one.

The proof goes from the inside out: columns of a row, aggregates over rows, trees of statements,
requests. Between trees and requests stand the conditions, which a tree may hold in two forms. So
`Request.eval_outlineWith` asks only that a condition holds for the documents that the request
accepts. Compiled tests do, whatever their operators are (`Filter.truth_compile`), and what a reader
finds of them does, if it knows the operators (`RowSet.truthOf_outline`).

Where a page holds all rows it makes no difference to ask for one. Rows may then come in another
order, which no function looks at.

## Main results

* `Filter.truth_compile` : tests mean what comparisons mean, whatever the operators are.
* `Request.eval_outlineWith` : trees of aggregate statements compute the totals of the page.
* `Request.totals_of_page` : so do compiled requests, and with all rows on the page it is no matter
  how they ask for them.
-/

namespace N1qlConnector

open Statement

/-! ## Filters with any operators -/

section Truth

variable {V : Type} (interpretation : Interpretation V) (rows : String → RowValues V)
  {scope : Scope}

theorem Comparison.truth_compile {stem : String} {parameters later final : Parameters}
    {comparison : Comparison} {test : Test}
    (h : comparison.compile scope stem parameters = .ok (test, later)) (hPrefix : later <+: final)
    (hNodup : final.keys.Nodup) :
    test.truth interpretation final rows =
      comparison.truth interpretation (rows scope.rowAlias) (rows scope.enclosing) := by
  have hRead : ∀ {column : Column} {reference : Reference},
      column.compile scope = .ok reference → reference.read rows =
        column.read (rows scope.rowAlias) (rows scope.enclosing) := by
    intro column reference hColumn
    rw [Column.compile_ok hColumn, Column.read_described]
  cases comparison with
  | «exists» table => cases h
  | unary operator column =>
      obtain ⟨left, hLeft, hTest⟩ := Compiled.bind_eq_ok.1 h
      obtain ⟨rfl, rfl⟩ := Prod.mk.inj (Except.ok.inj hTest)
      rw [Test.truth, Comparison.truth, hRead hLeft]
  | binary operator column operand =>
      cases operand with
      | column other =>
          obtain ⟨left, hLeft, hRest⟩ := Compiled.bind_eq_ok.1 h
          obtain ⟨right, hRight, hTest⟩ := Compiled.bind_eq_ok.1 hRest
          obtain ⟨rfl, rfl⟩ := Prod.mk.inj (Except.ok.inj hTest)
          rw [Test.truth, Comparison.truth, Term.eval, hRead hLeft, hRead hRight]
          rfl
      | scalar value type =>
          obtain ⟨left, hLeft, hTest⟩ := Compiled.bind_eq_ok.1 h
          let named := bind parameters (stem ++ column.name) value
          have hTest : (Test.binary left operator (.placeholder named.1), named.2) =
              (test, later) := Except.ok.inj hTest
          obtain ⟨rfl, rfl⟩ := Prod.mk.inj hTest
          rw [Test.truth, Comparison.truth, Term.eval, hRead hLeft, lookup_bind hPrefix hNodup]
          rfl
  | array operator column values type =>
      obtain ⟨left, hLeft, hTest⟩ := Compiled.bind_eq_ok.1 h
      let named := bind parameters (stem ++ column.name) (.array values)
      have hTest : (Test.array left operator named.1, named.2) = (test, later) :=
        Except.ok.inj hTest
      obtain ⟨rfl, rfl⟩ := Prod.mk.inj hTest
      rw [Test.truth, Comparison.truth, hRead hLeft, lookup_bind hPrefix hNodup]
      rfl

/-- A filter and its condition are true of the same rows, whatever is bound after it. -/
def Filter.KeepsTruth (scope : Scope) (filter : Filter) : Prop :=
  ∀ {stem : String} {parameters later final : Parameters} {condition : Condition},
    filter.compile scope stem parameters = .ok (condition, later) → later <+: final →
      final.keys.Nodup → Formula.truth (Test.truth interpretation final rows) condition =
        filter.truth interpretation (rows scope.rowAlias) (rows scope.enclosing)

theorem Filter.truth_compileEach {parts : List Filter} {stem : String}
    (hParts : ∀ part ∈ parts, Filter.KeepsTruth interpretation rows scope part)
    {parameters later final : Parameters} {conditions : List Condition}
    (h : Filter.compile.compileEach scope stem parameters parts = .ok (conditions, later))
    (hPrefix : later <+: final) (hNodup : final.keys.Nodup) :
    conditions.map (Formula.truth (Test.truth interpretation final rows)) =
      parts.map fun part =>
        Filter.truth interpretation (rows scope.rowAlias) (rows scope.enclosing) part := by
  induction parts generalizing parameters conditions with
  | nil =>
      obtain ⟨rfl, rfl⟩ := Prod.mk.inj (Except.ok.inj h)
      rfl
  | cons part rest ih =>
      obtain ⟨⟨first, middle⟩, hPart, h⟩ := Compiled.bind_eq_ok.1 h
      obtain ⟨⟨others, found⟩, hRest, h⟩ := Compiled.bind_eq_ok.1 h
      obtain ⟨rfl, rfl⟩ := Prod.mk.inj (Except.ok.inj h)
      have hGrown : middle <+: final := by
        have hCompiles := Filter.compileEach_ok (fun _ _ => Filter.compile_ok) hRest
        exact hCompiles.binds.isPrefix.trans hPrefix
      have hFirst := hParts part List.mem_cons_self hPart hGrown hNodup
      have hOthers := ih (fun other hMem => hParts other (List.mem_cons_of_mem _ hMem)) hRest
      rw [List.map_cons, List.map_cons, hFirst, hOthers]

theorem Filter.truth_compile (filter : Filter) :
    Filter.KeepsTruth interpretation rows scope filter := by
  induction filter using Formula.induct with
  | atom comparison =>
      intro stem parameters later final condition h hPrefix hNodup
      obtain ⟨⟨test, found⟩, hTest, h⟩ := Compiled.bind_eq_ok.1 h
      obtain ⟨rfl, rfl⟩ := Prod.mk.inj (Except.ok.inj h)
      exact Comparison.truth_compile interpretation rows hTest hPrefix hNodup
  | not part ih =>
      intro stem parameters later final condition h hPrefix hNodup
      obtain ⟨⟨inner, found⟩, hPart, h⟩ := Compiled.bind_eq_ok.1 h
      obtain ⟨rfl, rfl⟩ := Prod.mk.inj (Except.ok.inj h)
      have hInner := ih hPart hPrefix hNodup
      rw [Formula.truth, Filter.truth, Formula.truth, hInner]
      rfl
  | combination parts ih =>
      constructor
      · intro stem parameters later final condition h hPrefix hNodup
        obtain ⟨⟨inner, found⟩, hParts, h⟩ := Compiled.bind_eq_ok.1 h
        obtain ⟨rfl, rfl⟩ := Prod.mk.inj (Except.ok.inj h)
        rw [Formula.truth_all, Filter.truth, Formula.truth_all,
          Filter.truth_compileEach interpretation rows ih hParts hPrefix hNodup]
        rfl
      · intro stem parameters later final condition h hPrefix hNodup
        obtain ⟨⟨inner, found⟩, hParts, h⟩ := Compiled.bind_eq_ok.1 h
        obtain ⟨rfl, rfl⟩ := Prod.mk.inj (Except.ok.inj h)
        rw [Formula.truth_any, Filter.truth, Formula.truth_any,
          Filter.truth_compileEach interpretation rows ih hParts hPrefix hNodup]
        rfl

/-- The condition of a query is true of the same rows as its filter. -/
theorem Filter.truth_compileOption {filter : Option Filter} {condition : Option Condition}
    {parameters : Parameters}
    (h : Filter.compileOption scope [] filter = .ok (condition, parameters)) :
    (condition.map (Formula.truth (Test.truth interpretation parameters rows))).getD .yes =
      (filter.map (Filter.truth interpretation (rows scope.rowAlias) (rows scope.enclosing))).getD
        .yes := by
  have hNodup : parameters.keys.Nodup :=
    (Filter.compileOption_ok h).binds.nodup_keys List.nodup_nil
  cases filter with
  | none =>
      obtain ⟨rfl, rfl⟩ := Prod.mk.inj (Except.ok.inj h)
      rfl
  | some own =>
      obtain ⟨⟨found, later⟩, hOwn, h⟩ := Compiled.bind_eq_ok.1 h
      obtain ⟨rfl, rfl⟩ := Prod.mk.inj (Except.ok.inj h)
      exact Filter.truth_compile interpretation rows own hOwn (List.prefix_refl _) hNodup

end Truth

/-! ## What totals of a page are -/

/-- The value of a column of a document. -/
def SourceRow.column (row : SourceRow) (name : String) : Option Json :=
  if name = "id" then row.key.map Json.string else row.document.lookup name

/-- What an aggregate is of some documents. -/
def Aggregate.eval (engine : Engine) (rows : List SourceRow) : Aggregate → Option Json
  | .starCount => some (.nat rows.length)
  | .columnCount column false => engine.count (Multiset.ofList (rows.map (·.column column)))
  | .columnCount column true => engine.countDistinct (Multiset.ofList (rows.map (·.column column)))
  | .singleColumn column function _ =>
    let values := Multiset.ofList (rows.map (·.column column))
    match function with
    | .avg => engine.avg values
    | .max => engine.max values
    | .min => engine.min values
    | .sum => engine.sum values
    | .total => Engine.orZero (engine.sum values)
    | .unknown _ => none

/-- The value of a document that an order looks at. -/
def OrderElement.value? (row : SourceRow) (element : OrderElement) :
    Option (Option Json × Direction) :=
  match element.target, element.path with
  | .column column, [] => some (row.column column, element.direction)
  | _, _ => none

namespace Request

variable (request : Request) (engine : Engine)

/-- Whether a document is of the kind of the request's table and meets its filter. The request
stands alone, so the row around is the row itself. -/
def accepts (row : SourceRow) : Bool :=
  let kind := engine.binary .equal (row.document.lookup "type")
    (some (.string request.table.rowAlias))
  kind = .yes && request.query.filter.all fun filter =>
    filter.truth engine.interpretation row.values row.values = .yes

/-- The documents of a request in its order. -/
def ordered (documents : List SourceRow) : List SourceRow :=
  let elements := (request.query.order.map Order.elements).getD []
  engine.sort ((documents.filter (request.accepts engine)).map fun row =>
    (elements.filterMap (OrderElement.value? row), row))

/-- The documents of the page that a request asks for. -/
def page (documents : List SourceRow) : List SourceRow :=
  cut (request.query.offset.map UInt64.toNat) (request.query.limit.map UInt64.toNat)
    (request.ordered engine documents)

/-- What all aggregates of a request are, for the documents of its page. -/
def pageTotals (config : Config) (contents : Contents) : List (String × Option Json) :=
  let documents := contents.rows (request.table.described config)
  request.query.aggregateList.map fun named =>
    (named.1, named.2.eval engine (request.page engine documents))

end Request

/-! ## Columns on a page -/

theorem SourceRow.read_property (rowAlias column : String) (row : SourceRow) :
    (Reference.property rowAlias column).read (row.valuesUnder rowAlias) =
      row.document.lookup column := by
  simp [Reference.read, valuesUnder, under, values]

theorem SourceRow.read_documentKey (rowAlias : String) (row : SourceRow) :
    (Reference.documentKey rowAlias).read (row.valuesUnder rowAlias) = row.key.map Json.string := by
  simp [Reference.read, valuesUnder, under, values]

/-- A column of a document of the store. -/
theorem SourceRow.read_ofColumn (rowAlias column : String) (row : SourceRow) :
    (Reference.ofColumn rowAlias column).read (row.valuesUnder rowAlias) = row.column column := by
  unfold Reference.ofColumn SourceRow.column keyColumn
  by_cases hKey : column = "id"
  · rw [if_pos hKey, if_pos hKey, read_documentKey]
  · rw [if_neg hKey, if_neg hKey, read_property]

/-- A document with its key in it has every column as a property, whatever it had as `id` before. -/
theorem SourceRow.read_keyed (rows : RowSet) {row : SourceRow} {key : String}
    (hKey : row.key = some key) (column : String) :
    (Reference.property rows.rowAlias column).read
      ((rows.keyed.eval rows.rowAlias row).valuesUnder rows.rowAlias) = row.column column := by
  have hObject : row.under rows.rowAlias rows.rowAlias = row := if_pos rfl
  have hDocument : (rows.keyed.eval rows.rowAlias row).document =
      row.document.insert "id" (.string key) := by
    simp [Put.eval, RowSet.keyed, read_documentKey, hKey, hObject, keyColumn]
  rw [read_property, hDocument, Entries.lookup_insert, SourceRow.column, hKey]
  rfl

/-- The values that the rows of a page are ordered by are those of the request's order. -/
theorem Order.keys_compileOption {scope : Scope} {order : Option Order}
    {found : Option (List (Reference × Direction))}
    (h : Order.compileOption scope order = .ok found) (row : SourceRow) :
    (found.getD []).map (fun element =>
        (element.1.read (row.valuesUnder scope.rowAlias), element.2)) =
      ((order.map Order.elements).getD []).filterMap (OrderElement.value? row) := by
  have hValue : ∀ element : OrderElement, ((element.described scope).map fun found =>
      (found.1.read (row.valuesUnder scope.rowAlias), found.2)) = element.value? row := by
    intro element
    obtain ⟨path, target, direction⟩ := element
    unfold OrderElement.described OrderElement.value?
    cases target with
    | column column =>
        cases path with
        | nil =>
            rw [Option.map_some, SourceRow.read_ofColumn]
        | cons first rest => rfl
    | starCount => rfl
    | aggregate column function => rfl
  have hOrder : ((order.map Order.elements).getD []).filterMap (OrderElement.described scope) =
      found.getD [] := by
    rw [← Order.compileOption_ok h]
    cases order <;> rfl
  rw [← hOrder, List.map_filterMap]
  exact List.filterMap_congr fun element _ => hValue element

/-! ## Aggregates -/

/-- A compiled aggregate computes what the aggregate is, if its columns have the same values. -/
theorem Aggregate.eval_compile {engine : Engine} {rowAlias : String} {paged : Bool}
    {found rows : List SourceRow} {aggregate : Aggregate} {total : Total}
    (h : aggregate.compile rowAlias paged = .ok total)
    (hColumns : ∀ column, columnValues rowAlias found (compile.reference rowAlias paged column) =
      Multiset.ofList (rows.map (·.column column))) :
    total.eval engine rowAlias found = aggregate.eval engine rows := by
  cases aggregate with
  | starCount =>
      obtain rfl := Except.ok.inj h
      have hLength : found.length = rows.length := by
        simpa [columnValues] using congrArg Multiset.card (hColumns "")
      rw [Total.eval, Aggregate.eval, hLength]
  | columnCount column distinct =>
      obtain rfl := Except.ok.inj h
      cases distinct with
      | false =>
          rw [Aggregate.eval, ← hColumns]
          rfl
      | true =>
          rw [Aggregate.eval, ← hColumns]
          rfl
  | singleColumn column function type =>
      obtain ⟨compiled, hFunction, h⟩ := Compiled.bind_eq_ok.1 h
      obtain rfl := Except.ok.inj h
      cases function with
      | unknown word => cases hFunction
      | _ =>
          obtain rfl := Except.ok.inj hFunction
          simp only [Aggregate.eval, ← hColumns]
          rfl

theorem compileAggregates_eval {engine : Engine} {rowAlias : String} {paged : Bool}
    {found rows : List SourceRow} {aggregates : List (String × Aggregate)}
    {items : List (String × Total)} (h : compileAggregates rowAlias paged aggregates = .ok items)
    (hColumns : ∀ column, columnValues rowAlias found
      (Aggregate.compile.reference rowAlias paged column) =
        Multiset.ofList (rows.map (·.column column))) :
    items.map (fun item => (item.1, item.2.eval engine rowAlias found)) =
      aggregates.map fun named => (named.1, named.2.eval engine rows) := by
  induction aggregates generalizing items with
  | nil =>
      obtain rfl := Except.ok.inj h
      rfl
  | cons first rest ih =>
      rw [compileAggregates, List.mapM_cons] at h
      obtain ⟨item, hFirst, h⟩ := Compiled.bind_eq_ok.1 h
      obtain ⟨others, hRest, h⟩ := Compiled.bind_eq_ok.1 h
      obtain rfl := Except.ok.inj h
      obtain ⟨total, hTotal, hItem⟩ := Compiled.bind_eq_ok.1 hFirst
      obtain rfl := Except.ok.inj hItem
      rw [List.map_cons, List.map_cons, ih hRest, Aggregate.eval_compile hTotal hColumns]

/-! ## Evaluating the tree -/

section Tree

variable {γ : Type} (engine : Engine) (contents : Contents)
  (holds : γ → (String → RowValues (Option Json)) → Truth) {rows : RowSet} (condition : γ)
  (items : List (String × Total))

/-- Totals of a page are computed from the documents of the page, with their keys in them. -/
theorem eval_outlineWith_of_isPaged (hPaged : rows.isPaged = true) :
    (TotalsSelect.outlineWith condition ⟨items, rows⟩).eval engine holds contents =
      [items.map fun item => (item.1, item.2.eval engine rows.rowAlias
        (((rows.outlineWith condition).select engine holds (contents.rows rows.source)).map
          (rows.keyed.eval rows.rowAlias)))] := by
  unfold TotalsSelect.outlineWith RowSet.totalsOutline
  simp only [hPaged, if_true]
  simp [TotalsOutline.eval, RowsOutline.all, RowsOutline.matching, TotalsSource.rows,
    RowSet.outlineWith, cut]

/-- Totals without a page are computed from all documents that meet the condition, as they are. -/
theorem eval_outlineWith_of_not_isPaged (hWhole : rows.isPaged = false) :
    (TotalsSelect.outlineWith condition ⟨items, rows⟩).eval engine holds contents =
      [items.map fun item => (item.1, item.2.eval engine rows.rowAlias
        ((rows.outlineWith condition).matching holds (contents.rows rows.source)))] := by
  unfold TotalsSelect.outlineWith RowSet.totalsOutline
  simp only [hWhole]
  rfl

end Tree

/-! ## Requests -/

theorem Truth.and_eq_yes {first second : Truth} :
    first.and second = .yes ↔ first = .yes ∧ second = .yes := by
  cases first <;> cases second <;> decide

namespace Request

/-- The request for all rows instead of a page of them. -/
def whole (request : Request) : Request :=
  { request with query := { request.query with limit := none, offset := none } }

variable (request : Request) (config : Config) (engine : Engine) (contents : Contents)

/-- The condition of the compiled rows holds for the documents that the request accepts. -/
theorem truth_rowSet {condition : Option Condition} {parameters : Parameters}
    (order : Option (List (Reference × Direction)))
    (h : Filter.compileOption (.root request.table) [] request.query.filter =
      .ok (condition, parameters)) (row : SourceRow) :
    (request.query.rowSet (request.surroundings config) request.table (.root request.table)
      condition order).truth engine.interpretation parameters
        (row.valuesUnder request.table.rowAlias) = .yes ↔ request.accepts engine row = true := by
  have hRow : row.valuesUnder request.table.rowAlias request.table.rowAlias = row.values := by
    simp [SourceRow.valuesUnder, SourceRow.under]
  have hFilter : (condition.map (Formula.truth (Test.truth engine.interpretation parameters
      (row.valuesUnder request.table.rowAlias)))).getD .yes =
        (request.query.filter.map (Filter.truth engine.interpretation row.values row.values)).getD
          .yes := by
    rw [Filter.truth_compileOption engine.interpretation _ h, ← hRow]
    rfl
  have hAll : (request.query.filter.map (Filter.truth engine.interpretation row.values
      row.values)).getD .yes = .yes ↔ request.query.filter.all (fun filter =>
        filter.truth engine.interpretation row.values row.values = .yes) = true := by
    cases request.query.filter <;> simp
  rw [RowSet.truth, Truth.and_eq_yes, accepts, Bool.and_eq_true, decide_eq_true_iff, ← hAll,
    ← hFilter]
  let own := row.valuesUnder request.table.rowAlias request.table.rowAlias
  show engine.binary .equal (own.property "type") _ = _ ∧ _ ↔ _
  simp only [own]
  rw [hRow]
  rfl

theorem ordered_perm (documents : List SourceRow) :
    (request.ordered engine documents).Perm (documents.filter (request.accepts engine)) := by
  have hSort := engine.sort_perm ((documents.filter (request.accepts engine)).map fun row =>
    (((request.query.order.map Order.elements).getD []).filterMap (OrderElement.value? row), row))
  rw [List.map_map] at hSort
  rw [ordered]
  simpa [Function.comp_def] using hSort

theorem page_subset (documents : List SourceRow) : request.page engine documents ⊆ documents := by
  intro row hRow
  have hOrdered : row ∈ request.ordered engine documents := cut_subset _ _ _ hRow
  exact List.mem_of_mem_filter ((request.ordered_perm engine documents).subset hOrdered)

/-- On a page the columns of a request are properties of documents with their keys in them. -/
theorem columnValues_keyed (rows : RowSet) (keyspace : Keyspace) (column : String) :
    columnValues rows.rowAlias ((request.page engine (contents.rows keyspace)).map
      (rows.keyed.eval rows.rowAlias)) (.property rows.rowAlias column) =
        Multiset.ofList ((request.page engine (contents.rows keyspace)).map (·.column column)) := by
  rw [columnValues, List.map_map]
  refine congrArg Multiset.ofList (List.map_congr_left fun row hRow => ?_)
  obtain ⟨stored, -, rfl⟩ := List.mem_map.1 (request.page_subset engine _ hRow)
  exact SourceRow.read_keyed rows rfl column

/-- Without a page they are read from the documents as they are stored, in whatever order. -/
theorem columnValues_stored (hWhole : request.query.isPaged = false) (rowAlias column : String)
    (documents : List SourceRow) :
    columnValues rowAlias (documents.filter (request.accepts engine)) (.ofColumn rowAlias column) =
      Multiset.ofList ((request.page engine documents).map (·.column column)) := by
  have hBounds : request.query.limit = none ∧ request.query.offset = none := by
    simpa [Query.isPaged] using hWhole
  have hPage : request.page engine documents = request.ordered engine documents := by
    rw [page, hBounds.1, hBounds.2]
    rfl
  have hPerm := (request.ordered_perm engine documents).map (·.column column)
  rw [columnValues, hPage, Multiset.coe_eq_coe]
  refine List.Perm.trans (List.Perm.of_eq ?_) hPerm.symm
  exact List.map_congr_left fun row _ => SourceRow.read_ofColumn _ column row

section Tree

variable {γ : Type} {holds : γ → (String → RowValues (Option Json)) → Truth} {condition : γ}
  {rows : RowSet} {found : Option Condition} {order : Option (List (Reference × Direction))}

/-- The rows that meet the condition of a tree are the documents that the request accepts. -/
theorem matching_outlineWith
    (hHolds : ∀ row, holds condition (row.valuesUnder rows.rowAlias) = .yes ↔
      request.accepts engine row = true) (documents : List SourceRow) :
    (rows.outlineWith condition).matching holds documents =
      documents.filter (request.accepts engine) := by
  unfold RowsOutline.matching
  refine List.filter_congr fun row _ => ?_
  rw [RowSet.outlineWith, Option.all_some, Bool.eq_iff_iff, decide_eq_true_iff]
  exact hHolds row

/-- The rows that all clauses of a tree select are the documents of the page. -/
theorem select_outlineWith (hRows : rows = request.query.rowSet (request.surroundings config)
      request.table (.root request.table) found order)
    (hOrder : Order.compileOption (.root request.table) request.query.order = .ok order)
    (hHolds : ∀ row, holds condition (row.valuesUnder rows.rowAlias) = .yes ↔
      request.accepts engine row = true) (documents : List SourceRow) :
    (rows.outlineWith condition).select engine holds documents =
      request.page engine documents := by
  have hKeys : ∀ row, (rows.outlineWith condition).keys row =
      ((request.query.order.map Order.elements).getD []).filterMap (OrderElement.value? row) := by
    intro row
    rw [hRows]
    exact Order.keys_compileOption hOrder row
  have hMatching := request.matching_outlineWith engine hHolds documents
  unfold RowsOutline.select page ordered
  simp only [hMatching, hKeys]
  rw [hRows]
  rfl

/-- The tree of the aggregate statement of a request computes the totals of the request's page, if
its condition holds for the documents that the request accepts. -/
theorem eval_outlineWith {items : List (String × Total)}
    (hItems : compileAggregates request.table.rowAlias request.query.isPaged
      request.query.aggregateList = .ok items)
    (hOrder : request.query.compilePageOrder (.root request.table) = .ok order)
    (hRows : rows = request.query.rowSet (request.surroundings config) request.table
      (.root request.table) found order)
    (hHolds : ∀ row, holds condition (row.valuesUnder rows.rowAlias) = .yes ↔
      request.accepts engine row = true) :
    (TotalsSelect.outlineWith condition ⟨items, rows⟩).eval engine holds contents =
      [request.pageTotals engine config contents] := by
  have hSource : rows.source = request.table.described config := by
    rw [hRows]
    exact request.table.keyspace_eq config
  have hAlias : rows.rowAlias = request.table.rowAlias := by
    rw [hRows]
    rfl
  have hPages : rows.isPaged = request.query.isPaged := by
    rw [hRows]
    rfl
  rw [← hAlias] at hItems
  by_cases hPaged : request.query.isPaged = true
  · rw [Query.compilePageOrder, if_pos hPaged] at hOrder
    rw [hPaged] at hItems hPages
    rw [eval_outlineWith_of_isPaged engine contents holds condition items hPages,
      request.select_outlineWith config engine hRows hOrder hHolds,
      compileAggregates_eval hItems (request.columnValues_keyed engine contents rows rows.source),
      hSource]
    rfl
  · have hWhole : request.query.isPaged = false := Bool.eq_false_iff.2 hPaged
    rw [hWhole] at hItems hPages
    rw [eval_outlineWith_of_not_isPaged engine contents holds condition items hPages,
      request.matching_outlineWith engine hHolds, compileAggregates_eval hItems fun column =>
        request.columnValues_stored engine hWhole rows.rowAlias column (contents.rows rows.source),
      hSource]
    rfl

end Tree

/-- An aggregate statement that computes the totals of a request's page, whatever a store holds and
whoever runs the statement. -/
structure ComputesPage (request : Request) (config : Config) (tags : Tags) (totals : Prepared) :
    Prop where
  /-- The text is that of a statement, and the statement computes the totals. -/
  run : ∃ select parameters, totals = .ofTotals tags (some select, parameters) ∧
    ∀ (engine : Engine) (contents : Contents),
      engine.run contents parameters select = [request.pageTotals engine config contents]
  /-- What is read from the text computes them, if a reader knows all operators. -/
  answer : request.query.filter.all Filter.isBuiltIn → ∀ (engine : Engine) (contents : Contents),
    engine.answer contents totals = some [request.pageTotals engine config contents]

section Compiled

variable {request : Request} {config : Config} {settings : Settings}

/-- Where an aggregate statement is compiled, it computes the totals of the page. -/
theorem computesPage_of_compileTotals {totals : Prepared}
    (h : request.compileTotals config settings (.root request.table) = .ok totals)
    (hAggregates : request.query.aggregateList ≠ []) :
    request.ComputesPage config settings.tags totals := by
  obtain ⟨⟨select, parameters⟩, hSelect, hTotals⟩ := Compiled.bind_eq_ok.1 h
  obtain rfl := Except.ok.inj hTotals
  obtain ⟨select, rfl⟩ : ∃ found, select = some found := by
    rw [Query.compileTotals_eq hAggregates] at hSelect
    obtain ⟨_, -, hSelect⟩ := Compiled.bind_eq_ok.1 hSelect
    obtain ⟨_, -, hSelect⟩ := Compiled.bind_eq_ok.1 hSelect
    obtain ⟨_, -, hSelect⟩ := Compiled.bind_eq_ok.1 hSelect
    obtain ⟨_, -, hSelect⟩ := Compiled.bind_eq_ok.1 hSelect
    exact ⟨_, (Prod.mk.inj (Except.ok.inj hSelect)).1.symm⟩
  obtain ⟨-, condition, order, hFilter, hItems, hOrder, hRows⟩ :=
    Query.compileTotals_ok_some hSelect
  obtain ⟨items, rows⟩ := select
  simp only at hItems hRows
  have hTruth : ∀ (engine : Engine) (row : SourceRow), rows.truth engine.interpretation parameters
      (row.valuesUnder rows.rowAlias) = .yes ↔ request.accepts engine row = true := by
    intro engine row
    rw [hRows]
    exact request.truth_rowSet config engine order hFilter row
  constructor
  · refine ⟨⟨items, rows⟩, parameters, rfl, fun engine contents => ?_⟩
    exact request.eval_outlineWith config engine contents hItems hOrder hRows (hTruth engine)
  · intro hBuiltIn engine contents
    have hStem : (Scope.root request.table).stem ≠ "" := (by decide : "p_" ≠ "")
    have hCondition : ∀ found ∈ rows.condition, found.IsPlain := by
      rw [hRows]
      intro found hFound
      refine (Filter.compileOption_ok hFilter).isPlain hStem ?_ found (Option.mem_toList.2 hFound)
      cases hOption : request.query.filter with
      | none => rfl
      | some own => simpa [hOption] using hBuiltIn
    have hPlain : TotalsSelect.IsPlain ⟨items, rows⟩ :=
      ⟨compileAggregates_ne_nil hAggregates hItems, hCondition⟩
    have hRead := (spells_ofTotals settings.tags parameters hPlain).read_totals hPlain
    have hHolds : ∀ row : SourceRow, truthOf engine.interpretation (row.valuesUnder rows.rowAlias)
        parameters rows.outline = .yes ↔ request.accepts engine row = true := by
      intro row
      rw [RowSet.truthOf_outline engine.interpretation parameters _ hCondition]
      exact hTruth engine row
    rw [Engine.answer, hRead, Option.map_some]
    refine congrArg some ?_
    exact request.eval_outlineWith config engine contents hItems hOrder hRows hHolds

/-- A request for all rows compiles if the request for a page does. -/
theorem exists_compile_whole {compiled : CompiledRequest}
    (h : request.compile config settings = .ok compiled) :
    ∃ other, request.whole.compile config settings = .ok other := by
  have hSupported : request.IsSupported := (request.settles_compile config settings).of_ok _ h
  refine (request.whole.settles_compile config settings).exists_ok_iff.2 ⟨?_, ?_⟩
  · obtain ⟨table, relationships, fields, aggregates, filter, limit, offset, order⟩ := request
    have hRows := hSupported.rows
    cases fields with
    | none => exact hRows
    | some fields =>
        cases fields with
        | nil => exact hRows
        | cons first rest =>
            simp only [whole, Query.IsSelectable] at hRows ⊢
            exact hRows
  · intro hAggregates
    obtain ⟨hFilter, hKnown, -⟩ := hSupported.totals hAggregates
    refine ⟨hFilter, hKnown, ?_⟩
    rintro (hLimit | hOffset)
    · exact absurd rfl hLimit
    · exact absurd rfl hOffset

/-- Where a page holds all rows, its totals are those of all rows. -/
theorem pageTotals_whole {engine : Engine} {contents : Contents}
    (hOffset : request.query.offset = none ∨ request.query.offset = some 0)
    (hLimit : ∀ limit ∈ request.query.limit,
      ((contents.rows (request.table.described config)).filter (request.accepts engine)).length ≤
        limit.toNat) :
    request.whole.pageTotals engine config contents =
      request.pageTotals engine config contents := by
  let documents := contents.rows (request.table.described config)
  have hLength : (request.ordered engine documents).length =
      (documents.filter (request.accepts engine)).length :=
    (request.ordered_perm engine documents).length_eq
  have hPage : request.page engine documents = request.ordered engine documents := by
    refine cut_eq_self ?_ ?_
    · rcases hOffset with hNone | hZero
      · rw [hNone]
        rfl
      · rw [hZero]
        rfl
    · intro n hn
      obtain ⟨limit, hMem, rfl⟩ := Option.mem_map.1 hn
      rw [hLength]
      exact hLimit limit hMem
  have hPages : request.whole.page engine documents = request.page engine documents := hPage.symm
  show request.query.aggregateList.map (fun named =>
    (named.1, named.2.eval engine (request.whole.page engine documents))) = _
  rw [hPages]
  rfl

/-- The aggregate statement of a request computes its aggregates from exactly the documents of the
page, and the same as without a page where the page holds all documents. -/
theorem totals_of_page {compiled : CompiledRequest}
    (hCompile : request.compile config settings = .ok compiled)
    (hAggregates : request.query.aggregateList ≠ []) :
    request.ComputesPage config settings.tags compiled.totals ∧
    ∃ other, request.whole.compile config settings = .ok other ∧
      request.whole.ComputesPage config settings.tags other.totals ∧
      ∀ (engine : Engine) (contents : Contents),
        (request.query.offset = none ∨ request.query.offset = some 0) →
        (∀ limit ∈ request.query.limit,
          ((contents.rows (request.table.described config)).filter
            (request.accepts engine)).length ≤ limit.toNat) →
        request.whole.pageTotals engine config contents =
          request.pageTotals engine config contents := by
  have hTotals : ∀ {request : Request} {compiled : CompiledRequest},
      request.compile config settings = .ok compiled →
        request.compileTotals config settings (.root request.table) = .ok compiled.totals := by
    intro request compiled h
    obtain ⟨rows, -, h⟩ := Compiled.bind_eq_ok.1 h
    obtain ⟨totals, hTotals, h⟩ := Compiled.bind_eq_ok.1 h
    obtain rfl := Except.ok.inj h
    exact hTotals
  obtain ⟨other, hOther⟩ := exists_compile_whole hCompile
  exact ⟨computesPage_of_compileTotals (hTotals hCompile) hAggregates, other, hOther,
    computesPage_of_compileTotals (hTotals hOther) hAggregates,
    fun _ _ hOffset hLimit => pageTotals_whole hOffset hLimit⟩

end Compiled

end Request

/-- The request for the first page instead. -/
def firstPageRequest : Request :=
  { pagedRequest with query := { pagedRequest.query with offset := some 0 } }

/-- In every keyspace two documents that the request accepts, of which one has an `id` that is not
its key, one that its filter rejects, and one of another kind. -/
def mixedContents : Contents := fun _ =>
  [("k", [("type", .string "t"), ("f_and_c", .nat 1), ("id", .string "own")]),
    ("v", [("type", .string "t"), ("f_and_c", .nat 2)]),
    ("m", [("type", .string "t"), ("f_and_c", .nat 0)]),
    ("z", [("type", .string "u"), ("f_and_c", .nat 0)])]

theorem totals_of_page_first :
    ∃ compiled other, firstPageRequest.compile bucketConfig {} = .ok compiled ∧
      firstPageRequest.whole.compile bucketConfig {} = .ok other ∧
      Engine.ofScalars.answer mixedContents compiled.totals =
        some [[("n", some (.nat 2)), ("last", some (.string "m"))]] ∧
      Engine.ofScalars.answer mixedContents other.totals =
        Engine.ofScalars.answer mixedContents compiled.totals := by
  obtain ⟨compiled, hCompile⟩ : ∃ compiled,
      firstPageRequest.compile bucketConfig {} = .ok compiled := ⟨_, rfl⟩
  have hAggregates : firstPageRequest.query.aggregateList ≠ [] := List.cons_ne_nil _ _
  obtain ⟨hPage, other, hOther, hWhole, hSame⟩ := Request.totals_of_page hCompile hAggregates
  have hAnswer := hPage.answer (by decide) Engine.ofScalars mixedContents
  have hTotals := hSame Engine.ofScalars mixedContents (.inr rfl) fun limit hLimit => by
    obtain rfl := Option.some.inj hLimit
    decide
  refine ⟨compiled, other, hCompile, hOther, hAnswer, ?_⟩
  rw [hWhole.answer (by decide) Engine.ofScalars mixedContents, hAnswer, hTotals]

end N1qlConnector
