import N1qlConnector.Proofs.Compile.Requests
import N1qlConnector.Proofs.Statement.Totals

/-!
# Rows and totals

A caller who asks for a page of rows and for totals of that page gets two statements, and expects
both to speak of the same rows. They are compiled apart, each with parameters of its own, and the
row statement goes on binding values for the queries nested in it. So three things have to be seen:
that both say the same of their rows, clause by clause; that the values bound by the aggregate
statement are among those of the row statement, under the same names; and that a page is cut before
anything is computed from it, and not from the one row of results.

The texts are compared as they are, whatever operators a caller made up. Where every operator is one
that readers know, what the clauses say is compared too.

## Main results

* `Query.compileTotals_eq` : how aggregates are compiled.
* `Request.totals_share_rows` : the two statements of a request select the same rows.
-/

namespace N1qlConnector

open Statement

/-! ## How aggregates are compiled -/

/-- Whether a query asks for a page of its rows. -/
def Query.isPaged (query : Query) : Bool := query.limit.isSome || query.offset.isSome

theorem Query.isPaged_iff {query : Query} :
    query.isPaged = true ↔ query.limit ≠ none ∨ query.offset ≠ none := by
  simp [isPaged, Option.isSome_iff_ne_none]

/-- The rows that a query selects. -/
def Query.rowSet (surroundings : Surroundings) (table : TableName) (scope : Scope) (query : Query)
    (condition : Option Condition) (order : Option (List (Reference × Direction))) : RowSet where
  source := table.keyspace surroundings.config
  rowAlias := scope.rowAlias
  kind := table.rowAlias
  condition := condition
  order := order
  limit := query.limit
  offset := query.offset

/-- The order of the rows that aggregates are computed from, which matters only for a page. -/
def Query.compilePageOrder (scope : Scope) (query : Query) :
    Compiled (Option (List (Reference × Direction))) :=
  if query.isPaged then Order.compileOption scope query.order else .ok none

/-- How the aggregates of a query are compiled, if there are any. -/
theorem Query.compileTotals_eq {surroundings : Surroundings} {table : TableName} {scope : Scope}
    {query : Query} (h : query.aggregateList ≠ []) :
    query.compileTotals surroundings table scope = (do
      table.validate
      let found ← Filter.compileOption scope [] query.filter
      let items ← compileAggregates scope.rowAlias query.isPaged query.aggregateList
      let order ← query.compilePageOrder scope
      .ok (some ⟨items, query.rowSet surroundings table scope found.1 order⟩, found.2)) := by
  have hSome : query.aggregateList.isEmpty = false := by simp [h]
  unfold compileTotals compilePageOrder
  simp only [hSome]
  by_cases hPaged : query.isPaged = true
  · have hPaged' : (query.limit.isSome || query.offset.isSome) = true := hPaged
    simp only [hPaged, hPaged', if_true]
    rfl
  · have hPaged : query.isPaged = false := by simpa using hPaged
    have hPaged' : (query.limit.isSome || query.offset.isSome) = false := hPaged
    simp only [hPaged, hPaged']
    rfl

section Compiled

variable {surroundings : Surroundings} {table : TableName} {scope : Scope} {query : Query}
  {parameters later : Parameters}

/-- What an aggregate statement is made of. -/
theorem Query.compileTotals_ok_some {totals : TotalsSelect}
    (h : query.compileTotals surroundings table scope = .ok (some totals, parameters)) :
    query.aggregateList ≠ [] ∧ ∃ condition order,
      Filter.compileOption scope [] query.filter = .ok (condition, parameters) ∧
      compileAggregates scope.rowAlias query.isPaged query.aggregateList = .ok totals.items ∧
      query.compilePageOrder scope = .ok order ∧
      totals.rows = query.rowSet surroundings table scope condition order := by
  by_cases hNone : query.aggregateList = []
  · have hEmpty : query.aggregateList.isEmpty = true := by simp [hNone]
    unfold compileTotals at h
    obtain ⟨_, -, h⟩ := Compiled.bind_eq_ok.1 h
    rw [if_pos hEmpty] at h
    cases h
  · rw [compileTotals_eq hNone] at h
    obtain ⟨_, -, h⟩ := Compiled.bind_eq_ok.1 h
    obtain ⟨⟨condition, found⟩, hCondition, h⟩ := Compiled.bind_eq_ok.1 h
    obtain ⟨items, hItems, h⟩ := Compiled.bind_eq_ok.1 h
    obtain ⟨order, hOrder, h⟩ := Compiled.bind_eq_ok.1 h
    obtain ⟨hTotals, rfl⟩ := Prod.mk.inj (Except.ok.inj h)
    obtain rfl := Option.some.inj hTotals
    exact ⟨hNone, condition, order, hCondition, hItems, hOrder, rfl⟩

/-- What the rows of a statement are, and which parameters are bound for them before any others. -/
theorem Query.compileWith_ok_some {filter : Option Filter} {limit : Option UInt64} {select : Select}
    (h : query.compileWith surroundings table scope filter limit parameters =
      .ok (some select, later)) :
    ∃ condition middle order,
      Filter.compileOption scope parameters filter = .ok (condition, middle) ∧ middle <+: later ∧
      Order.compileOption scope query.order = .ok order ∧
      select.rows =
        { source := table.keyspace surroundings.config
          rowAlias := scope.rowAlias
          kind := table.rowAlias
          condition, order, limit
          offset := query.offset } := by
  by_cases hFields : query.fieldList = []
  · obtain ⟨hSelect, -⟩ := compileWith_ok_of_fieldList_eq_nil hFields h
    cases hSelect
  · obtain ⟨fields, aggregates, own, ownLimit, offset, order⟩ := query
    obtain ⟨first, rest, hCons⟩ := List.exists_cons_of_ne_nil hFields
    obtain rfl : fields = some (first :: rest) := by
      cases fields with
      | none => cases hCons
      | some found => exact congrArg some hCons
    obtain ⟨condition, middle, projection, found, hCondition, hRest, hOrder, hSelect⟩ :=
      compileWith_ok_of_cons h
    obtain rfl := Option.some.inj hSelect
    have hCompiled := compileFields_ok (fun _ _ _ _ => Query.compileWith_ok) hRest
    exact ⟨condition, middle, found, hCondition, hCompiled.binds.isPrefix, hOrder, rfl⟩

/-- The rows of a row statement are the ones that the query selects. -/
theorem Query.compileRows_ok_some {select : Select}
    (h : query.compileRows surroundings table scope = .ok (some select, later)) :
    ∃ condition middle order,
      Filter.compileOption scope [] query.filter = .ok (condition, middle) ∧ middle <+: later ∧
      Order.compileOption scope query.order = .ok order ∧
      select.rows = query.rowSet surroundings table scope condition order :=
  compileWith_ok_some h

/-- Every placeholder of a compiled filter has a value. -/
theorem Filter.lookup_compileOption {filter : Option Filter} {condition : Option Condition}
    (h : Filter.compileOption scope [] filter = .ok (condition, parameters))
    {found : Condition} (hFound : found ∈ condition) {test : Test} (hTest : test ∈ found.atoms)
    {name : String} (hName : name ∈ test.predicate.parameters) :
    ∃ value, (name, value) ∈ parameters := by
  have hBinds := (Filter.compileOption_ok h).binds
  obtain ⟨names, hKeys, -, -, hNames⟩ := hBinds.found_eq
  have hMem : name ∈ names := by
    rw [← hNames, flatMap_parameters_bound]
    refine List.mem_flatMap.2 ⟨test.predicate, ?_, hName⟩
    refine List.mem_map_of_mem (List.mem_flatMap.2 ⟨found, ?_, hTest⟩)
    exact Option.mem_toList.2 hFound
  have hKey : name ∈ parameters.keys := by
    rw [hKeys]
    exact List.mem_append_right _ hMem
  obtain ⟨⟨key, value⟩, hEntry, rfl⟩ := List.mem_map.1 hKey
  exact ⟨value, hEntry⟩

theorem compileAggregates_ne_nil {paged : Bool} {rowAlias : String}
    {aggregates : List (String × Aggregate)} {items : List (String × Total)}
    (hNe : aggregates ≠ []) (h : compileAggregates rowAlias paged aggregates = .ok items) :
    items ≠ [] := by
  obtain ⟨first, rest, rfl⟩ := List.exists_cons_of_ne_nil hNe
  rw [compileAggregates, List.mapM_cons] at h
  obtain ⟨item, -, h⟩ := Compiled.bind_eq_ok.1 h
  obtain ⟨others, -, h⟩ := Compiled.bind_eq_ok.1 h
  obtain rfl := Except.ok.inj h
  exact List.cons_ne_nil _ _

end Compiled

/-! ## The same rows -/

/-- Both statements of a request say of their rows what a row set says. -/
structure Request.SharesRows (request : Request) (config : Config) (tags : Tags) (scope : Scope)
    (rows totals : Prepared) (shared : RowSet) : Prop where
  source : shared.source = request.table.keyspace config
  rowAlias : shared.rowAlias = scope.rowAlias
  kind : shared.kind = request.table.rowAlias
  limit : shared.limit = request.query.limit
  offset : shared.offset = request.query.offset
  /-- The row statement has every clause. -/
  rowsText : ∃ (items : List (String × Item)) (bindings : List (String × Option Select)),
    rows.text = tags.tag "query" (joinClauses [
      "SELECT " ++ tags.tag "select_fields" (", ".intercalate (items.map itemText)),
      shared.fromText,
      tags.tag "let" (clause "LET" ", " (Select.text.bindingTexts tags bindings)),
      shared.whereText tags,
      shared.orderText tags,
      shared.limitText tags,
      shared.offsetText tags])
  /-- For a page, all clauses stand in the statement in parentheses and none after it. -/
  pageText : request.query.isPaged = true → ∃ items : List (String × Total),
    totals.text = tags.tag "aggregate_query" (joinClauses [
      "SELECT " ++ tags.tag "aggregate_fields" (", ".intercalate (items.map totalText)),
      "FROM (" ++ joinClauses [
        "SELECT RAW OBJECT_PUT(" ++ quoteName shared.rowAlias ++ ", " ++ Json.quote "id"
          ++ ", META(" ++ quoteName shared.rowAlias ++ ").id)",
        shared.fromText,
        shared.whereText tags,
        shared.orderText tags,
        shared.limitText tags,
        shared.offsetText tags]
      ++ ") AS " ++ quoteName shared.rowAlias])
  /-- For all rows, only the condition is left. -/
  wholeText : request.query.isPaged = false → ∃ items : List (String × Total),
    totals.text = tags.tag "aggregate_query" (joinClauses [
      "SELECT " ++ tags.tag "aggregate_fields" (", ".intercalate (items.map totalText)),
      shared.fromText,
      shared.whereText tags])
  parameters : totals.parameters <+: rows.parameters
  /-- What a placeholder of the condition stands for is the same in both. -/
  bound : ∀ condition ∈ shared.condition, ∀ test ∈ condition.atoms,
    ∀ name ∈ test.predicate.parameters, ∃ value,
      totals.parameters.lookup name = some value ∧ rows.parameters.lookup name = some value
  /-- What a reader finds: the rows of the aggregate statement are those of the row statement. The
  trees in which nothing more is said of them have neither order nor bounds. -/
  readBack : request.query.isBuiltIn → scope.stem ≠ "" → ∃ found counted,
    Outline.read rows.text = some found ∧ TotalsOutline.read totals.text = some counted ∧
    counted.rows =
      if request.query.isPaged then .all (.values shared.keyed found.rows) found.rowAlias none
      else .all (.stored found.source) found.rowAlias found.condition

/-- The lexemes of an aggregate statement. -/
theorem spells_ofTotals (tags : Tags) {select : TotalsSelect} (parameters : Parameters)
    (h : select.IsPlain) :
    Spells (Prepared.ofTotals tags (some select, parameters)).text select.lexemes :=
  (TotalsSelect.spells tags h).tag tags (by decide)

/-- The order of rows that are no page leaves no trace in a statement that computes totals. -/
theorem TotalsSelect.text_unordered (tags : Tags) (items : List (String × Total)) {rows : RowSet}
    (h : rows.isPaged = false) (order : Option (List (Reference × Direction))) :
    TotalsSelect.text tags ⟨items, { rows with order }⟩ =
      TotalsSelect.text tags ⟨items, rows⟩ := by
  have hRows : ¬rows.isPaged = true := by simp [h]
  have hOther : ¬RowSet.isPaged { rows with order } = true := hRows
  rw [TotalsSelect.text, TotalsSelect.text, if_neg hRows, if_neg hOther]
  rfl

/-- What a reader finds of the rows of two statements with the same row set. -/
theorem read_sharing (tags : Tags) {items : List (String × Item)}
    {bindings : List (String × Option Select)} {totals : List (String × Total)} {shared : RowSet}
    (later middle : Parameters) (hSelect : Select.IsPlain ⟨items, bindings, shared⟩)
    (hTotals : totals ≠ []) :
    ∃ found counted,
      Outline.read (Prepared.ofRows tags (some ⟨items, bindings, shared⟩, later)).text =
        some found ∧
      TotalsOutline.read (Prepared.ofTotals tags (some ⟨totals, shared⟩, middle)).text =
        some counted ∧
      counted.rows =
        if shared.isPaged then .all (.values shared.keyed found.rows) found.rowAlias none
        else .all (.stored found.source) found.rowAlias found.condition := by
  have hPlain : TotalsSelect.IsPlain ⟨totals, shared⟩ := by
    obtain ⟨-, hCondition, -⟩ := hSelect
    exact ⟨hTotals, hCondition⟩
  have hFound := (spells_ofRows tags later hSelect).read hSelect
  have hCounted := (spells_ofTotals tags middle hPlain).read_totals hPlain
  exact ⟨_, _, hFound, hCounted, rfl⟩

section Compiled

variable {request : Request} {config : Config} {settings : Settings} {scope : Scope}
  {rows totals : Prepared}

/-- Where two statements come from that are not empty. -/
theorem Request.compile_rows_and_totals_ok
    (hRows : request.compileRows config settings scope = .ok rows)
    (hTotals : request.compileTotals config settings scope = .ok totals)
    (hRowsText : rows.text ≠ "") (hTotalsText : totals.text ≠ "") :
    ∃ (items : List (String × Item)) (bindings : List (String × Option Select))
      (totalItems : List (String × Total)) (condition : Option Condition)
      (order : Option (List (Reference × Direction))) (middle later : Parameters),
      let shared := request.query.rowSet (request.surroundings config) request.table scope
        condition order
      Filter.compileOption scope [] request.query.filter = .ok (condition, middle) ∧
      middle <+: later ∧ totalItems ≠ [] ∧
      QueryCompiles (request.surroundings config) request.table scope request.query.filter
        request.query.limit [] request.query (some ⟨items, bindings, shared⟩) later ∧
      rows = .ofRows settings.tags (some ⟨items, bindings, shared⟩, later) ∧
      totals = .ofTotals settings.tags (some ⟨totalItems, shared⟩, middle) := by
  obtain ⟨⟨select, later⟩, hSelect, hPrepared⟩ := Compiled.bind_eq_ok.1 hRows
  obtain rfl := Except.ok.inj hPrepared
  obtain ⟨⟨totalsSelect, parameters⟩, hTotalsSelect, hPrepared⟩ := Compiled.bind_eq_ok.1 hTotals
  obtain rfl := Except.ok.inj hPrepared
  obtain ⟨items, bindings, shared, rfl⟩ : ∃ items bindings shared,
      select = some ⟨items, bindings, shared⟩ := by
    cases select with
    | none => exact absurd rfl hRowsText
    | some select =>
        obtain ⟨items, bindings, shared⟩ := select
        exact ⟨items, bindings, shared, rfl⟩
  obtain ⟨totalItems, counted, rfl⟩ : ∃ totalItems counted,
      totalsSelect = some ⟨totalItems, counted⟩ := by
    cases totalsSelect with
    | none => exact absurd rfl hTotalsText
    | some select => exact ⟨select.items, select.rows, rfl⟩
  obtain ⟨condition, middle, order, hFilter, hPrefix, hOrder, hShared⟩ :=
    Query.compileRows_ok_some hSelect
  obtain ⟨hAggregates, condition', pageOrder, hFilter', hItems, hPageOrder, hCounted⟩ :=
    Query.compileTotals_ok_some hTotalsSelect
  -- Both start from the same filter and no parameters, so they get the same condition.
  obtain ⟨hCondition, hParameters⟩ := Prod.mk.inj (Except.ok.inj (hFilter.symm.trans hFilter'))
  subst hCondition hParameters
  simp only at hShared hCounted hItems
  subst hShared hCounted
  refine ⟨items, bindings, totalItems, condition, order, middle, later, hFilter, hPrefix,
    compileAggregates_ne_nil hAggregates hItems, Query.compileWith_ok hSelect, rfl, ?_⟩
  unfold Query.compilePageOrder at hPageOrder
  by_cases hPaged : request.query.isPaged = true
  · rw [if_pos hPaged, hOrder] at hPageOrder
    obtain rfl := Except.ok.inj hPageOrder
    rfl
  · let shared := request.query.rowSet (request.surroundings config) request.table scope condition
      order
    have hWhole : shared.isPaged = false := Bool.eq_false_iff.2 hPaged
    have hText := TotalsSelect.text_unordered settings.tags totalItems hWhole pageOrder
    exact congrArg (fun text => Prepared.mk (settings.tags.tag "aggregate_query" text) middle) hText

/-- The two statements of a request, if neither is empty, select the same rows under the same
parameters. -/
theorem Request.totals_share_rows (hRows : request.compileRows config settings scope = .ok rows)
    (hTotals : request.compileTotals config settings scope = .ok totals)
    (hRowsText : rows.text ≠ "") (hTotalsText : totals.text ≠ "") :
    ∃ shared, request.SharesRows config settings.tags scope rows totals shared := by
  obtain ⟨items, bindings, totalItems, condition, order, middle, later, hFilter, hPrefix, hItems,
    hQuery, rfl, rfl⟩ := Request.compile_rows_and_totals_ok hRows hTotals hRowsText hTotalsText
  let shared := request.query.rowSet (request.surroundings config) request.table scope condition
    order
  have hPaged : shared.isPaged = request.query.isPaged := rfl
  refine ⟨shared, rfl, rfl, rfl, rfl, rfl, ⟨items, bindings, ?_⟩, ?_, ?_, hPrefix, ?_, ?_⟩
  · show settings.tags.tag "query" (Select.text settings.tags ⟨items, bindings, shared⟩) = _
    rw [Select.text]
  · intro hQueryPaged
    refine ⟨totalItems, ?_⟩
    show settings.tags.tag "aggregate_query" (TotalsSelect.text settings.tags ⟨totalItems, shared⟩)
      = _
    rw [TotalsSelect.text, hPaged, if_pos hQueryPaged]
    rfl
  · intro hWhole
    refine ⟨totalItems, ?_⟩
    show settings.tags.tag "aggregate_query" (TotalsSelect.text settings.tags ⟨totalItems, shared⟩)
      = _
    rw [TotalsSelect.text, hPaged, if_neg (by simp [hWhole])]
  · intro found hFound test hTest name hName
    have hNodup : later.keys.Nodup := hQuery.binds.nodup_keys List.nodup_nil
    have hNodup' : middle.keys.Nodup :=
      (Filter.compileOption_ok hFilter).binds.nodup_keys List.nodup_nil
    obtain ⟨value, hEntry⟩ := Filter.lookup_compileOption hFilter hFound hTest hName
    exact ⟨value, lookup_eq_some_of_mem hNodup' hEntry, lookup_of_isPrefix hPrefix hNodup hEntry⟩
  · intro hBuiltIn hStem
    have hPlain : Select.IsPlain ⟨items, bindings, shared⟩ :=
      hQuery.isPlain hStem (Query.all_isBuiltIn_filter hBuiltIn) hBuiltIn _ rfl
    exact read_sharing settings.tags later middle hPlain hItems

end Compiled

/-- A request for a page of rows and for totals of that page. The parameter of its filter has the
name that the query nested in it would choose first for its own. -/
def pagedRequest : Request where
  table := ⟨["t"]⟩
  relationships := [⟨⟨["t"]⟩, [("r", ⟨⟨["u"]⟩, .array, [("a", "b")]⟩)]⟩]
  query := {
    fields := some [("f", .relationship "r" {
      fields := some [("y", .column "y" none)]
      aggregates := none
      filter := some (.atom (.binary .equal (.ofCurrent "c") (.scalar (.nat 1) none)))
      limit := none
      offset := none
      order := none })]
    aggregates := some [("n", .starCount), ("last", .singleColumn "id" .max none)]
    filter := some (.atom (.binary .lessThan (.ofCurrent "f_and_c") (.scalar (.nat 2) none)))
    limit := some 2
    offset := some 1
    order := some { elements := [{ target := .column "id", direction := .descending }] } }

theorem totals_share_rows_paged :
    ∃ rows totals, pagedRequest.compileRows bucketConfig {} (.root ⟨["t"]⟩) = .ok rows ∧
      pagedRequest.compileTotals bucketConfig {} (.root ⟨["t"]⟩) = .ok totals ∧
      Entries.keys rows.parameters = ["p_f_and_c", "p_f_and_c_1"] ∧
      ∃ shared, pagedRequest.SharesRows bucketConfig ⟨false⟩ (.root ⟨["t"]⟩) rows totals shared := by
  obtain ⟨rows, totals, hRows, hTotals, hKeys, hRowsText, hTotalsText⟩ : ∃ rows totals,
      pagedRequest.compileRows bucketConfig {} (.root ⟨["t"]⟩) = .ok rows ∧
      pagedRequest.compileTotals bucketConfig {} (.root ⟨["t"]⟩) = .ok totals ∧
      Entries.keys rows.parameters = ["p_f_and_c", "p_f_and_c_1"] ∧
      rows.text ≠ "" ∧ totals.text ≠ "" :=
    ⟨_, _, rfl, rfl, rfl, by decide +kernel, by decide +kernel⟩
  exact ⟨rows, totals, hRows, hTotals, hKeys,
    Request.totals_share_rows hRows hTotals hRowsText hTotalsText⟩

end N1qlConnector
