import N1qlConnector.Proofs.Compile.Rows
import N1qlConnector.Proofs.Statement.Scoping

/-!
# Which names are captured

The alias of a nested query is kept apart from the aliases around it, since it would hide the row it
depends on. Nothing keeps the other names of a statement apart from the aliases: a relationship field
`f` is bound to `lf`, whatever the tables are called. So a field can take the place of the row that
its query reads, or of the row around that a filter or a relationship looks at.

`Query.binders` lists what the names of a statement are meant for, as the request says it, and
`Query.KeepsApart` says of a request that no field takes the place of a row that is looked at. The
names of the statement stand for what they are meant for exactly if this is so.

## Main results

* `Query.forall₂_means_iff` : when no name of a compiled statement is captured.
-/

namespace N1qlConnector

open Statement

/-! ## What names are meant for -/

def Comparison.columns : Comparison → List Column
  | .exists _ => []
  | .unary _ column => [column]
  | .binary _ column (.column other) => [column, other]
  | .binary _ column (.scalar _ _) => [column]
  | .array _ column _ _ => [column]

/-- All columns of a filter, from left to right. -/
def Filter.columns (filter : Filter) : List Column := filter.atoms.flatMap Comparison.columns

/-- The row of a column: the current one, or the one around if there is one. -/
def Column.binder (nested : Bool) (column : Column) : Binder :=
  if column.isCurrent || !nested then .row 0 else .row 1

/-- The rows of all columns of a filter that may be absent. -/
def Filter.binders (nested : Bool) (filter : Option Filter) : List Binder :=
  ((filter.map Filter.columns).getD []).map (Column.binder nested)

/-- What the item of a field reads from: the current row, or what the field is bound to. -/
def Field.binder (name : String) : Field → Binder
  | .column _ _ => .row 0
  | .relationship _ _ => .binding 0 ("l" ++ name)

/-- The rows of a nested condition. The columns that have to agree belong to the current row and to
the one around. -/
def Relationship.binders (relationship : Relationship) (own : Option Filter) : List Binder :=
  Filter.binders true own ++ relationship.columnMapping.flatMap fun _ => [.row 0, .row 1]

mutual

/-- What the names of the statement of a query are meant for, given those of its condition. -/
def Query.bindersWith (surroundings : Surroundings) (table : TableName)
    (condition : List Binder) : Query → List Binder
  | ⟨none, _, _, _, _, _⟩ => []
  | ⟨some [], _, _, _, _, _⟩ => []
  | ⟨some (field :: fields), _, _, _, _, order⟩ =>
    (field :: fields).map (fun named => named.2.binder named.1)
      ++ (.row 0 :: condition
        ++ ((order.map Order.elements).getD []).map fun _ => Binder.row 0)
      ++ bindersOfFields surroundings table (field :: fields)

/-- The same for the statements of all fields. -/
def bindersOfFields (surroundings : Surroundings) (table : TableName) :
    List (String × Field) → List Binder
  | [] => []
  | (_, .column _ _) :: rest => bindersOfFields surroundings table rest
  | (_, .relationship relationship query) :: rest =>
    match surroundings.catalogue.find? table relationship with
    | none => bindersOfFields surroundings table rest
    | some relationship =>
      query.bindersWith surroundings relationship.target (relationship.binders query.filter)
        ++ bindersOfFields surroundings table rest

end

theorem Query.bindersWith_of_fieldList_eq_nil {surroundings : Surroundings} {table : TableName}
    {condition : List Binder} {query : Query} (h : query.fieldList = []) :
    query.bindersWith surroundings table condition = [] := by
  obtain ⟨fields, aggregates, filter, limit, offset, order⟩ := query
  rcases fields_of_fieldList_eq_nil h with hNone | hNil
  · obtain rfl := hNone
    rw [Query.bindersWith]
  · obtain rfl := hNil
    rw [Query.bindersWith]

/-- What the names of the statement of a query are meant for. -/
def Query.binders (surroundings : Surroundings) (table : TableName) (query : Query) :
    List Binder :=
  query.bindersWith surroundings table (Filter.binders false query.filter)

/-! ## Names that are kept apart -/

/-- The names that the fields of a query are bound to. -/
def fieldNames (fields : List (String × Field)) : List String :=
  fields.filterMap fun named =>
    match named.2 with
    | .column _ _ => none
    | .relationship _ _ => some ("l" ++ named.1)

mutual

/-- No two fields of a query are bound to the same name, none takes the place of its rows, and none
that of the rows around if the condition looks at them. The same holds for all nested queries. -/
def Query.KeepsApartWith (surroundings : Surroundings) (table : TableName) (scope : Scope)
    (condition : List Binder) : Query → Prop
  | ⟨none, _, _, _, _, _⟩ => True
  | ⟨some [], _, _, _, _, _⟩ => True
  | ⟨some (field :: fields), _, _, _, _, _⟩ =>
    ((fieldNames (field :: fields)).Nodup ∧
      scope.rowAlias ∉ fieldNames (field :: fields) ∧
      (.row 1 ∈ condition → scope.enclosing ∉ fieldNames (field :: fields))) ∧
    FieldsKeepApart surroundings table scope (field :: fields)

/-- The same for the queries of all fields. -/
def FieldsKeepApart (surroundings : Surroundings) (table : TableName) (scope : Scope) :
    List (String × Field) → Prop
  | [] => True
  | (_, .column _ _) :: rest => FieldsKeepApart surroundings table scope rest
  | (name, .relationship relationship query) :: rest =>
    match surroundings.catalogue.find? table relationship with
    | none => FieldsKeepApart surroundings table scope rest
    | some relationship =>
      query.KeepsApartWith surroundings relationship.target
        (scope.nested relationship.target name) (relationship.binders query.filter)
      ∧ FieldsKeepApart surroundings table scope rest

end

/-- A query without fields has no statement, so nothing is captured. -/
theorem Query.keepsApartWith_of_fieldList_eq_nil {surroundings : Surroundings} {table : TableName}
    {scope : Scope} {condition : List Binder} {query : Query} (h : query.fieldList = []) :
    query.KeepsApartWith surroundings table scope condition := by
  obtain ⟨fields, aggregates, filter, limit, offset, order⟩ := query
  rcases fields_of_fieldList_eq_nil h with hNone | hNil
  · obtain rfl := hNone
    rw [Query.KeepsApartWith]
    trivial
  · obtain rfl := hNil
    rw [Query.KeepsApartWith]
    trivial

/-- No field of a query takes the place of a row that is looked at. -/
def Query.KeepsApart (surroundings : Surroundings) (table : TableName) (query : Query) : Prop :=
  query.KeepsApartWith surroundings table (.root table) (Filter.binders false query.filter)

/-! ## Names of conditions, items and orders -/

theorem Reference.rowAlias_ofColumn (rowAlias column : String) :
    (Reference.ofColumn rowAlias column).rowAlias = rowAlias := by
  unfold Reference.ofColumn
  split
  · rfl
  · rfl

theorem Comparison.references_described (scope : Scope) (comparison : Comparison) :
    (comparison.described scope).references =
      comparison.columns.map (Column.described scope) := by
  cases comparison with
  | «exists» table => rfl
  | unary operator column => rfl
  | binary operator column operand => cases operand <;> rfl
  | array operator column values type => rfl

/-- The references of compiled conditions are those of the columns of the filters. -/
theorem Compiles.references {scope : Scope} {stem : String} {parameters later : Parameters}
    {filters : List Filter} {conditions : List Condition}
    (h : Compiles scope stem parameters filters conditions later) (hNodup : later.keys.Nodup) :
    (conditions.flatMap Formula.atoms).flatMap Test.references =
      (filters.flatMap Filter.columns).map (Column.described scope) := by
  have hDescribed := h.described later (List.prefix_refl _) hNodup
  have hAtoms := congrArg (fun formulas =>
    (formulas.flatMap Formula.atoms).flatMap Predicate.references) hDescribed
  simp only [List.flatMap_map, Formula.atoms_map, List.flatMap_assoc,
    Predicate.references_map, Test.references_predicate, Comparison.references_described] at hAtoms
  rw [List.flatMap_assoc, hAtoms, List.map_flatMap]
  refine List.flatMap_congr fun filter _ => ?_
  rw [Filter.columns, List.map_flatMap]

theorem Relationship.binders_filter (relationship : Relationship) (own : Option Filter) :
    (Filter.columns (relationship.filter own)).map (Column.binder true) =
      relationship.binders own := by
  rw [Filter.columns, Relationship.filter, Formula.atoms_all, List.flatMap_append,
    List.flatMap_append, List.map_append, Relationship.binders]
  congr 1
  · cases own with
    | none => rfl
    | some filter => simp [Filter.binders, Filter.columns]
  · rw [Relationship.correlations, List.flatMap_map, List.flatMap_assoc, List.map_flatMap]
    rfl

theorem OrderElement.rowAlias_of_compile {scope : Scope} {element : OrderElement}
    {found : Reference × Direction} (h : element.compile scope = .ok found) :
    found.1.rowAlias = scope.rowAlias := by
  obtain ⟨path, target, direction⟩ := element
  cases target with
  | column column =>
      cases path with
      | nil =>
          obtain rfl := Except.ok.inj h
          exact Reference.rowAlias_ofColumn _ _
      | cons first rest => cases h
  | starCount => cases h
  | aggregate column function => cases h

/-- Every element of an order is a column of the rows themselves. -/
theorem OrderElement.rowAliases_of_mapM {scope : Scope} {elements : List OrderElement}
    {found : List (Reference × Direction)}
    (h : elements.mapM (OrderElement.compile scope) = .ok found) :
    found.map (fun element => element.1.rowAlias) = elements.map fun _ => scope.rowAlias := by
  induction elements generalizing found with
  | nil =>
      obtain rfl := Except.ok.inj h
      rfl
  | cons element rest ih =>
      rw [List.mapM_cons] at h
      obtain ⟨first, hFirst, h⟩ := Compiled.bind_eq_ok.1 h
      obtain ⟨others, hOthers, h⟩ := Compiled.bind_eq_ok.1 h
      obtain rfl := Except.ok.inj h
      rw [List.map_cons, List.map_cons, OrderElement.rowAlias_of_compile hFirst, ih hOthers]

theorem Order.rowAliases_of_compile {scope : Scope} {order : Option Order}
    {found : Option (List (Reference × Direction))}
    (h : Order.compileOption scope order = .ok found) :
    (found.getD []).map (fun element => element.1.rowAlias) =
      ((order.map Order.elements).getD []).map fun _ => scope.rowAlias := by
  cases order with
  | none =>
      obtain rfl := Except.ok.inj h
      rfl
  | some order =>
      cases hElements : order.elements.mapM (OrderElement.compile scope) with
      | error fault =>
          rw [Order.compileOption, hElements] at h
          cases h
      | ok elements =>
          rw [Order.compileOption, hElements] at h
          obtain rfl := Except.ok.inj h
          exact OrderElement.rowAliases_of_mapM hElements

/-! ## The names of one query -/

/-- What is known of the frames around the statement of a query: at the root there is nothing around,
and a nested query has an alias of its own and sees the rows around it. -/
inductive Scope.Fits (scope : Scope) : Bool → List Frame → Prop
  | root (hAlias : scope.enclosing = scope.rowAlias) : Fits scope false []
  | nested {frame : Frame} {rest : List Frame} (hAlias : scope.enclosing ≠ scope.rowAlias)
      (hFrame : frame.rowAlias = scope.enclosing) (hFree : frame.rowAlias ∉ frame.bindings) :
      Fits scope true (frame :: rest)

/-- The names in the clauses of a query, with what they are meant for. -/
def ownNames (scope : Scope) (nested : Bool) (fields : List (String × Field))
    (columns : List Column) (elements : List OrderElement) : List (String × Binder) :=
  fields.map (fun named => ((named.2.described scope named.1).name, named.2.binder named.1))
    ++ ((scope.rowAlias, .row 0)
      :: columns.map (fun column => ((column.described scope).rowAlias, column.binder nested))
      ++ elements.map fun _ => (scope.rowAlias, .row 0))

theorem mem_fieldNames {fields : List (String × Field)} {bound : String} :
    bound ∈ fieldNames fields ↔ ∃ name relationship query,
      (name, Field.relationship relationship query) ∈ fields ∧ "l" ++ name = bound := by
  unfold fieldNames
  rw [List.mem_filterMap]
  constructor
  · rintro ⟨⟨name, field⟩, hMem, hName⟩
    cases field with
    | column column type => cases hName
    | relationship relationship query => exact ⟨name, relationship, query, hMem, Option.some.inj hName⟩
  · rintro ⟨name, relationship, query, hMem, hName⟩
    exact ⟨(name, .relationship relationship query), hMem, congrArg some hName⟩

theorem Field.name_described_column (scope : Scope) (name column : String)
    (type : Option String) : ((Field.column column type).described scope name).name =
      scope.rowAlias := by
  rw [Field.described]
  by_cases hKey : column = keyColumn
  · rw [if_pos hKey]
    rfl
  · by_cases hRoot : scope.ancestors = []
    · rw [if_neg hKey, if_pos hRoot]
      rfl
    · rw [if_neg hKey, if_neg hRoot]
      rfl

/-- A column belongs to the current row, or it sees the row around. -/
theorem Column.name_cases {scope : Scope} {nested : Bool} {outer : List Frame}
    (h : scope.Fits nested outer) (column : Column) :
    ((column.described scope).rowAlias, column.binder nested) = (scope.rowAlias, .row 0) ∨
      nested = true ∧
        ((column.described scope).rowAlias, column.binder nested) = (scope.enclosing, .row 1) := by
  rw [Column.described, Reference.rowAlias_ofColumn, Column.binder]
  cases hCurrent : column.isCurrent with
  | true => exact .inl (by simp)
  | false =>
      cases h with
      | root hAlias => exact .inl (by simp [hAlias])
      | nested hAlias hFrame hFree => exact .inr ⟨rfl, by simp⟩

/-- The names of a query stand for what they are meant for, as long as its fields are bound to names
that are nothing else. -/
theorem ownNames_iff {scope : Scope} {nested : Bool} {outer : List Frame}
    (hFits : scope.Fits nested outer) (fields : List (String × Field)) (columns : List Column)
    (elements : List OrderElement) :
    (∀ pair ∈ ownNames scope nested fields columns elements,
        resolve (⟨scope.rowAlias, fieldNames fields⟩ :: outer) pair.1 = some pair.2) ↔
      (fieldNames fields).Nodup ∧ scope.rowAlias ∉ fieldNames fields ∧
        (.row 1 ∈ columns.map (Column.binder nested) → scope.enclosing ∉ fieldNames fields) := by
  let frame : Frame := ⟨scope.rowAlias, fieldNames fields⟩
  have hEnclosing : nested = true →
      (resolve (frame :: outer) scope.enclosing = some (.row 1) ↔
        scope.enclosing ∉ fieldNames fields) := by
    intro hNested
    cases hFits with
    | root hAlias => cases hNested
    | @nested parent rest hAlias hFrame hFree =>
        have hApart : parent.rowAlias ≠ frame.rowAlias := by
          rw [hFrame]
          exact hAlias
        have hParent := resolve_enclosing frame rest hApart hFree
        rw [hFrame] at hParent
        exact hParent
  constructor
  · intro hMeans
    have hAlias : scope.rowAlias ∉ fieldNames fields := by
      have hKind := hMeans (scope.rowAlias, .row 0) (by simp [ownNames])
      exact (resolve_rowAlias frame outer).1 hKind
    refine ⟨?_, hAlias, ?_⟩
    · rw [List.nodup_iff_count_eq_one]
      intro bound hBound
      obtain ⟨name, relationship, query, hField, rfl⟩ := mem_fieldNames.1 hBound
      have hItem := hMeans ("l" ++ name, .binding 0 ("l" ++ name))
        (List.mem_append_left _ (List.mem_map.2 ⟨_, hField, rfl⟩))
      exact ((resolve_binding frame outer hBound).1 hItem).2
    · intro hOuter
      obtain ⟨column, hColumn, hRow⟩ := List.mem_map.1 hOuter
      rcases Column.name_cases hFits column with hPair | ⟨hNested, hPair⟩
      · rw [Prod.mk.injEq, hRow] at hPair
        cases hPair.2
      · have hName := hMeans _ (List.mem_append_right _ (List.mem_append_left _
          (List.mem_cons_of_mem _ (List.mem_map.2 ⟨column, hColumn, rfl⟩))))
        rw [hPair] at hName
        exact (hEnclosing hNested).1 hName
  · rintro ⟨hNodup, hAlias, hOuter⟩ pair hPair
    have hRow : resolve (frame :: outer) scope.rowAlias = some (.row 0) :=
      (resolve_rowAlias frame outer).2 hAlias
    rcases List.mem_append.1 hPair with hItem | hPair
    · obtain ⟨⟨name, field⟩, hField, rfl⟩ := List.mem_map.1 hItem
      cases field with
      | column column type =>
          simp only [Field.name_described_column]
          exact hRow
      | relationship relationship query =>
          have hBound : "l" ++ name ∈ fieldNames fields :=
            mem_fieldNames.2 ⟨name, relationship, query, hField, rfl⟩
          refine (resolve_binding frame outer hBound).2 ⟨?_, ?_⟩
          · intro hEq
            rw [hEq] at hBound
            exact hAlias hBound
          · exact List.nodup_iff_count_eq_one.1 hNodup _ hBound
    · rcases List.mem_append.1 hPair with hPair | hOrder
      · rcases List.mem_cons.1 hPair with rfl | hColumn
        · exact hRow
        · obtain ⟨column, hMem, rfl⟩ := List.mem_map.1 hColumn
          rcases Column.name_cases hFits column with hPair | ⟨hNested, hPair⟩
          · rw [hPair]
            exact hRow
          · rw [hPair]
            refine (hEnclosing hNested).2 (hOuter (List.mem_map.2 ⟨column, hMem, ?_⟩))
            exact (Prod.mk.inj hPair).2
      · obtain ⟨element, -, rfl⟩ := List.mem_map.1 hOrder
        exact hRow

/-! ## Statements -/

/-- The names of a statement that may be absent. -/
def Statement.occurrencesOf (outer : List Frame) (select : Option Select) :
    List (List Frame × String) :=
  (select.map fun found => found.occurrences outer).getD []

/-- What is proved of a query by induction. That there are as many names as things meant is known
without any condition, so that the names of several queries can be taken apart again. -/
def Query.Accounted (surroundings : Surroundings) (query : Query) : Prop :=
  ∀ {table : TableName} {scope : Scope} {filter : Option Filter} {limit : Option UInt64}
    {parameters later : Parameters} {select : Option Select} (nested : Bool) (outer : List Frame),
    parameters.keys.Nodup →
    query.compileWith surroundings table scope filter limit parameters = .ok (select, later) →
    (occurrencesOf outer select).length =
        (query.bindersWith surroundings table (Filter.binders nested filter)).length ∧
      (scope.Fits nested outer →
        (List.Forall₂ Means (occurrencesOf outer select)
            (query.bindersWith surroundings table (Filter.binders nested filter)) ↔
          query.KeepsApartWith surroundings table scope (Filter.binders nested filter)))

/-- The same for fields, below a statement whose own alias nothing hides. -/
theorem forall₂_means_ofBindings {surroundings : Surroundings} {table : TableName} {scope : Scope}
    {fields : List (String × Field)}
    (hQueries : ∀ name relationship sub, (name, Field.relationship relationship sub) ∈ fields →
      Query.Accounted surroundings sub)
    (frame : Frame) (outer : List Frame) {parameters later : Parameters} {projection : Projection}
    (hNodup : parameters.keys.Nodup)
    (h : compileFields surroundings table scope parameters fields = .ok (projection, later)) :
    (Select.occurrences.ofBindings (frame :: outer) projection.bindings).length =
        (bindersOfFields surroundings table fields).length ∧
      (frame.rowAlias = scope.rowAlias → frame.rowAlias ∉ frame.bindings →
        (List.Forall₂ Means (Select.occurrences.ofBindings (frame :: outer) projection.bindings)
            (bindersOfFields surroundings table fields) ↔
          FieldsKeepApart surroundings table scope fields)) := by
  induction fields generalizing parameters projection with
  | nil =>
      rw [compileFields] at h
      obtain ⟨rfl, rfl⟩ := Prod.mk.inj (Except.ok.inj h)
      rw [bindersOfFields, FieldsKeepApart]
      exact ⟨rfl, fun _ _ => ⟨fun _ => trivial, fun _ => .nil⟩⟩
  | cons first rest ih =>
      have hOthers : ∀ {middle : Parameters} {others : Projection}, middle.keys.Nodup →
          compileFields surroundings table scope middle rest = .ok (others, later) → _ :=
        ih fun name relationship sub hMem =>
          hQueries name relationship sub (List.mem_cons_of_mem _ hMem)
      obtain ⟨name, field⟩ := first
      cases field with
      | column column type =>
          obtain ⟨others, hRest, rfl⟩ := compileFields_column_ok h
          have hMore := hOthers hNodup hRest
          rw [bindersOfFields, FieldsKeepApart]
          exact hMore
      | relationship relationship query =>
          obtain ⟨followed, select, middle, others, hFind, hSelect, hRest, rfl⟩ :=
            compileFields_relationship_ok h
          have hMiddle : middle.keys.Nodup := (Query.compileWith_ok hSelect).binds.nodup_keys hNodup
          obtain ⟨hLength, hFirst⟩ := hQueries name relationship query List.mem_cons_self true
            (frame :: outer) hNodup hSelect
          obtain ⟨hLengths, hMore⟩ := hOthers hMiddle hRest
          have hBinders : Filter.binders true (some (followed.filter query.filter)) =
              followed.binders query.filter := followed.binders_filter query.filter
          rw [hBinders] at hLength hFirst
          have hNames : Select.occurrences.ofBindings (frame :: outer)
              ((bindingName name, select) :: others.bindings) =
                occurrencesOf (frame :: outer) select ++
                  Select.occurrences.ofBindings (frame :: outer) others.bindings := by
            cases select <;> rfl
          rw [bindersOfFields, FieldsKeepApart, hFind, hNames]
          refine ⟨by rw [List.length_append, List.length_append, hLength, hLengths], ?_⟩
          intro hAlias hFree
          have hApart := Scope.rowAlias_nested_ne scope followed.target name
          have hFits : (scope.nested followed.target name).Fits true (frame :: outer) :=
            .nested hApart.symm hAlias hFree
          rw [forall₂_append_iff hLength, hFirst hFits, hMore hAlias hFree]

/-- The names in the clauses of a statement are those of its query. -/
theorem names_eq_ownNames {surroundings : Surroundings} {table : TableName} {scope : Scope}
    {filter : Option Filter} {order : Option Order} {parameters middle later : Parameters}
    {condition : Option Condition} {projection : Projection} {fields : List (String × Field)}
    {found : Option (List (Reference × Direction))} (nested : Bool)
    (hFilter : Compiles scope scope.stem parameters filter.toList condition.toList middle)
    (hNodup : middle.keys.Nodup)
    (hFields : FieldsCompile surroundings table scope middle fields projection later)
    (hOrder : Order.compileOption scope order = .ok found) (rows : RowSet)
    (hAlias : rows.rowAlias = scope.rowAlias) (hCondition : rows.condition = condition)
    (hFound : rows.order = found) :
    projection.items.map (fun item => item.2.name) ++ rows.names =
      (ownNames scope nested fields ((filter.map Filter.columns).getD [])
        ((order.map Order.elements).getD [])).map Prod.fst := by
  have hColumns : filter.toList.flatMap Filter.columns = (filter.map Filter.columns).getD [] := by
    cases filter <;> simp
  rw [RowSet.names, hAlias, hCondition, hFound, hFields.items, hFilter.references hNodup, hColumns,
    Order.rowAliases_of_compile hOrder, ownNames]
  simp only [List.map_append, List.map_cons, List.map_map]
  rfl

theorem FieldsCompile.map_fst_bindings {surroundings : Surroundings} {table : TableName}
    {scope : Scope} {fields : List (String × Field)} {parameters later : Parameters}
    {projection : Projection}
    (h : compileFields surroundings table scope parameters fields = .ok (projection, later)) :
    projection.bindings.map Prod.fst = fieldNames fields := by
  induction fields generalizing parameters projection with
  | nil =>
      rw [compileFields] at h
      obtain ⟨rfl, rfl⟩ := Prod.mk.inj (Except.ok.inj h)
      rfl
  | cons first rest ih =>
      obtain ⟨name, field⟩ := first
      cases field with
      | column column type =>
          obtain ⟨others, hRest, rfl⟩ := compileFields_column_ok h
          have hMore := ih hRest
          exact hMore
      | relationship relationship query =>
          obtain ⟨followed, select, middle, others, hFind, hSelect, hRest, rfl⟩ :=
            compileFields_relationship_ok h
          exact congrArg (bindingName name :: ·) (ih hRest)

/-- The names of a query with fields are meant for what its own names are meant for, followed by those
of its fields. -/
theorem Query.bindersWith_fields (surroundings : Surroundings) (table : TableName) (scope : Scope)
    (nested : Bool) (filter : Option Filter) (first : String × Field)
    (rest : List (String × Field)) (aggregates : Option (List (String × Aggregate)))
    (own : Option Filter) (limit offset : Option UInt64) (order : Option Order) :
    Query.bindersWith surroundings table (Filter.binders nested filter)
        ⟨some (first :: rest), aggregates, own, limit, offset, order⟩ =
      (ownNames scope nested (first :: rest) ((filter.map Filter.columns).getD [])
        ((order.map Order.elements).getD [])).map Prod.snd ++
      bindersOfFields surroundings table (first :: rest) := by
  rw [Query.bindersWith, Filter.binders]
  simp only [ownNames, List.map_append, List.map_cons, List.map_map]
  rfl

theorem Query.accounted (surroundings : Surroundings) (query : Query) :
    query.Accounted surroundings := by
  induction query using Query.induct with
  | empty query hFields =>
      intro table scope filter limit parameters later select nested outer hNodup h
      obtain ⟨rfl, -⟩ := Query.compileWith_ok_of_fieldList_eq_nil hFields h
      rw [query.bindersWith_of_fieldList_eq_nil hFields]
      refine ⟨rfl, fun _ => ⟨fun _ => ?_, fun _ => .nil⟩⟩
      exact query.keepsApartWith_of_fieldList_eq_nil hFields
  | fields first rest aggregates own ownLimit offset order ih =>
      intro table scope filter limit parameters later select nested outer hNodup h
      obtain ⟨condition, middle, projection, found, hCondition, hFields, hOrder, rfl⟩ :=
        Query.compileWith_ok_of_cons h
      have hFilter := Filter.compileOption_ok hCondition
      have hMiddle : middle.keys.Nodup := hFilter.binds.nodup_keys hNodup
      have hProjection : FieldsCompile surroundings table scope middle (first :: rest)
          projection later :=
        compileFields_ok (fun _ _ _ _ _ _ _ _ _ _ _ => Query.compileWith_ok) hFields
      let frame : Frame := ⟨scope.rowAlias, fieldNames (first :: rest)⟩
      let pairs := ownNames scope nested (first :: rest)
        ((filter.map Filter.columns).getD []) ((order.map Order.elements).getD [])
      have hNames := names_eq_ownNames nested hFilter hMiddle hProjection hOrder
        ⟨table.keyspace surroundings.config, scope.rowAlias, table.rowAlias, condition, found,
          limit, offset⟩ rfl rfl rfl
      have hOccurrences : occurrencesOf outer (some ⟨projection.items, projection.bindings,
          ⟨table.keyspace surroundings.config, scope.rowAlias, table.rowAlias, condition,
            found, limit, offset⟩⟩) =
          (pairs.map Prod.fst).map (fun name => (frame :: outer, name)) ++
            Select.occurrences.ofBindings (frame :: outer) projection.bindings := by
        rw [occurrencesOf, Option.map_some, Option.getD_some, Select.occurrences, hNames,
          FieldsCompile.map_fst_bindings hFields]
      obtain ⟨hLength, hRest⟩ := forall₂_means_ofBindings ih frame outer hMiddle hFields
      rw [hOccurrences, Query.bindersWith_fields surroundings table scope]
      refine ⟨by simp [pairs, hLength], ?_⟩
      intro hFits
      have hOwn := ownNames_iff hFits (first :: rest) ((filter.map Filter.columns).getD [])
        ((order.map Order.elements).getD [])
      rw [forall₂_append_iff (by simp [pairs]), forall₂_means, Query.KeepsApartWith, hOwn]
      exact and_congr_right fun hApart => hRest rfl hApart.2.1

/-- The names of a compiled statement stand for what they are meant for exactly if no field of the
query takes the place of a row that is looked at. -/
theorem Query.forall₂_means_iff {surroundings : Surroundings} {table : TableName} {query : Query}
    {select : Select} {parameters : Parameters}
    (hCompile : query.compileRows surroundings table (.root table) = .ok (some select, parameters)) :
    List.Forall₂ Means (select.occurrences []) (query.binders surroundings table) ↔
      query.KeepsApart surroundings table := by
  have hNodup : Entries.keys ([] : Parameters) |>.Nodup := List.nodup_nil
  exact (query.accounted surroundings false [] hNodup hCompile).2 (.root rfl)

/-- A query whose innermost field is bound to the name of the outermost table, between them rows that
have to agree with those of that table. -/
def hidingQuery : Query where
  fields := some [("q", .relationship "r" {
    fields := some [("x", .relationship "s" {
      fields := some [("z", .column "e" none)]
      aggregates := none
      filter := none
      limit := none
      offset := none
      order := none })]
    aggregates := none
    filter := none
    limit := none
    offset := none
    order := none })]
  aggregates := none
  filter := none
  limit := none
  offset := none
  order := none

/-- The relationships that the query follows. -/
def hidingSurroundings : Surroundings where
  config := ⟨"shop", "_default", "_default", [], none⟩
  catalogue := .ofDeclared [⟨⟨["lx"]⟩, [("r", ⟨⟨["t"]⟩, .array, [("a", "b")]⟩)]⟩,
    ⟨⟨["t"]⟩, [("s", ⟨⟨["u"]⟩, .array, [("c", "d")]⟩)]⟩]

/-- The column of the outermost rows is looked for in what the innermost field is bound to. -/
theorem forall₂_means_iff_hiding :
    ∃ select parameters,
      hidingQuery.compileRows hidingSurroundings ⟨["lx"]⟩ (.root ⟨["lx"]⟩) =
        .ok (some select, parameters) ∧
      ¬List.Forall₂ Means (select.occurrences [])
        (hidingQuery.binders hidingSurroundings ⟨["lx"]⟩) := by
  obtain ⟨select, parameters, hCompile⟩ : ∃ select parameters,
      hidingQuery.compileRows hidingSurroundings ⟨["lx"]⟩ (.root ⟨["lx"]⟩) =
        .ok (some select, parameters) := ⟨_, _, rfl⟩
  refine ⟨select, parameters, hCompile, ?_⟩
  intro hMeans
  obtain ⟨-, ⟨⟨-, -, hOuter⟩, -⟩, -⟩ := (Query.forall₂_means_iff hCompile).1 hMeans
  exact hOuter (by decide) (by decide)

end N1qlConnector
