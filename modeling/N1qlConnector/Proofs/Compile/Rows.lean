import N1qlConnector.Proofs.Compile.Filter
import N1qlConnector.Proofs.Compile.Scope

/-!
# What compiling queries does

A query compiles to a statement that has its tree and binds its values. As for filters, what a query
binds is what is listed for it, from whatever parameters it starts, and its tree is what it describes
under every later map of parameters. Both facts go through the fields one after the other and from
there into the queries that fields hold, so they are proved together, by induction on queries.

A nested query is compiled with a filter that its relationship makes. The first section says what
that filter adds: comparisons of columns, which list nothing.

## Main results

* `Query.compileWith_ok` : what a compiled query is made of.
-/

namespace N1qlConnector

open Statement

/-! ## Filters of relationships -/

@[simp] theorem Filter.listedEach_eq_flatMap (scope : Scope) (stem : String)
    (parts : List Filter) :
    Filter.listed.listedEach scope stem parts = parts.flatMap (Filter.listed scope stem) := by
  induction parts with
  | nil => rfl
  | cons part rest ih => rw [Filter.listed.listedEach, ih, List.flatMap_cons]

theorem Filter.flatMap_listed_toList (scope : Scope) (stem : String) (filter : Option Filter) :
    filter.toList.flatMap (Filter.listed scope stem) = Filter.listedOption scope stem filter := by
  cases filter <;> simp [Filter.listedOption]

namespace Relationship

variable (relationship : Relationship) (scope : Scope)

/-- The columns that have to agree hold no values. -/
theorem listed_filter (stem : String) (own : Option Filter) :
    (relationship.filter own).listed scope stem =
      Filter.listedOption scope (stem ++ "and_") own := by
  have hCorrelations :
      relationship.correlations.flatMap (Filter.listed scope (stem ++ "and_")) = [] := by
    rw [List.flatMap_eq_nil_iff]
    intro part hPart
    obtain ⟨columns, -, rfl⟩ := List.mem_map.1 hPart
    rfl
  rw [filter, Filter.listed, Filter.listedEach_eq_flatMap, List.flatMap_append, hCorrelations,
    List.append_nil, Filter.flatMap_listed_toList]

theorem described_filter (own : Option Filter) :
    Filter.described scope (relationship.filter own) = relationship.described scope own := by
  rw [Filter.described, filter, asWritten_all, described, List.map_append]
  congr 1
  congr 1
  · cases own <;> rfl
  · rw [correlations, List.map_map]
    rfl

theorem limit_eq (own : Option UInt64) :
    (relationship.limit own).map UInt64.toNat = relationship.describedLimit own := by
  unfold limit describedLimit
  cases relationship.cardinality <;> rfl

theorem isBuiltIn_filter {own : Option Filter} (h : own.all Filter.isBuiltIn) :
    (relationship.filter own).isBuiltIn := by
  rw [Filter.isBuiltIn, List.all_eq_true]
  intro comparison hMem
  rw [filter, Formula.atoms_all, List.flatMap_append, List.mem_append] at hMem
  rcases hMem with hOwn | hCorrelation
  · obtain ⟨part, hPart, hMem⟩ := List.mem_flatMap.1 hOwn
    have hBuiltIn : Filter.isBuiltIn part = true := by
      obtain rfl := Option.mem_toList.1 hPart
      simpa using h
    exact List.all_eq_true.1 hBuiltIn comparison hMem
  · obtain ⟨part, hPart, hMem⟩ := List.mem_flatMap.1 hCorrelation
    obtain ⟨columns, -, rfl⟩ := List.mem_map.1 hPart
    obtain rfl := List.mem_singleton.1 hMem
    rfl

end Relationship

/-! ## Clauses -/

theorem Filter.compileOption_ok {scope : Scope} {parameters later : Parameters}
    {filter : Option Filter} {condition : Option Condition}
    (h : Filter.compileOption scope parameters filter = .ok (condition, later)) :
    N1qlConnector.Compiles scope scope.stem parameters filter.toList condition.toList later := by
  cases filter with
  | none =>
      obtain ⟨rfl, rfl⟩ := Prod.mk.inj (Except.ok.inj h)
      exact .nil _ _ _
  | some filter =>
      obtain ⟨⟨found, final⟩, hFilter, hFound⟩ := Compiled.bind_eq_ok.1 h
      obtain ⟨rfl, rfl⟩ := Prod.mk.inj (Except.ok.inj hFound)
      exact Filter.compile_ok hFilter

theorem OrderElement.compile_ok {scope : Scope} {element : OrderElement}
    {found : Reference × Direction} (h : element.compile scope = .ok found) :
    element.described scope = some found := by
  obtain ⟨path, target, direction⟩ := element
  cases target with
  | column column =>
      cases path with
      | nil => exact congrArg some (Except.ok.inj h)
      | cons first rest => cases h
  | starCount => cases h
  | aggregate column function => cases h

theorem OrderElement.mapM_compile_ok {scope : Scope} {elements : List OrderElement}
    {found : List (Reference × Direction)}
    (h : elements.mapM (OrderElement.compile scope) = .ok found) :
    elements.filterMap (OrderElement.described scope) = found := by
  induction elements generalizing found with
  | nil => exact Except.ok.inj h
  | cons element rest ih =>
      rw [List.mapM_cons] at h
      obtain ⟨first, hFirst, h⟩ := Compiled.bind_eq_ok.1 h
      obtain ⟨others, hOthers, h⟩ := Compiled.bind_eq_ok.1 h
      obtain rfl := Except.ok.inj h
      rw [List.filterMap_cons_some (OrderElement.compile_ok hFirst), ih hOthers]

theorem Order.compileOption_ok {scope : Scope} {order : Option Order}
    {found : Option (List (Reference × Direction))}
    (h : Order.compileOption scope order = .ok found) :
    (order.map fun order =>
      order.elements.filterMap (OrderElement.described scope)).getD [] = found.getD [] := by
  cases order with
  | none =>
      obtain rfl := Except.ok.inj h
      rfl
  | some order =>
      cases hElements : order.elements.mapM (OrderElement.compile scope) with
      | error fault =>
          rw [Order.compileOption, hElements] at h
          cases h
      | ok elements =>
          rw [Order.compileOption, hElements] at h
          obtain rfl := Except.ok.inj h
          exact OrderElement.mapM_compile_ok hElements

theorem TableName.keyspace_eq (config : Config) (table : TableName) :
    table.keyspace config = table.described config := by
  obtain ⟨segments⟩ := table
  match segments with
  | [] => rfl
  | [first] => rfl
  | first :: second :: rest => rfl

theorem Scope.item_eq (scope : Scope) (field name : String) (type : Option String) :
    scope.item name = (Field.column name type).described scope field := by
  unfold Scope.item Field.described Reference.ofColumn Scope.isNested
  by_cases hKey : name = keyColumn
  · simp [hKey]
  · by_cases hRoot : scope.ancestors = []
    · simp [hKey, hRoot]
    · simp [hKey, hRoot]

/-! ## One field, one query -/

section Steps

variable {surroundings : Surroundings} {table : TableName} {scope : Scope}
  {parameters later : Parameters}

theorem compileFields_column_ok {name column : String} {type : Option String}
    {rest : List (String × Field)} {projection : Projection}
    (h : compileFields surroundings table scope parameters ((name, .column column type) :: rest) =
      .ok (projection, later)) :
    ∃ others, compileFields surroundings table scope parameters rest = .ok (others, later) ∧
      projection = ⟨(name, scope.item column) :: others.items, others.bindings⟩ := by
  rw [compileFields] at h
  obtain ⟨⟨others, final⟩, hRest, h⟩ := Compiled.bind_eq_ok.1 h
  obtain ⟨rfl, rfl⟩ := Prod.mk.inj (Except.ok.inj h)
  exact ⟨others, hRest, rfl⟩

theorem compileFields_relationship_ok {name relationship : String} {query : Query}
    {rest : List (String × Field)} {projection : Projection}
    (h : compileFields surroundings table scope parameters
      ((name, .relationship relationship query) :: rest) = .ok (projection, later)) :
    ∃ followed select middle others,
      surroundings.catalogue.find? table relationship = some followed ∧
      query.compileWith surroundings followed.target (scope.nested followed.target name)
        (some (followed.filter query.filter)) (followed.limit query.limit) parameters =
          .ok (select, middle) ∧
      compileFields surroundings table scope middle rest = .ok (others, later) ∧
      projection = ⟨(name, .rows (bindingName name)) :: others.items,
        (bindingName name, select) :: others.bindings⟩ := by
  rw [compileFields] at h
  obtain ⟨followed, hFollowed, h⟩ := Compiled.bind_eq_ok.1 h
  have hFind : surroundings.catalogue.find? table relationship = some followed := by
    unfold Surroundings.relationship at hFollowed
    cases hFind : surroundings.catalogue.find? table relationship with
    | none => rw [hFind] at hFollowed; cases hFollowed
    | some found => rw [hFind] at hFollowed; rw [Except.ok.inj hFollowed]
  by_cases hAggregates : (!query.aggregateList.isEmpty) = true
  · rw [if_pos hAggregates] at h
    cases h
  · rw [if_neg hAggregates] at h
    obtain ⟨⟨select, middle⟩, hSelect, h⟩ := Compiled.bind_eq_ok.1 h
    obtain ⟨⟨others, final⟩, hRest, h⟩ := Compiled.bind_eq_ok.1 h
    obtain ⟨rfl, rfl⟩ := Prod.mk.inj (Except.ok.inj h)
    exact ⟨followed, select, middle, others, hFind, hSelect, hRest, rfl⟩

/-- A query without fields has no statement. Only its table is looked at. -/
theorem Query.compileWith_of_fieldList_eq_nil {query : Query} (hFields : query.fieldList = [])
    (filter : Option Filter) (limit : Option UInt64) :
    query.compileWith surroundings table scope filter limit parameters = (do
      table.validate
      .ok (none, parameters)) := by
  obtain ⟨fields, aggregates, own, ownLimit, offset, order⟩ := query
  rcases fields_of_fieldList_eq_nil hFields with hNone | hNil
  · obtain rfl := hNone
    rw [Query.compileWith]
    rfl
  · obtain rfl := hNil
    rw [Query.compileWith]
    rfl

/-- Such a query binds nothing. -/
theorem Query.compileWith_ok_of_fieldList_eq_nil {filter : Option Filter} {limit : Option UInt64}
    {query : Query} {select : Option Select} (hFields : query.fieldList = [])
    (h : query.compileWith surroundings table scope filter limit parameters =
      .ok (select, later)) : select = none ∧ later = parameters := by
  rw [compileWith_of_fieldList_eq_nil hFields] at h
  obtain ⟨_, -, h⟩ := Compiled.bind_eq_ok.1 h
  obtain ⟨rfl, rfl⟩ := Prod.mk.inj (Except.ok.inj h)
  exact ⟨rfl, rfl⟩

/-- The clauses of a statement, in the order in which they are compiled. -/
theorem Query.compileWith_ok_of_cons {filter : Option Filter} {limit : Option UInt64}
    {field : String × Field} {fields : List (String × Field)}
    {aggregates : Option (List (String × Aggregate))} {own : Option Filter}
    {ownLimit offset : Option UInt64} {order : Option Order} {select : Option Select}
    (h : Query.compileWith surroundings table scope filter limit parameters
      ⟨some (field :: fields), aggregates, own, ownLimit, offset, order⟩ = .ok (select, later)) :
    ∃ condition middle projection found,
      Filter.compileOption scope parameters filter = .ok (condition, middle) ∧
      compileFields surroundings table scope middle (field :: fields) = .ok (projection, later) ∧
      Order.compileOption scope order = .ok found ∧
      select = some ⟨projection.items, projection.bindings,
        { source := table.keyspace surroundings.config
          rowAlias := scope.rowAlias
          kind := table.rowAlias
          condition
          order := found
          limit
          offset }⟩ := by
  rw [Query.compileWith] at h
  obtain ⟨_, -, h⟩ := Compiled.bind_eq_ok.1 h
  obtain ⟨⟨condition, middle⟩, hCondition, h⟩ := Compiled.bind_eq_ok.1 h
  obtain ⟨⟨projection, final⟩, hFields, h⟩ := Compiled.bind_eq_ok.1 h
  obtain ⟨found, hOrder, h⟩ := Compiled.bind_eq_ok.1 h
  obtain ⟨rfl, rfl⟩ := Prod.mk.inj (Except.ok.inj h)
  exact ⟨condition, middle, projection, found, hCondition, hFields, hOrder, rfl⟩

end Steps

/-! ## Statements -/

theorem Query.all_isBuiltIn_filter {query : Query} (h : query.isBuiltIn) :
    query.filter.all Filter.isBuiltIn := by
  obtain ⟨fields, aggregates, filter, limit, offset, order⟩ := query
  cases fields with
  | none => exact h
  | some fields =>
      rw [Query.isBuiltIn, Bool.and_eq_true] at h
      exact h.1

/-- The comparisons of a statement that may be absent. -/
def Statement.predicatesOf (select : Option Select) : List (Predicate String) :=
  (select.map fun found => found.outline.predicates).getD []

/-- What the fields of a query become: items, what they bind, the statements they read from as long
as the parameters only grow, and when these can be read back. -/
structure FieldsCompile (surroundings : Surroundings) (table : TableName) (scope : Scope)
    (parameters : Parameters) (fields : List (String × Field)) (projection : Projection)
    (later : Parameters) : Prop where
  items : projection.items = fields.map fun named => (named.1, named.2.described scope named.1)
  binds : Binds parameters (listedFields surroundings table scope fields) later
    (bound (Outline.predicates.ofBindings (Select.outline.bindingOutlines projection.bindings)))
  described : ∀ final : Parameters, later <+: final → final.keys.Nodup →
    Outline.map.mapBindings (final.lookup ·) (Select.outline.bindingOutlines projection.bindings) =
      Outline.map.mapBindings some (describedBindings surroundings table scope fields)
  isPlain : areBuiltIn fields →
    ∀ name select, (name, some select) ∈ projection.bindings → select.IsPlain

/-- The same for a query, with the filter and limit that it is compiled with. -/
structure QueryCompiles (surroundings : Surroundings) (table : TableName) (scope : Scope)
    (filter : Option Filter) (limit : Option UInt64) (parameters : Parameters) (query : Query)
    (select : Option Select) (later : Parameters) : Prop where
  binds : Binds parameters
    (query.listedWith surroundings table scope (Filter.listedOption scope scope.stem filter)) later
    (bound (predicatesOf select))
  described : ∀ final : Parameters, later <+: final → final.keys.Nodup →
    select.map (fun found => found.outline.map (final.lookup ·)) =
      (query.describedWith surroundings table scope (filter.map (Filter.described scope))
        (limit.map UInt64.toNat)).map (Outline.map some)
  isPlain : scope.stem ≠ "" → filter.all Filter.isBuiltIn → query.isBuiltIn →
    ∀ found ∈ select, found.IsPlain

namespace FieldsCompile

variable {surroundings : Surroundings} {table : TableName} {scope : Scope}
  {parameters middle later : Parameters}

theorem nil : FieldsCompile surroundings table scope parameters [] ⟨[], []⟩ parameters :=
  ⟨rfl, .nil _, fun _ _ _ => rfl, fun _ _ _ hMem => absurd hMem List.not_mem_nil⟩

theorem column {name source : String} {type : Option String} {rest : List (String × Field)}
    {others : Projection}
    (h : FieldsCompile surroundings table scope parameters rest others later) :
    FieldsCompile surroundings table scope parameters ((name, .column source type) :: rest)
      ⟨(name, scope.item source) :: others.items, others.bindings⟩ later := by
  constructor
  · rw [List.map_cons, ← h.items, scope.item_eq name source type]
  · rw [listedFields]; exact h.binds
  · rw [describedBindings]; exact h.described
  · intro hBuiltIn
    rw [areBuiltIn] at hBuiltIn
    exact h.isPlain hBuiltIn

/-- A relationship field binds the values of its query before the other fields bind theirs. -/
theorem relationship {name relationship : String} {query : Query} {rest : List (String × Field)}
    {followed : Relationship} {select : Option Select} {others : Projection}
    (hFind : surroundings.catalogue.find? table relationship = some followed)
    (hSelect : QueryCompiles surroundings followed.target (scope.nested followed.target name)
      (some (followed.filter query.filter)) (followed.limit query.limit) parameters query select
      middle)
    (hRest : FieldsCompile surroundings table scope middle rest others later) :
    FieldsCompile surroundings table scope parameters
      ((name, .relationship relationship query) :: rest)
      ⟨(name, .rows (bindingName name)) :: others.items,
        (bindingName name, select) :: others.bindings⟩ later := by
  constructor
  · rw [List.map_cons, ← hRest.items]
    rfl
  · have hFirst := hSelect.binds
    rw [Filter.listedOption, Option.map_some, Option.getD_some, followed.listed_filter] at hFirst
    have hBoth := hFirst.append hRest.binds
    rw [listedFields, hFind]
    cases select with
    | none => simpa [Select.outline.bindingOutlines, Outline.predicates.ofBindings, predicatesOf]
        using hBoth
    | some found => simpa [Select.outline.bindingOutlines, Outline.predicates.ofBindings,
        predicatesOf] using hBoth
  · intro final hPrefix hNodup
    have hFirst := hSelect.described final (hRest.binds.isPrefix.trans hPrefix) hNodup
    have hOthers := hRest.described final hPrefix hNodup
    rw [Option.map_some, followed.described_filter, followed.limit_eq] at hFirst
    rw [describedBindings, hFind]
    cases select with
    | none =>
        have hNone := Option.map_eq_none_iff.1 (Eq.symm hFirst)
        simp only [hNone, Select.outline.bindingOutlines, Outline.map.mapBindings, hOthers]
        rfl
    | some found =>
        obtain ⟨tree, hTree, hMap⟩ := Option.map_eq_some_iff.1 (Eq.symm hFirst)
        simp only [hTree, Select.outline.bindingOutlines, Outline.map.mapBindings, hOthers, hMap]
        rfl
  · intro hBuiltIn bound found hMem
    rw [areBuiltIn, Bool.and_eq_true] at hBuiltIn
    rcases List.mem_cons.1 hMem with hEq | hMem
    · have hOwn := Query.all_isBuiltIn_filter hBuiltIn.1
      refine hSelect.isPlain (Scope.stem_nested_ne _ _) ?_ hBuiltIn.1 found ?_
      · simpa using followed.isBuiltIn_filter hOwn
      · rw [← (Prod.mk.inj hEq).2]
        rfl
    · exact hRest.isPlain hBuiltIn.2 bound found hMem

end FieldsCompile

/-- All fields, from what is known of the queries in them. -/
theorem compileFields_ok {surroundings : Surroundings} {table : TableName} {scope : Scope}
    {fields : List (String × Field)}
    (hQueries : ∀ name relationship sub, (name, Field.relationship relationship sub) ∈ fields →
      ∀ {table : TableName} {scope : Scope} {filter : Option Filter} {limit : Option UInt64}
        {parameters later : Parameters} {select : Option Select},
        sub.compileWith surroundings table scope filter limit parameters = .ok (select, later) →
          QueryCompiles surroundings table scope filter limit parameters sub select later)
    {parameters later : Parameters} {projection : Projection}
    (h : compileFields surroundings table scope parameters fields = .ok (projection, later)) :
    FieldsCompile surroundings table scope parameters fields projection later := by
  induction fields generalizing parameters projection with
  | nil =>
      rw [compileFields] at h
      obtain ⟨rfl, rfl⟩ := Prod.mk.inj (Except.ok.inj h)
      exact .nil
  | cons first rest ih =>
      have hOthers : ∀ {middle : Parameters} {others : Projection},
          compileFields surroundings table scope middle rest = .ok (others, later) →
            FieldsCompile surroundings table scope middle rest others later :=
        ih fun name relationship sub hMem =>
          hQueries name relationship sub (List.mem_cons_of_mem _ hMem)
      obtain ⟨name, field⟩ := first
      cases field with
      | column column type =>
          obtain ⟨others, hRest, rfl⟩ := compileFields_column_ok h
          exact .column (hOthers hRest)
      | relationship relationship query =>
          obtain ⟨followed, select, middle, others, hFind, hSelect, hRest, rfl⟩ :=
            compileFields_relationship_ok h
          have hQuery := hQueries name relationship query List.mem_cons_self hSelect
          exact .relationship hFind hQuery (hOthers hRest)

/-- The condition of rows, with what is known of the parameters in it. -/
theorem map_outline_rows {rows : RowSet} {scope : Scope} {table : TableName}
    {filter : Option Filter} {f : String → Option Json} (hAlias : rows.rowAlias = scope.rowAlias)
    (hKind : rows.kind = table.rowAlias)
    (h : rows.condition.toList.map (Formula.map fun test => test.predicate.map f) =
      filter.toList.map (Formula.map fun comparison => (comparison.described scope).map some)) :
    rows.outline.map (Predicate.map f) =
      (gather .all (.atom (.compare (.reference (.property scope.rowAlias "type")) .equal
        (.text table.rowAlias)) :: (filter.map (Filter.described scope)).toList)).map
          (Predicate.map some) := by
  have hGather : ∀ {π ρ : Type} (g : π → ρ) (parts : List (Formula (Predicate π))),
      (gather .all parts).map (Predicate.map g) =
        gather .all (parts.map (Formula.map (Predicate.map g))) := fun g parts =>
    map_gather (Formula.map_all _) parts
  rw [RowSet.outline, hGather, hGather, hAlias, hKind]
  cases hCondition : rows.condition with
  | none =>
      cases filter with
      | none => rfl
      | some own => simp [hCondition] at h
  | some condition =>
      cases filter with
      | none => simp [hCondition] at h
      | some own =>
          have hPart : Formula.map (fun test : Test => test.predicate.map f) condition =
              Formula.map (fun comparison => (comparison.described scope).map some) own := by
            simpa [hCondition] using h
          have hOutline : (Condition.outline condition).map (Predicate.map f) =
              (Filter.described scope own).map (Predicate.map some) := by
            calc (Condition.outline condition).map (Predicate.map f)
                = asWritten (fun test : Test => test.predicate.map f) condition :=
                  map_asWritten _ _ _
              _ = asWritten id (Formula.map (fun test : Test => test.predicate.map f) condition) :=
                  (asWritten_map id _ _).symm
              _ = asWritten id (Formula.map
                    (fun comparison => (comparison.described scope).map some) own) := by rw [hPart]
              _ = asWritten (fun comparison => (comparison.described scope).map some) own :=
                  asWritten_map id _ _
              _ = (Filter.described scope own).map (Predicate.map some) :=
                  (map_asWritten _ _ _).symm
          simp only [Option.map_some, Option.toList_some, List.map_cons, List.map_nil, hOutline]
          rfl

/-- The comparison with the kind has no parameter. -/
theorem bound_atoms_rows (rows : RowSet) :
    bound rows.outline.atoms =
      bound ((rows.condition.toList.flatMap Formula.atoms).map Test.predicate) := by
  rw [RowSet.outline, atoms_gather Formula.atoms_all]
  cases rows.condition with
  | none => rfl
  | some condition =>
      have hOutline := bound_atoms_asWritten Test.predicate condition
      simp only [Option.map_some, Option.toList_some, List.flatMap_cons, List.flatMap_nil,
        List.append_nil, bound_append, Condition.outline, hOutline]
      rfl

namespace QueryCompiles

variable {surroundings : Surroundings} {table : TableName} {scope : Scope} {filter : Option Filter}
  {limit : Option UInt64} {parameters middle later : Parameters}

theorem empty {query : Query} (h : query.fieldList = []) :
    QueryCompiles surroundings table scope filter limit parameters query none parameters := by
  constructor
  · rw [query.listedWith_of_fieldList_eq_nil h]
    exact .nil _
  · intro final _ _
    rw [query.describedWith_of_fieldList_eq_nil h]
    rfl
  · intro _ _ _ found hMem
    cases hMem

/-- The condition binds its values before the fields bind theirs. -/
theorem fields {first : String × Field} {rest : List (String × Field)}
    {aggregates : Option (List (String × Aggregate))} {own : Option Filter}
    {ownLimit offset : Option UInt64} {order : Option Order} {condition : Option Condition}
    {projection : Projection} {found : Option (List (Reference × Direction))}
    (hFilter : Compiles scope scope.stem parameters filter.toList condition.toList middle)
    (hFields : FieldsCompile surroundings table scope middle (first :: rest) projection later)
    (hOrder : Order.compileOption scope order = .ok found) :
    QueryCompiles surroundings table scope filter limit parameters
      ⟨some (first :: rest), aggregates, own, ownLimit, offset, order⟩
      (some ⟨projection.items, projection.bindings, ⟨table.keyspace surroundings.config,
        scope.rowAlias, table.rowAlias, condition, found, limit, offset⟩⟩) later := by
  constructor
  · have hOwn := hFilter.binds
    rw [Filter.listedEach_eq_flatMap, Filter.flatMap_listed_toList] at hOwn
    have hBoth := hOwn.append hFields.binds
    rw [Query.listedWith]
    simpa [predicatesOf, Select.outline, Outline.predicates, bound_atoms_rows] using hBoth
  · intro final hPrefix hNodup
    have hWhere := hFilter.described final (hFields.binds.isPrefix.trans hPrefix) hNodup
    have hLet := hFields.described final hPrefix hNodup
    rw [Query.describedWith, Option.map_some, Option.map_some]
    simp only [Select.outline, Outline.map, Option.map_some, Option.some.injEq, Outline.mk.injEq]
    refine ⟨hFields.items, table.keyspace_eq _, trivial, hLet, ?_, ?_, trivial, trivial⟩
    · exact map_outline_rows rfl rfl hWhere
    · exact (Order.compileOption_ok hOrder).symm
  · intro hStem hFilterBuiltIn hBuiltIn found hMem
    rw [Query.isBuiltIn, Bool.and_eq_true] at hBuiltIn
    obtain rfl := Option.some.inj hMem
    refine .mk ?_ ?_ ?_
    · rw [hFields.items]
      exact List.cons_ne_nil _ _
    · intro found hMem
      refine hFilter.isPlain hStem ?_ found (Option.mem_toList.2 hMem)
      cases filter with
      | none => rfl
      | some own => simpa using hFilterBuiltIn
    · exact hFields.isPlain hBuiltIn.2

end QueryCompiles

theorem Query.compileWith_ok {surroundings : Surroundings} {query : Query} :
    ∀ {table : TableName} {scope : Scope} {filter : Option Filter} {limit : Option UInt64}
      {parameters later : Parameters} {select : Option Select},
      query.compileWith surroundings table scope filter limit parameters = .ok (select, later) →
        QueryCompiles surroundings table scope filter limit parameters query select later := by
  induction query using Query.induct with
  | empty query hFields =>
      intro table scope filter limit parameters later select h
      obtain ⟨rfl, rfl⟩ := Query.compileWith_ok_of_fieldList_eq_nil hFields h
      exact .empty hFields
  | fields first rest aggregates own ownLimit offset order ih =>
      intro table scope filter limit parameters later select h
      obtain ⟨condition, middle, projection, found, hCondition, hFields, hOrder, rfl⟩ :=
        Query.compileWith_ok_of_cons h
      exact .fields (Filter.compileOption_ok hCondition) (compileFields_ok ih hFields) hOrder

end N1qlConnector
