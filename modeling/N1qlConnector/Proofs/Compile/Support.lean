import N1qlConnector.Proofs.Compile.Capture
import N1qlConnector.Proofs.Compile.Totals

/-!
# Which requests compile

What a request may ask for is decided piece by piece, while its statements are made. Some pieces are
never looked at: the filter and the order of a query without fields, the order of aggregates over
all rows. So whether a request compiles depends on parts that are far from each other, and
`Request.IsSupported` puts them together, without a word about scopes, parameters or statements.

Every step of compiling either gives a result and goes on, or stops with a cause. `Compiled.Settles`
says of a step which requirement decides between the two and what the cause can be. A sequence of
steps is settled by all their requirements together (`Settles.bind`), in whatever order the steps
are taken. So the proofs below follow the definitions step by step, and only the last theorem speaks of
whole requests.

A cause names something that is in the request: `Query.Fault` lists what can be wrong with a query,
or with one that it leads to.

## Main results

* `Request.compile_iff` : which requests compile, and why the others do not.
-/

namespace N1qlConnector

open Statement

/-! ## Requirements of a step -/

/-- There is a result exactly if a requirement is met, and otherwise the cause is one of some
faults. -/
structure Compiled.Settles {α : Type} (found : Compiled α) (required : Prop)
    (Fault : CompileError → Prop) : Prop where
  of_ok : ∀ a, found = .ok a → required
  of_error : ∀ cause, found = .error cause → ¬required ∧ Fault cause

namespace Compiled.Settles

variable {α β : Type} {found : Compiled α} {required required' : Prop}
  {Fault : CompileError → Prop}

theorem ok (a : α) : Settles (.ok a : Compiled α) True Fault where
  of_ok := fun _ _ => trivial
  of_error := fun cause h => by cases h

theorem error {cause : CompileError} (hRequired : ¬required) (hFault : Fault cause) :
    Settles (.error cause : Compiled α) required Fault where
  of_ok := fun a h => by cases h
  of_error := fun found h => by
    obtain rfl := Except.error.inj h
    exact ⟨hRequired, hFault⟩

/-- A step that goes on with the result of another one. -/
theorem bind {next : α → Compiled β} (h : Settles found required Fault)
    (hNext : ∀ a, found = .ok a → Settles (next a) required' Fault) :
    Settles (found >>= next) (required ∧ required') Fault := by
  cases hFound : found with
  | ok a =>
      have hRequired : required := h.of_ok a hFound
      have hStep := hNext a hFound
      constructor
      · intro b hb
        exact ⟨hRequired, hStep.of_ok b hb⟩
      · intro cause hCause
        obtain ⟨hNot, hFault⟩ := hStep.of_error cause hCause
        exact ⟨fun hBoth => hNot hBoth.2, hFault⟩
  | error cause =>
      obtain ⟨hNot, hFault⟩ := h.of_error cause hFound
      exact error (fun hBoth => hNot hBoth.1) hFault

/-- A step that only changes the result of another one. -/
theorem map {f : α → β} (h : Settles found required Fault) :
    Settles (f <$> found) required Fault := by
  cases hFound : found with
  | ok a =>
      have hRequired : required := h.of_ok a hFound
      exact ⟨fun _ _ => hRequired, fun cause hCause => by cases hCause⟩
  | error cause =>
      obtain ⟨hNot, hFault⟩ := h.of_error cause hFound
      exact error hNot hFault

/-- The same requirement in other words. -/
theorem congr (h : Settles found required Fault) (hRequired : required ↔ required') :
    Settles found required' Fault where
  of_ok := fun a ha => hRequired.1 (h.of_ok a ha)
  of_error := fun cause hCause => by
    obtain ⟨hNot, hFault⟩ := h.of_error cause hCause
    exact ⟨fun hHolds => hNot (hRequired.2 hHolds), hFault⟩

theorem mono (h : Settles found required Fault) (Fault' : CompileError → Prop)
    (hFault : ∀ cause, Fault cause → Fault' cause) : Settles found required Fault' where
  of_ok := h.of_ok
  of_error := fun cause hCause => (h.of_error cause hCause).imp id (hFault cause)

/-- A step for every member of a list, one after the other. -/
theorem mapM (step : β → Compiled α) {Required : β → Prop} {members : List β}
    (h : ∀ b ∈ members, Settles (step b) (Required b) Fault) :
    Settles (members.mapM step) (∀ b ∈ members, Required b) Fault := by
  induction members with
  | nil => exact (ok []).congr (by simp)
  | cons first rest ih =>
      rw [List.mapM_cons]
      have hFirst := h first List.mem_cons_self
      have hRest := ih fun b hb => h b (List.mem_cons_of_mem _ hb)
      refine (hFirst.bind fun a _ => hRest.bind fun others _ => ok _).congr ?_
      rw [List.forall_mem_cons, and_true]

theorem exists_ok_iff (h : Settles found required Fault) : (∃ a, found = .ok a) ↔ required := by
  constructor
  · rintro ⟨a, ha⟩
    exact h.of_ok a ha
  · intro hRequired
    cases hFound : found with
    | ok a => exact ⟨a, rfl⟩
    | error cause => exact absurd hRequired (h.of_error cause hFound).1

end Compiled.Settles

/-! ## Filters -/

/-- A column of the current row, or of the one around. -/
def Column.IsSupported (column : Column) : Prop :=
  column.path = none ∨ column.path = some [] ∨ column.path = some ["$"]

/-- A comparison of the columns of two rows. -/
def Comparison.IsSupported (comparison : Comparison) : Prop :=
  (∀ inTable, comparison ≠ .exists inTable) ∧ ∀ column ∈ comparison.columns, column.IsSupported

/-- A filter that does not ask whether rows exist, and whose columns all belong to one of two
rows. -/
def Filter.IsSupported (filter : Filter) : Prop :=
  ∀ comparison ∈ filter.atoms, comparison.IsSupported

/-- What can be wrong with a comparison. -/
inductive Comparison.Fault : Comparison → CompileError → Prop
  | existsFilter (inTable : Json) : Fault (.exists inTable) (.unsupported .existsFilter)
  | columnPath {comparison : Comparison} {column : Column} {path : List String}
      (hColumn : column ∈ comparison.columns) (hPath : column.path = some path)
      (hUnsupported : ¬column.IsSupported) :
      Fault comparison (.unsupported (.columnPath column.name path))

/-- What can be wrong with a filter. -/
def Filter.Fault (filter : Filter) (cause : CompileError) : Prop :=
  ∃ comparison ∈ filter.atoms, comparison.Fault cause

theorem Column.settles_compile (scope : Scope) (comparison : Comparison) {column : Column}
    (hColumn : column ∈ comparison.columns) :
    (column.compile scope).Settles column.IsSupported comparison.Fault := by
  unfold Column.compile
  cases hPath : column.path with
  | none =>
      have hSupported : column.IsSupported := .inl hPath
      exact (Compiled.Settles.ok _).congr (iff_of_true trivial hSupported)
  | some path =>
      cases path with
      | nil =>
          have hSupported : column.IsSupported := .inr (.inl hPath)
          exact (Compiled.Settles.ok _).congr (iff_of_true trivial hSupported)
      | cons first rest =>
          by_cases hRoot : first :: rest = ["$"]
          · have hSupported : column.IsSupported := .inr (.inr (by rw [hPath, hRoot]))
            simp only [Option.getD_some, if_pos hRoot]
            exact (Compiled.Settles.ok _).congr (iff_of_true trivial hSupported)
          · have hUnsupported : ¬column.IsSupported := by
              simpa [Column.IsSupported, hPath] using hRoot
            simp only [Option.getD_some, if_neg hRoot]
            exact .error hUnsupported (.columnPath hColumn hPath hUnsupported)

theorem Comparison.settles_compile (scope : Scope) (stem : String) (parameters : Parameters)
    (comparison : Comparison) :
    (comparison.compile scope stem parameters).Settles comparison.IsSupported
      comparison.Fault := by
  cases comparison with
  | «exists» inTable =>
      have hUnsupported : ¬(Comparison.exists inTable).IsSupported := fun h => h.1 inTable rfl
      exact .error hUnsupported (.existsFilter inTable)
  | unary operator column =>
      have hLeft := Column.settles_compile scope (.unary operator column) List.mem_cons_self
      refine (hLeft.bind fun left _ => .ok _).congr ?_
      simp [IsSupported, columns]
  | binary operator column operand =>
      cases operand with
      | column other =>
          let comparison : Comparison := .binary operator column (.column other)
          have hLeft := Column.settles_compile scope comparison List.mem_cons_self
          have hOther : other ∈ comparison.columns := by simp [comparison, columns]
          have hRight := Column.settles_compile scope comparison hOther
          refine (hLeft.bind fun left _ => hRight.bind fun right _ => .ok _).congr ?_
          simp [IsSupported, columns]
      | scalar value type =>
          have hLeft := Column.settles_compile scope
            (.binary operator column (.scalar value type)) List.mem_cons_self
          refine (hLeft.bind fun left _ => .ok _).congr ?_
          simp [IsSupported, columns]
  | array operator column values type =>
      have hLeft := Column.settles_compile scope
        (.array operator column values type) List.mem_cons_self
      refine (hLeft.bind fun left _ => .ok _).congr ?_
      simp [IsSupported, columns]

section Combination

variable {whole : Filter} {parts : List Filter}

/-- A combination asks of its parts what it asks of their comparisons. -/
theorem Filter.isSupported_iff_of_atoms_eq (h : whole.atoms = parts.flatMap Formula.atoms) :
    whole.IsSupported ↔ ∀ part ∈ parts, Filter.IsSupported part := by
  unfold IsSupported
  rw [h]
  constructor
  · intro hAll part hPart comparison hMem
    exact hAll comparison (List.mem_flatMap.2 ⟨part, hPart, hMem⟩)
  · intro hEach comparison hMem
    obtain ⟨part, hPart, hMem⟩ := List.mem_flatMap.1 hMem
    exact hEach part hPart comparison hMem

/-- What is wrong with a part is wrong with the combination. -/
theorem Filter.fault_of_part (h : whole.atoms = parts.flatMap Formula.atoms) {cause : CompileError}
    (hPart : ∃ part ∈ parts, Filter.Fault part cause) : whole.Fault cause := by
  obtain ⟨part, hPart, comparison, hMem, hFault⟩ := hPart
  refine ⟨comparison, ?_, hFault⟩
  rw [h]
  exact List.mem_flatMap.2 ⟨part, hPart, hMem⟩

/-- All parts together, from what is known of each. -/
theorem Filter.settles_compileEach {scope : Scope}
    (hParts : ∀ part ∈ parts, ∀ (stem : String) (parameters : Parameters),
      (Filter.compile scope stem parameters part).Settles part.IsSupported part.Fault)
    (stem : String) (parameters : Parameters) :
    (Filter.compile.compileEach scope stem parameters parts).Settles
      (∀ part ∈ parts, part.IsSupported) (fun cause => ∃ part ∈ parts, part.Fault cause) := by
  induction parts generalizing parameters with
  | nil => exact (Compiled.Settles.ok _).congr (by simp)
  | cons part rest ih =>
      let Fault (cause : CompileError) : Prop := ∃ other ∈ part :: rest, other.Fault cause
      have hPart := (hParts part List.mem_cons_self stem parameters).mono Fault
        fun cause hFault => ⟨part, List.mem_cons_self, hFault⟩
      have hOthers := ih fun other hMem => hParts other (List.mem_cons_of_mem _ hMem)
      have hRest : ∀ later, (Filter.compile.compileEach scope stem later rest).Settles
          (∀ part ∈ rest, part.IsSupported) Fault := by
        intro later
        refine (hOthers later).mono Fault fun cause hFault => ?_
        obtain ⟨other, hMem, hFault⟩ := hFault
        exact ⟨other, List.mem_cons_of_mem _ hMem, hFault⟩
      refine (hPart.bind fun found _ => (hRest found.2).bind fun others _ => .ok _).congr ?_
      rw [List.forall_mem_cons, and_true]

end Combination

theorem Filter.settles_compile (scope : Scope) (filter : Filter) :
    ∀ (stem : String) (parameters : Parameters),
      (filter.compile scope stem parameters).Settles filter.IsSupported filter.Fault := by
  induction filter using Formula.induct with
  | atom comparison =>
      intro stem parameters
      have hComparison := (comparison.settles_compile scope stem parameters).mono
        (Filter.Fault (.atom comparison)) fun cause hFault =>
          ⟨comparison, by simp [Formula.atoms], hFault⟩
      refine (hComparison.bind fun found _ => .ok _).congr ?_
      simp [IsSupported, Formula.atoms]
  | not part ih =>
      intro stem parameters
      -- A negation has the comparisons of its part, so it has the same requirement and faults.
      have hPart : (Filter.compile scope (stem ++ "not_") parameters part).Settles
          (Filter.IsSupported (.not part)) (Filter.Fault (.not part)) :=
        ih (stem ++ "not_") parameters
      exact (hPart.bind fun found _ => .ok _).congr (and_iff_left trivial)
  | combination parts ih =>
      have hEach := Filter.settles_compileEach ih
      constructor
      · intro stem parameters
        have hAtoms := Formula.atoms_all parts
        have hParts := (hEach (stem ++ "and_") parameters).mono (Filter.Fault (.all parts))
          fun cause hFault => Filter.fault_of_part hAtoms hFault
        refine (hParts.bind fun found _ => .ok _).congr ?_
        rw [and_true, Filter.isSupported_iff_of_atoms_eq hAtoms]
      · intro stem parameters
        have hAtoms := Formula.atoms_any parts
        have hParts := (hEach (stem ++ "or_") parameters).mono (Filter.Fault (.any parts))
          fun cause hFault => Filter.fault_of_part hAtoms hFault
        refine (hParts.bind fun found _ => .ok _).congr ?_
        rw [and_true, Filter.isSupported_iff_of_atoms_eq hAtoms]

theorem Filter.settles_compileOption (scope : Scope) (parameters : Parameters)
    (filter : Option Filter) :
    (Filter.compileOption scope parameters filter).Settles
      (∀ own ∈ filter, Filter.IsSupported own)
      (fun cause => ∃ own ∈ filter, Filter.Fault own cause) := by
  cases filter with
  | none => exact (Compiled.Settles.ok _).congr (by simp)
  | some own =>
      have hOwn := (own.settles_compile scope scope.stem parameters).mono
        (fun cause => ∃ found ∈ some own, Filter.Fault found cause) fun cause hFault =>
          ⟨own, rfl, hFault⟩
      refine (hOwn.bind fun found _ => .ok _).congr ?_
      simp

/-- The comparisons of a relationship's filter are those of the query, and one for every pair of
columns that have to agree. -/
theorem Relationship.mem_atoms_filter (relationship : Relationship) (own : Option Filter)
    (comparison : Comparison) :
    comparison ∈ (relationship.filter own).atoms ↔ (∃ filter ∈ own, comparison ∈ filter.atoms) ∨
      ∃ columns ∈ relationship.columnMapping, comparison =
        .binary .equal (.ofCurrent columns.2) (.column (.ofEnclosing columns.1)) := by
  rw [filter, Formula.atoms_all, List.flatMap_append, List.mem_append, List.mem_flatMap,
    List.mem_flatMap]
  refine or_congr ?_ ?_
  · simp [Option.mem_toList]
  · simp [correlations, Formula.atoms, eq_comm]

/-- What a relationship adds to a filter is supported. -/
theorem Relationship.settles_compileOption (relationship : Relationship) (own : Option Filter)
    (scope : Scope) (parameters : Parameters) :
    (Filter.compileOption scope parameters (some (relationship.filter own))).Settles
      (∀ filter ∈ own, Filter.IsSupported filter)
      (fun cause => ∃ filter ∈ own, Filter.Fault filter cause) := by
  have hAdded : ∀ columns : String × String, Comparison.IsSupported
      (.binary .equal (.ofCurrent columns.2) (.column (.ofEnclosing columns.1))) := by
    intro columns
    refine ⟨fun inTable => by simp, ?_⟩
    intro column hColumn
    rcases List.mem_pair.1 hColumn with rfl | rfl
    · exact .inl rfl
    · exact .inr (.inr rfl)
  have hFilter := Filter.settles_compileOption scope parameters (some (relationship.filter own))
  refine (hFilter.congr ?_).mono _ ?_
  · constructor
    · intro h filter hOwn comparison hMem
      refine h _ rfl comparison ?_
      exact (relationship.mem_atoms_filter own comparison).2 (.inl ⟨filter, hOwn, hMem⟩)
    · intro h found hFound comparison hMem
      obtain rfl := Option.some.inj hFound
      rcases (relationship.mem_atoms_filter own comparison).1 hMem with
        ⟨filter, hOwn, hMem⟩ | hColumns
      · exact h filter hOwn comparison hMem
      · obtain ⟨columns, -, rfl⟩ := hColumns
        exact hAdded columns
  · rintro cause ⟨found, hFound, comparison, hMem, hFault⟩
    obtain rfl := Option.some.inj hFound
    rcases (relationship.mem_atoms_filter own comparison).1 hMem with
      ⟨filter, hOwn, hMem⟩ | hColumns
    · exact ⟨filter, hOwn, comparison, hMem, hFault⟩
    · obtain ⟨columns, -, rfl⟩ := hColumns
      cases hFault with
      | columnPath hColumn hPath hUnsupported =>
          exact absurd ((hAdded columns).2 _ hColumn) hUnsupported

/-! ## Orders -/

/-- An order by a column of the rows themselves. -/
def OrderElement.IsPlain (element : OrderElement) : Prop :=
  element.path = [] ∧ ∃ column, element.target = .column column

/-- An order by columns of the rows themselves. -/
def Order.IsSupported (order : Order) : Prop := ∀ element ∈ order.elements, element.IsPlain

/-- What can be wrong with an order that may be absent. -/
def Order.Fault (order : Option Order) (cause : CompileError) : Prop :=
  ∃ own ∈ order, ¬own.IsSupported ∧ cause = .unsupported .orderTarget

theorem OrderElement.settles_compile (scope : Scope) (order : Order) {element : OrderElement}
    (hElement : element ∈ order.elements) :
    (element.compile scope).Settles element.IsPlain (Order.Fault (some order)) := by
  have hFault : ¬element.IsPlain → Order.Fault (some order) (.unsupported .orderTarget) :=
    fun hNot => ⟨order, rfl, fun hAll => hNot (hAll element hElement), rfl⟩
  obtain ⟨path, target, direction⟩ := element
  cases target with
  | column column =>
      cases path with
      | nil => exact (Compiled.Settles.ok _).congr (iff_of_true trivial ⟨rfl, column, rfl⟩)
      | cons first rest =>
          have hNot : ¬OrderElement.IsPlain ⟨first :: rest, .column column, direction⟩ :=
            fun h => by cases h.1
          exact .error hNot (hFault hNot)
  | starCount =>
      have hNot : ¬OrderElement.IsPlain ⟨path, .starCount, direction⟩ := by
        rintro ⟨-, column, hTarget⟩
        cases hTarget
      exact .error hNot (hFault hNot)
  | aggregate column function =>
      have hNot : ¬OrderElement.IsPlain ⟨path, .aggregate column function, direction⟩ := by
        rintro ⟨-, other, hTarget⟩
        cases hTarget
      exact .error hNot (hFault hNot)

theorem Order.settles_compileOption (scope : Scope) (order : Option Order) :
    (Order.compileOption scope order).Settles (∀ own ∈ order, Order.IsSupported own)
      (Order.Fault order) := by
  cases order with
  | none => exact (Compiled.Settles.ok _).congr (by simp)
  | some own =>
      have hElements := Compiled.Settles.mapM (OrderElement.compile scope)
        fun element hElement => OrderElement.settles_compile scope own hElement
      exact hElements.map.congr (by simp [Order.IsSupported])

/-! ## Queries -/

theorem TableName.settles_validate (table : TableName) (Fault : CompileError → Prop)
    (hFault : ¬table.Valid → Fault (.invalidTableName table)) :
    table.validate.Settles table.Valid Fault := by
  unfold TableName.validate
  by_cases hValid : table.Valid
  · rw [if_pos hValid]
    exact (Compiled.Settles.ok _).congr (iff_of_true trivial hValid)
  · rw [if_neg hValid]
    exact .error hValid (hFault hValid)

mutual

/-- A query of a table that a statement can select the rows of: the name has one or two segments,
and if there are fields, then the filter and the order are supported, and every relationship field
follows a relationship that is declared for the table to a query without aggregates that is
selectable too. -/
def Query.IsSelectable (catalogue : Catalogue) (table : TableName) : Query → Prop
  | ⟨none, _, _, _, _, _⟩ => table.Valid
  | ⟨some [], _, _, _, _, _⟩ => table.Valid
  | ⟨some (field :: fields), _, filter, _, _, order⟩ =>
    table.Valid ∧ (∀ own ∈ filter, Filter.IsSupported own) ∧
      AreSelectable catalogue table (field :: fields) ∧ ∀ own ∈ order, own.IsSupported

/-- The part of the fields in this. -/
def AreSelectable (catalogue : Catalogue) (table : TableName) : List (String × Field) → Prop
  | [] => True
  | (_, .column _ _) :: rest => AreSelectable catalogue table rest
  | (_, .relationship relationship query) :: rest =>
    (∃ followed, catalogue.find? table relationship = some followed ∧
      query.aggregateList = [] ∧ query.IsSelectable catalogue followed.target) ∧
    AreSelectable catalogue table rest

end

/-- What can be wrong with a query of a table, or with one that its fields lead to. -/
inductive Query.Fault (catalogue : Catalogue) : TableName → Query → CompileError → Prop
  | table {table : TableName} {query : Query} (h : ¬table.Valid) :
      Fault catalogue table query (.invalidTableName table)
  | filter {table : TableName} {query : Query} {own : Filter} {cause : CompileError}
      (hFilter : own ∈ query.filter) (h : own.Fault cause) : Fault catalogue table query cause
  | order {table : TableName} {query : Query} {cause : CompileError}
      (h : Order.Fault query.order cause) : Fault catalogue table query cause
  | undeclared {table : TableName} {query sub : Query} {name relationship : String}
      (hField : (name, .relationship relationship sub) ∈ query.fieldList)
      (h : catalogue.find? table relationship = none) :
      Fault catalogue table query (.unsupported (.undeclaredRelationship relationship table))
  | nestedAggregates {table : TableName} {query sub : Query} {name relationship : String}
      (hField : (name, .relationship relationship sub) ∈ query.fieldList)
      (h : sub.aggregateList ≠ []) :
      Fault catalogue table query (.unsupported (.nestedAggregates name))
  | nested {table : TableName} {query sub : Query} {name relationship : String}
      {followed : Relationship} {cause : CompileError}
      (hField : (name, .relationship relationship sub) ∈ query.fieldList)
      (hFind : catalogue.find? table relationship = some followed)
      (h : Fault catalogue followed.target sub cause) : Fault catalogue table query cause

theorem Query.Fault.of_filter {catalogue : Catalogue} {table : TableName} {query : Query}
    {cause : CompileError} (h : ∃ own ∈ query.filter, Filter.Fault own cause) :
    query.Fault catalogue table cause := by
  obtain ⟨own, hMem, hFault⟩ := h
  exact .filter hMem hFault

section Queries

variable {surroundings : Surroundings} {table : TableName} {scope : Scope}

/-- All fields of a query, from what is known of the queries in them. -/
theorem settles_compileFields {query : Query} {fields : List (String × Field)}
    (hFields : ∀ named ∈ fields, named ∈ query.fieldList)
    (hQueries : ∀ name relationship sub, (name, Field.relationship relationship sub) ∈ fields →
      ∀ {table : TableName} {scope : Scope} {filter : Option Filter} {limit : Option UInt64},
        (∀ parameters, (Filter.compileOption scope parameters filter).Settles
          (∀ own ∈ sub.filter, Filter.IsSupported own)
          (sub.Fault surroundings.catalogue table)) →
        ∀ parameters, (sub.compileWith surroundings table scope filter limit parameters).Settles
          (sub.IsSelectable surroundings.catalogue table)
          (sub.Fault surroundings.catalogue table))
    (parameters : Parameters) :
    (compileFields surroundings table scope parameters fields).Settles
      (AreSelectable surroundings.catalogue table fields)
      (query.Fault surroundings.catalogue table) := by
  induction fields generalizing parameters with
  | nil =>
      rw [compileFields, AreSelectable]
      exact .ok _
  | cons first rest ih =>
      have hRest := ih (fun named hMem => hFields named (List.mem_cons_of_mem _ hMem))
        fun name relationship sub hMem =>
          hQueries name relationship sub (List.mem_cons_of_mem _ hMem)
      have hField := hFields first List.mem_cons_self
      obtain ⟨name, field⟩ := first
      cases field with
      | column column type =>
          rw [compileFields, AreSelectable]
          exact ((hRest parameters).bind fun found _ => .ok _).congr (and_iff_left trivial)
      | relationship relationship sub =>
          rw [compileFields, AreSelectable, Surroundings.relationship]
          cases hFind : surroundings.catalogue.find? table relationship with
          | none =>
              have hNone : ¬((∃ followed : Relationship, none = some followed ∧
                  sub.aggregateList = [] ∧
                    sub.IsSelectable surroundings.catalogue followed.target) ∧
                  AreSelectable surroundings.catalogue table rest) := by
                rintro ⟨⟨followed, hSome, -⟩, -⟩
                cases hSome
              exact .error hNone (.undeclared hField hFind)
          | some followed =>
              by_cases hAggregates : sub.aggregateList = []
              · have hFilter : ∀ parameters, (Filter.compileOption
                    (scope.nested followed.target name) parameters
                    (some (followed.filter sub.filter))).Settles
                      (∀ own ∈ sub.filter, Filter.IsSupported own)
                      (sub.Fault surroundings.catalogue followed.target) := by
                  intro parameters
                  have hOwn := followed.settles_compileOption sub.filter
                    (scope.nested followed.target name) parameters
                  exact hOwn.mono _ fun cause hFault => .of_filter hFault
                have hSelect : (sub.compileWith surroundings followed.target
                    (scope.nested followed.target name) (some (followed.filter sub.filter))
                    (followed.limit sub.limit) parameters).Settles
                      (sub.IsSelectable surroundings.catalogue followed.target)
                      (sub.Fault surroundings.catalogue followed.target) :=
                  hQueries name relationship sub List.mem_cons_self hFilter parameters
                have hSub := hSelect.mono (query.Fault surroundings.catalogue table)
                  fun cause hFault => .nested hField hFind hFault
                have hEmpty : (!sub.aggregateList.isEmpty) = false := by simp [hAggregates]
                simp only [hEmpty]
                refine (hSub.bind fun found _ =>
                  (hRest found.2).bind fun others _ => .ok _).congr ?_
                simp [hAggregates]
              · have hNone : ¬((∃ found, some followed = some found ∧ sub.aggregateList = [] ∧
                    sub.IsSelectable surroundings.catalogue found.target) ∧
                      AreSelectable surroundings.catalogue table rest) := by
                  rintro ⟨⟨found, -, hEmpty, -⟩, -⟩
                  exact hAggregates hEmpty
                have hSome : (!sub.aggregateList.isEmpty) = true := by simp [hAggregates]
                simp only [hSome, if_true]
                exact .error hNone (.nestedAggregates hField hAggregates)

theorem Query.settles_compileWith (query : Query) :
    ∀ {table : TableName} {scope : Scope} {filter : Option Filter} {limit : Option UInt64},
      (∀ parameters, (Filter.compileOption scope parameters filter).Settles
        (∀ own ∈ query.filter, Filter.IsSupported own)
        (query.Fault surroundings.catalogue table)) →
      ∀ parameters, (query.compileWith surroundings table scope filter limit parameters).Settles
        (query.IsSelectable surroundings.catalogue table)
        (query.Fault surroundings.catalogue table) := by
  induction query using Query.induct with
  | empty query hFields =>
      intro table scope filter limit _ parameters
      have hTable := table.settles_validate (query.Fault surroundings.catalogue table) .table
      obtain ⟨fields, aggregates, own, ownLimit, offset, order⟩ := query
      rcases Query.fields_of_fieldList_eq_nil hFields with hNone | hNil
      · obtain rfl := hNone
        rw [Query.compileWith, Query.IsSelectable]
        exact (hTable.bind fun _ _ => .ok _).congr (and_iff_left trivial)
      · obtain rfl := hNil
        rw [Query.compileWith, Query.IsSelectable]
        exact (hTable.bind fun _ _ => .ok _).congr (and_iff_left trivial)
  | fields first rest aggregates own ownLimit offset order ih =>
      intro table scope filter limit hFilter parameters
      let query : Query := ⟨some (first :: rest), aggregates, own, ownLimit, offset, order⟩
      have hTable := table.settles_validate (query.Fault surroundings.catalogue table) .table
      have hFields : ∀ parameters,
          (compileFields surroundings table scope parameters (first :: rest)).Settles
            (AreSelectable surroundings.catalogue table (first :: rest))
            (query.Fault surroundings.catalogue table) :=
        settles_compileFields (fun named hMem => hMem) ih
      have hOrder := (Order.settles_compileOption scope order).mono
        (query.Fault surroundings.catalogue table) fun cause hFault => .order hFault
      rw [Query.compileWith, Query.IsSelectable]
      refine (hTable.bind fun _ _ => (hFilter parameters).bind fun found _ =>
        (hFields found.2).bind fun projection _ => hOrder.bind fun elements _ => .ok _).congr ?_
      simp only [and_true]

end Queries

/-! ## Aggregates -/

/-- An aggregate with a function that statements can compute. -/
def Aggregate.IsKnown (aggregate : Aggregate) : Prop :=
  ∀ column word type, aggregate ≠ .singleColumn column (.unknown word) type

/-- A query whose aggregates a statement can compute. The order matters only if it decides which
rows are on a page. -/
structure Query.IsComputable (query : Query) : Prop where
  filter : ∀ own ∈ query.filter, Filter.IsSupported own
  aggregates : ∀ named ∈ query.aggregateList, named.2.IsKnown
  order : (query.limit ≠ none ∨ query.offset ≠ none) → ∀ own ∈ query.order, own.IsSupported

/-- What can be wrong with a request. -/
inductive Request.Fault (request : Request) : CompileError → Prop
  | query {cause : CompileError}
      (h : request.query.Fault (.ofDeclared request.relationships) request.table cause) :
      Fault request cause
  | aggregateFunction {name column word : String} {type : Option String}
      (h : (name, .singleColumn column (.unknown word) type) ∈ request.query.aggregateList) :
      Fault request (.unsupported (.aggregateFunction word))

theorem Aggregate.settles_compile {request : Request} {name : String} {aggregate : Aggregate}
    (hMem : (name, aggregate) ∈ request.query.aggregateList) (rowAlias : String) (paged : Bool) :
    (aggregate.compile rowAlias paged).Settles aggregate.IsKnown request.Fault := by
  cases aggregate with
  | starCount => exact (Compiled.Settles.ok _).congr (by simp [IsKnown])
  | columnCount column distinct => exact (Compiled.Settles.ok _).congr (by simp [IsKnown])
  | singleColumn column function type =>
      cases function with
      | unknown word =>
          have hUnknown : ¬IsKnown (.singleColumn column (.unknown word) type) :=
            fun h => h column word type rfl
          exact .error hUnknown (.aggregateFunction hMem)
      | _ => exact (Compiled.Settles.ok _).congr (by simp [IsKnown])

theorem Request.settles_compileAggregates (request : Request) (rowAlias : String) (paged : Bool) :
    (compileAggregates rowAlias paged request.query.aggregateList).Settles
      (∀ named ∈ request.query.aggregateList, named.2.IsKnown) request.Fault := by
  refine Compiled.Settles.mapM _ fun named hMem => ?_
  have hAggregate := Aggregate.settles_compile hMem rowAlias paged
  exact (hAggregate.bind fun total _ => .ok _).congr (and_iff_left trivial)

/-! ## Requests -/

/-- A request that can be put into statements. -/
structure Request.IsSupported (request : Request) : Prop where
  rows : request.query.IsSelectable (.ofDeclared request.relationships) request.table
  totals : request.query.aggregateList ≠ [] → request.query.IsComputable

theorem Query.IsSelectable.valid {catalogue : Catalogue} {table : TableName} {query : Query}
    (h : query.IsSelectable catalogue table) : table.Valid := by
  obtain ⟨fields, aggregates, filter, limit, offset, order⟩ := query
  cases fields with
  | none => exact h
  | some fields =>
      cases fields with
      | nil => exact h
      | cons first rest =>
          rw [Query.IsSelectable] at h
          exact h.1

namespace Request

variable (request : Request) (config : Config) (settings : Settings) (scope : Scope)

theorem settles_compileRows :
    (request.compileRows config settings scope).Settles
      (request.query.IsSelectable (.ofDeclared request.relationships) request.table)
      request.Fault := by
  have hFilter : ∀ parameters, (Filter.compileOption scope parameters request.query.filter).Settles
      (∀ own ∈ request.query.filter, Filter.IsSupported own)
      (request.query.Fault (.ofDeclared request.relationships) request.table) := by
    intro parameters
    have hOwn := Filter.settles_compileOption scope parameters request.query.filter
    exact hOwn.mono _ fun cause hFault => .of_filter hFault
  have hSelect : (request.query.compileRows (request.surroundings config) request.table
      scope).Settles (request.query.IsSelectable (.ofDeclared request.relationships) request.table)
        (request.query.Fault (.ofDeclared request.relationships) request.table) :=
    request.query.settles_compileWith hFilter []
  have hRows := hSelect.mono request.Fault fun cause hFault => .query hFault
  exact (hRows.bind fun found _ => .ok _).congr (and_iff_left trivial)

theorem settles_compileTotals :
    (request.compileTotals config settings scope).Settles
      (request.table.Valid ∧ (request.query.aggregateList ≠ [] → request.query.IsComputable))
      request.Fault := by
  have hTable := request.table.settles_validate request.Fault fun h => .query (.table h)
  have hFilter := (Filter.settles_compileOption scope [] request.query.filter).mono
    request.Fault fun cause hFault => .query (.of_filter hFault)
  have hOrder := (Order.settles_compileOption scope request.query.order).mono
    request.Fault fun cause hFault => .query (.order hFault)
  unfold compileTotals
  by_cases hNone : request.query.aggregateList = []
  · have hEmpty : request.query.aggregateList.isEmpty = true := by simp [hNone]
    simp only [Query.compileTotals, hEmpty, if_true]
    refine ((hTable.bind fun _ _ => .ok _).bind fun found _ => .ok _).congr ?_
    simp [hNone]
  · -- The order is compiled only for a page.
    have hPage : (request.query.compilePageOrder scope).Settles
        ((request.query.limit ≠ none ∨ request.query.offset ≠ none) →
          ∀ own ∈ request.query.order, own.IsSupported) request.Fault := by
      unfold Query.compilePageOrder
      by_cases hPaged : request.query.isPaged = true
      · rw [if_pos hPaged]
        have hAsked := Query.isPaged_iff.1 hPaged
        exact hOrder.congr ⟨fun h _ => h, fun h => h hAsked⟩
      · rw [if_neg hPaged]
        have hNotAsked := fun h => hPaged (Query.isPaged_iff.2 h)
        exact (Compiled.Settles.ok _).congr (iff_of_true trivial fun h => absurd h hNotAsked)
    have hItems := request.settles_compileAggregates scope.rowAlias request.query.isPaged
    rw [Query.compileTotals_eq hNone]
    refine ((hTable.bind fun _ _ => hFilter.bind fun found _ => hItems.bind fun items _ =>
      hPage.bind fun order _ => .ok _).bind fun found _ => .ok _).congr ?_
    constructor
    · rintro ⟨⟨hValid, hFilter, hAggregates, hOrder, -⟩, -⟩
      exact ⟨hValid, fun _ => ⟨hFilter, hAggregates, hOrder⟩⟩
    · rintro ⟨hValid, hTotals⟩
      obtain ⟨hFilter, hAggregates, hOrder⟩ := hTotals hNone
      exact ⟨⟨hValid, hFilter, hAggregates, hOrder, trivial⟩, trivial⟩

theorem settles_compile :
    (request.compile config settings).Settles request.IsSupported request.Fault := by
  have hRows := request.settles_compileRows config settings (.root request.table)
  have hTotals := request.settles_compileTotals config settings (.root request.table)
  refine (hRows.bind fun rows _ => hTotals.bind fun totals _ => .ok _).congr ?_
  constructor
  · rintro ⟨hSelectable, ⟨-, hComputable⟩, -⟩
    exact ⟨hSelectable, hComputable⟩
  · rintro ⟨hSelectable, hComputable⟩
    exact ⟨hSelectable, ⟨hSelectable.valid, hComputable⟩, trivial⟩

/-- A request compiles exactly if it is supported. Otherwise the cause is something in the request:
a table on the way whose name has no segment or more than two, or a part that no statement can
say. -/
theorem compile_iff :
    ((∃ compiled, request.compile config settings = .ok compiled) ↔ request.IsSupported) ∧
      ∀ cause, request.compile config settings = .error cause → request.Fault cause := by
  have hSettles := request.settles_compile config settings
  exact ⟨hSettles.exists_ok_iff, fun cause hCause => (hSettles.of_error cause hCause).2⟩

end Request

/-- A request whose relationship leads to a table with three segments. The query there has no
fields, so nothing of it is looked at but the table. -/
def strayRequest : Request where
  table := ⟨["t"]⟩
  relationships := [⟨⟨["t"]⟩, [("r", ⟨⟨["a", "b", "c"]⟩, .array, []⟩)]⟩]
  query := {
    fields := some [("f", .relationship "r" {
      fields := none
      aggregates := none
      filter := some (.atom (.exists .null))
      limit := none
      offset := none
      order := none })]
    aggregates := none
    filter := none
    limit := none
    offset := none
    order := none }

theorem compile_iff_stray :
    strayRequest.compile ⟨"b", "s", "c", [], none⟩ ⟨false, none⟩ =
        .error (.invalidTableName ⟨["a", "b", "c"]⟩) ∧
      strayRequest.Fault (.invalidTableName ⟨["a", "b", "c"]⟩) ∧ ¬strayRequest.IsSupported := by
  have hCompile : strayRequest.compile ⟨"b", "s", "c", [], none⟩ ⟨false, none⟩ =
      .error (.invalidTableName ⟨["a", "b", "c"]⟩) := rfl
  obtain ⟨hIff, hFault⟩ := strayRequest.compile_iff ⟨"b", "s", "c", [], none⟩ ⟨false, none⟩
  refine ⟨hCompile, hFault _ hCompile, ?_⟩
  intro hSupported
  obtain ⟨compiled, hOk⟩ := hIff.2 hSupported
  rw [hCompile] at hOk
  cases hOk

end N1qlConnector
