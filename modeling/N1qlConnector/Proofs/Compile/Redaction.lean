import N1qlConnector.Proofs.Compile.Totals

/-!
# Values leave no trace in texts

A statement has placeholders where a request has values, so a caller's values cannot change what a
statement says. To see that this holds of every request, two of them are compiled side by side that
differ in their values only.

What is left of a request without its values is `Request.redacted`. Types that a request notes down
for its columns and values go as well, and so does the limit of a query that a relationship to one
row leads to, since it is overruled. Two requests that are the same when redacted compile alike:
they fail for the same reason, or they get the same texts and parameters of the same names.

The names are the point where values could come in after all, since a name depends on the parameters
that are already there. It depends on their names only, so both runs have to be followed with
parameters that differ in their values. `Compiled.shown` is what such runs have in common, and
`shown_bind` carries it from one step to the next.

## Main results

* `Request.compile_alike` : requests that differ in their values only compile alike.
-/

namespace N1qlConnector

open Statement

/-! ## Requests without values -/

def Column.redacted (column : Column) : Column := { column with columnType := none }

def Operand.redacted : Operand → Operand
  | .column other => .column other.redacted
  | .scalar _ _ => .scalar .null none

def Comparison.redacted : Comparison → Comparison
  | .exists inTable => .exists inTable
  | .unary operator column => .unary operator column.redacted
  | .binary operator column operand => .binary operator column.redacted operand.redacted
  | .array operator column _ _ => .array operator column.redacted [] none

/-- A filter without the values that it compares with. -/
def Filter.redacted (filter : Filter) : Filter := filter.map Comparison.redacted

def Aggregate.redacted : Aggregate → Aggregate
  | .singleColumn column function _ => .singleColumn column function none
  | aggregate => aggregate

def Order.redacted (order : Order) : Order := { order with relations := .null }

/-- What is left of the limit of a query behind a relationship: nothing if it is overruled. -/
def Relationship.redactedLimit : Option Relationship → Option UInt64 → Option UInt64
  | some ⟨_, .object, _⟩, _ => none
  | _, own => own

mutual

/-- A query without values, with a given limit. The table that it reads from is known as long as all
relationships on the way are declared. -/
def Query.redactedWith (catalogue : Catalogue) (table : Option TableName) (limit : Option UInt64) :
    Query → Query
  | ⟨fields, aggregates, filter, _, offset, order⟩ =>
    { fields := match fields with
        | none => none
        | some fields => some (redactedFields catalogue table fields)
      aggregates := aggregates.map (List.map fun named => (named.1, named.2.redacted))
      filter := filter.map Filter.redacted
      limit
      offset
      order := order.map Order.redacted }

def Field.redacted (catalogue : Catalogue) (table : Option TableName) : Field → Field
  | .column column _ => .column column none
  | .relationship relationship query =>
    let followed := table.bind (catalogue.find? · relationship)
    .relationship relationship (query.redactedWith catalogue (followed.map Relationship.target)
      (Relationship.redactedLimit followed query.limit))

/-- All fields of a query. -/
def redactedFields (catalogue : Catalogue) (table : Option TableName) :
    List (String × Field) → List (String × Field)
  | [] => []
  | (name, field) :: rest =>
    (name, field.redacted catalogue table) :: redactedFields catalogue table rest

end

/-- A request without values. Its relationships stay as they are, and so does the limit of the query
itself, which is no relationship's. -/
def Request.redacted (request : Request) : Request :=
  { request with
    query := request.query.redactedWith (.ofDeclared request.relationships) (some request.table)
      request.query.limit }

section Shape

variable (catalogue : Catalogue) (table : Option TableName) (limit : Option UInt64)

theorem Query.redactedWith_eq (query : Query) :
    query.redactedWith catalogue table limit =
      { fields := query.fields.map (redactedFields catalogue table)
        aggregates := query.aggregates.map (List.map fun named => (named.1, named.2.redacted))
        filter := query.filter.map Filter.redacted
        limit
        offset := query.offset
        order := query.order.map Order.redacted } := by
  obtain ⟨fields, aggregates, filter, own, offset, order⟩ := query
  cases fields <;> rfl

theorem Query.filter_redactedWith (query : Query) :
    (query.redactedWith catalogue table limit).filter = query.filter.map Filter.redacted := by
  rw [redactedWith_eq]

theorem Query.limit_redactedWith (query : Query) :
    (query.redactedWith catalogue table limit).limit = limit := by
  rw [redactedWith_eq]

/-- Redacting changes what an aggregate notes down, and not which aggregates there are. -/
theorem Query.aggregateList_redactedWith (query : Query) :
    (query.redactedWith catalogue table limit).aggregateList =
      query.aggregateList.map fun named => (named.1, named.2.redacted) := by
  rw [redactedWith_eq, aggregateList, aggregateList]
  cases query.aggregates <;> rfl

end Shape

/-! ## What two runs have in common -/

namespace Compiled

variable {α β : Type}

/-- What a result shows to somebody who does not see the values of its parameters. -/
def shown (found : Compiled (α × Parameters)) : Compiled (α × List String) :=
  (fun result => (result.1, result.2.keys)) <$> found

theorem shown_ok {a b : α} {parameters others : Parameters} (hResult : a = b)
    (hKeys : parameters.keys = others.keys) :
    shown (.ok (a, parameters)) = shown (.ok (b, others)) := by
  subst hResult
  exact congrArg (fun keys => Except.ok (a, keys)) hKeys

theorem shown_eq_cases {first second : Compiled (α × Parameters)} (h : shown first = shown second) :
    (∃ cause, first = .error cause ∧ second = .error cause) ∨
      ∃ a parameters others, first = .ok (a, parameters) ∧ second = .ok (a, others) ∧
        parameters.keys = others.keys := by
  cases first with
  | error cause =>
      cases second with
      | error cause' =>
          obtain rfl := Except.error.inj h
          exact .inl ⟨cause, rfl, rfl⟩
      | ok result => cases h
  | ok result =>
      cases second with
      | error cause => cases h
      | ok result' =>
          obtain ⟨a, parameters⟩ := result
          obtain ⟨a', others⟩ := result'
          obtain ⟨rfl, hKeys⟩ := Prod.mk.inj (Except.ok.inj h)
          exact .inr ⟨a, parameters, others, rfl, rfl, hKeys⟩

/-- Two runs that go on from parameters of the same names. -/
theorem shown_bind {first second : Compiled (α × Parameters)}
    {next next' : α × Parameters → Compiled (β × Parameters)} (h : shown first = shown second)
    (hNext : ∀ a parameters others, Entries.keys parameters = Entries.keys others →
      shown (next (a, parameters)) = shown (next' (a, others))) :
    shown (first >>= next) = shown (second >>= next') := by
  rcases shown_eq_cases h with ⟨cause, rfl, rfl⟩ | ⟨a, parameters, others, rfl, rfl, hKeys⟩
  · rfl
  · exact hNext a parameters others hKeys

/-- Two runs that only make something else of what they found. -/
theorem shown_bind_ok {first second : Compiled (α × Parameters)} (h : shown first = shown second)
    (make : α → β) :
    shown (first >>= fun result => .ok (make result.1, result.2)) =
      shown (second >>= fun result => .ok (make result.1, result.2)) :=
  shown_bind h fun _ _ _ hKeys => shown_ok rfl hKeys

/-- A step that binds nothing is the same in both runs. -/
theorem shown_bind_same (found : Compiled α) {next next' : α → Compiled (β × Parameters)}
    (hNext : ∀ a, shown (next a) = shown (next' a)) :
    shown (found >>= next) = shown (found >>= next') := by
  cases found with
  | error cause => rfl
  | ok a => exact hNext a

end Compiled

/-! ## Filters -/

/-- Which name a value gets depends on the names that are taken, and neither on the value nor on
those bound before. -/
theorem Compiled.shown_ok_bind {α : Type} {parameters others : Parameters}
    (h : parameters.keys = others.keys) (proposal : String) (value value' : Json)
    (make : String → α) :
    shown (.ok (make (Statement.bind parameters proposal value).1,
        (Statement.bind parameters proposal value).2)) =
      shown (.ok (make (Statement.bind others proposal value').1,
        (Statement.bind others proposal value').2)) := by
  refine shown_ok ?_ ?_
  · simp only [Statement.bind, h]
  · simp only [Statement.bind, Entries.keys_insert, h]

theorem Comparison.shown_compile (scope : Scope) (stem : String) {parameters others : Parameters}
    (h : parameters.keys = others.keys) (comparison : Comparison) :
    (comparison.compile scope stem parameters).shown =
      (comparison.redacted.compile scope stem others).shown := by
  cases comparison with
  | «exists» inTable => rfl
  | unary operator column =>
      refine Compiled.shown_bind_same (column.compile scope) fun left => ?_
      exact Compiled.shown_ok rfl h
  | binary operator column operand =>
      cases operand with
      | column other =>
          refine Compiled.shown_bind_same (column.compile scope) fun left => ?_
          refine Compiled.shown_bind_same (other.compile scope) fun right => ?_
          exact Compiled.shown_ok rfl h
      | scalar value type =>
          refine Compiled.shown_bind_same (column.compile scope) fun left => ?_
          exact Compiled.shown_ok_bind h (stem ++ column.name) value .null fun name =>
            Test.binary left operator (.placeholder name)
  | array operator column values type =>
      refine Compiled.shown_bind_same (column.compile scope) fun left => ?_
      exact Compiled.shown_ok_bind h (stem ++ column.name) (.array values) (.array []) fun name =>
        Test.array left operator name

theorem Filter.shown_compileEach {scope : Scope} {parts : List Filter}
    (hParts : ∀ part ∈ parts, ∀ (stem : String) {parameters others : Parameters},
      parameters.keys = others.keys → (Filter.compile scope stem parameters part).shown =
        (Filter.compile scope stem others part.redacted).shown)
    (stem : String) {parameters others : Parameters} (h : parameters.keys = others.keys) :
    (Filter.compile.compileEach scope stem parameters parts).shown =
      (Filter.compile.compileEach scope stem others (parts.map Filter.redacted)).shown := by
  induction parts generalizing parameters others with
  | nil => exact Compiled.shown_ok rfl h
  | cons part rest ih =>
      refine Compiled.shown_bind (hParts part List.mem_cons_self stem h) ?_
      intro condition middle middle' hMiddle
      have hRest := ih (fun other hMem => hParts other (List.mem_cons_of_mem _ hMem)) hMiddle
      exact Compiled.shown_bind_ok hRest (condition :: ·)

theorem Filter.shown_compile (scope : Scope) (filter : Filter) :
    ∀ (stem : String) {parameters others : Parameters}, parameters.keys = others.keys →
      (filter.compile scope stem parameters).shown =
        (filter.redacted.compile scope stem others).shown := by
  induction filter using Formula.induct with
  | atom comparison =>
      intro stem parameters others h
      exact Compiled.shown_bind_ok (comparison.shown_compile scope stem h) Formula.atom
  | not part ih =>
      intro stem parameters others h
      exact Compiled.shown_bind_ok (ih (stem ++ "not_") h) Formula.not
  | combination parts ih =>
      constructor
      · intro stem parameters others h
        rw [Filter.redacted, Formula.map_all]
        have hParts := Filter.shown_compileEach ih (stem ++ "and_") h
        exact Compiled.shown_bind_ok hParts Formula.all
      · intro stem parameters others h
        rw [Filter.redacted, Formula.map_any]
        have hParts := Filter.shown_compileEach ih (stem ++ "or_") h
        exact Compiled.shown_bind_ok hParts Formula.any

theorem Filter.shown_compileOption (scope : Scope) (filter : Option Filter)
    {parameters others : Parameters} (h : parameters.keys = others.keys) :
    (Filter.compileOption scope parameters filter).shown =
      (Filter.compileOption scope others (filter.map Filter.redacted)).shown := by
  cases filter with
  | none => exact Compiled.shown_ok rfl h
  | some own =>
      exact Compiled.shown_bind_ok (own.shown_compile scope scope.stem h) some

/-! ## Queries -/

/-- What a relationship adds to a filter has no values. -/
theorem Relationship.redacted_filter (relationship : Relationship) (own : Option Filter) :
    (relationship.filter own).redacted = relationship.filter (own.map Filter.redacted) := by
  have hCorrelations : relationship.correlations.map (Formula.map Comparison.redacted) =
      relationship.correlations := by
    rw [correlations, List.map_map]
    rfl
  rw [filter, filter, Filter.redacted, Formula.map_all, List.map_append, hCorrelations]
  cases own <;> rfl

/-- A limit that is overruled makes no difference. -/
theorem Relationship.limit_redactedLimit (relationship : Relationship) (own : Option UInt64) :
    relationship.limit (redactedLimit (some relationship) own) = relationship.limit own := by
  obtain ⟨target, cardinality, columnMapping⟩ := relationship
  cases cardinality <;> rfl

theorem Order.compileOption_redacted (scope : Scope) (order : Option Order) :
    Order.compileOption scope (order.map Order.redacted) = Order.compileOption scope order := by
  cases order <;> rfl

section Queries

variable {surroundings : Surroundings}

theorem shown_compileFields {table : TableName} {scope : Scope} {fields : List (String × Field)}
    (hQueries : ∀ name relationship sub, (name, Field.relationship relationship sub) ∈ fields →
      ∀ {table : TableName} {scope : Scope} {filter : Option Filter} {limit own : Option UInt64}
        {parameters others : Parameters}, parameters.keys = others.keys →
        (sub.compileWith surroundings table scope filter limit parameters).shown =
          ((sub.redactedWith surroundings.catalogue (some table) own).compileWith surroundings
            table scope (filter.map Filter.redacted) limit others).shown)
    {parameters others : Parameters} (h : parameters.keys = others.keys) :
    (compileFields surroundings table scope parameters fields).shown =
      (compileFields surroundings table scope others
        (redactedFields surroundings.catalogue (some table) fields)).shown := by
  induction fields generalizing parameters others with
  | nil =>
      rw [redactedFields, compileFields, compileFields]
      exact Compiled.shown_ok rfl h
  | cons first rest ih =>
      have hRest : ∀ {parameters others : Parameters}, parameters.keys = others.keys →
          (compileFields surroundings table scope parameters rest).shown =
            (compileFields surroundings table scope others
              (redactedFields surroundings.catalogue (some table) rest)).shown :=
        ih fun name relationship sub hMem =>
          hQueries name relationship sub (List.mem_cons_of_mem _ hMem)
      obtain ⟨name, field⟩ := first
      cases field with
      | column column type =>
          rw [redactedFields, Field.redacted, compileFields, compileFields]
          exact Compiled.shown_bind_ok (hRest h) fun projection =>
            Projection.mk ((name, scope.item column) :: projection.items) projection.bindings
      | relationship relationship query =>
          rw [redactedFields, Field.redacted, compileFields, compileFields,
            Surroundings.relationship]
          cases hFind : surroundings.catalogue.find? table relationship with
          | none => rfl
          | some followed =>
              let own := Relationship.redactedLimit (some followed) query.limit
              let inner := scope.nested followed.target name
              -- The filter and the limit that the relationship makes of the redacted ones.
              have hSelect :
                  (query.compileWith surroundings followed.target inner
                    (some (followed.filter query.filter)) (followed.limit query.limit)
                    parameters).shown =
                  ((query.redactedWith surroundings.catalogue (some followed.target)
                    own).compileWith surroundings followed.target inner
                    (some (followed.filter (query.filter.map Filter.redacted)))
                    (followed.limit own) others).shown := by
                rw [← followed.redacted_filter, followed.limit_redactedLimit]
                exact hQueries name relationship query List.mem_cons_self h
              simp only [Option.bind_some, hFind, Option.map_some]
              rw [Query.aggregateList_redactedWith, List.isEmpty_map, Query.filter_redactedWith,
                Query.limit_redactedWith]
              cases hAggregates : query.aggregateList.isEmpty with
              | false => rfl
              | true =>
                  refine Compiled.shown_bind hSelect ?_
                  intro select middle middle' hMiddle
                  exact Compiled.shown_bind_ok (hRest hMiddle) fun projection =>
                    Projection.mk ((name, .rows (bindingName name)) :: projection.items)
                      ((bindingName name, select) :: projection.bindings)

theorem Query.shown_compileWith (query : Query) :
    ∀ {table : TableName} {scope : Scope} {filter : Option Filter} {limit own : Option UInt64}
      {parameters others : Parameters}, parameters.keys = others.keys →
      (query.compileWith surroundings table scope filter limit parameters).shown =
        ((query.redactedWith surroundings.catalogue (some table) own).compileWith surroundings table
          scope (filter.map Filter.redacted) limit others).shown := by
  induction query using Query.induct with
  | empty query hFields =>
      intro table scope filter limit own parameters others h
      obtain ⟨fields, aggregates, ownFilter, ownLimit, offset, order⟩ := query
      rw [redactedWith_eq]
      rcases Query.fields_of_fieldList_eq_nil hFields with hNone | hNil
      · obtain rfl := hNone
        rw [Option.map_none, compileWith, compileWith]
        exact Compiled.shown_bind_same table.validate fun _ => Compiled.shown_ok rfl h
      · obtain rfl := hNil
        rw [Option.map_some, redactedFields, compileWith, compileWith]
        exact Compiled.shown_bind_same table.validate fun _ => Compiled.shown_ok rfl h
  | fields first rest aggregates ownFilter ownLimit offset order ih =>
      intro table scope filter limit own parameters others h
      rw [redactedWith_eq, Option.map_some, redactedFields, compileWith, compileWith]
      refine Compiled.shown_bind_same table.validate fun _ => ?_
      refine Compiled.shown_bind (Filter.shown_compileOption scope filter h) ?_
      intro condition middle middle' hMiddle
      have hFields : (compileFields surroundings table scope middle (first :: rest)).shown =
          (compileFields surroundings table scope middle'
            (redactedFields surroundings.catalogue (some table) (first :: rest))).shown :=
        shown_compileFields ih hMiddle
      rw [redactedFields] at hFields
      refine Compiled.shown_bind hFields ?_
      intro projection later later' hLater
      rw [Order.compileOption_redacted]
      refine Compiled.shown_bind_same (Order.compileOption scope order) fun found => ?_
      exact Compiled.shown_ok rfl hLater

/-! ## Aggregates -/

theorem Aggregate.compile_redacted (rowAlias : String) (paged : Bool) (aggregate : Aggregate) :
    aggregate.redacted.compile rowAlias paged = aggregate.compile rowAlias paged := by
  cases aggregate <;> rfl

theorem compileAggregates_redacted (rowAlias : String) (paged : Bool)
    (aggregates : List (String × Aggregate)) :
    compileAggregates rowAlias paged (aggregates.map fun named => (named.1, named.2.redacted)) =
      compileAggregates rowAlias paged aggregates := by
  unfold compileAggregates
  rw [List.mapM_map]
  refine congrArg (fun step => aggregates.mapM step) (funext fun named => ?_)
  simp only [Function.comp, Aggregate.compile_redacted]

theorem Query.shown_compileTotals (table : TableName) (scope : Scope) (query : Query) :
    (query.compileTotals surroundings table scope).shown =
      ((query.redactedWith surroundings.catalogue (some table) query.limit).compileTotals
        surroundings table scope).shown := by
  let redacted := query.redactedWith surroundings.catalogue (some table) query.limit
  have hAggregates : redacted.aggregateList =
      query.aggregateList.map fun named => (named.1, named.2.redacted) :=
    aggregateList_redactedWith _ _ _ query
  by_cases hNone : query.aggregateList = []
  · have hNone' : redacted.aggregateList = [] := by rw [hAggregates, hNone, List.map_nil]
    unfold compileTotals
    rw [if_pos (List.isEmpty_iff.2 hNone), if_pos (List.isEmpty_iff.2 hNone')]
  · have hSome : redacted.aggregateList ≠ [] := by
      rw [hAggregates]
      exact fun h => hNone (List.map_eq_nil_iff.1 h)
    rw [compileTotals_eq hNone, compileTotals_eq hSome]
    have hRedacted := redactedWith_eq surroundings.catalogue (some table) query.limit query
    have hPaged : redacted.isPaged = query.isPaged := by
      simp only [redacted, hRedacted, isPaged]
    have hOrder : redacted.compilePageOrder scope = query.compilePageOrder scope := by
      unfold compilePageOrder
      rw [hPaged]
      simp only [redacted, hRedacted, Order.compileOption_redacted]
    have hRows : redacted.rowSet surroundings table scope =
        query.rowSet surroundings table scope := by
      funext condition order
      simp only [redacted, hRedacted, rowSet]
    rw [hAggregates, hPaged, hOrder, hRows, compileAggregates_redacted]
    refine Compiled.shown_bind_same table.validate fun _ => ?_
    have hFilter := Filter.shown_compileOption scope query.filter (rfl : Entries.keys [] = _)
    rw [← filter_redactedWith surroundings.catalogue (some table) query.limit] at hFilter
    refine Compiled.shown_bind hFilter ?_
    intro condition parameters others hKeys
    refine Compiled.shown_bind_same (compileAggregates _ _ _) fun items => ?_
    refine Compiled.shown_bind_same (query.compilePageOrder scope) fun order => ?_
    exact Compiled.shown_ok rfl hKeys

end Queries

/-! ## Requests -/

/-- Two runs of the compiler that nobody can tell apart without the values of parameters. -/
inductive Compiled.Alike : Compiled CompiledRequest → Compiled CompiledRequest → Prop
  | error (cause : CompileError) : Alike (.error cause) (.error cause)
  | ok {first second : CompiledRequest} (rowsText : first.rows.text = second.rows.text)
      (rowsKeys : first.rows.parameters.keys = second.rows.parameters.keys)
      (totalsText : first.totals.text = second.totals.text)
      (totalsKeys : first.totals.parameters.keys = second.totals.parameters.keys) :
      Alike (.ok first) (.ok second)

section Requests

variable (config : Config) (request : Request) (scope : Scope)

theorem Request.shown_compileRows :
    (request.query.compileRows (request.surroundings config) request.table scope).shown =
      (request.redacted.query.compileRows (request.redacted.surroundings config)
        request.redacted.table scope).shown := by
  have hFilter : request.redacted.query.filter = request.query.filter.map Filter.redacted :=
    Query.filter_redactedWith _ _ _ request.query
  have hLimit : request.redacted.query.limit = request.query.limit :=
    Query.limit_redactedWith _ _ _ request.query
  rw [Query.compileRows, Query.compileRows, hFilter, hLimit]
  exact request.query.shown_compileWith rfl

theorem Request.shown_compileTotals :
    (request.query.compileTotals (request.surroundings config) request.table scope).shown =
      (request.redacted.query.compileTotals (request.redacted.surroundings config)
        request.redacted.table scope).shown :=
  request.query.shown_compileTotals request.table scope

end Requests

/-- Requests that are the same but for their values compile alike, whatever operators they have and
however deep their filters stand. -/
theorem Request.compile_alike {first second : Request} (h : first.redacted = second.redacted)
    (config : Config) (settings : Settings) :
    (first.compile config settings).Alike (second.compile config settings) := by
  have hTable : first.table = second.table := by
    show first.redacted.table = second.redacted.table
    rw [h]
  have hRows := first.shown_compileRows config (.root first.table)
  have hTotals := first.shown_compileTotals config (.root first.table)
  rw [h, ← second.shown_compileRows, hTable] at hRows
  rw [h, ← second.shown_compileTotals, hTable] at hTotals
  rw [first.compile_eq, second.compile_eq, hTable]
  rcases Compiled.shown_eq_cases hRows with
    ⟨cause, hFirst, hSecond⟩ | ⟨select, parameters, others, hFirst, hSecond, hKeys⟩
  · rw [hFirst, hSecond]
    exact .error cause
  rcases Compiled.shown_eq_cases hTotals with
    ⟨cause, hFirst', hSecond'⟩ | ⟨totals, counted, counted', hFirst', hSecond', hKeys'⟩
  · rw [hFirst, hSecond, hFirst', hSecond']
    exact .error cause
  rw [hFirst, hSecond, hFirst', hSecond']
  cases select <;> cases totals <;> exact .ok rfl hKeys rfl hKeys'

/-- A request for at most one related row, with a filter on each row. The parameters of both filters
would have the same name. -/
def secretRequest (status : Json) (sizes : List Json) (limit : Option UInt64)
    (type : Option String) : Request where
  table := ⟨["t"]⟩
  relationships := [⟨⟨["t"]⟩, [("r", ⟨⟨["u"]⟩, .object, [("a", "b")]⟩)]⟩]
  query := {
    fields := some [("f", .relationship "r" {
      fields := some [("y", .column "y" type)]
      aggregates := none
      filter := some (.atom (.array (.custom "WITHIN") (.ofCurrent "c") sizes type))
      limit := limit
      offset := none
      order := none })]
    aggregates := some [("n", .singleColumn "c" .max type)]
    filter := some (.atom (.binary .equal (.ofCurrent "f_and_c") (.scalar status type)))
    limit := some 2
    offset := none
    order := none }

theorem compile_alike_secret :
    let first := secretRequest (.string "open") [.nat 1, .nat 2] (some 7) (some "number")
    let second := secretRequest .null [] none none
    first.redacted = second.redacted ∧ ∃ compiled, first.compile bucketConfig {} = .ok compiled ∧
      Entries.keys compiled.rows.parameters = ["p_f_and_c", "p_f_and_c_1"] ∧
      (first.compile bucketConfig {}).Alike (second.compile bucketConfig {}) := by
  have hRedacted : (secretRequest (.string "open") [.nat 1, .nat 2] (some 7)
      (some "number")).redacted = (secretRequest .null [] none none).redacted := rfl
  exact ⟨hRedacted, _, rfl, rfl, Request.compile_alike hRedacted bucketConfig {}⟩

end N1qlConnector
