import N1qlConnector.Proofs.Compile.Totals
import N1qlConnector.Proofs.Statement.Quoting

/-!
# Tables that share a collection

Several tables can have their documents in one collection, where a document says by its kind which
table it belongs to. A table without a collection of its own goes to the one that the configuration
names, so it can share that one with a table that names it too. The kind is the name in lower case
with an underscore between its segments, so it does not tell tables apart either whose names differ
in case only, or have an underscore in them.

Only both together do. Two tables with the same number of segments and in the same collection have
the same segments. One with a single segment and one with two have the same scope, and then the kind
of the second goes on where the kind of the first ends: it is longer, whatever lower case does to
letters.

## Main results

* `TableName.eq_of_keyspace_of_rowAlias` : collection and kind give the table.
* `TableName.HasRows.source_eq` : what the statements of a table read.
* `TableName.eq_iff_reads_same` : tables that read the same documents are the same.
-/

namespace N1qlConnector

open Statement

namespace TableName

/-! ## Collection and kind -/

section Names

variable {config : Config} {table other : TableName}

/-- A valid name is a scope, alone or with a collection. -/
theorem Valid.cases (h : table.Valid) :
    (∃ scope, table = ⟨[scope]⟩) ∨ ∃ scope collection, table = ⟨[scope, collection]⟩ := by
  obtain ⟨segments⟩ := table
  rcases h with hOne | hTwo
  · obtain ⟨scope, rfl⟩ := List.length_eq_one_iff.1 hOne
    exact .inl ⟨scope, rfl⟩
  · obtain ⟨scope, collection, rfl⟩ := List.length_eq_two.1 hTwo
    exact .inr ⟨scope, collection, rfl⟩

/-- A collection makes the kind longer, so it is not the kind of the scope alone. -/
theorem rowAlias_pair_ne (scope collection : String) :
    (⟨[scope, collection]⟩ : TableName).rowAlias ≠ (⟨[scope]⟩ : TableName).rowAlias := by
  intro h
  have hScope : (⟨[scope]⟩ : TableName).rowAlias = Text.lower scope := rfl
  have hPair : (⟨[scope, collection]⟩ : TableName).rowAlias =
      Text.lower scope ++ "_" ++ Text.lower collection := rfl
  have hLength := congrArg String.length h
  rw [hScope, hPair, String.length_append, String.length_append] at hLength
  have hMark : "_".length = 1 := rfl
  omega

/-- The collection in which a table has its documents, and their kind, give the table. -/
theorem eq_of_keyspace_of_rowAlias (hTable : table.Valid) (hOther : other.Valid)
    (hKeyspace : table.keyspace config = other.keyspace config)
    (hKind : table.rowAlias = other.rowAlias) : table = other := by
  obtain ⟨-, hScope, hCollection⟩ := Keyspace.mk.inj hKeyspace
  rcases hTable.cases with ⟨scope, rfl⟩ | ⟨scope, collection, rfl⟩
  · rcases hOther.cases with ⟨scope', rfl⟩ | ⟨scope', collection', rfl⟩
    · obtain rfl : scope = scope' := hScope
      rfl
    · obtain rfl : scope = scope' := hScope
      exact absurd hKind.symm (rowAlias_pair_ne scope collection')
  · rcases hOther.cases with ⟨scope', rfl⟩ | ⟨scope', collection', rfl⟩
    · obtain rfl : scope = scope' := hScope
      exact absurd hKind (rowAlias_pair_ne scope collection)
    · obtain rfl : scope = scope' := hScope
      obtain rfl : collection = collection' := hCollection
      rfl

end Names

/-! ## What statements read -/

/-- The rows of a statement that reads from a table: the row statement of some query, be it of a
request or nested in another statement, or an aggregate statement. -/
inductive HasRows (config : Config) (table : TableName) : RowSet → Prop
  | rows {catalogue : Catalogue} {scope : Scope} {filter : Option Filter} {limit : Option UInt64}
      {parameters later : Parameters} {query : Query} {select : Select}
      (h : query.compileWith ⟨config, catalogue⟩ table scope filter limit parameters =
        .ok (some select, later)) : HasRows config table select.rows
  | totals {catalogue : Catalogue} {scope : Scope} {later : Parameters} {query : Query}
      {totals : TotalsSelect}
      (h : query.compileTotals ⟨config, catalogue⟩ table scope = .ok (some totals, later)) :
      HasRows config table totals.rows

/-- All statements of a table read the same collection and look for the same kind. -/
theorem HasRows.source_eq {config : Config} {table : TableName} {rows : RowSet}
    (h : table.HasRows config rows) :
    rows.source = table.keyspace config ∧ rows.kind = table.rowAlias := by
  cases h with
  | rows h =>
      obtain ⟨condition, middle, order, -, -, -, hRows⟩ := Query.compileWith_ok_some h
      rw [hRows]
      exact ⟨rfl, rfl⟩
  | totals h =>
      obtain ⟨-, condition, order, -, -, -, hRows⟩ := Query.compileTotals_ok_some h
      rw [hRows]
      exact ⟨rfl, rfl⟩

/-- Two tables are the same if the text of the keyspace that a query on them reads and the string
that its documents' kind is compared with are the same, and no two statements of different tables
agree in both. -/
theorem eq_iff_reads_same {table other : TableName} (hTable : table.Valid) (hOther : other.Valid)
    (config : Config) :
    (table = other ↔ (table.keyspace config).text = (other.keyspace config).text ∧
      Json.quote table.rowAlias = Json.quote other.rowAlias) ∧
    ∀ rows more, table.HasRows config rows → other.HasRows config more →
      (table = other ↔ rows.source.text = more.source.text ∧
        Json.quote rows.kind = Json.quote more.kind) := by
  have hSame : table = other ↔ (table.keyspace config).text = (other.keyspace config).text ∧
      Json.quote table.rowAlias = Json.quote other.rowAlias := by
    rw [Keyspace.text_inj, quote_inj]
    constructor
    · rintro rfl
      exact ⟨rfl, rfl⟩
    · rintro ⟨hKeyspace, hKind⟩
      exact eq_of_keyspace_of_rowAlias hTable hOther hKeyspace hKind
  refine ⟨hSame, fun rows more hRows hMore => ?_⟩
  rw [hRows.source_eq.1, hRows.source_eq.2, hMore.source_eq.1, hMore.source_eq.2]
  exact hSame

/-- A scope, and the collection in it that the configuration falls back to. -/
theorem eq_iff_reads_same_fallback :
    let config : Config := .ofBucket "b"
    let table : TableName := ⟨["Sales"]⟩
    let other : TableName := ⟨["Sales", "_default"]⟩
    let query : Query := ⟨some [("id", .column "id" none)], none, none, none, none, none⟩
    table.Valid ∧ other.Valid ∧ (table.keyspace config).text = (other.keyspace config).text ∧
      ∃ select found parameters later,
        query.compileRows ⟨config, ⟨[]⟩⟩ table (.root table) = .ok (some select, parameters) ∧
        query.compileRows ⟨config, ⟨[]⟩⟩ other (.root other) = .ok (some found, later) ∧
        select.rows.source.text = found.rows.source.text ∧
        Json.quote select.rows.kind ≠ Json.quote found.rows.kind := by
  intro config table other query
  have hTable : table.Valid := by decide
  have hOther : other.Valid := by decide
  obtain ⟨-, hRows⟩ := eq_iff_reads_same hTable hOther config
  obtain ⟨select, hSelect⟩ : ∃ select, query.compileRows ⟨config, ⟨[]⟩⟩ table (.root table) =
      .ok (some select, []) ∧ select.rows.source = table.keyspace config := ⟨_, rfl, rfl⟩
  obtain ⟨found, hFound⟩ : ∃ found, query.compileRows ⟨config, ⟨[]⟩⟩ other (.root other) =
      .ok (some found, []) ∧ found.rows.source = other.keyspace config := ⟨_, rfl, rfl⟩
  have hSource : select.rows.source.text = found.rows.source.text := by
    rw [hSelect.2, hFound.2]
    rfl
  have hIff := hRows _ _ (.rows hSelect.1) (.rows hFound.1)
  refine ⟨hTable, hOther, rfl, select, found, [], [], hSelect.1, hFound.1, hSource, fun hKind => ?_⟩
  exact absurd (hIff.2 ⟨hSource, hKind⟩) (by decide)

end TableName

end N1qlConnector
