import N1qlConnector.Proofs.Compile.Rows
import N1qlConnector.Proofs.Statement.Placeholders

/-!
# What compiled requests say

The row statement of a request, seen from outside: as a text and a map of parameters. What the text
says is what a reader finds in it who knows nothing of the request, and every placeholder is followed
into the map.

Both results hold for all names that a request or a configuration can hold, however many backticks,
quotes, dollars or comment signs they have, and with tags or without.

## Main results

* `Request.read_rows` : the text reads back as the tree that the request describes.
* `Request.accounts_rows` : every value that the request compares with is bound once, under a name
  of its own that stands once in the text, and nothing else is.
-/

namespace N1qlConnector

open Statement

section Compiled

variable {request : Request} {config : Config} {settings : Settings} {compiled : CompiledRequest}

/-- Where the row statement of a request comes from. -/
theorem Request.compile_ok (h : request.compile config settings = .ok compiled) :
    ∃ select parameters,
      QueryCompiles (request.surroundings config) request.table (.root request.table)
        request.query.filter request.query.limit [] request.query select parameters ∧
      compiled.rows = .ofRows settings.tags (select, parameters) := by
  obtain ⟨rows, hRows, h⟩ := Compiled.bind_eq_ok.1 h
  obtain ⟨totals, -, h⟩ := Compiled.bind_eq_ok.1 h
  obtain ⟨⟨select, parameters⟩, hSelect, hPrepared⟩ := Compiled.bind_eq_ok.1 hRows
  obtain rfl := Except.ok.inj h
  obtain rfl := Except.ok.inj hPrepared
  exact ⟨select, parameters, Query.compileWith_ok hSelect, rfl⟩

/-- Tags come in when both statements are made, and what is tagged was compiled without them. -/
theorem Request.compile_eq (request : Request) (config : Config) (settings : Settings) :
    request.compile config settings = (do
      let rows ← request.query.compileRows (request.surroundings config) request.table
        (.root request.table)
      let totals ← request.query.compileTotals (request.surroundings config) request.table
        (.root request.table)
      .ok ⟨.ofRows settings.tags rows, .ofTotals settings.tags totals⟩) := by
  unfold compile compileRows compileTotals
  simp only [bind_assoc, pure_bind]
  rfl

/-- The lexemes of a row statement. -/
theorem spells_ofRows (tags : Tags) {select : Select} (parameters : Parameters)
    (h : select.IsPlain) :
    Spells (Prepared.ofRows tags (some select, parameters)).text select.lexemes :=
  (Select.spells tags h).tag tags (by decide)

/-- A request whose names have quotes and comment signs in them, and whose three values would all
have the same parameter. -/
def tangledRequest : Request where
  table := ⟨["t"]⟩
  relationships := [⟨⟨["t"]⟩, [("r", ⟨⟨["t"]⟩, .array, [("a", "b")]⟩)]⟩]
  query := {
    fields := some [("\x60x", .column "a\"b" none), ("f", .relationship "r" {
      fields := some [("$y", .column "/*" none)]
      aggregates := none
      filter := some (.any [.atom (.binary .equal (.ofCurrent "a b") (.scalar (.nat 1) none)),
        .atom (.array .isIn (.ofEnclosing "a_b") [.nat 2] none)])
      limit := none
      offset := none
      order := none })]
    aggregates := none
    filter := some (.atom (.binary .lessThan (.ofCurrent "f_and_or_a_b") (.scalar .null none)))
    limit := some 1
    offset := none
    order := none }

/-- A configuration with nothing but a bucket. -/
def bucketConfig : Config := ⟨"b", "_default", "_default", [], none⟩

/-! ## Reading back -/

/-- A row statement that is not empty reads back as the tree that the request describes, once the
parameters are replaced by what they are bound to. -/
theorem Request.read_rows (hBuiltIn : request.query.isBuiltIn)
    (hCompile : request.compile config settings = .ok compiled) (hText : compiled.rows.text ≠ "") :
    ∃ found tree, Outline.read compiled.rows.text = some found ∧
      request.described config = some tree ∧
      found.map (compiled.rows.parameters.lookup ·) = tree.map some := by
  obtain ⟨select, parameters, hSelect, hRows⟩ := Request.compile_ok hCompile
  rw [hRows] at hText ⊢
  cases select with
  | none => exact absurd rfl hText
  | some select =>
      have hPlain : select.IsPlain := hSelect.isPlain (by decide : "p_" ≠ "")
        (Query.all_isBuiltIn_filter hBuiltIn) hBuiltIn select rfl
      have hNodup : parameters.keys.Nodup := hSelect.binds.nodup_keys List.nodup_nil
      have hDescribed := hSelect.described parameters (List.prefix_refl _) hNodup
      obtain ⟨tree, hTree, hMap⟩ := Option.map_eq_some_iff.1 (Eq.symm hDescribed)
      exact ⟨select.outline, tree, (spells_ofRows settings.tags parameters hPlain).read hPlain,
        hTree, hMap.symm⟩

theorem read_rows_tangled :
    ∃ compiled, tangledRequest.compile bucketConfig {} = .ok compiled ∧
      ∃ found tree, Outline.read compiled.rows.text = some found ∧
        tangledRequest.described bucketConfig = some tree ∧
        found.map (compiled.rows.parameters.lookup ·) = tree.map some := by
  obtain ⟨compiled, hCompile, hText⟩ : ∃ compiled,
      tangledRequest.compile bucketConfig {} = .ok compiled ∧ compiled.rows.text ≠ "" :=
    ⟨_, rfl, by decide +kernel⟩
  exact ⟨compiled, hCompile, Request.read_rows (by decide) hCompile hText⟩

/-! ## Parameters -/

/-- The parameters of a statement are the values that a request lists, and the text has exactly their
names for placeholders. -/
structure Request.Accounts (request : Request) (config : Config) (rows : Prepared) : Prop where
  /-- One entry a value, in the order of the list. -/
  values : rows.parameters.map Prod.snd = (request.listed config).map Listed.value
  nodup : rows.parameters.keys.Nodup
  bareWords : ∀ name ∈ rows.parameters.keys,
    name.toList.all fun c => c.isAlphanum || c = '_'
  /-- The name of a parameter is the one proposed for it, as a bare word and maybe with a number. -/
  names : List.Forall₂ (fun listed name => IsNumbering (bareWord listed.proposal) name)
    (request.listed config) rows.parameters.keys
  /-- Each name is a placeholder of the text once. Names in backticks and strings do not count. -/
  placeholders : ∃ found, lexemes rows.text = some found ∧
    (Statement.placeholders found).Perm rows.parameters.keys
  /-- The comparisons with a placeholder are the listed ones, each with its own. -/
  comparisons : rows.text ≠ "" → ∃ found, Outline.read rows.text = some found ∧
    bound found.predicates =
      List.zipWith Listed.named (request.listed config) rows.parameters.keys
  /-- What was bound after any number of values is still there in the end. -/
  kept : ∀ n, bindAll [] (((request.listed config).take n).map Listed.entry) <+: rows.parameters
  /-- No filter, wherever it stands, takes away or changes what was bound before. -/
  keptByFilters : ∀ {scope : Scope} {stem : String} {parameters later : Parameters}
    {filter : Filter} {condition : Condition},
    filter.compile scope stem parameters = .ok (condition, later) → parameters <+: later
  /-- No query does, at any depth. -/
  keptByQueries : ∀ {table : TableName} {scope : Scope} {filter : Option Filter}
    {limit : Option UInt64} {parameters later : Parameters} {query : Query} {select : Option Select},
    query.compileWith (request.surroundings config) table scope filter limit parameters =
      .ok (select, later) → parameters <+: later

/-- Numbered or not, bare words are made of letters, digits and underscores. -/
theorem all_isWordChar_of_numberings {values : List Listed} {names : List String}
    (h : List.Forall₂ (fun listed name => IsNumbering (bareWord listed.proposal) name)
      values names) : ∀ name ∈ names, name.toList.all isWordChar := by
  induction h with
  | nil => exact fun name hMem => absurd hMem List.not_mem_nil
  | cons hFirst hRest ih =>
      intro name hMem
      rcases List.mem_cons.1 hMem with rfl | hMem
      · exact hFirst.all_isWordChar (all_isWordChar_bareWord _)
      · exact ih name hMem

theorem Request.accounts_rows (hBuiltIn : request.query.isBuiltIn)
    (hCompile : request.compile config settings = .ok compiled) :
    request.Accounts config compiled.rows := by
  obtain ⟨select, parameters, hSelect, hRows⟩ := Request.compile_ok hCompile
  have hBinds : Binds [] (request.listed config) parameters (bound (predicatesOf select)) :=
    hSelect.binds
  have hParameters : parameters = bindAll [] ((request.listed config).map Listed.entry) :=
    hBinds.eq_bindAll
  obtain ⟨names, hKeys, hLength, hFound, hNames⟩ := hBinds.found_eq
  have hKeys : parameters.keys = names := by simpa using hKeys
  have hNumbering : List.Forall₂ (fun listed name => IsNumbering (bareWord listed.proposal) name)
      (request.listed config) parameters.keys := by
    obtain ⟨names, hKeys, hNames⟩ := keys_bindAll [] ((request.listed config).map Listed.entry)
    rw [hParameters, hKeys, Entries.keys_nil, List.nil_append]
    rwa [List.forall₂_map_left_iff] at hNames
  have hRead : ∀ found, select = some found → found.IsPlain := fun found hMem =>
    hSelect.isPlain (by decide : "p_" ≠ "") (Query.all_isBuiltIn_filter hBuiltIn) hBuiltIn found hMem
  rw [hRows]
  have hPrepared : (Prepared.ofRows settings.tags (select, parameters)).parameters = parameters := by
    cases select <;> rfl
  constructor
  · rw [hPrepared, hParameters, values_bindAll, List.map_map]
    rfl
  · rw [hPrepared]
    exact hBinds.nodup_keys List.nodup_nil
  · rw [hPrepared]
    exact all_isWordChar_of_numberings hNumbering
  · rw [hPrepared]
    exact hNumbering
  · rw [hPrepared, hKeys, ← hNames]
    cases select with
    | none => exact ⟨[], rfl, .nil⟩
    | some found =>
        refine ⟨found.lexemes, spells_ofRows _ _ (hRead found rfl), ?_⟩
        rw [flatMap_parameters_bound]
        exact found.placeholders_lexemes
  · intro hText
    rw [hPrepared, hKeys]
    cases select with
    | none => exact absurd rfl hText
    | some found =>
        have hPlain := hRead found rfl
        exact ⟨found.outline, (spells_ofRows _ _ hPlain).read hPlain, hFound⟩
  · intro n
    rw [hPrepared, hParameters]
    have hSplit : (request.listed config).map Listed.entry =
        ((request.listed config).take n).map Listed.entry ++
          ((request.listed config).drop n).map Listed.entry := by
      rw [← List.map_append, List.take_append_drop]
    rw [hSplit, bindAll_append]
    exact isPrefix_bindAll _ _
  · intro scope stem parameters later filter condition hFilter
    exact (Filter.compile_ok hFilter).binds.isPrefix
  · intro table scope filter limit parameters later query select hQuery
    exact (Query.compileWith_ok hQuery).binds.isPrefix

theorem accounts_rows_tangled :
    ∃ compiled, tangledRequest.compile bucketConfig ⟨true, none⟩ = .ok compiled ∧
      Entries.keys compiled.rows.parameters =
        ["p_f_and_or_a_b", "p_f_and_or_a_b_1", "p_f_and_or_a_b_2"] ∧
      tangledRequest.Accounts bucketConfig compiled.rows := by
  obtain ⟨compiled, hCompile, hKeys⟩ : ∃ compiled,
      tangledRequest.compile bucketConfig ⟨true, none⟩ = .ok compiled ∧
        Entries.keys compiled.rows.parameters =
          ["p_f_and_or_a_b", "p_f_and_or_a_b_1", "p_f_and_or_a_b_2"] := ⟨_, rfl, rfl⟩
  exact ⟨compiled, hCompile, hKeys, Request.accounts_rows (by decide) hCompile⟩

end Compiled

end N1qlConnector
