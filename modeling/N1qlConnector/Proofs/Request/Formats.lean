import N1qlConnector.Proofs.Format.RoundTrip

/-!
# The formats of the parts of a request

Each part of a request is read again when it is written, one format after the other. Most values are
read again whoever made them. Where that is not so there is a word that was meant to be unknown, or
a map with a repeated key, and nothing that was read has either.

A filter contains filters, so it is followed through the levels of the text that it was read from:
what is read of a level is read again if that is so of the parts of the level.

## Main results

* `Filter.roundTrips`, `Aggregate.roundTrips`, `Order.roundTrips`, `TableRelationships.roundTrips` :
  what is read of each part is read again when it is written.
-/

namespace N1qlConnector

open Reader

/-! ## Words and names -/

theorem UnaryOperator.roundTrips :
    (wordAs UnaryOperator.ofWord).RoundTrips fun operator => .string operator.word :=
  roundTrips_wordAs UnaryOperator.word_ofWord

theorem BinaryOperator.roundTrips :
    (wordAs BinaryOperator.ofWord).RoundTrips fun operator => .string operator.word :=
  roundTrips_wordAs BinaryOperator.word_ofWord

theorem ArrayOperator.roundTrips :
    (wordAs ArrayOperator.ofWord).RoundTrips fun operator => .string operator.word :=
  roundTrips_wordAs ArrayOperator.word_ofWord

theorem AggregateFunction.roundTrips :
    (wordAs AggregateFunction.ofWord).RoundTrips fun function => .string function.word :=
  roundTrips_wordAs AggregateFunction.word_ofWord

theorem Direction.rereads (direction : Direction) :
    Direction.reader.Rereads (fun direction => .string direction.word) direction := by
  intro source
  cases direction <;> rfl

theorem Cardinality.rereads (cardinality : Cardinality) :
    Cardinality.reader.Rereads (fun cardinality => .string cardinality.word) cardinality := by
  intro source
  cases cardinality <;> rfl

theorem rereads_strings (texts : List String) :
    (list string).Rereads (fun texts => .array (texts.map .string)) texts :=
  .list fun text _ => rereads_string text

theorem TableName.rereads (table : TableName) :
    TableName.reader.Rereads TableName.toJson table := by
  intro source
  show TableName.mk <$>
    list string source (Written.ofJson (.array (table.segments.map .string))) = _
  rw [rereads_strings table.segments source]
  rfl

/-! ## Columns and operands -/

theorem Column.rereads (column : Column) : Column.reader.Rereads Column.toJson column := by
  intro source
  obtain ⟨name, type, path⟩ := column
  refine record_ofJson_object ["name", "column_type", "path"] (by decide) (by decide) ?_
    fun record hRecord => ?_
  · rw [Entries.keys_append]
    exact ((Entries.keys_toList_sublist _ _ type).cons_cons "name").append
      (Entries.keys_toList_sublist _ _ path)
  · have hName : record.required "name" (on .string) = .ok name :=
      hRecord.required rfl (rereads_string name)
    have hType : record.optional "column_type" (on .string) = .ok type :=
      hRecord.optional (by cases type <;> cases path <;> rfl)
        (fun text _ => rereads_string text) fun _ _ => nofun
    have hPath : record.optional "path" (on (.list .string)) = .ok path :=
      hRecord.optional (by cases type <;> cases path <;> rfl)
        (fun texts _ => rereads_strings texts) fun _ _ => nofun
    rw [hName, hType, hPath]
    rfl

namespace Operand

theorem rereads_column (column : Column) : reader.Rereads toJson (.column column) := by
  intro source
  refine choice_ofJson_object ["column"] (by decide) (by decide) (by decide)
    (List.Sublist.refl _) (fun _ => rfl) fun record hRecord => ?_
  rw [hRecord.required rfl column.rereads]
  rfl

theorem rereads_scalar {value : Json} (hValue : json.Rereads id value) (type : Option String) :
    reader.Rereads toJson (.scalar value type) := by
  intro source
  refine choice_ofJson_object ["value", "value_type"] (by decide) (by decide) (by decide)
    ((Entries.keys_toList_sublist _ _ type).cons_cons "value") (fun _ => rfl)
    fun record hRecord => ?_
  have hType : record.optional "value_type" (on .string) = .ok type :=
    hRecord.optional (by cases type <;> rfl) (fun text _ => rereads_string text) fun _ _ => nofun
  rw [hRecord.required rfl hValue, hType]
  rfl

theorem roundTrips : reader.RoundTrips toJson := by
  intro source found operand h
  obtain ⟨⟨tag, content⟩, -, h⟩ := Read.bind_eq_ok.1 h
  dsimp only at h
  split at h
  · obtain ⟨record, -, h⟩ := Choice.of_record_eq_ok h
    obtain ⟨column, -, rfl⟩ := Outcome.of_map_eq_ok h
    exact rereads_column column
  · obtain ⟨record, -, h⟩ := Choice.of_record_eq_ok h
    obtain ⟨_, type, hFirst, -, rfl⟩ := Outcome.of_seq_eq_ok h
    obtain ⟨value, hValue, rfl⟩ := Outcome.of_map_eq_ok hFirst
    exact rereads_scalar (Record.rereads_of_required roundTrips_json hValue) type

end Operand

/-! ## Filters -/

namespace Filter

@[simp] theorem eachToJson_eq_map (parts : List Filter) :
    toJson.eachToJson parts = parts.map toJson := by
  induction parts with
  | nil => rfl
  | cons part rest ih => rw [toJson.eachToJson, ih, List.map_cons]

theorem reader_ofJson_object (source : Source) (members : Entries Json) :
    reader source (Written.ofJson (.object members)) =
      ofLevel (.ofEntries (fun value => Written.toPart readings (Written.ofJson value)) members)
        source := by
  unfold reader
  rw [Written.recurse_ofJson_object]
  rfl

theorem filters_ofJson_array {filters : List Filter} (source : Source)
    (h : ∀ filter ∈ filters, reader.Rereads toJson filter) :
    ((Written.ofJson (.array (filters.map toJson))).recurse readings).filters source =
      .ok filters := by
  rw [Written.recurse_ofJson_array, List.map_map]
  exact Written.Level.list_array fun filter hFilter => h filter hFilter source

section Writing

variable {column : Column}

theorem rereads_exists {table : Json} (hTable : json.Rereads id table) :
    reader.Rereads toJson (.atom (.exists table)) := by
  intro source
  refine (reader_ofJson_object source _).trans ?_
  refine Choice.read_ofEntries ["in_table"] (fun _ => rfl) (by decide) (by decide) (by decide)
    (List.Sublist.refl _) (fun _ => rfl) fun record hRecord => ?_
  rw [hRecord.defaulted rfl hTable]
  rfl

theorem rereads_unary {operator : UnaryOperator}
    (hOperator : (wordAs UnaryOperator.ofWord).Rereads (fun o => .string o.word) operator)
    (column : Column) : reader.Rereads toJson (.atom (.unary operator column)) := by
  intro source
  refine (reader_ofJson_object source _).trans ?_
  refine Choice.read_ofEntries ["operator", "column"] (fun _ => rfl) (by decide) (by decide)
    (by decide) (List.Sublist.refl _) (fun _ => rfl) fun record hRecord => ?_
  rw [hRecord.required rfl hOperator, hRecord.required rfl column.rereads]
  rfl

theorem rereads_binary {operator : BinaryOperator}
    (hOperator : (wordAs BinaryOperator.ofWord).Rereads (fun o => .string o.word) operator)
    (column : Column) {operand : Operand}
    (hOperand : Operand.reader.Rereads Operand.toJson operand) :
    reader.Rereads toJson (.atom (.binary operator column operand)) := by
  intro source
  refine (reader_ofJson_object source _).trans ?_
  refine Choice.read_ofEntries ["operator", "column", "value"] (fun _ => rfl) (by decide)
    (by decide) (by decide) (List.Sublist.refl _) (fun _ => rfl) fun record hRecord => ?_
  rw [hRecord.required rfl hOperator, hRecord.required rfl column.rereads,
    hRecord.required rfl hOperand]
  rfl

theorem rereads_array {operator : ArrayOperator}
    (hOperator : (wordAs ArrayOperator.ofWord).Rereads (fun o => .string o.word) operator)
    (column : Column) {values : List Json}
    (hValues : (list json).Rereads (fun values => .array (values.map id)) values)
    (type : Option String) :
    reader.Rereads toJson (.atom (.array operator column values type)) := by
  intro source
  have hKeys : (Entries.keys ([("operator", Json.string operator.word), ("column", column.toJson),
      ("values", .array values)] ++
        (type.map fun type => ("value_type", Json.string type)).toList)).Sublist
          ["operator", "column", "values", "value_type"] :=
    (((Entries.keys_toList_sublist _ _ type).cons_cons "values").cons_cons "column").cons_cons
      "operator"
  refine (reader_ofJson_object source _).trans ?_
  refine Choice.read_ofEntries ["operator", "column", "values", "value_type"] (fun _ => rfl)
    (by decide) (by decide) (by decide) hKeys (fun _ => rfl) fun record hRecord => ?_
  have hType : record.optional "value_type" (on .string) = .ok type :=
    hRecord.optional (by cases type <;> rfl) (fun text _ => rereads_string text) fun _ _ => nofun
  have hList : record.required "values" (on (.list .json)) = .ok values :=
    hRecord.required (by rw [List.map_id]; rfl) hValues
  rw [hRecord.required rfl hOperator, hRecord.required rfl column.rereads, hList, hType]
  rfl

theorem rereads_not {part : Filter} (h : reader.Rereads toJson part) :
    reader.Rereads toJson (.not part) := by
  intro source
  refine (reader_ofJson_object source _).trans ?_
  refine Choice.read_ofEntries ["expression"] (fun _ => rfl) (by decide) (by decide) (by decide)
    (List.Sublist.refl _) (fun _ => rfl) fun record hRecord => ?_
  rw [hRecord.required_read rfl (h .choice)]
  rfl

/-- Conjunctions and disjunctions differ in their tags only. -/
theorem rereads_combination {parts : List Filter} (h : ∀ part ∈ parts, reader.Rereads toJson part) :
    reader.Rereads toJson (.all parts) ∧ reader.Rereads toJson (.any parts) := by
  constructor <;>
  · intro source
    rw [toJson, eachToJson_eq_map]
    refine (reader_ofJson_object source _).trans ?_
    refine Choice.read_ofEntries ["expressions"] (fun _ => rfl) (by decide) (by decide) (by decide)
      (List.Sublist.refl _) (fun _ => rfl) fun record hRecord => ?_
    exact Outcome.map_eq_ok_iff.2
      ⟨parts, hRecord.required_read rfl (filters_ofJson_array .choice h), rfl⟩

end Writing

/-! What is read of a level is read again if what is read of its parts is. -/

section Reading

variable {level : Written.Level (Written.Part Readings)} {source : Source}

/-- Each way of reading a level makes filters that are read again. -/
def Readings.Reread (readings : Readings) : Prop :=
  (∀ source filter, readings.filter source = .ok filter → reader.Rereads toJson filter) ∧
    ∀ source filters, readings.filters source = .ok filters →
      ∀ filter ∈ filters, reader.Rereads toJson filter

theorem rereads_of_ofLevel (hParts : ∀ part ∈ level.parts, part.result.Reread)
    {filter : Filter} (h : ofLevel level source = .ok filter) : reader.Rereads toJson filter := by
  obtain ⟨⟨tag, content⟩, hTag, h⟩ := Read.bind_eq_ok.1 h
  -- What is asked of a field of the record that was chosen is asked of a part of the level.
  have hMem {record : Record (Written.Part Readings)} {fields : List String} {name : String}
      {part : Written.Part Readings}
      (hRecord : Record.ofLevel .choice (fields.map ([·])) content = .ok record)
      (hPart : record.parts.lookup name = some part) : part ∈ level.parts :=
    Choice.mem_parts_of_ofLevel hTag (Record.mem_parts_of_ofLevel hRecord hPart)
  dsimp only at h
  split at h
  · obtain ⟨record, hRecord, h⟩ := Choice.of_record_eq_ok h
    obtain ⟨parts, hFilters, rfl⟩ := Outcome.of_map_eq_ok h
    obtain ⟨part, hPart, hRead⟩ := Record.required_eq_ok_iff.1 hFilters
    exact (rereads_combination ((hParts part (hMem hRecord hPart)).2 _ _ hRead)).1
  · obtain ⟨record, hRecord, h⟩ := Choice.of_record_eq_ok h
    obtain ⟨parts, hFilters, rfl⟩ := Outcome.of_map_eq_ok h
    obtain ⟨part, hPart, hRead⟩ := Record.required_eq_ok_iff.1 hFilters
    exact (rereads_combination ((hParts part (hMem hRecord hPart)).2 _ _ hRead)).2
  · obtain ⟨record, hRecord, h⟩ := Choice.of_record_eq_ok h
    obtain ⟨inner, hInner, rfl⟩ := Outcome.of_map_eq_ok h
    obtain ⟨part, hPart, hRead⟩ := Record.required_eq_ok_iff.1 hInner
    exact rereads_not ((hParts part (hMem hRecord hPart)).1 _ _ hRead)
  · obtain ⟨record, -, h⟩ := Choice.of_record_eq_ok h
    obtain ⟨table, hTable, rfl⟩ := Outcome.of_map_eq_ok h
    exact rereads_exists (Record.rereads_of_defaulted roundTrips_json (fun _ => rfl) hTable)
  · obtain ⟨record, -, h⟩ := Choice.of_record_eq_ok h
    obtain ⟨_, column, hFirst, -, rfl⟩ := Outcome.of_seq_eq_ok h
    obtain ⟨operator, hOperator, rfl⟩ := Outcome.of_map_eq_ok hFirst
    exact rereads_unary (Record.rereads_of_required UnaryOperator.roundTrips hOperator) column
  · obtain ⟨record, -, h⟩ := Choice.of_record_eq_ok h
    obtain ⟨_, operand, hSecond, hOperand, rfl⟩ := Outcome.of_seq_eq_ok h
    obtain ⟨_, column, hFirst, -, rfl⟩ := Outcome.of_seq_eq_ok hSecond
    obtain ⟨operator, hOperator, rfl⟩ := Outcome.of_map_eq_ok hFirst
    exact rereads_binary (Record.rereads_of_required BinaryOperator.roundTrips hOperator) column
      (Record.rereads_of_required Operand.roundTrips hOperand)
  · obtain ⟨record, -, h⟩ := Choice.of_record_eq_ok h
    obtain ⟨_, type, hThird, -, rfl⟩ := Outcome.of_seq_eq_ok h
    obtain ⟨_, values, hSecond, hValues, rfl⟩ := Outcome.of_seq_eq_ok hThird
    obtain ⟨_, column, hFirst, -, rfl⟩ := Outcome.of_seq_eq_ok hSecond
    obtain ⟨operator, hOperator, rfl⟩ := Outcome.of_map_eq_ok hFirst
    exact rereads_array (Record.rereads_of_required ArrayOperator.roundTrips hOperator) column
      (Record.rereads_of_required roundTrips_json.list hValues) type

end Reading

theorem roundTrips : reader.RoundTrips toJson := by
  intro source found filter h
  have hReadings : (found.recurse readings).Reread := by
    refine Written.recurse_induct readings (fun level hParts => ⟨fun source filter hRead => ?_, ?_⟩)
      found
    · exact rereads_of_ofLevel hParts hRead
    · intro source filters hRead filter hFilter
      obtain ⟨part, hPart, hRead⟩ := Written.Level.of_list_eq_ok hRead hFilter
      exact (hParts part hPart).1 source filter hRead
  exact hReadings.1 source filter h

end Filter

/-! ## Aggregates and orders -/

namespace Aggregate

theorem rereads_starCount : reader.Rereads toJson starCount := by
  intro source
  exact choice_ofJson_object [] (by decide) (by decide) (by decide) (List.Sublist.refl _)
    (fun _ => rfl) fun _ _ => rfl

theorem rereads_columnCount (column : String) (distinct : Bool) :
    reader.Rereads toJson (columnCount column distinct) := by
  intro source
  refine choice_ofJson_object ["column", "distinct"] (by decide) (by decide) (by decide)
    (List.Sublist.refl _) (fun _ => rfl) fun record hRecord => ?_
  rw [hRecord.required rfl (rereads_string column), hRecord.defaulted rfl (rereads_bool distinct)]
  rfl

theorem rereads_singleColumn (column : String) {function : AggregateFunction}
    (hFunction : (wordAs AggregateFunction.ofWord).Rereads (fun f => .string f.word) function)
    (type : Option String) : reader.Rereads toJson (singleColumn column function type) := by
  intro source
  refine choice_ofJson_object ["column", "function", "result_type"] (by decide) (by decide)
    (by decide) (((Entries.keys_toList_sublist _ _ type).cons_cons "function").cons_cons "column")
    (fun _ => rfl) fun record hRecord => ?_
  have hType : record.optional "result_type" (on .string) = .ok type :=
    hRecord.optional (by cases type <;> rfl) (fun text _ => rereads_string text) fun _ _ => nofun
  rw [hRecord.required rfl (rereads_string column), hRecord.required rfl hFunction, hType]
  rfl

theorem roundTrips : reader.RoundTrips toJson := by
  intro source found aggregate h
  obtain ⟨⟨tag, content⟩, -, h⟩ := Read.bind_eq_ok.1 h
  dsimp only at h
  split at h
  · obtain ⟨record, -, h⟩ := Choice.of_record_eq_ok h
    cases h
    exact rereads_starCount
  · obtain ⟨record, -, h⟩ := Choice.of_record_eq_ok h
    obtain ⟨_, distinct, hFirst, -, rfl⟩ := Outcome.of_seq_eq_ok h
    obtain ⟨column, -, rfl⟩ := Outcome.of_map_eq_ok hFirst
    exact rereads_columnCount column distinct
  · obtain ⟨record, -, h⟩ := Choice.of_record_eq_ok h
    obtain ⟨_, type, hSecond, -, rfl⟩ := Outcome.of_seq_eq_ok h
    obtain ⟨_, function, hFirst, hFunction, rfl⟩ := Outcome.of_seq_eq_ok hSecond
    obtain ⟨column, -, rfl⟩ := Outcome.of_map_eq_ok hFirst
    exact rereads_singleColumn column
      (Record.rereads_of_required AggregateFunction.roundTrips hFunction) type

end Aggregate

namespace OrderTarget

theorem rereads_column (name : String) : reader.Rereads toJson (.column name) := by
  intro source
  refine choice_ofJson_object ["column"] (by decide) (by decide) (by decide)
    (List.Sublist.refl _) (fun _ => rfl) fun record hRecord => ?_
  rw [hRecord.required rfl (rereads_string name)]
  rfl

theorem rereads_starCount : reader.Rereads toJson starCount := by
  intro source
  exact choice_ofJson_object [] (by decide) (by decide) (by decide) (List.Sublist.refl _)
    (fun _ => rfl) fun _ _ => rfl

theorem rereads_aggregate (name : String) {function : AggregateFunction}
    (hFunction : (wordAs AggregateFunction.ofWord).Rereads (fun f => .string f.word) function) :
    reader.Rereads toJson (aggregate name function) := by
  intro source
  refine choice_ofJson_object ["column", "function"] (by decide) (by decide) (by decide)
    (List.Sublist.refl _) (fun _ => rfl) fun record hRecord => ?_
  rw [hRecord.required rfl (rereads_string name), hRecord.required rfl hFunction]
  rfl

theorem roundTrips : reader.RoundTrips toJson := by
  intro source found target h
  obtain ⟨⟨tag, content⟩, -, h⟩ := Read.bind_eq_ok.1 h
  dsimp only at h
  split at h
  · obtain ⟨record, -, h⟩ := Choice.of_record_eq_ok h
    obtain ⟨name, -, rfl⟩ := Outcome.of_map_eq_ok h
    exact rereads_column name
  · obtain ⟨record, -, h⟩ := Choice.of_record_eq_ok h
    cases h
    exact rereads_starCount
  · obtain ⟨record, -, h⟩ := Choice.of_record_eq_ok h
    obtain ⟨_, function, hFirst, hFunction, rfl⟩ := Outcome.of_seq_eq_ok h
    obtain ⟨name, -, rfl⟩ := Outcome.of_map_eq_ok hFirst
    exact rereads_aggregate name
      (Record.rereads_of_required AggregateFunction.roundTrips hFunction)

end OrderTarget

theorem OrderElement.roundTrips : OrderElement.reader.RoundTrips OrderElement.toJson := by
  intro source found element h source'
  obtain ⟨record, h⟩ := of_record_eq_ok h
  obtain ⟨_, direction, hSecond, -, rfl⟩ := Outcome.of_seq_eq_ok h
  obtain ⟨_, target, hFirst, hTarget, rfl⟩ := Outcome.of_seq_eq_ok hSecond
  obtain ⟨path, -, rfl⟩ := Outcome.of_map_eq_ok hFirst
  refine record_ofJson_object ["target_path", "target", "order_direction"] (by decide) (by decide)
    (List.Sublist.refl _) fun record hRecord => ?_
  rw [hRecord.defaulted rfl (rereads_strings path),
    hRecord.required rfl (Record.rereads_of_required OrderTarget.roundTrips hTarget),
    hRecord.required rfl direction.rereads]
  rfl

namespace Order

/-- Filters along relationships that were left out are read as none. -/
theorem rereads {elements : List OrderElement} {relations : Json}
    (hElements : (list OrderElement.reader).Rereads
      (fun elements => .array (elements.map OrderElement.toJson)) elements)
    (hRelations : json.Rereads id relations) : reader.Rereads toJson ⟨elements, relations⟩ := by
  intro source
  by_cases hNull : relations = .null
  · subst hNull
    refine record_ofJson_object ["elements", "relations"] (by decide) (by decide)
      ((List.nil_sublist _).cons_cons "elements") fun record hRecord => ?_
    have hAbsent : record.defaulted "relations" .null (on .json) = .ok .null := by
      rw [Record.defaulted_eq_ok_iff, hRecord.lookup_parts]
      exact .inl ⟨rfl, rfl⟩
    rw [hRecord.required rfl hElements, hAbsent]
    rfl
  · have hJson : toJson ⟨elements, relations⟩ =
        .object [("elements", .array (elements.map OrderElement.toJson)),
          ("relations", relations)] := by
      cases relations with
      | null => exact absurd rfl hNull
      | _ => rfl
    rw [hJson]
    refine record_ofJson_object ["elements", "relations"] (by decide) (by decide)
      (List.Sublist.refl _) fun record hRecord => ?_
    rw [hRecord.required rfl hElements, hRecord.defaulted rfl hRelations]
    rfl

theorem roundTrips : reader.RoundTrips toJson := by
  intro source found order h
  obtain ⟨record, h⟩ := of_record_eq_ok h
  obtain ⟨_, relations, hFirst, hRelations, rfl⟩ := Outcome.of_seq_eq_ok h
  obtain ⟨elements, hElements, rfl⟩ := Outcome.of_map_eq_ok hFirst
  exact rereads (Record.rereads_of_required OrderElement.roundTrips.list hElements)
    (Record.rereads_of_defaulted roundTrips_json (fun _ => rfl) hRelations)

end Order

/-! ## Relationships -/

theorem Relationship.roundTrips : Relationship.reader.RoundTrips Relationship.toJson := by
  intro source found relationship h source'
  obtain ⟨record, h⟩ := of_record_eq_ok h
  obtain ⟨_, mapping, hSecond, hMapping, rfl⟩ := Outcome.of_seq_eq_ok h
  obtain ⟨_, cardinality, hFirst, -, rfl⟩ := Outcome.of_seq_eq_ok hSecond
  obtain ⟨target, -, rfl⟩ := Outcome.of_map_eq_ok hFirst
  refine record_ofJson_object ["target_table", "relationship_type", "column_mapping"] (by decide)
    (by decide) (List.Sublist.refl _) fun record hRecord => ?_
  rw [hRecord.required rfl target.rereads, hRecord.required rfl cardinality.rereads,
    hRecord.required rfl (Record.rereads_of_required roundTrips_string.entries hMapping)]
  rfl

theorem TableRelationships.roundTrips :
    TableRelationships.reader.RoundTrips TableRelationships.toJson := by
  intro source found declared h source'
  obtain ⟨record, h⟩ := of_record_eq_ok h
  obtain ⟨_, relationships, hFirst, hRelationships, rfl⟩ := Outcome.of_seq_eq_ok h
  obtain ⟨table, -, rfl⟩ := Outcome.of_map_eq_ok hFirst
  refine record_ofJson_object ["source_table", "relationships"] (by decide) (by decide)
    (List.Sublist.refl _) fun record hRecord => ?_
  have hRelationships :=
    Record.rereads_of_required Relationship.roundTrips.entries hRelationships
  rw [hRecord.required rfl table.rereads, hRecord.required rfl hRelationships]
  rfl

end N1qlConnector
