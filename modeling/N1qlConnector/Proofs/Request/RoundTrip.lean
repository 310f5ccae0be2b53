import N1qlConnector.Proofs.Request.Formats

/-!
# Requests that are written and read again

Queries hold fields, and fields hold queries, so both are followed through the levels of the text
together. A request that was read, in whatever spelling, is written in one spelling of its own, and
that is read as the same request: with the same fields, aggregates and relationships in the same
order, so it is compiled to the same statements too.

## Main results

* `Query.roundTrips` : queries.
* `Request.roundTrips` : requests.
-/

namespace N1qlConnector

open Reader

/-! ## Writing queries and fields -/

@[simp] theorem fieldsToJson_eq_map (fields : List (String × Field)) :
    fieldsToJson fields = fields.map fun entry => (entry.1, entry.2.toJson) := by
  induction fields with
  | nil => rw [fieldsToJson, List.map_nil]
  | cons entry rest ih => rw [fieldsToJson, ih, List.map_cons]

/-- What is written of fields. -/
def Query.fieldsJson (fields : Entries Field) : Json :=
  .object (fields.map fun entry => (entry.1, entry.2.toJson))

theorem Query.toJson_eq (query : Query) :
    query.toJson = .object [
      ("fields", Json.ofOption fieldsJson query.fields),
      ("aggregates", Json.ofOption (fun entries =>
        .object (entries.map fun entry => (entry.1, entry.2.toJson))) query.aggregates),
      ("where", Json.ofOption Filter.toJson query.filter),
      ("limit", Json.ofOption (fun n => Json.nat n.toNat) query.limit),
      ("offset", Json.ofOption (fun n => Json.nat n.toNat) query.offset),
      ("order_by", Json.ofOption Order.toJson query.order)] := by
  obtain ⟨fields, aggregates, filter, limit, offset, order⟩ := query
  rw [Query.toJson.eq_def]
  cases fields with
  | none => rfl
  | some fields =>
      dsimp only
      rw [fieldsToJson_eq_map]
      rfl

theorem Filter.toJson_ne_null (filter : Filter) : filter.toJson ≠ .null := by
  cases filter with
  | atom comparison => cases comparison <;> exact nofun
  | not part => exact nofun
  | all parts => exact nofun
  | any parts => exact nofun

/-- Fields are read again if their names differ and each of them is. -/
def FieldsReread (fields : Entries Field) : Prop :=
  fields.keys.Nodup ∧ ∀ entry ∈ fields, Field.reader.Rereads Field.toJson entry.2

theorem FieldsReread.fields_ofJson {fields : Entries Field} (h : FieldsReread fields)
    (source : Source) :
    ((Written.ofJson (Query.fieldsJson fields)).recurse Query.readings).fields source =
      .ok fields := by
  have hFields : ∀ entry ∈ fields, (Written.toPart Query.readings
      (Written.ofJson entry.2.toJson)).result.field source = .ok entry.2 :=
    fun entry hEntry => h.2 entry hEntry source
  rw [Query.fieldsJson, Written.recurse_ofJson_object, Written.Level.ofEntries, List.map_map]
  exact Written.Level.entries_object (fun part => part.result.field source)
    (fun field => Written.toPart Query.readings (Written.ofJson (Field.toJson field))) h.1 hFields

namespace Query

theorem reader_ofJson_object (source : Source) (members : Entries Json) :
    reader source (Written.ofJson (.object members)) =
      ofLevel (.ofEntries (fun value => Written.toPart readings (Written.ofJson value)) members)
        source := by
  unfold reader
  rw [Written.recurse_ofJson_object]
  rfl

/-- A query is read again if its parts are. -/
theorem rereads {query : Query} (hFields : ∀ fields ∈ query.fields, FieldsReread fields)
    (hAggregates : ∀ aggregates ∈ query.aggregates, (entries Aggregate.reader).Rereads
      (fun entries => .object (entries.map fun entry => (entry.1, entry.2.toJson))) aggregates)
    (hFilter : ∀ filter ∈ query.filter, Filter.reader.Rereads Filter.toJson filter)
    (hOrder : ∀ order ∈ query.order, Order.reader.Rereads Order.toJson order) :
    reader.Rereads toJson query := by
  intro source
  rw [toJson_eq, reader_ofJson_object]
  obtain ⟨fields, aggregates, filter, limit, offset, order⟩ := query
  refine Record.finish_ofLevel_ofEntries
    ["fields", "aggregates", "where", "limit", "offset", "order_by"] _ (by decide) (by decide)
    (List.Sublist.refl _) (fun _ => rfl) fun record hRecord => ?_
  have hFields : record.optional "fields" (fun source part => part.result.fields source) =
      .ok fields :=
    hRecord.optional_read_ofOption rfl fun fields hMem =>
      ⟨nofun, (hFields fields hMem).fields_ofJson source⟩
  rw [hFields, hRecord.optional_ofOption rfl hAggregates fun _ _ => nofun,
    hRecord.optional_ofOption rfl hFilter fun filter _ => filter.toJson_ne_null,
    hRecord.optional_ofOption rfl (fun limit _ => rereads_word limit) fun _ _ => nofun,
    hRecord.optional_ofOption rfl (fun offset _ => rereads_word offset) fun _ _ => nofun,
    hRecord.optional_ofOption rfl hOrder fun _ _ => nofun]
  rfl

end Query

namespace Field

theorem reader_ofJson_object (source : Source) (members : Entries Json) :
    reader source (Written.ofJson (.object members)) = Query.fieldOfLevel
      (.ofEntries (fun value => Written.toPart Query.readings (Written.ofJson value)) members)
        source := by
  unfold reader
  rw [Written.recurse_ofJson_object]
  rfl

theorem rereads_column (column : String) (type : Option String) :
    reader.Rereads toJson (.column column type) := by
  intro source
  refine (reader_ofJson_object source _).trans ?_
  refine Choice.read_ofEntries ["column", "column_type"] (fun _ => rfl) (by decide) (by decide)
    (by decide) ((Entries.keys_toList_sublist _ _ type).cons_cons "column") (fun _ => rfl)
    fun record hRecord => ?_
  have hType : record.optional "column_type" (on .string) = .ok type :=
    hRecord.optional (by cases type <;> rfl) (fun text _ => rereads_string text) fun _ _ => nofun
  rw [hRecord.required rfl (rereads_string column), hType]
  rfl

theorem rereads_relationship (relationship : String) {query : Query}
    (hQuery : Query.reader.Rereads Query.toJson query) :
    reader.Rereads toJson (.relationship relationship query) := by
  intro source
  refine (reader_ofJson_object source _).trans ?_
  refine Choice.read_ofEntries ["relationship", "query"] (fun _ => rfl) (by decide) (by decide)
    (by decide) (List.Sublist.refl _) (fun _ => rfl) fun record hRecord => ?_
  rw [hRecord.required rfl (rereads_string relationship),
    hRecord.required_read rfl (hQuery .choice)]
  rfl

end Field

/-! ## Reading queries and fields -/

/-- Each way of reading a level makes something that is read again. -/
structure Query.Readings.Reread (readings : Readings) : Prop where
  query : ∀ source query, readings.query source = .ok query → reader.Rereads toJson query
  fields : ∀ source fields, readings.fields source = .ok fields → FieldsReread fields
  field : ∀ source field, readings.field source = .ok field →
    Field.reader.Rereads Field.toJson field

section Reading

variable {level : Written.Level (Written.Part Query.Readings)} {source : Source}

theorem Query.rereads_of_ofLevel (hParts : ∀ part ∈ level.parts, part.result.Reread)
    {query : Query} (h : ofLevel level source = .ok query) : reader.Rereads toJson query := by
  obtain ⟨record, hRecord, h⟩ := Read.bind_eq_ok.1 h
  obtain ⟨h, -⟩ := Record.finish_eq_ok_iff.1 h
  obtain ⟨_, order, hFifth, hOrder, rfl⟩ := Outcome.of_seq_eq_ok h
  obtain ⟨_, offset, hFourth, -, rfl⟩ := Outcome.of_seq_eq_ok hFifth
  obtain ⟨_, limit, hThird, -, rfl⟩ := Outcome.of_seq_eq_ok hFourth
  obtain ⟨_, filter, hSecond, hFilter, rfl⟩ := Outcome.of_seq_eq_ok hThird
  obtain ⟨_, aggregates, hFirst, hAggregates, rfl⟩ := Outcome.of_seq_eq_ok hSecond
  obtain ⟨fields, hFields, rfl⟩ := Outcome.of_map_eq_ok hFirst
  refine rereads ?_ (Record.rereads_of_optional Aggregate.roundTrips.entries hAggregates)
    (Record.rereads_of_optional Filter.roundTrips hFilter)
    (Record.rereads_of_optional Order.roundTrips hOrder)
  rintro found rfl
  obtain ⟨part, hPart, hRead⟩ := Record.of_optional_eq_some hFields
  exact (hParts part (Record.mem_parts_of_ofLevel hRecord hPart)).fields _ _ hRead

theorem Query.rereads_of_fieldOfLevel (hParts : ∀ part ∈ level.parts, part.result.Reread)
    {field : Field} (h : fieldOfLevel level source = .ok field) :
    Field.reader.Rereads Field.toJson field := by
  obtain ⟨⟨tag, content⟩, hTag, h⟩ := Read.bind_eq_ok.1 h
  dsimp only at h
  split at h
  · obtain ⟨record, -, h⟩ := Choice.of_record_eq_ok h
    obtain ⟨_, type, hFirst, -, rfl⟩ := Outcome.of_seq_eq_ok h
    obtain ⟨column, -, rfl⟩ := Outcome.of_map_eq_ok hFirst
    exact Field.rereads_column column type
  · obtain ⟨record, hRecord, h⟩ := Choice.of_record_eq_ok h
    obtain ⟨_, query, hFirst, hQuery, rfl⟩ := Outcome.of_seq_eq_ok h
    obtain ⟨relationship, -, rfl⟩ := Outcome.of_map_eq_ok hFirst
    obtain ⟨part, hPart, hRead⟩ := Record.required_eq_ok_iff.1 hQuery
    have hMem := Choice.mem_parts_of_ofLevel hTag (Record.mem_parts_of_ofLevel hRecord hPart)
    exact Field.rereads_relationship relationship ((hParts part hMem).query _ _ hRead)

end Reading

theorem Query.roundTrips : reader.RoundTrips toJson := by
  intro source found query h
  have hReadings : (found.recurse readings).Reread := by
    refine Written.recurse_induct readings (fun level hParts => ⟨?_, ?_, ?_⟩) found
    · exact fun source query hRead => rereads_of_ofLevel hParts hRead
    · intro source fields hRead
      have hRead : level.entries (fun part => part.result.field source) = .ok fields := hRead
      obtain ⟨hNodup, hEntries⟩ := Written.Level.of_entries_eq_ok hRead
      refine ⟨hNodup, fun entry hEntry => ?_⟩
      obtain ⟨part, hPart, hField⟩ := hEntries entry hEntry
      exact (hParts part hPart).field source entry.2 hField
    · exact fun source field hRead => rereads_of_fieldOfLevel hParts hRead
  exact hReadings.query source query h

/-! ## Requests -/

/-- Whatever was read as a request is read as the same request when it is written. -/
theorem Request.roundTrips : reader.RoundTrips toJson := by
  intro source found request h source'
  obtain ⟨record, h⟩ := of_record_eq_ok h
  obtain ⟨_, query, hSecond, hQuery, rfl⟩ := Outcome.of_seq_eq_ok h
  obtain ⟨_, relationships, hFirst, hRelationships, rfl⟩ := Outcome.of_seq_eq_ok hSecond
  obtain ⟨table, -, rfl⟩ := Outcome.of_map_eq_ok hFirst
  refine record_ofJson_object ["table", "table_relationships", "query"] (by decide) (by decide)
    (List.Sublist.refl _) fun record hRecord => ?_
  have hRelationships := Record.rereads_of_defaulted TableRelationships.roundTrips.list
    (fun _ => rfl) hRelationships
  rw [hRecord.required rfl table.rereads, hRecord.defaulted rfl hRelationships,
    hRecord.required rfl (Record.rereads_of_required Query.roundTrips hQuery)]
  rfl

end N1qlConnector
