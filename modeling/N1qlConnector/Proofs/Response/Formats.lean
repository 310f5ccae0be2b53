import N1qlConnector.Failure
import N1qlConnector.Proofs.Config.RoundTrip
import N1qlConnector.Response

/-!
# Answers that are written and read again

Every answer has one spelling, so what is written of it can be compared with what is read. Rows are
maps and hold any values: they are read as they are if no key is repeated in them and their values
are orderly, and their keys keep their order. The other answers are made of texts, and only the
columns of a foreign key are a map.

A report of a failure differs. Its details may be any value, and a `null` in their place is written
like any other but read as no details at all. `ErrorReport.asRead` is the report without it.

The text of an answer says the same if it can be followed: it may nest only so deep, and a floating
point number in it has to be read as itself. Plans and tables hold no numbers and do not nest
deeply, so their texts always can.

## Main results

* `QueryResponse.rereads`, `RawResponse.rereads`, `ExplainResponse.rereads`,
  `SchemaResponse.rereads` : answers.
* `ErrorReport.reader_ofJson` : reports of failures.
* `Reader.ReadsBackAs` : what reading a value and reading its text have in common.
-/

namespace N1qlConnector

open Reader

/-! ## Rows -/

theorem Reader.rereads_json {value : Json} (h : value.Orderly) : json.Rereads id value :=
  fun _ => h.read_ofJson

/-- The keys of a row are distinct, and its values are orderly. -/
structure Row.Orderly (row : Row) : Prop where
  nodup : row.keys.Nodup
  values : ∀ member ∈ row, member.2.Orderly

theorem Row.rereads {row : Row} (h : row.Orderly) : Row.reader.Rereads .object row := by
  have hWritten : (fun row : Row => Json.object (row.map fun member => (member.1, id member.2))) =
      .object := funext fun row => congrArg Json.object (List.map_id row)
  have hEntries : (entries json).Rereads _ row :=
    .entries h.nodup fun member hMember => rereads_json (h.values member hMember)
  rwa [hWritten] at hEntries

/-! ## Answers -/

/-- All rows of an answer are orderly. -/
structure QueryResponse.Orderly (response : QueryResponse) : Prop where
  rows : ∀ row ∈ response.rows, row.Orderly
  aggregates : ∀ row ∈ response.aggregates, row.Orderly

theorem QueryResponse.rereads {response : QueryResponse} (h : response.Orderly) :
    reader.Rereads toJson response := by
  obtain ⟨rows, aggregates⟩ := response
  have hKeys := (Entries.keys_toList_sublist "aggregates" Json.object aggregates).cons_cons "rows"
  intro source
  refine record_ofJson_object ["rows", "aggregates"] (by decide) (by decide) hKeys
    fun record hRecord => ?_
  have hRows := Rereads.list fun row hRow => Row.rereads (h.rows row hRow)
  have hAggregates : record.optional "aggregates" (on Row.reader) = .ok aggregates := by
    refine hRecord.optional ?_ (fun row hRow => Row.rereads (h.aggregates row hRow))
      fun _ _ => nofun
    cases aggregates <;> rfl
  rw [hRecord.required rfl hRows, hAggregates]
  rfl

theorem ExplainResponse.rereads (response : ExplainResponse) :
    reader.Rereads toJson response := by
  intro source
  refine record_ofJson_object ["query", "lines"] (by decide) (by decide) (List.Sublist.refl _)
    fun record hRecord => ?_
  rw [hRecord.required rfl (rereads_string response.query),
    hRecord.required rfl (rereads_strings response.lines)]
  rfl

theorem RawResponse.rereads {response : RawResponse} (h : ∀ row ∈ response.rows, row.Orderly) :
    reader.Rereads toJson response := by
  have hRows := Rereads.list fun row hRow => rereads_json (h row hRow)
  intro source
  refine record_ofJson_object ["rows"] (by decide) (by decide) (List.Sublist.refl _)
    fun record hRecord => ?_
  rw [hRecord.required (by rw [List.map_id]; rfl) hRows]
  rfl

/-! ## Tables -/

theorem ColumnInfo.rereads (column : ColumnInfo) : reader.Rereads toJson column := by
  intro source
  refine record_ofJson_object ["name", "nullable", "type"] (by decide) (by decide)
    (List.Sublist.refl _) fun record hRecord => ?_
  rw [hRecord.required rfl (rereads_string column.name),
    hRecord.required rfl (rereads_bool column.nullable),
    hRecord.required rfl (rereads_string column.type)]
  rfl

theorem ForeignKey.rereads {key : ForeignKey} (h : key.columnMapping.keys.Nodup) :
    reader.Rereads toJson key := by
  have hMapping := Rereads.entries h fun column _ => rereads_string column.2
  intro source
  refine record_ofJson_object ["column_mapping", "foreign_table"] (by decide) (by decide)
    (List.Sublist.refl _) fun record hRecord => ?_
  rw [hRecord.required rfl hMapping, hRecord.required rfl (TableName.rereads key.foreignTable)]
  rfl

/-- No name of a foreign key is repeated, and no column in one of them. -/
structure TableInfo.KeysDistinct (table : TableInfo) : Prop where
  names : table.foreignKeys.keys.Nodup
  columns : ∀ entry ∈ table.foreignKeys, entry.2.columnMapping.keys.Nodup

theorem TableInfo.rereads {table : TableInfo} (h : table.KeysDistinct) :
    reader.Rereads toJson table := by
  have hColumns := Rereads.list fun column (_ : column ∈ table.columns) => column.rereads
  have hKeys := Rereads.entries h.names fun entry hEntry =>
    ForeignKey.rereads (h.columns entry hEntry)
  intro source
  refine record_ofJson_object ["name", "columns", "primary_key", "foreign_keys"] (by decide)
    (by decide) (List.Sublist.refl _) fun record hRecord => ?_
  rw [hRecord.required rfl (TableName.rereads table.name), hRecord.required rfl hColumns,
    hRecord.required rfl (rereads_strings table.primaryKey), hRecord.required rfl hKeys]
  rfl

theorem SchemaResponse.rereads {response : SchemaResponse}
    (h : ∀ table ∈ response.tables, table.KeysDistinct) : reader.Rereads toJson response := by
  have hTables := Rereads.list fun table hTable => TableInfo.rereads (h table hTable)
  intro source
  refine record_ofJson_object ["tables"] (by decide) (by decide) (List.Sublist.refl _)
    fun record hRecord => ?_
  rw [hRecord.required rfl hTables]
  rfl

/-! ## Reports of failures -/

namespace ErrorReport

/-- The report that is read where this one was written: `null` is read as no details. -/
def asRead (report : ErrorReport) : ErrorReport :=
  { report with
    details := match report.details with
      | some .null => none
      | details => details }

theorem asRead_of_ne {report : ErrorReport} (h : report.details ≠ some .null) :
    report.asRead = report := by
  unfold asRead
  split
  · rename_i hNull
    exact absurd hNull h
  · rfl

theorem asRead_eq_self_iff (report : ErrorReport) :
    report.asRead = report ↔ report.details ≠ some .null := by
  refine ⟨fun h hNull => ?_, asRead_of_ne⟩
  have hDetails := congrArg ErrorReport.details h
  rw [asRead, hNull] at hDetails
  cases hDetails

/-- The word for an unexpected failure. -/
def type? (report : ErrorReport) : Option String :=
  if report.uncaught then some "uncaught-error" else none

/-- The members of a report, of which the last two may be left out. -/
def members (report : ErrorReport) : Entries Json :=
  ("message", .string report.message) ::
    ((report.type?.map fun type => ("type", Json.string type)).toList ++
      (report.details.map fun details => ("details", id details)).toList)

theorem toJson_eq (report : ErrorReport) : report.toJson = .object report.members := by
  obtain ⟨message, uncaught, details⟩ := report
  cases uncaught <;> rfl

theorem keys_members_sublist (report : ErrorReport) :
    report.members.keys.Sublist ["message", "type", "details"] := by
  refine List.Sublist.cons_cons "message" ?_
  have hType := Entries.keys_toList_sublist "type" Json.string report.type?
  have hDetails := Entries.keys_toList_sublist "details" id report.details
  have hKeys := hType.append hDetails
  rwa [← Entries.keys_append] at hKeys

theorem lookup_type_members (report : ErrorReport) :
    report.members.lookup "type" = report.type?.map Json.string := by
  unfold members
  cases report.type? <;> cases report.details <;> rfl

theorem lookup_details_members (report : ErrorReport) :
    report.members.lookup "details" = report.details := by
  unfold members
  cases report.type? <;> cases report.details <;> rfl

section Reading

variable {source : Source} {report : ErrorReport} {record : Record Written}
  (hRecord : record.Wrote source Written.ofJson report.members)

include hRecord

theorem optional_type :
    record.optional "type" (on (.oneOf ["uncaught-error"])) = .ok report.type? := by
  refine hRecord.optional report.lookup_type_members (fun type hType source => ?_) fun _ _ => nofun
  obtain ⟨-, hWord⟩ := Option.ite_none_right_eq_some.1 hType
  obtain rfl := Option.some.inj hWord
  rfl

theorem optional_details (h : ∀ details ∈ report.details, details.Orderly) :
    record.optional "details" (on .json) = .ok report.asRead.details := by
  by_cases hNull : report.details = some .null
  · have hNone : report.asRead.details = none := by
      rw [asRead, hNull]
    have hMember : report.members.lookup "details" = some (Json.ofOption id none) :=
      report.lookup_details_members.trans hNull
    rw [hNone]
    exact hRecord.optional_ofOption hMember (fun _ => nofun) fun _ => nofun
  · rw [asRead_of_ne hNull]
    refine hRecord.optional ?_ (fun details hDetails => rereads_json (h details hDetails)) ?_
    · rw [lookup_details_members, Option.map_id]
      rfl
    · rintro details hDetails rfl
      exact hNull hDetails

end Reading

theorem reader_ofJson {report : ErrorReport} (h : ∀ details ∈ report.details, details.Orderly)
    (source : Source) : reader source (Written.ofJson report.toJson) = .ok report.asRead := by
  rw [toJson_eq]
  refine record_ofJson_object ["message", "type", "details"] (by decide) (by decide)
    report.keys_members_sublist fun record hRecord => ?_
  rw [hRecord.required rfl (rereads_string report.message), optional_type hRecord,
    optional_details hRecord h]
  have hUncaught : report.type?.isSome = report.uncaught := by
    unfold type?
    cases report.uncaught <;> rfl
  show Outcome.ok (⟨report.message, report.type?.isSome, report.asRead.details⟩ : ErrorReport) = _
  rw [hUncaught]
  rfl

end ErrorReport

/-! ## Texts -/

/-- Written down as this value, something is read as `result`: from the value, and from the text of
the value if that can be followed. -/
structure Reader.ReadsBackAs {α : Type} (reader : Reader α) (json : Json) (result : α) : Prop where
  value : ∀ source, reader source (Written.ofJson json) = .ok result
  text : json.Spelled Written.maxDepth → reader.ofText json.compact = .ok result

theorem Reader.readsBackAs {α : Type} {reader : Reader α} {json : Json} {result : α}
    (h : ∀ source, reader source (Written.ofJson json) = .ok result) :
    reader.ReadsBackAs json result := by
  refine ⟨h, fun hSpelled => ?_⟩
  show reader .text (Written.ofText json.compact) = _
  rw [hSpelled.ofText_compact]
  exact h .text

section Spelled

variable {depth : Nat}

theorem spelled_strings (texts : List String) :
    (Json.array (texts.map .string)).Spelled (depth + 1) :=
  .array (List.forall_mem_map.2 fun text _ => .string text)

theorem ExplainResponse.spelled_toJson (response : ExplainResponse) :
    response.toJson.Spelled (depth + 2) :=
  .object (List.forall_mem_cons.2 ⟨.string response.query,
    List.forall_mem_singleton.2 (spelled_strings response.lines)⟩)

theorem ColumnInfo.spelled_toJson (column : ColumnInfo) : column.toJson.Spelled (depth + 1) :=
  .object (List.forall_mem_cons.2 ⟨.string column.name,
    List.forall_mem_cons.2 ⟨.bool column.nullable,
    List.forall_mem_singleton.2 (.string column.type)⟩⟩)

theorem ForeignKey.spelled_toJson (key : ForeignKey) : key.toJson.Spelled (depth + 2) :=
  .object (List.forall_mem_cons.2 ⟨key.columnMapping.spelled_textsToJson,
    List.forall_mem_singleton.2 (spelled_strings key.foreignTable.segments)⟩)

theorem TableInfo.spelled_toJson (table : TableInfo) : table.toJson.Spelled (depth + 4) := by
  have hColumns : (Json.array (table.columns.map ColumnInfo.toJson)).Spelled (depth + 3) :=
    .array (List.forall_mem_map.2 fun column _ => column.spelled_toJson)
  have hKeys : (Json.object (table.foreignKeys.map fun entry =>
      (entry.1, entry.2.toJson))).Spelled (depth + 3) :=
    .object (List.forall_mem_map.2 fun entry _ => entry.2.spelled_toJson)
  exact .object (List.forall_mem_cons.2 ⟨spelled_strings table.name.segments,
    List.forall_mem_cons.2 ⟨hColumns,
    List.forall_mem_cons.2 ⟨spelled_strings table.primaryKey, List.forall_mem_singleton.2 hKeys⟩⟩⟩)

theorem SchemaResponse.spelled_toJson (response : SchemaResponse) :
    response.toJson.Spelled (depth + 6) := by
  have hTables : (Json.array (response.tables.map TableInfo.toJson)).Spelled (depth + 5) :=
    .array (List.forall_mem_map.2 fun table _ => table.spelled_toJson)
  exact .object (List.forall_mem_singleton.2 hTables)

end Spelled

end N1qlConnector
