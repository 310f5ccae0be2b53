import N1qlConnector.Proofs.Json.Text
import N1qlConnector.Proofs.Request.RoundTrip

/-!
# Configurations that are written and read again

A configuration is read from the text of a header, in which parts may be missing, `null` or under an
older name. It is written with all its parts under their present names, and the text of that names
the same configuration. It holds no numbers and nests six levels deep, whatever the configuration
is, so its text can be followed from bracket to bracket.

With the requests, which travel as values, these are the formats that a caller supplies.

## Main results

* `Config.reader_roundTrip` : configurations that were read.
* `callers_roundTrip` : requests, and the configurations in headers.
-/

namespace N1qlConnector

open Reader

/-! ## Parts of a configuration -/

theorem HealthCheck.rereads (strategy : HealthCheck) :
    HealthCheck.reader.Rereads (fun strategy => .string strategy.word) strategy := by
  intro source
  cases strategy <;> rfl

theorem DocumentReference.roundTrips : reader.RoundTrips toJson := by
  intro source found reference h source'
  obtain ⟨record, h⟩ := of_record_eq_ok h
  obtain ⟨_, target, hFirst, -, rfl⟩ := Outcome.of_seq_eq_ok h
  obtain ⟨fieldMapping, hMapping, rfl⟩ := Outcome.of_map_eq_ok hFirst
  refine record_ofJson_object ["field_mapping", "target_document"] (by decide) (by decide)
    (List.Sublist.refl _) fun record hRecord => ?_
  rw [hRecord.required rfl (Record.rereads_of_required roundTrips_string.entries hMapping),
    hRecord.required rfl (rereads_string target)]
  rfl

theorem DocumentKind.roundTrips : reader.RoundTrips toJson := by
  intro source found document h source'
  obtain ⟨record, h⟩ := of_record_eq_ok h
  obtain ⟨_, references, hFirst, hReferences, rfl⟩ := Outcome.of_seq_eq_ok h
  obtain ⟨name, -, rfl⟩ := Outcome.of_map_eq_ok hFirst
  refine record_ofJson_object ["name", "relations"] (by decide) (by decide)
    (List.Sublist.refl _) fun record hRecord => ?_
  have hReferences := Record.rereads_of_defaulted DocumentReference.roundTrips.list
    (fun _ => rfl) hReferences
  rw [hRecord.required rfl (rereads_string name), hRecord.defaulted rfl hReferences]
  rfl

namespace Config

theorem toJson_eq (config : Config) :
    config.toJson = .object [("bucket", .string config.bucket), ("scope", .string config.scope),
      ("collection", .string config.collection),
      ("documents", .array (config.documents.map DocumentKind.toJson)),
      ("health_check_strategy",
        Json.ofOption (fun strategy => .string strategy.word) config.healthCheck)] := by
  unfold toJson
  cases config.healthCheck <;> rfl

/-- Where no documents are declared there are none. -/
theorem rereads_documents {documents : Option (List DocumentKind)}
    (h : ∀ found ∈ documents, (list DocumentKind.reader).Rereads
      (fun documents => .array (documents.map DocumentKind.toJson)) found) :
    ∀ found ∈ some (documents.getD []), (list DocumentKind.reader).Rereads
      (fun documents => .array (documents.map DocumentKind.toJson)) found := by
  rintro found ⟨⟩
  cases documents with
  | none => exact fun _ => rfl
  | some found => exact h found rfl

/-- The documents of a configuration were read, or there are none. -/
theorem documents_of_read {source : Source} {found : Written} {config : Config}
    (h : reader source found = .ok (some config)) :
    ∃ (record : Record Written) (documents : Option (List DocumentKind)),
      record.optional "documents" (on (.list DocumentKind.reader)) = .ok documents ∧
        config.documents = documents.getD [] := by
  obtain ⟨record, h⟩ := of_record_eq_ok h
  obtain ⟨_, healthCheck, hFourth, -, hValue⟩ := Outcome.of_seq_eq_ok h
  obtain ⟨_, documents, hThird, hDocuments, rfl⟩ := Outcome.of_seq_eq_ok hFourth
  obtain ⟨_, collection, hSecond, -, rfl⟩ := Outcome.of_seq_eq_ok hThird
  obtain ⟨_, scope, hFirst, -, rfl⟩ := Outcome.of_seq_eq_ok hSecond
  obtain ⟨bucket, -, rfl⟩ := Outcome.of_map_eq_ok hFirst
  obtain ⟨bucket, rfl, rfl⟩ := Option.map_eq_some_iff.1 hValue.symm
  exact ⟨record, documents, hDocuments, rfl⟩

/-- What was read as a configuration is read as the same one when it is written. -/
theorem reader_roundTrip {source : Source} {found : Written} {config : Config}
    (h : reader source found = .ok (some config)) (source' : Source) :
    reader source' (Written.ofJson config.toJson) = .ok (some config) := by
  obtain ⟨record, documents, hDocuments, hConfig⟩ := documents_of_read h
  obtain ⟨bucket, scope, collection, _, healthCheck⟩ := config
  obtain rfl := hConfig
  have hDocuments := Record.rereads_of_optional DocumentKind.roundTrips.list hDocuments
  rw [toJson_eq]
  refine record_ofJson_object
    ["bucket", "scope", "collection", "documents", "health_check_strategy"] (by decide) (by decide)
    (List.Sublist.refl _) fun record hRecord => ?_
  have hDocuments : record.optional "documents" (on (.list DocumentKind.reader)) =
      .ok (some (documents.getD [])) := by
    refine hRecord.optional ?_ (rereads_documents hDocuments) fun _ _ => nofun
    rfl
  have hStrategy : record.optional "health_check_strategy" (on HealthCheck.reader) =
      .ok healthCheck := by
    refine hRecord.optional_ofOption ?_ (fun strategy _ => strategy.rereads) fun _ _ => nofun
    rfl
  rw [hRecord.nullable rfl (rereads_string bucket) nofun,
    hRecord.nullable rfl (rereads_string scope) nofun,
    hRecord.nullable rfl (rereads_string collection) nofun, hDocuments, hStrategy]
  rfl

end Config

/-! ## The text of a configuration -/

section Text

variable {depth : Nat}

theorem Entries.spelled_textsToJson (entries : Entries String) :
    entries.textsToJson.Spelled (depth + 1) := by
  refine .object fun member hMember => ?_
  obtain ⟨entry, -, rfl⟩ := List.mem_map.1 hMember
  exact .string entry.2

theorem DocumentReference.spelled_toJson (reference : DocumentReference) :
    reference.toJson.Spelled (depth + 2) :=
  .object (List.forall_mem_cons.2 ⟨reference.fieldMapping.spelled_textsToJson,
    List.forall_mem_singleton.2 (.string reference.target)⟩)

theorem DocumentKind.spelled_toJson (document : DocumentKind) :
    document.toJson.Spelled (depth + 4) := by
  have hReferences :
      (Json.array (document.references.map DocumentReference.toJson)).Spelled (depth + 3) := by
    refine .array fun item hItem => ?_
    obtain ⟨reference, -, rfl⟩ := List.mem_map.1 hItem
    exact reference.spelled_toJson
  exact .object (List.forall_mem_cons.2 ⟨.string document.name,
    List.forall_mem_singleton.2 hReferences⟩)

theorem Config.spelled_toJson (config : Config) : config.toJson.Spelled (depth + 6) := by
  have hDocuments :
      (Json.array (config.documents.map DocumentKind.toJson)).Spelled (depth + 5) := by
    refine .array fun item hItem => ?_
    obtain ⟨document, -, rfl⟩ := List.mem_map.1 hItem
    exact document.spelled_toJson
  have hStrategy : (Json.ofOption (fun strategy : HealthCheck => .string strategy.word)
      config.healthCheck).Spelled (depth + 5) := by
    cases config.healthCheck with
    | none => exact .null
    | some strategy => exact .string strategy.word
  rw [toJson_eq]
  exact .object (List.forall_mem_cons.2 ⟨.string config.bucket,
    List.forall_mem_cons.2 ⟨.string config.scope,
    List.forall_mem_cons.2 ⟨.string config.collection,
    List.forall_mem_cons.2 ⟨hDocuments, List.forall_mem_singleton.2 hStrategy⟩⟩⟩⟩)

/-- The text of a configuration is read as what the configuration is written as. -/
theorem Config.ofText_compact (config : Config) :
    Written.ofText config.toJson.compact = Written.ofJson config.toJson := by
  have hSpelled : config.toJson.Spelled (121 + 6) := config.spelled_toJson
  exact hSpelled.ofText_compact

end Text

/-! ## What callers supply -/

namespace Config

/-- A header holds the configuration that its text is read as. -/
theorem ofHeader_eq_ok_iff {text : String} {config : Config} :
    ofHeader (some text) = .ok config ↔ reader.ofText text = .ok (some config) := by
  refine ⟨reader_of_ofHeader, fun h => ?_⟩
  unfold ofHeader ofHeader?
  rw [Option.getD_some, h]

/-- A header that is missing says what an empty object says. -/
theorem ofHeader_getD (header : Option String) :
    ofHeader (some (header.getD "\x7b\x7d")) = ofHeader header := by
  cases header <;> rfl

/-- The configuration in a header is the one in the header that it is written to. -/
theorem ofHeader_compact {header : Option String} {config : Config}
    (h : ofHeader header = .ok config) : ofHeader (some config.toJson.compact) = .ok config := by
  rw [← ofHeader_getD] at h
  rw [ofHeader_eq_ok_iff]
  show reader .text (Written.ofText config.toJson.compact) = _
  rw [ofText_compact]
  exact reader_roundTrip (ofHeader_eq_ok_iff.1 h) .text

end Config

/-- What a caller supplies survives being written. A request that was read, from a text or a value
and in whatever spelling, is read from the value that it is written as. The configuration that a
header was accepted for, whatever it names its parts, is accepted for the header that it is written
to. In both cases it is the same one with everything in the same order, and so it is written alike
and means the same. -/
theorem callers_roundTrip :
    (∀ source found request, Request.reader source found = .ok request →
      ∀ source', Request.reader source' (Written.ofJson request.toJson) = .ok request) ∧
    ∀ header config, Config.ofHeader header = .ok config →
      Config.ofHeader (some config.toJson.compact) = .ok config :=
  ⟨fun _ _ _ h source' => Request.roundTrips h source', fun _ _ h => Config.ofHeader_compact h⟩

/-- A request spelled as an array, with an operator of its own, and a header with an older name. -/
theorem callers_roundTrip_spellings :
    (Request.reader .value (Written.ofJson (.array [.array [.string "album"], .array [],
        .object [("where", .object [("type", .string "unary_op"), ("operator", .string "is_empty"),
          ("column", .array [.string "title", .null, .null])])]])) =
      .ok ⟨⟨["album"]⟩, [], ⟨none, none,
        some (.atom (.unary (.custom "is_empty") ⟨"title", none, none⟩)), none, none, none⟩⟩ ∧
    Request.reader .text (Written.ofJson (Request.toJson ⟨⟨["album"]⟩, [], ⟨none, none,
        some (.atom (.unary (.custom "is_empty") ⟨"title", none, none⟩)), none, none, none⟩⟩)) =
      .ok ⟨⟨["album"]⟩, [], ⟨none, none,
        some (.atom (.unary (.custom "is_empty") ⟨"title", none, none⟩)), none, none, none⟩⟩) ∧
    Config.ofHeader (some "\x7b\"bucket\":\"shop\",\"healthCheckStrategy\":\"ping\"\x7d") =
      .ok ⟨"shop", "_default", "_default", [], some .ping⟩ ∧
    Config.ofHeader
        (some (Config.toJson ⟨"shop", "_default", "_default", [], some .ping⟩).compact) =
      .ok ⟨"shop", "_default", "_default", [], some .ping⟩ := by
  have hRequest : Request.reader .value (Written.ofJson (.array [.array [.string "album"],
      .array [], .object [("where", .object [("type", .string "unary_op"),
        ("operator", .string "is_empty"), ("column", .array [.string "title", .null, .null])])]])) =
      .ok ⟨⟨["album"]⟩, [], ⟨none, none,
        some (.atom (.unary (.custom "is_empty") ⟨"title", none, none⟩)), none, none, none⟩⟩ := rfl
  have hHeader : Config.ofHeader
      (some "\x7b\"bucket\":\"shop\",\"healthCheckStrategy\":\"ping\"\x7d") =
      .ok ⟨"shop", "_default", "_default", [], some .ping⟩ := by with_unfolding_all rfl
  exact ⟨⟨hRequest, callers_roundTrip.1 _ _ _ hRequest .text⟩, hHeader,
    callers_roundTrip.2 _ _ hHeader⟩

end N1qlConnector
