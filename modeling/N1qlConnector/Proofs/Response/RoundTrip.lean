import N1qlConnector.Proofs.Cluster.Replies
import N1qlConnector.Proofs.Response.Formats

/-!
# What the connector answers is read back

An answer holds what a store found, and a report of a failure what it complained of. Both are passed
on as they came, so whether they are read back depends on the store, and `Store.Orderly` says what is
wanted of it. A cluster is such a store, since its replies are read from texts.

`Attempt.Gives` follows the values of a store through the steps of an attempt, to its answer or to
its failure. Nothing in between makes values of another kind: rows get a place for every field and
keep distinct keys, and foreign keys are named by a map.

## Main results

* `Store.orderly_of_replies` : clusters are orderly.
* `Request.gives_run`, `Request.gives_explain`, `RawRequest.gives_run`, `Config.gives_inferSchema` :
  what comes of each kind of request.
* `answers_readBack` : answers, and reports of failures.
-/

namespace N1qlConnector

open Statement

/-! ## Orderly stores -/

/-- The details of the failure are orderly, if there are any. -/
def Failure.Orderly (failure : Failure) : Prop := ∀ details ∈ failure.details, details.Orderly

/-- All values in the answers of a store are orderly: the rows of a statement, and the details of an
error. -/
structure Store.Orderly (store : Store) : Prop where
  rows : ∀ history statement parameters context rows,
    store history (.query statement parameters context) = .ok rows → ∀ row ∈ rows, row.Orderly
  details : ∀ history call error, store.error? history call = some error → error.details.Orderly

/-- A store is orderly that answers every call with what a cluster replied, or else with an error
that happened on the way. -/
theorem Store.orderly_of_replies {store : Store}
    (h : ∀ history call, (∃ reply, store history call = Cluster.answer call reply) ∨
      ∃ message, store.error? history call = some (.transport message)) : store.Orderly := by
  constructor
  · intro history statement parameters context rows hRows
    rcases h history (.query statement parameters context) with ⟨reply, hReply⟩ | ⟨message, hError⟩
    · exact Cluster.orderly_of_answer_query (hReply.symm.trans hRows)
    · cases (StoreError.of?_eq_some_iff.1 hError).symm.trans hRows
  · -- The errors of a reply hold what the reply said, and those of the transport a text.
    intro history call error hError
    rcases h history call with ⟨reply, hReply⟩ | ⟨message, hTransport⟩
    · rw [Store.error?, hReply] at hError
      exact Cluster.orderly_details_of_error?_answer hError
    · obtain rfl := Option.some.inj (hError.symm.trans hTransport)
      exact .string message

theorem Failure.orderly_ofStoreError {error : StoreError} (h : error.details.Orderly) :
    (ofStoreError error).Orderly := by
  intro details hDetails
  unfold ofStoreError at hDetails
  split at hDetails
  all_goals
    obtain rfl := Option.some.inj hDetails
    exact h

theorem Failure.orderly_queryTooLong (actual limit : Nat) : (queryTooLong actual limit).Orderly := by
  rintro details hDetails
  obtain rfl := Option.some.inj hDetails
  refine .object (show ["actual", "limit"].Nodup by decide)
    (show some "actual" ≠ some embeddingKey by decide) ?_
  exact List.forall_mem_cons.2 ⟨.number _, List.forall_mem_singleton.2 (.number _)⟩

/-! ## What comes of attempts -/

/-- Run with a store, the attempt gives a value of this kind or fails with orderly details. -/
def Attempt.Gives {α : Type} (attempt : Attempt α) (store : Store) (kind : α → Prop) : Prop :=
  ∀ trace, match (attempt.runWith store trace).1 with
    | .ok value => kind value
    | .error failure => failure.Orderly

namespace Attempt

variable {α β : Type} {store : Store} {kind : α → Prop}

theorem gives_pure {value : α} (h : kind value) : (pure value : Attempt α).Gives store kind :=
  fun _ => h

theorem gives_throw {failure : Failure} (h : failure.Orderly) :
    (throw failure : Attempt α).Gives store kind :=
  fun _ => h

theorem Gives.bind {first : Attempt α} {next : α → Attempt β} {other : β → Prop}
    (hFirst : first.Gives store kind) (hNext : ∀ value, kind value → (next value).Gives store other) :
    (first >>= next).Gives store other := by
  intro trace
  have hGiven := hFirst trace
  rw [runWith_bind]
  rcases hRun : first.runWith store trace with ⟨_ | value, middle⟩
  · rw [hRun] at hGiven
    exact hGiven
  · rw [hRun] at hGiven
    exact hNext value hGiven middle

theorem gives_ofCompiled (compiled : Compiled α) :
    (ofCompiled compiled).Gives store fun _ => True := by
  cases compiled with
  | ok value => exact gives_pure trivial
  | error cause => exact gives_throw nofun

/-- One call, with its error if it fails. -/
theorem gives_ofAnswer {answer : Session (Except StoreError α)}
    (hValue : ∀ trace value, (answer.runWith store trace).1 = .ok value → kind value)
    (hError : ∀ trace error, (answer.runWith store trace).1 = .error error →
      error.details.Orderly) :
    (ofAnswer answer).Gives store kind := by
  intro trace
  rw [runWith_ofAnswer]
  cases hAnswer : (answer.runWith store trace).1 with
  | ok value => exact hValue trace value hAnswer
  | error error => exact Failure.orderly_ofStoreError (hError trace error hAnswer)

end Attempt

section Queries

variable {store : Store}

theorem Settings.gives_checkLength (settings : Settings) (statement : Prepared) :
    (settings.checkLength statement).Gives store fun _ => True := by
  intro trace
  rcases settings.allows_or statement with hAllowed | ⟨limit, hLimit, hLength⟩
  · rw [runWith_checkLength_of_allows hAllowed]
    trivial
  · rw [runWith_checkLength_of_lt hLimit hLength]
    exact Failure.orderly_queryTooLong _ _

theorem gives_execute (hStore : store.Orderly) (config : Config) (statement : String)
    (parameters : Parameters) :
    (execute config statement parameters).Gives store fun rows => ∀ row ∈ rows, row.Orderly := by
  unfold execute
  split
  · exact Attempt.gives_pure fun row hRow => absurd hRow List.not_mem_nil
  · let call := Call.query statement parameters config.context
    exact Attempt.gives_ofAnswer (fun trace rows => hStore.rows trace.calls _ _ _ rows)
      fun trace error hError =>
        hStore.details trace.calls call error (StoreError.of?_eq_some_iff.2 hError)

theorem Row.orderly_singleton {value : Json} (h : value.Orderly) (key : String) :
    Row.Orderly [(key, value)] :=
  ⟨List.nodup_cons.2 ⟨List.not_mem_nil, List.nodup_nil⟩, List.forall_mem_singleton.2 h⟩

theorem Row.orderly_ofJson {value : Json} (h : value.Orderly) : (Row.ofJson value).Orderly := by
  cases h with
  | object hNodup _ hValues => exact ⟨hNodup, hValues⟩
  | null => exact orderly_singleton .null _
  | bool truth => exact orderly_singleton (.bool truth) _
  | number number => exact orderly_singleton (.number number) _
  | string text => exact orderly_singleton (.string text) _
  | array hItems => exact orderly_singleton (.array hItems) _

theorem Row.orderly_shape (names : List String) {row : Row} (h : row.Orderly) :
    (row.shape names).Orderly := by
  refine ⟨Entries.nodup_keys_extend (Entries.nodup_keys_ofPairs _), fun member hMember => ?_⟩
  rcases Entries.mem_extend hMember with hName | hRow
  · obtain ⟨name, -, rfl⟩ := List.mem_map.1 (Entries.mem_ofPairs hName)
    exact .null
  · exact h.values member hRow

theorem QueryResponse.orderly_ofAnswers (names : List String) {rows totals : List Json}
    (hRows : ∀ row ∈ rows, row.Orderly) (hTotals : ∀ row ∈ totals, row.Orderly) :
    (ofAnswers names rows totals).Orderly := by
  constructor
  · intro row hRow
    obtain ⟨value, hValue, rfl⟩ := List.mem_map.1 hRow
    exact Row.orderly_shape names (Row.orderly_ofJson (hRows value hValue))
  · intro row hRow
    obtain ⟨value, hValue, rfl⟩ := Option.map_eq_some_iff.1 hRow
    exact Row.orderly_ofJson (hTotals value (List.mem_of_mem_head? hValue))

theorem Request.gives_run (hStore : store.Orderly) (request : Request) (config : Config)
    (settings : Settings) : (request.run config settings).Gives store QueryResponse.Orderly := by
  unfold run
  refine (Attempt.gives_ofCompiled _).bind fun compiled _ => ?_
  rw [CompiledRequest.run_eq]
  refine (settings.gives_checkLength compiled.rows).bind fun _ _ => ?_
  refine (gives_execute hStore config _ _).bind fun rows hRows => ?_
  refine (gives_execute hStore config _ _).bind fun totals hTotals => ?_
  exact Attempt.gives_pure (QueryResponse.orderly_ofAnswers _ hRows hTotals)

theorem Prepared.gives_explain (hStore : store.Orderly) (config : Config) (statement : Prepared) :
    (statement.explain config).Gives store fun _ => True := by
  unfold Prepared.explain
  split
  · exact Attempt.gives_pure trivial
  · exact (gives_execute hStore config _ _).bind fun plan _ => Attempt.gives_pure trivial

theorem Request.gives_explain (hStore : store.Orderly) (request : Request) (config : Config)
    (settings : Settings) : (request.explain config settings).Gives store fun _ => True := by
  unfold explain
  refine (Attempt.gives_ofCompiled _).bind fun compiled _ => ?_
  refine (Prepared.gives_explain hStore config compiled.rows).bind fun rows _ => ?_
  refine (Prepared.gives_explain hStore config compiled.totals).bind fun totals _ => ?_
  exact Attempt.gives_pure trivial

theorem RawRequest.gives_run (hStore : store.Orderly) (request : RawRequest) (config : Config) :
    (request.run config).Gives store fun response => ∀ row ∈ response.rows, row.Orderly :=
  (gives_execute hStore config _ _).bind fun _ hRows => Attempt.gives_pure hRows

end Queries

/-! ## Tables -/

/-- No declared reference repeats a field. -/
def Config.KeysDistinct (config : Config) : Prop :=
  ∀ document ∈ config.documents, ∀ reference ∈ document.references,
    reference.fieldMapping.keys.Nodup

theorem DocumentReference.nodup_of_read {source : Source} {found : Written}
    {reference : DocumentReference} (h : reader source found = .ok reference) :
    reference.fieldMapping.keys.Nodup := by
  obtain ⟨record, h⟩ := Reader.of_record_eq_ok h
  obtain ⟨_, target, hFirst, -, rfl⟩ := Outcome.of_seq_eq_ok h
  obtain ⟨fieldMapping, hMapping, rfl⟩ := Outcome.of_map_eq_ok hFirst
  obtain ⟨part, -, hRead⟩ := Record.required_eq_ok_iff.1 hMapping
  exact (Written.Level.of_entries_eq_ok hRead).1

theorem DocumentKind.nodup_of_read {source : Source} {found : Written} {document : DocumentKind}
    (h : reader source found = .ok document) {reference : DocumentReference}
    (hReference : reference ∈ document.references) : reference.fieldMapping.keys.Nodup := by
  obtain ⟨record, h⟩ := Reader.of_record_eq_ok h
  obtain ⟨_, references, hFirst, hReferences, rfl⟩ := Outcome.of_seq_eq_ok h
  obtain ⟨name, -, rfl⟩ := Outcome.of_map_eq_ok hFirst
  rcases Record.defaulted_eq_ok_iff.1 hReferences with ⟨-, rfl⟩ | ⟨part, -, hRead⟩
  · cases hReference
  · obtain ⟨item, -, hItem⟩ := Written.Level.of_list_eq_ok hRead hReference
    exact DocumentReference.nodup_of_read hItem

/-- A configuration in a header repeats no field in a reference. -/
theorem Config.keysDistinct_of_ofHeader {header : Option String} {config : Config}
    (h : ofHeader header = .ok config) : config.KeysDistinct := by
  rw [← ofHeader_getD, ofHeader_eq_ok_iff] at h
  obtain ⟨record, documents, hDocuments, hConfig⟩ := documents_of_read h
  intro document hDocument reference hReference
  rw [hConfig] at hDocument
  cases documents with
  | none => cases hDocument
  | some documents =>
      obtain ⟨part, -, hRead⟩ := Record.of_optional_eq_some hDocuments
      obtain ⟨item, -, hItem⟩ := Written.Level.of_list_eq_ok hRead hDocument
      exact DocumentKind.nodup_of_read hItem hReference

section Tables

variable {store : Store} {config : Config}

theorem TableInfo.keysDistinct_ofFlavor (hConfig : config.KeysDistinct) (name : TableName)
    (flavor : Json) : (ofFlavor config name flavor).KeysDistinct := by
  unfold ofFlavor declaredKeys
  cases hKind : config.documentKind name with
  | none => exact ⟨List.nodup_nil, nofun⟩
  | some document =>
      refine ⟨Entries.nodup_keys_ofPairs _, fun entry hEntry => ?_⟩
      obtain ⟨reference, hReference, rfl⟩ := List.mem_map.1 (Entries.mem_ofPairs hEntry)
      exact hConfig document (List.mem_of_find?_eq_some hKind) reference hReference

theorem Config.gives_inferSchema (hStore : store.Orderly) (hConfig : config.KeysDistinct) :
    config.inferSchema.Gives store fun response =>
      ∀ table ∈ response.tables, table.KeysDistinct := by
  intro trace
  cases hScopes : store trace.calls (.listScopes config.bucket) with
  | error error =>
      rw [runWith_inferSchema_of_error hScopes]
      have hDetails := hStore.details _ (.listScopes config.bucket) error
        (StoreError.of?_eq_some_iff.2 hScopes)
      exact Failure.orderly_ofStoreError hDetails
  | ok scopes =>
      obtain ⟨made, added, hInfers⟩ := config.exists_infers store
        (trace.calls ++ [.listScopes config.bucket]) [] (ScopeListing.pairs scopes)
      rw [hInfers.runWith_inferSchema hScopes]
      intro table hTable
      obtain ⟨-, place, flavor, -, -, -, rfl⟩ :=
        hInfers.exists_flavor (List.reduceOption_mem_iff.1 hTable)
      exact TableInfo.keysDistinct_ofFlavor hConfig _ _

end Tables

/-! ## What is read back -/

theorem Failure.report_readsBack {failure : Failure} (h : failure.Orderly) :
    ErrorReport.reader.ReadsBackAs failure.report.toJson failure.report.asRead := by
  have hDetails : ∀ details ∈ failure.report.details, details.Orderly := h
  exact Reader.readsBackAs fun source => ErrorReport.reader_ofJson hDetails source

/-- Whatever an attempt ends with is read back: an answer as itself, and the report of a failure as
itself but for details that are `null`. -/
def Attempt.ReadsBack {α : Type} (attempt : Attempt α) (reader : Reader α) (toJson : α → Json)
    (store : Store) : Prop :=
  ∀ trace, match (attempt.runWith store trace).1 with
    | .ok response => reader.ReadsBackAs (toJson response) response
    | .error failure => ErrorReport.reader.ReadsBackAs failure.report.toJson failure.report.asRead

theorem Attempt.Gives.readsBack {α : Type} {attempt : Attempt α} {store : Store} {kind : α → Prop}
    {reader : Reader α} {toJson : α → Json} (h : attempt.Gives store kind)
    (hReader : ∀ response, kind response → reader.Rereads toJson response) :
    attempt.ReadsBack reader toJson store := by
  intro trace
  have hGiven := h trace
  cases hResult : (attempt.runWith store trace).1 with
  | ok response =>
      rw [hResult] at hGiven
      exact Reader.readsBackAs (hReader response hGiven)
  | error failure =>
      rw [hResult] at hGiven
      exact Failure.report_readsBack hGiven

/-- What the connector answers is read back as what it is, with everything in the same order, and so
is what it reports of a failure, whichever failure that is. The one exception are details that are
`null`: they are read as no details. Texts are read like values as far as they can be followed, which
holds of all plans and tables. -/
theorem answers_readBack {store : Store} (hStore : store.Orderly) {config : Config}
    (hConfig : config.KeysDistinct) (settings : Settings) :
    (∀ request : Request, (request.run config settings).ReadsBack QueryResponse.reader
      QueryResponse.toJson store) ∧
    (∀ request : Request, (request.explain config settings).ReadsBack ExplainResponse.reader
      ExplainResponse.toJson store) ∧
    (∀ request : RawRequest, (request.run config).ReadsBack RawResponse.reader
      RawResponse.toJson store) ∧
    config.inferSchema.ReadsBack SchemaResponse.reader SchemaResponse.toJson store ∧
    (∀ response : ExplainResponse, response.toJson.Spelled Written.maxDepth) ∧
    (∀ response : SchemaResponse, response.toJson.Spelled Written.maxDepth) ∧
    ∀ failure : Failure, failure.Orderly →
      ErrorReport.reader.ReadsBackAs failure.report.toJson failure.report.asRead ∧
        (failure.report.asRead = failure.report ↔ failure.details ≠ some .null) := by
  refine ⟨fun request => ?_, fun request => ?_, fun request => ?_, ?_, fun response => ?_,
    fun response => ?_, fun failure hFailure => ?_⟩
  · exact (request.gives_run hStore config settings).readsBack fun _ => QueryResponse.rereads
  · exact (request.gives_explain hStore config settings).readsBack
      fun response _ => response.rereads
  · exact (request.gives_run hStore config).readsBack fun _ => RawResponse.rereads
  · exact (config.gives_inferSchema hStore hConfig).readsBack fun _ => SchemaResponse.rereads
  · have hSpelled : response.toJson.Spelled (125 + 2) := response.spelled_toJson
    exact hSpelled
  · have hSpelled : response.toJson.Spelled (121 + 6) := response.spelled_toJson
    exact hSpelled
  · exact ⟨Failure.report_readsBack hFailure, failure.report.asRead_eq_self_iff⟩

/-- A store that finds the same rows with every statement. -/
def Store.finding (rows : List Json) : Store := fun _ call =>
  match call with
  | .query .. => .ok rows
  | .listScopes _ => .ok []
  | .ping => .ok ()
  | .diagnostics => .ok .null

theorem Store.orderly_finding {rows : List Json} (h : ∀ row ∈ rows, row.Orderly) :
    (finding rows).Orderly := by
  constructor
  · intro history statement parameters context found hFound
    obtain rfl := Except.ok.inj hFound
    exact h
  · intro history call error hError
    cases call <;> cases hError

/-- A row with its keys out of order and a `null` in it, and a failure with such a row for its
details. -/
theorem answers_readBack_row :
    let row := Json.object [("b", .nat 1), ("a", .null)]
    let failure := Failure.unknown "m" row
    (Store.finding [row]).Orderly ∧ (Config.ofBucket "shop").KeysDistinct ∧ failure.Orderly ∧
      (((RawRequest.mk "SELECT 1").run (.ofBucket "shop")).runWith (.finding [row]) .empty).1 =
        .ok ⟨[row]⟩ ∧
      RawResponse.reader.ofText "\x7b\"rows\":[\x7b\"b\":1,\"a\":null\x7d]\x7d" = .ok ⟨[row]⟩ ∧
      ErrorReport.reader .value (Written.ofJson failure.report.toJson) = .ok failure.report := by
  intro row failure
  have hRow : row.Orderly := .object (by decide) (by decide)
    (List.forall_mem_cons.2 ⟨.number _, List.forall_mem_singleton.2 .null⟩)
  have hStore := Store.orderly_finding (List.forall_mem_singleton.2 hRow)
  have hConfig : (Config.ofBucket "shop").KeysDistinct := nofun
  have hFailure : failure.Orderly := by
    rintro details hDetails
    obtain rfl := Option.some.inj hDetails
    exact hRow
  obtain ⟨-, -, hRaw, -, -, -, hReports⟩ := answers_readBack hStore hConfig ⟨false, none⟩
  have hNumber : (Number.integer 1).Rereads := Number.rereads_integer (by decide) (by decide)
  have hSpelled : (RawResponse.toJson ⟨[row]⟩).Spelled (124 + 3) :=
    .object (List.forall_mem_singleton.2 (.array (List.forall_mem_singleton.2 (.object
      (List.forall_mem_cons.2 ⟨.number hNumber, List.forall_mem_singleton.2 .null⟩)))))
  exact ⟨hStore, hConfig, hFailure, rfl, (hRaw ⟨"SELECT 1"⟩ .empty).text hSpelled,
    (hReports failure hFailure).1.value .value⟩

/-! ## What is not -/

/-- A store that answers every call with the same error. -/
def Store.failing (error : StoreError) : Store := fun _ call =>
  match call with
  | .query .. => .error error
  | .listScopes _ => .error error
  | .ping => .error error
  | .diagnostics => .error error

/-- So many arrays inside one another. -/
def Json.nested : Nat → Json
  | 0 => .null
  | depth + 1 => .array [nested depth]

theorem Json.all_nested (depth : Nat) (rest : List Char) :
    Token.all ((nested depth).compact.toList ++ rest) =
      List.replicate depth .openArray ++
        .null :: (List.replicate depth .closeArray ++ Token.all rest) := by
  induction depth generalizing rest with
  | zero => exact Token.all_eq_of_scan rfl rfl
  | succ depth ih =>
      have hText : (nested (depth + 1)).compact.toList ++ rest =
          '[' :: ((nested depth).compact.toList ++ ']' :: rest) := by
        simp [nested, compact]
      rw [hText, Token.all_openArray, ih, Token.all_closeArray, List.replicate_succ,
        List.replicate_succ', List.append_assoc]
      rfl

/-- The tokens in which an unknown error is reported. -/
theorem Failure.all_report_unknown (message : String) (details : Json) :
    Token.all (unknown message details).report.toJson.compact.toList =
      .openObject :: .string (some "message") :: .colon ::
        .string (some ("Unknown error: " ++ message)) :: .comma ::
        .string (some "type") :: .colon :: .string (some "uncaught-error") :: .comma ::
        .string (some "details") :: .colon :: Token.all (details.compact.toList ++ ['\x7d']) := by
  have hText : (unknown message details).report.toJson.compact.toList =
      '\x7b' :: ((Json.quote "message").toList ++ ':' ::
        ((Json.quote ("Unknown error: " ++ message)).toList ++ ',' ::
        ((Json.quote "type").toList ++ ':' :: ((Json.quote "uncaught-error").toList ++ ',' ::
        ((Json.quote "details").toList ++ ':' :: (details.compact.toList ++ ['\x7d'])))))) := by
    show ("\x7b" ++ ",".intercalate
      [Json.quote "message" ++ ":" ++ Json.quote ("Unknown error: " ++ message),
        Json.quote "type" ++ ":" ++ Json.quote "uncaught-error",
        Json.quote "details" ++ ":" ++ details.compact] ++ "\x7d").toList = _
    have hOpen : "\x7b".toList = ['\x7b'] := rfl
    have hClose : "\x7d".toList = ['\x7d'] := rfl
    have hColon : ":".toList = [':'] := rfl
    have hComma : ",".toList = [','] := rfl
    simp only [String.intercalate_cons_cons, String.intercalate_singleton, String.toList_append,
      List.append_assoc, hOpen, hClose, hColon, hComma, List.cons_append, List.nil_append]
  simp only [hText, Token.all_openObject, Token.all_quote, Token.all_colon, Token.all_comma]

/-- Not everything is read back. Details that are `null` are lost, a floating point number comes
back as its neighbour, and details that nest as deep as a text may are refused in a longer one. The
errors are those of a cluster that replies to a statement with nothing but these details. -/
theorem answers_not_readBack :
    let run := (RawRequest.mk "SELECT 1").run (.ofBucket "shop")
    let message := "unexpected response from the query service"
    let number := Json.number (.binary ⟨false, 8794761699453570, -48⟩)
    let neighbour := Json.number (.binary ⟨false, 8794761699453571, -48⟩)
    ((run.runWith (.failing ⟨none, message, .null⟩) .empty).1 = .error (.unknown message .null) ∧
      (Failure.unknown message .null).report.details = some .null ∧
      ErrorReport.reader.ofText (Failure.unknown message .null).report.toJson.compact =
        .ok ⟨"Unknown error: " ++ message, true, none⟩) ∧
    ((run.runWith (.finding [number]) .empty).1 = .ok ⟨[number]⟩ ∧
      RawResponse.reader.ofText (RawResponse.toJson ⟨[number]⟩).compact = .ok ⟨[neighbour]⟩) ∧
    ((run.runWith (.failing ⟨none, message, .nested Written.maxDepth⟩) .empty).1 =
        .error (.unknown message (.nested Written.maxDepth)) ∧
      ∀ report, ErrorReport.reader.ofText
        (Failure.unknown message (.nested Written.maxDepth)).report.toJson.compact ≠
          .ok report) := by
  intro run message number neighbour
  -- Only the tokens of the texts are computed, and what is read is computed from them.
  have hNull : Token.all (Json.null.compact.toList ++ ['\x7d']) = [.null, .closeObject] := by
    decide +kernel
  have hNumber : Token.all (RawResponse.toJson ⟨[number]⟩).compact.toList =
      [.openObject, .string (some "rows"), .colon, .openArray,
        .number (some (.binary ⟨false, 8794761699453571, -48⟩)), .closeArray, .closeObject] := by
    decide +kernel
  have hNested : (ErrorReport.reader.ofText (Failure.unknown message
      (.nested Written.maxDepth)).report.toJson.compact).toOption.isNone = true := by
    show (ErrorReport.reader .text (Written.ofText _)).toOption.isNone = true
    rw [Written.ofText, Failure.all_report_unknown, Json.all_nested, Token.all_closeObject,
      Token.all]
    decide +kernel
  refine ⟨⟨rfl, rfl, ?_⟩, ⟨rfl, ?_⟩, rfl, fun report hRead => ?_⟩
  · show ErrorReport.reader .text (Written.ofText _) = _
    rw [Written.ofText, Failure.all_report_unknown, hNull]
    rfl
  · show RawResponse.reader .text (Written.ofText _) = _
    rw [Written.ofText, hNumber]
    rfl
  · rw [hRead] at hNested
    cases hNested

end N1qlConnector
