import N1qlConnector.Cluster.Exchange
import N1qlConnector.Proofs.Format.Fields
import N1qlConnector.Proofs.Run.Surfacing

/-!
# What replies of a cluster mean

What a reply says depends on its status only where its body is no JSON. Where it is, the calls
differ in what they want of the value: a statement wants results without errors, a list of scopes
has to be one, and the other two calls take anything. So a reply that tells of a failure in its
status, and in JSON that a call takes for its answer, is an answer to that call.

The query service reports errors in a value. `StatementReply.Means` says without any reader what is
made of every such value, so nothing of an error is lost: its details are the whole value or the
whole list, and its code and its message are those of one and the same error.

## Main results

* `error?_answer_eq_none_iff` : which replies are answers, for each call.
* `error?_answer_of_not_isSuccess` : what becomes of a failure that is not told in JSON.
* `answer_query_eq_iff` : what a value means that the query service answers with.
* `orderly_of_answer_query`, `orderly_details_of_error?_answer` : rows and details are orderly.
-/

namespace N1qlConnector

theorem StoreError.of?_eq_none_iff {α : Type} {answer : Except StoreError α} :
    StoreError.of? answer = none ↔ ∃ value, answer = .ok value := by
  cases answer with
  | ok value => exact iff_of_true rfl ⟨value, rfl⟩
  | error error => exact iff_of_false nofun fun ⟨_, h⟩ => nomatch h

theorem StoreError.of?_eq_some_iff {α : Type} {answer : Except StoreError α} {error : StoreError} :
    StoreError.of? answer = some error ↔ answer = .error error := by
  cases answer with
  | ok value => exact iff_of_false nofun nofun
  | error other =>
      exact ⟨fun h => congrArg _ (Option.some.inj h), fun h => congrArg _ (Except.error.inj h)⟩

/-- The items of a field that may be missing are orderly. -/
theorem Json.Orderly.of_mem_field? {value : Json} (h : value.Orderly) {name : String} {place : Nat}
    {items : List Json} (hItems : (value.field? name place).getD (.array []) = .array items)
    {item : Json} (hItem : item ∈ items) : item.Orderly := by
  cases hField : value.field? name place with
  | none =>
      rw [hField, Option.getD_none, Json.array.injEq] at hItems
      rw [← hItems] at hItem
      cases hItem
  | some part =>
      have hPart := h.of_field?_eq_some hField
      rw [hField, Option.getD_some] at hItems
      subst hItems
      cases hPart with
      | array hEach => exact hEach item hItem

namespace Cluster

/-! ## Values of the query service -/

/-- A value says this of a statement. What it does not mention is empty. -/
structure StatementReply.SaidBy (reply : StatementReply) (value : Json) : Prop where
  isRecord : value.IsRecord 2
  results : (value.field? "results" 0).getD (.array []) = .array reply.results
  errors : (value.field? "errors" 1).getD (.array []) = .array reply.errors

/-- A value is an error with this code and this message. The message may be missing. -/
structure IsNativeError (value : Json) (code : UInt64) (message : String) : Prop where
  isRecord : value.IsRecord 2
  code : value.field? "code" 0 = some (.nat code.toNat)
  message : (value.field? "msg" 1).getD (.string "") = .string message

/-- What a value of the query service means for a statement. -/
inductive StatementReply.Means (value : Json) : Except StoreError (List Json) → Prop
  | rows {results : List Json} (h : SaidBy ⟨results, []⟩ value) : Means value (.ok results)
  | unreadable (h : ∀ reply : StatementReply, ¬reply.SaidBy value) :
      Means value (.error ⟨none, "unexpected response from the query service", value⟩)
  | native {results rest : List Json} {first : Json} {code : UInt64} {message : String}
      (h : SaidBy ⟨results, first :: rest⟩ value) (hFirst : IsNativeError first code message) :
      Means value (.error ⟨some code, message, .array (first :: rest)⟩)
  | foreign {results rest : List Json} {first : Json} (h : SaidBy ⟨results, first :: rest⟩ value)
      (hFirst : ∀ code message, ¬IsNativeError first code message) :
      Means value (.error ⟨none, first.compact, .array (first :: rest)⟩)

section Values

variable {value : Json}

/-- The reader of replies reads what a value says. -/
theorem StatementReply.reader_ofValue_iff (hValue : value.Orderly) {reply : StatementReply} :
    reader.ofValue value = .ok reply ↔ reply.SaidBy value := by
  have hRecord : reader.ofValue value = .ok reply ↔ value.IsRecord 2 ∧
      ((value.field? "results" 0).getD (.array []) = .array reply.results ∧
        (value.field? "errors" 1).getD (.array []) = .array reply.errors) := by
    refine Reader.record_ofJson_iff ["results", "errors"] (by decide) hValue fun record hReads => ?_
    have hList (name : String) (place : Nat) (hName : ["results", "errors"][place]? = some name)
        (items : List Json) : record.defaulted name [] (on (.list .json)) = .ok items ↔
          (value.field? name place).getD (.array []) = .array items :=
      hReads.defaulted_eq_ok_iff hName (fun _ _ => Json.array.inj) [] fun part hPart =>
        Reader.list_json_ofJson_iff (hValue.of_field?_eq_some hPart)
    rw [← hList "results" 0 rfl, ← hList "errors" 1 rfl]
    simp only [Outcome.seq_eq_ok_iff, Outcome.map_eq_ok_iff]
    constructor
    · rintro ⟨_, errors, ⟨results, hResults, rfl⟩, hErrors, rfl⟩
      exact ⟨hResults, hErrors⟩
    · rintro ⟨hResults, hErrors⟩
      exact ⟨_, _, ⟨_, hResults, rfl⟩, hErrors, rfl⟩
  exact hRecord.trans ⟨fun h => ⟨h.1, h.2.1, h.2.2⟩, fun h => ⟨h.isRecord, h.results, h.errors⟩⟩

theorem errorReader_ofValue_iff (hValue : value.Orderly) {code : UInt64} {message : String} :
    errorReader.ofValue value = .ok (code, message) ↔ IsNativeError value code message := by
  have hRecord : errorReader.ofValue value = .ok (code, message) ↔ value.IsRecord 2 ∧
      (value.field? "code" 0 = some (.nat code.toNat) ∧
        (value.field? "msg" 1).getD (.string "") = .string message) := by
    refine Reader.record_ofJson_iff ["code", "msg"] (by decide) hValue fun record hReads => ?_
    have hCode : record.required "code" (on .word) = .ok code ↔
        value.field? "code" 0 = some (.nat code.toNat) :=
      hReads.required_eq_ok_iff (rfl : ["code", "msg"][0]? = _) fun _ _ => Reader.word_ofJson_iff
    have hMessage : record.defaulted "msg" "" (on .string) = .ok message ↔
        (value.field? "msg" 1).getD (.string "") = .string message :=
      hReads.defaulted_eq_ok_iff (rfl : ["code", "msg"][1]? = _) (fun _ _ => Json.string.inj) ""
        fun _ _ => Reader.string_ofJson_iff
    rw [← hCode, ← hMessage]
    simp only [Outcome.seq_eq_ok_iff, Outcome.map_eq_ok_iff]
    constructor
    · rintro ⟨_, _, ⟨_, hFound, rfl⟩, hText, hPair⟩
      obtain ⟨rfl, rfl⟩ := Prod.mk.inj hPair
      exact ⟨hFound, hText⟩
    · rintro ⟨hFound, hText⟩
      exact ⟨_, _, ⟨_, hFound, rfl⟩, hText, rfl⟩
  exact hRecord.trans ⟨fun h => ⟨h.1, h.2.1, h.2.2⟩, fun h => ⟨h.isRecord, h.code, h.message⟩⟩

end Values

/-! ## Answers -/

section Answers

variable {reply : ServiceReply} {value : Json}

/-- A value that comes as JSON is what the reply says, whatever its status. -/
theorem ServiceReply.value_eq_ok_iff :
    reply.value = .ok value ↔ Json.ofText? reply.body = some value ∨
      (Json.ofText? reply.body = none ∧ isSuccess reply.status ∧ value = .string reply.body) := by
  unfold ServiceReply.value
  cases hBody : Json.ofText? reply.body with
  | some found => simp
  | none =>
      by_cases hStatus : isSuccess reply.status = true
      · simp [hStatus, eq_comm]
      · simp [hStatus]

theorem ServiceReply.orderly_of_value_eq_ok (h : reply.value = .ok value) : value.Orderly := by
  rcases value_eq_ok_iff.1 h with hBody | ⟨-, -, rfl⟩
  · exact Json.orderly_of_ofText? hBody
  · exact .string _

theorem ServiceReply.details_of_value_eq_error {error : StoreError} (h : reply.value = .error error) :
    error.details = .string reply.body := by
  unfold value at h
  split at h
  · cases h
  · split at h
    · cases h
    · obtain rfl := Except.error.inj h
      rfl

/-- The values that a call takes for its answer. -/
inductive Takes : Call → Json → Prop
  | query {statement : String} {parameters : Statement.Parameters} {context : String} {value : Json}
      {results : List Json} (h : StatementReply.SaidBy ⟨results, []⟩ value) :
      Takes (.query statement parameters context) value
  | listScopes {bucket : String} {value : Json} {scopes : List ScopeListing}
      (h : scopesReader.ofValue value = .ok scopes) : Takes (.listScopes bucket) value
  | ping (value : Json) : Takes .ping value
  | diagnostics (value : Json) : Takes .diagnostics value

/-- The results and the errors of an orderly value are orderly. -/
theorem StatementReply.SaidBy.orderly_of_mem {said : StatementReply} (h : said.SaidBy value)
    (hValue : value.Orderly) {item : Json} (hItem : item ∈ said.results ∨ item ∈ said.errors) :
    item.Orderly :=
  hItem.elim (hValue.of_mem_field? h.results) (hValue.of_mem_field? h.errors)

theorem StatementReply.rows_native {results rest : List Json} {first : Json} {code : UInt64}
    {message : String} (h : errorReader.ofValue first = .ok (code, message)) :
    rows ⟨results, first :: rest⟩ = .error ⟨some code, message, .array (first :: rest)⟩ := by
  unfold rows
  dsimp only
  rw [h]

theorem StatementReply.rows_foreign {results rest : List Json} {first : Json} {cause : Fault}
    (h : errorReader.ofValue first = .error cause) :
    rows ⟨results, first :: rest⟩ = .error ⟨none, first.compact, .array (first :: rest)⟩ := by
  unfold rows
  dsimp only
  rw [h]

section Query

variable {statement context : String} {parameters : Statement.Parameters}
  {result : Except StoreError (List Json)}

theorem answer_query_of_value (h : reply.value = .ok value) :
    answer (.query statement parameters context) reply =
      match StatementReply.reader.ofValue value with
      | .ok said => said.rows
      | .error _ => .error ⟨none, "unexpected response from the query service", value⟩ := by
  show (reply.value >>= fun value => match StatementReply.reader.ofValue value with
    | .ok said => said.rows
    | .error _ => .error ⟨none, "unexpected response from the query service", value⟩) = _
  rw [h]
  rfl

theorem answer_query_of_saidBy {said : StatementReply} (h : reply.value = .ok value)
    (hSaid : said.SaidBy value) :
    answer (.query statement parameters context) reply = said.rows := by
  have hValue := ServiceReply.orderly_of_value_eq_ok h
  rw [answer_query_of_value h, (StatementReply.reader_ofValue_iff hValue).2 hSaid]

/-- What a value means is what comes of it. -/
theorem StatementReply.Means.answer_eq (hMeans : StatementReply.Means value result)
    (h : reply.value = .ok value) :
    answer (.query statement parameters context) reply = result := by
  have hValue := ServiceReply.orderly_of_value_eq_ok h
  cases hMeans with
  | rows hSaid => exact answer_query_of_saidBy h hSaid
  | unreadable hUnreadable =>
      rw [answer_query_of_value h]
      cases hRead : StatementReply.reader.ofValue value with
      | ok said =>
          exact absurd ((StatementReply.reader_ofValue_iff hValue).1 hRead) (hUnreadable said)
      | error cause => rfl
  | @native results rest first code message hSaid hFirst =>
      have hOrderly := hSaid.orderly_of_mem hValue (.inr List.mem_cons_self)
      rw [answer_query_of_saidBy h hSaid]
      exact StatementReply.rows_native ((errorReader_ofValue_iff hOrderly).2 hFirst)
  | @foreign results rest first hSaid hFirst =>
      have hOrderly := hSaid.orderly_of_mem hValue (.inr List.mem_cons_self)
      rw [answer_query_of_saidBy h hSaid]
      cases hRead : errorReader.ofValue first with
      | ok found =>
          exact absurd ((errorReader_ofValue_iff hOrderly).1 hRead) (hFirst found.1 found.2)
      | error cause => exact StatementReply.rows_foreign hRead

/-- Every value means something. -/
theorem StatementReply.exists_means (value : Json) :
    ∃ result, StatementReply.Means value result := by
  by_cases hSaid : ∃ said : StatementReply, said.SaidBy value
  · obtain ⟨⟨results, errors⟩, hSaid⟩ := hSaid
    cases errors with
    | nil => exact ⟨_, .rows hSaid⟩
    | cons first rest =>
        by_cases hFirst : ∃ code message, IsNativeError first code message
        · obtain ⟨code, message, hFirst⟩ := hFirst
          exact ⟨_, .native hSaid hFirst⟩
        · exact ⟨_, .foreign hSaid fun code message h => hFirst ⟨code, message, h⟩⟩
  · exact ⟨_, .unreadable fun said h => hSaid ⟨said, h⟩⟩

/-- What the query service says is the answer, if it can be read and has no errors. -/
theorem answer_query_eq_iff (h : reply.value = .ok value) :
    answer (.query statement parameters context) reply = result ↔
      StatementReply.Means value result := by
  refine ⟨?_, fun hMeans => hMeans.answer_eq h⟩
  rintro rfl
  obtain ⟨result, hMeans⟩ := StatementReply.exists_means value
  have hResult : answer (.query statement parameters context) reply = result := hMeans.answer_eq h
  rwa [hResult]

end Query

/-- A reply that says nothing is an error of every call. -/
theorem error?_answer_of_error (call : Call) {error : StoreError} (h : reply.value = .error error) :
    call.error? (answer call reply) = some error := by
  cases call with
  | query statement parameters context =>
      show StoreError.of? (reply.value >>= _) = _
      rw [h]
      rfl
  | listScopes bucket =>
      show StoreError.of? (reply.value >>= _) = _
      rw [h]
      rfl
  | ping =>
      show StoreError.of? (discard reply.value) = _
      rw [h]
      rfl
  | diagnostics =>
      show StoreError.of? reply.value = _
      rw [h]
      rfl

/-- A failure that is not told in JSON is an error with the status and the body for its message. -/
theorem error?_answer_of_not_isSuccess (call : Call) (hBody : Json.ofText? reply.body = none)
    (hStatus : ¬isSuccess reply.status) :
    call.error? (answer call reply) =
      some ⟨none, statusText reply.status ++ ": " ++ reply.body, .string reply.body⟩ := by
  refine error?_answer_of_error call ?_
  unfold ServiceReply.value
  rw [hBody]
  exact if_neg hStatus

/-- Of what a reply says a call takes some values for its answer and no others. -/
theorem error?_answer_of_value (call : Call) (h : reply.value = .ok value) :
    call.error? (answer call reply) = none ↔ Takes call value := by
  cases call with
  | query statement parameters context =>
      refine StoreError.of?_eq_none_iff.trans ?_
      simp only [answer_query_eq_iff h]
      constructor
      · rintro ⟨results, hMeans⟩
        cases hMeans with
        | rows hSaid => exact .query hSaid
      · intro hTakes
        cases hTakes with
        | query hSaid => exact ⟨_, .rows hSaid⟩
  | listScopes bucket =>
      unfold answer
      dsimp only
      rw [h]
      dsimp only [bind, Except.bind]
      cases hScopes : scopesReader.ofValue value with
      | ok scopes => exact iff_of_true rfl (.listScopes hScopes)
      | error cause =>
          refine iff_of_false nofun fun hTakes => ?_
          cases hTakes with
          | listScopes hRead => cases hScopes.symm.trans hRead
  | ping =>
      refine iff_of_true ?_ (.ping value)
      show StoreError.of? (discard reply.value) = _
      rw [h]
      rfl
  | diagnostics =>
      refine iff_of_true ?_ (.diagnostics value)
      show StoreError.of? reply.value = _
      rw [h]
      rfl

/-- The rows in a reply are orderly. -/
theorem orderly_of_answer_query {statement context : String} {parameters : Statement.Parameters}
    {rows : List Json} (h : answer (.query statement parameters context) reply = .ok rows) :
    ∀ row ∈ rows, row.Orderly := by
  intro row hRow
  cases hValue : reply.value with
  | error error =>
      have hError := error?_answer_of_error (.query statement parameters context) hValue
      rw [h] at hError
      cases hError
  | ok value =>
      cases (answer_query_eq_iff hValue).1 h with
      | rows hSaid =>
          exact hSaid.orderly_of_mem (ServiceReply.orderly_of_value_eq_ok hValue) (.inl hRow)

/-- So are the details of an error. -/
theorem orderly_details_of_error?_answer {call : Call} {error : StoreError}
    (h : call.error? (answer call reply) = some error) : error.details.Orderly := by
  cases hReply : reply.value with
  | error failed =>
      obtain rfl := Option.some.inj ((error?_answer_of_error call hReply).symm.trans h)
      rw [ServiceReply.details_of_value_eq_error hReply]
      exact .string reply.body
  | ok value =>
      have hValue := ServiceReply.orderly_of_value_eq_ok hReply
      cases call with
      | query statement parameters context =>
          cases (answer_query_eq_iff hReply).1 (StoreError.of?_eq_some_iff.1 h) with
          | unreadable _ => exact hValue
          | native hSaid _ | foreign hSaid _ =>
              exact .array fun item hItem => hSaid.orderly_of_mem hValue (.inr hItem)
      | listScopes bucket =>
          unfold answer at h
          dsimp only at h
          rw [hReply] at h
          dsimp only [bind, Except.bind] at h
          cases hScopes : scopesReader.ofValue value with
          | ok scopes =>
              rw [hScopes] at h
              cases h
          | error cause =>
              rw [hScopes] at h
              obtain rfl := Option.some.inj h
              exact hValue
      | ping =>
          have hNone := (error?_answer_of_value .ping hReply).2 (.ping value)
          cases hNone.symm.trans h
      | diagnostics =>
          have hNone := (error?_answer_of_value .diagnostics hReply).2 (.diagnostics value)
          cases hNone.symm.trans h

/-- So that a password was wrong is good news to a health check. -/
example : Call.ping.error? (answer .ping ⟨401, "[\"unauthorized\"]"⟩) = none := by
  decide +kernel

end Answers

end Cluster

end N1qlConnector
