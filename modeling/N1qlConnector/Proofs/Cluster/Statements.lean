import N1qlConnector.Proofs.Cluster.Replies
import N1qlConnector.Proofs.Compile.Totals

/-!
# Statements on their way to the query service

A statement goes to the query service in an object that it shares with the context and with one
member for each of its parameters. A dollar sign keeps the parameters from the other two members and
a map from each other, so nothing is lost on the way, whatever anything is called.

What a statement refers to by a placeholder is then found in the object under the very same text.
This is said of the trees that statements are written from, since an operator that a caller made up
is written into a statement as it is and can have any dollar sign in it. Where every operator is one
that readers know, it is what a reader finds in the text.

## Main results

* `Cluster.statementBody_eq` : the members of the object.
* `Request.prepares_of_compile` : the placeholders of a compiled statement are its parameters.
* `Cluster.exchange_query` : what is sent for a statement, and what the answer means.
-/

namespace N1qlConnector

open Statement

/-! ## What is sent -/

theorem Statement.placeholder_injective : Function.Injective placeholder := by
  intro first second h
  exact String.append_right_inj "$" |>.1 h

theorem Statement.placeholder_ne {name text : String} (h : text.toList.head? ≠ some '$') :
    placeholder name ≠ text := by
  rintro rfl
  exact h (by simp [placeholder])

namespace Cluster

/-- The members of the object that a statement is sent in. -/
def statementMembers (statement : String) (parameters : Parameters) (context : String) :
    Entries Json :=
  ("statement", .string statement) :: ("query_context", .string context) ::
    parameters.map fun parameter => (placeholder parameter.1, parameter.2)

/-- No member of a statement's object has the key of another. -/
theorem nodup_keys_statementMembers {parameters : Parameters} (h : parameters.keys.Nodup)
    (statement context : String) : (statementMembers statement parameters context).keys.Nodup := by
  have hKeys : (statementMembers statement parameters context).keys =
      "statement" :: "query_context" :: parameters.keys.map placeholder := by
    simp [statementMembers, Entries.keys]
  rw [hKeys, List.nodup_cons, List.nodup_cons]
  refine ⟨?_, ?_, h.map placeholder_injective⟩
  · intro hMem
    rcases List.mem_cons.1 hMem with hContext | hMem
    · exact absurd hContext (by decide)
    · obtain ⟨name, -, hName⟩ := List.mem_map.1 hMem
      exact placeholder_ne (by decide) hName
  · intro hMem
    obtain ⟨name, -, hName⟩ := List.mem_map.1 hMem
    exact placeholder_ne (by decide) hName

/-- A statement is sent in an object of exactly its members. -/
theorem statementBody_eq {parameters : Parameters} (h : parameters.keys.Nodup)
    (statement context : String) :
    statementBody statement parameters context =
      .object (statementMembers statement parameters context) := by
  unfold statementBody
  rw [Entries.extend_of_nodup]
  · rfl
  · exact nodup_keys_statementMembers h statement context

/-- Whatever is bound has a member with the text of its placeholder. -/
theorem member?_statementBody {parameters : Parameters} (h : parameters.keys.Nodup)
    (statement context : String) {name : String} {value : Json}
    (hBound : (name, value) ∈ parameters) :
    (statementBody statement parameters context).member? (placeholder name) = some value := by
  have hMember : (placeholder name, value) ∈ statementMembers statement parameters context :=
    List.mem_cons_of_mem _ (List.mem_cons_of_mem _ (List.mem_map.2 ⟨_, hBound, rfl⟩))
  rw [statementBody_eq h]
  exact lookup_eq_some_of_mem (nodup_keys_statementMembers h statement context) hMember

end Cluster

/-! ## Placeholders of aggregate statements -/

namespace Statement

/-- The names of the placeholders in the condition of some rows. -/
def RowSet.placeholders (rows : RowSet) : List String :=
  (rows.condition.toList.flatMap Formula.atoms).flatMap fun test => test.predicate.parameters

/-- The names of all placeholders of a statement. -/
def Select.placeholders (select : Select) : List String :=
  select.outline.predicates.flatMap Predicate.parameters

theorem RowSet.placeholders_conditionLexemes (rows : RowSet) :
    Statement.placeholders rows.whereLexemes = rows.placeholders := by
  rw [RowSet.whereLexemes, placeholders_clauseLexemes rfl rfl, RowSet.placeholders]
  cases rows.condition with
  | none => rfl
  | some condition =>
      have hKind : Statement.placeholders rows.kindLexemes = [] := rfl
      simp [hKind, Condition.placeholders_lexemes]

theorem RowSet.placeholders_documentsLexemes (rows : RowSet) :
    Statement.placeholders rows.documentsLexemes = rows.placeholders := by
  have hPut : Statement.placeholders rows.keyed.lexemes = [] := by
    rw [Put.lexemes, placeholders_append, placeholders_append, Reference.placeholders_lexemes]
    rfl
  have hSelect : Statement.placeholders [.word "SELECT", .word "RAW"] = [] := rfl
  have hFrom : Statement.placeholders rows.fromLexemes = [] := rfl
  rw [RowSet.documentsLexemes, placeholders_append, placeholders_append, hSelect, hPut]
  simp [RowSet.lexemes, hFrom, RowSet.placeholders_conditionLexemes,
    RowSet.placeholders_orderLexemes, RowSet.placeholders_countLexemes]

theorem placeholders_namedTotalLexemes (item : String × Total) :
    Statement.placeholders (namedTotalLexemes item) = [] := by
  obtain ⟨name, total⟩ := item
  cases total with
  | countRows => rfl
  | ofColumn function column =>
      rw [namedTotalLexemes, Total.lexemes, placeholders_append, placeholders_append,
        placeholders_append, Reference.placeholders_lexemes]
      cases function <;> rfl

/-- The placeholders of an aggregate statement are those of its condition. -/
theorem TotalsSelect.placeholders_lexemes (select : TotalsSelect) :
    Statement.placeholders select.lexemes = select.rows.placeholders := by
  have hItems : Statement.placeholders
      ([.mark ","].intercalate (select.items.map namedTotalLexemes)) = [] := by
    rw [placeholders_intercalate rfl, List.flatMap_map]
    exact List.flatMap_eq_nil_iff.2 fun item _ => placeholders_namedTotalLexemes item
  rw [TotalsSelect.lexemes, placeholders_append, placeholders_append, hItems]
  unfold rowLexemes
  split
  · rw [placeholders_append, placeholders_append, RowSet.placeholders_documentsLexemes]
    exact List.append_nil _
  · rw [placeholders_append, RowSet.placeholders_conditionLexemes]
    rfl

end Statement

/-! ## Compiled statements -/

/-- A statement is the text of a tree with these placeholders, or there is none. -/
inductive Prepared.Refers (tags : Tags) : Prepared → List String → Prop
  | none : Refers tags ⟨"", []⟩ []
  | rows (select : Select) (parameters : Parameters) :
      Refers tags (.ofRows tags (some select, parameters)) select.placeholders
  | totals (select : TotalsSelect) (parameters : Parameters) :
      Refers tags (.ofTotals tags (some select, parameters)) select.rows.placeholders

/-- A statement is ready to be sent: it refers to its parameters, each by a name of its own. If no
operator is made up, so does the text. -/
structure Prepared.IsReady (statement : Prepared) (tags : Tags) (builtIn : Prop) : Prop where
  nodup : statement.parameters.keys.Nodup
  refers : statement.Refers tags statement.parameters.keys
  spelled : builtIn → ∃ found, lexemes statement.text = some found ∧
    (placeholders found).Perm statement.parameters.keys

section Compiled

variable {request : Request} {config : Config} {settings : Settings} {compiled : CompiledRequest}

/-- What was bound from the start on is what the comparisons have for parameters. -/
theorem Statement.Binds.keys_eq {listed : List Listed} {later : Parameters}
    {before : List (Predicate String)} (h : Binds [] listed later before) :
    later.keys = before.flatMap Predicate.parameters := by
  obtain ⟨names, hKeys, -, -, hNames⟩ := h.found_eq
  rw [hNames, hKeys]
  rfl

theorem Request.isReady_rows (h : request.compile config settings = .ok compiled) :
    compiled.rows.IsReady settings.tags request.query.isBuiltIn := by
  obtain ⟨select, parameters, hSelect, hRows⟩ := Request.compile_ok h
  have hNodup : parameters.keys.Nodup := hSelect.binds.nodup_keys List.nodup_nil
  have hKeys : parameters.keys = (predicatesOf select).flatMap Predicate.parameters := by
    rw [hSelect.binds.keys_eq, flatMap_parameters_bound]
  rw [hRows]
  cases select with
  | none =>
      obtain rfl : parameters = [] := List.map_eq_nil_iff.1 hKeys
      exact ⟨hNodup, .none, fun _ => ⟨[], rfl, .nil⟩⟩
  | some select =>
      have hPlaceholders : parameters.keys = select.placeholders := hKeys
      refine ⟨hNodup, ?_, fun hBuiltIn => ?_⟩
      · show Prepared.Refers _ _ parameters.keys
        rw [hPlaceholders]
        exact .rows select parameters
      · have hPlain : select.IsPlain := hSelect.isPlain (by decide : "p_" ≠ "")
          (Query.all_isBuiltIn_filter hBuiltIn) hBuiltIn select rfl
        refine ⟨_, spells_ofRows settings.tags parameters hPlain, ?_⟩
        show (placeholders select.lexemes).Perm parameters.keys
        rw [hPlaceholders]
        exact select.placeholders_lexemes

/-- Without aggregates there is no aggregate statement, and nothing is bound for it. -/
theorem Query.parameters_of_compileTotals_none {surroundings : Surroundings} {table : TableName}
    {scope : Scope} {query : Query} {parameters : Parameters}
    (h : query.compileTotals surroundings table scope = .ok (none, parameters)) :
    parameters = [] := by
  by_cases hNone : query.aggregateList = []
  · have hEmpty : query.aggregateList.isEmpty = true := by simp [hNone]
    unfold compileTotals at h
    obtain ⟨_, -, h⟩ := Compiled.bind_eq_ok.1 h
    rw [if_pos hEmpty] at h
    exact (Prod.mk.inj (Except.ok.inj h)).2.symm
  · rw [compileTotals_eq hNone] at h
    obtain ⟨_, -, h⟩ := Compiled.bind_eq_ok.1 h
    obtain ⟨_, -, h⟩ := Compiled.bind_eq_ok.1 h
    obtain ⟨_, -, h⟩ := Compiled.bind_eq_ok.1 h
    obtain ⟨_, -, h⟩ := Compiled.bind_eq_ok.1 h
    cases (Prod.mk.inj (Except.ok.inj h)).1

theorem Request.isReady_totals (h : request.compile config settings = .ok compiled) :
    compiled.totals.IsReady settings.tags request.query.isBuiltIn := by
  obtain ⟨rows, -, h⟩ := Compiled.bind_eq_ok.1 h
  obtain ⟨totals, hTotals, h⟩ := Compiled.bind_eq_ok.1 h
  obtain ⟨⟨select, parameters⟩, hSelect, hPrepared⟩ := Compiled.bind_eq_ok.1 hTotals
  obtain rfl := Except.ok.inj h
  obtain rfl := Except.ok.inj hPrepared
  cases select with
  | none =>
      obtain rfl := Query.parameters_of_compileTotals_none hSelect
      exact ⟨List.nodup_nil, .none, fun _ => ⟨[], rfl, .nil⟩⟩
  | some select =>
      obtain ⟨hAggregates, condition, order, hFilter, hItems, -, hRows⟩ :=
        Query.compileTotals_ok_some hSelect
      have hCondition : select.rows.condition = condition := by rw [hRows]; rfl
      have hCompiles := Filter.compileOption_ok hFilter
      have hPlaceholders : parameters.keys = select.rows.placeholders := by
        rw [hCompiles.binds.keys_eq, flatMap_parameters_bound, RowSet.placeholders, hCondition,
          List.flatMap_map]
      refine ⟨hCompiles.binds.nodup_keys List.nodup_nil, ?_, fun hBuiltIn => ?_⟩
      · show Prepared.Refers _ _ parameters.keys
        rw [hPlaceholders]
        exact .totals select parameters
      · have hFilters : request.query.filter.toList.all Filter.isBuiltIn := by
          have hAll := Query.all_isBuiltIn_filter hBuiltIn
          cases hOwn : request.query.filter with
          | none => rfl
          | some own => simpa [hOwn] using hAll
        have hPlain : select.IsPlain := by
          refine ⟨compileAggregates_ne_nil hAggregates hItems, fun found hFound => ?_⟩
          rw [hCondition] at hFound
          exact hCompiles.isPlain (by decide : "p_" ≠ "") hFilters found
            (Option.mem_toList.2 hFound)
        refine ⟨_, spells_ofTotals settings.tags parameters hPlain, ?_⟩
        show (placeholders select.lexemes).Perm parameters.keys
        rw [hPlaceholders, select.placeholders_lexemes]

end Compiled

/-! ## There and back -/

namespace Cluster

/-- The body of the request that a statement becomes, if its URL is one. -/
theorem json_of_request_query {params : Params} {statement context : String}
    {parameters : Parameters} {sent : ServiceRequest}
    (h : request params (.query statement parameters context) = .ok sent) :
    sent.json = some (statementBody statement parameters context) := by
  have hBind : (serviceUrl params.queryUrl ["query", "service"]).map (fun url =>
      (⟨"POST", url, params.authorization, some (statementBody statement parameters context)⟩ :
        ServiceRequest)) = .ok sent := h
  cases hUrl : serviceUrl params.queryUrl ["query", "service"] with
  | error error =>
      rw [hUrl] at hBind
      cases hBind
  | ok url =>
      rw [hUrl] at hBind
      obtain rfl := Except.ok.inj hBind
      rfl

/-- A statement is sent with all that it refers to, and what comes back is taken for what it
says. -/
theorem exchange_query :
    (∀ (params : Params) (statement context : String) (parameters : Parameters)
      (sent : ServiceRequest), parameters.keys.Nodup →
      request params (.query statement parameters context) = .ok sent →
        sent.json = some (.object (("statement", .string statement) ::
          ("query_context", .string context) ::
            parameters.map fun parameter => ("$" ++ parameter.1, parameter.2))) ∧
        (statementMembers statement parameters context).keys.Nodup) ∧
    (∀ (request : Request) (config : Config) (settings : Settings) (compiled : CompiledRequest),
      request.compile config settings = .ok compiled →
        ∀ statement ∈ [compiled.rows, compiled.totals],
          statement.IsReady settings.tags request.query.isBuiltIn ∧
          ∀ name ∈ statement.parameters.keys, ∃ value,
            statement.parameters.lookup name = some value ∧
            (statementBody statement.text statement.parameters config.context).member?
              ("$" ++ name) = some value) ∧
    ∀ (statement context : String) (parameters : Parameters) (reply : ServiceReply) (value : Json)
      (result : Except StoreError (List Json)), Json.ofText? reply.body = some value →
        (answer (.query statement parameters context) reply = result ↔
          StatementReply.Means value result) := by
  refine ⟨?_, ?_, ?_⟩
  · intro params statement context parameters sent hNodup hSent
    rw [json_of_request_query hSent, statementBody_eq hNodup]
    exact ⟨rfl, nodup_keys_statementMembers hNodup statement context⟩
  · intro request config settings compiled hCompile statement hStatement
    have hReady : statement.IsReady settings.tags request.query.isBuiltIn := by
      rcases List.mem_cons.1 hStatement with rfl | hStatement
      · exact Request.isReady_rows hCompile
      · obtain rfl := List.mem_singleton.1 hStatement
        exact Request.isReady_totals hCompile
    refine ⟨hReady, fun name hName => ?_⟩
    obtain ⟨⟨name, value⟩, hBound, rfl⟩ := List.mem_map.1 hName
    exact ⟨value, lookup_eq_some_of_mem hReady.nodup hBound,
      member?_statementBody hReady.nodup statement.text config.context hBound⟩
  · intro statement context parameters reply value result hBody
    exact answer_query_eq_iff (ServiceReply.value_eq_ok_iff.2 (.inl hBody))

theorem exchange_query_tangled :
    (∃ sent, request ⟨"http://db:8093", "http://db:8091", "admin", "secret"⟩
        (.query "SELECT $statement" [("statement", .nat 1)] "default:\x60b\x60") = .ok sent ∧
      sent.json = some (.object [("statement", .string "SELECT $statement"),
        ("query_context", .string "default:\x60b\x60"), ("$statement", .nat 1)])) ∧
    (∃ compiled, tangledRequest.compile bucketConfig {} = .ok compiled ∧
      ∃ value, compiled.rows.parameters.lookup "p_f_and_or_a_b" = some value ∧
        (statementBody compiled.rows.text compiled.rows.parameters bucketConfig.context).member?
          "$p_f_and_or_a_b" = some value) ∧
    ∃ value, Json.ofText? "\x7b\"errors\":[\x7b\"code\":9\x7d]\x7d" = some value ∧
      StatementReply.Means value (answer (.query "SELECT 1" [] "default:\x60b\x60")
        ⟨503, "\x7b\"errors\":[\x7b\"code\":9\x7d]\x7d"⟩) := by
  refine ⟨?_, ?_, ?_⟩
  · have hSent : (request ⟨"http://db:8093", "http://db:8091", "admin", "secret"⟩
        (.query "SELECT $statement" [("statement", .nat 1)]
          "default:\x60b\x60")).toOption.isSome = true := by
      decide +kernel
    cases hRequest : request ⟨"http://db:8093", "http://db:8091", "admin", "secret"⟩
        (.query "SELECT $statement" [("statement", .nat 1)] "default:\x60b\x60") with
    | error error =>
        rw [hRequest] at hSent
        cases hSent
    | ok sent => exact ⟨sent, rfl, (exchange_query.1 _ _ _ _ _ (by decide) hRequest).1⟩
  · obtain ⟨compiled, hCompile, hKey⟩ : ∃ compiled,
        tangledRequest.compile bucketConfig {} = .ok compiled ∧
          "p_f_and_or_a_b" ∈ Entries.keys compiled.rows.parameters := ⟨_, rfl, by decide⟩
    exact ⟨compiled, hCompile,
      (exchange_query.2.1 _ _ _ _ hCompile _ List.mem_cons_self).2 _ hKey⟩
  · have hBody : (Json.ofText? "\x7b\"errors\":[\x7b\"code\":9\x7d]\x7d").isSome = true := by
      decide +kernel
    obtain ⟨value, hValue⟩ := Option.isSome_iff_exists.1 hBody
    exact ⟨value, hValue, (exchange_query.2.2 _ _ _ ⟨503, _⟩ value _ hValue).1 rfl⟩

end Cluster

end N1qlConnector
