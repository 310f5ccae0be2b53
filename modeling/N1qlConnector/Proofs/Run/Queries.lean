import N1qlConnector.Proofs.Run.Asking

/-!
# What a request asks of a store

Running a request, followed against a store of which nothing is known. `Request.Serves` says for
each way in which a run can go which calls it makes and how it ends, and a run does that and nothing
else.

The length of statements is checked once, before the row statement is sent. What the limit achieves
is stated apart: it keeps long row statements from the store, and with them their aggregate
statements, but it says nothing of an aggregate statement that is the longer one of the two.

## Main results

* `Request.runWith_iff` : what a run does, against every store.
* `CompiledRequest.limitedTo` : what a limit on the length of statements is good for.
-/

namespace N1qlConnector

open Statement

/-! ## Runs -/

/-- A row statement has no more characters than allowed. -/
def Settings.Allows (settings : Settings) (statement : Prepared) : Prop :=
  ∀ limit ∈ settings.queryLengthLimit, statement.text.length ≤ limit

/-- What a request is answered with: all rows that the store found, each with a place for every
name, and the first row of its answer to the aggregate statement. -/
def QueryResponse.ofAnswers (names : List String) (rows totals : List Json) : QueryResponse where
  rows := rows.map fun row => (Row.ofJson row).shape names
  aggregates := totals.head?.map Row.ofJson

/-- How the statements of a request fare with a store that has got certain calls before: which calls
are made, and what comes of them. -/
inductive CompiledRequest.Serves (compiled : CompiledRequest) (config : Config)
    (settings : Settings) (names : List String) (store : Store) (history : List Call) :
    List Call → Except Failure QueryResponse → Prop
  | tooLong {limit : Nat} (hLimit : settings.queryLengthLimit = some limit)
      (hLength : limit < compiled.rows.text.length) :
      Serves compiled config settings names store history []
        (.error (.queryTooLong compiled.rows.text.length limit))
  | rowsFailed {made : List Call} {error : StoreError} (hAllowed : settings.Allows compiled.rows)
      (hRows : compiled.rows.Asked store config.context history made (.error error)) :
      Serves compiled config settings names store history made (.error (.ofStoreError error))
  | totalsFailed {made counted : List Call} {rows : List Json} {error : StoreError}
      (hAllowed : settings.Allows compiled.rows)
      (hRows : compiled.rows.Asked store config.context history made (.ok rows))
      (hTotals : compiled.totals.Asked store config.context (history ++ made) counted
        (.error error)) :
      Serves compiled config settings names store history (made ++ counted)
        (.error (.ofStoreError error))
  | answered {made counted : List Call} {rows totals : List Json}
      (hAllowed : settings.Allows compiled.rows)
      (hRows : compiled.rows.Asked store config.context history made (.ok rows))
      (hTotals : compiled.totals.Asked store config.context (history ++ made) counted
        (.ok totals)) :
      Serves compiled config settings names store history (made ++ counted)
        (.ok (.ofAnswers names rows totals))

/-- How a request fares. One that cannot be compiled never gets as far as the store. -/
inductive Request.Serves (request : Request) (config : Config) (settings : Settings)
    (store : Store) (history : List Call) : List Call → Except Failure QueryResponse → Prop
  | uncompiled {cause : CompileError} (h : request.compile config settings = .error cause) :
      Serves request config settings store history [] (.error (.compile cause))
  | compiled {compiled : CompiledRequest} {made : List Call}
      {result : Except Failure QueryResponse}
      (h : request.compile config settings = .ok compiled)
      (hServes : compiled.Serves config settings (request.query.fieldList.map Prod.fst) store
        history made result) :
      Serves request config settings store history made result

section Length

variable {settings : Settings} {statement : Prepared}

theorem Settings.allows_or (settings : Settings) (statement : Prepared) :
    settings.Allows statement ∨
      ∃ limit, settings.queryLengthLimit = some limit ∧ limit < statement.text.length := by
  unfold Allows
  cases settings.queryLengthLimit with
  | none => simp
  | some limit => simpa using (Nat.lt_or_ge limit statement.text.length).symm

theorem Settings.runWith_checkLength_of_allows (h : settings.Allows statement) (store : Store)
    (trace : Trace) : (settings.checkLength statement).runWith store trace = (.ok (), trace) := by
  unfold checkLength
  cases hLimit : settings.queryLengthLimit with
  | none => rfl
  | some limit =>
      simp only [if_neg (Nat.not_lt.2 (h limit hLimit))]
      rfl

theorem Settings.runWith_checkLength_of_lt {limit : Nat}
    (hLimit : settings.queryLengthLimit = some limit) (h : limit < statement.text.length)
    (store : Store) (trace : Trace) :
    (settings.checkLength statement).runWith store trace =
      (.error (.queryTooLong statement.text.length limit), trace) := by
  simp only [checkLength, hLimit, if_pos h]
  rfl

end Length

/-- The same run with one step for each statement, whether it is empty or not. -/
theorem CompiledRequest.run_eq (compiled : CompiledRequest) (config : Config)
    (settings : Settings) (names : List String) :
    compiled.run config settings names = (do
      settings.checkLength compiled.rows
      let rows ← execute config compiled.rows.text compiled.rows.parameters
      let totals ← execute config compiled.totals.text compiled.totals.parameters
      pure (.ofAnswers names rows totals)) := by
  have hAnswer (rows totals : List Json) :
      QueryResponse.shape names (rows.map Row.ofJson) (totals.head?.map Row.ofJson) =
        .ofAnswers names rows totals := by
    rw [QueryResponse.shape, List.map_map]
    rfl
  unfold run
  by_cases hEmpty : compiled.totals.isEmpty = true
  · have hNothing : execute config compiled.totals.text compiled.totals.parameters = pure [] :=
      if_pos hEmpty
    simp only [if_pos hEmpty, hNothing, pure_bind, ← hAnswer]
    rfl
  · simp only [if_neg hEmpty, pure_bind, hAnswer]

section Runs

variable {compiled : CompiledRequest} {request : Request} {config : Config} {settings : Settings}
  {names : List String} {store : Store} {trace : Trace} {made : List Call}
  {result : Except Failure QueryResponse}

theorem CompiledRequest.Serves.runWith
    (h : compiled.Serves config settings names store trace.calls made result) :
    (compiled.run config settings names).runWith store trace = (result, trace.after made) := by
  rw [CompiledRequest.run_eq]
  cases h with
  | tooLong hLimit hLength =>
      have hCheck := Settings.runWith_checkLength_of_lt hLimit hLength store trace
      rw [Attempt.runWith_bind_error hCheck, Trace.after_nil]
  | rowsFailed hAllowed hRows =>
      have hCheck := Settings.runWith_checkLength_of_allows hAllowed store trace
      rw [Attempt.runWith_bind_ok hCheck, Attempt.runWith_bind_error (hRows.runWith trace)]
  | totalsFailed hAllowed hRows hTotals =>
      have hCheck := Settings.runWith_checkLength_of_allows hAllowed store trace
      rw [Attempt.runWith_bind_ok hCheck, Attempt.runWith_bind_ok (hRows.runWith trace),
        Attempt.runWith_bind_error (hTotals.runWith (trace.after _)), Trace.after_after]
  | answered hAllowed hRows hTotals =>
      have hCheck := Settings.runWith_checkLength_of_allows hAllowed store trace
      rw [Attempt.runWith_bind_ok hCheck, Attempt.runWith_bind_ok (hRows.runWith trace),
        Attempt.runWith_bind_ok (hTotals.runWith (trace.after _)), Attempt.runWith_pure,
        Trace.after_after]

theorem CompiledRequest.exists_serves (compiled : CompiledRequest) (config : Config)
    (settings : Settings) (names : List String) (store : Store) (history : List Call) :
    ∃ made result, compiled.Serves config settings names store history made result := by
  rcases settings.allows_or compiled.rows with hAllowed | ⟨limit, hLimit, hLength⟩
  · obtain ⟨made, answer, hRows⟩ := compiled.rows.exists_asked store config.context history
    cases answer with
    | error error => exact ⟨_, _, .rowsFailed hAllowed hRows⟩
    | ok rows =>
        obtain ⟨counted, answer, hTotals⟩ :=
          compiled.totals.exists_asked store config.context (history ++ made)
        cases answer with
        | error error => exact ⟨_, _, .totalsFailed hAllowed hRows hTotals⟩
        | ok totals => exact ⟨_, _, .answered hAllowed hRows hTotals⟩
  · exact ⟨_, _, .tooLong hLimit hLength⟩

/-- What is compiled is run as `CompiledRequest.Serves` says, whatever the store does. -/
theorem CompiledRequest.runWith_eq_iff {final : Trace} :
    (compiled.run config settings names).runWith store trace = (result, final) ↔
      ∃ made, compiled.Serves config settings names store trace.calls made result ∧
        final = trace.after made := by
  constructor
  · intro h
    obtain ⟨made, result', hServes⟩ :=
      compiled.exists_serves config settings names store trace.calls
    obtain ⟨rfl, rfl⟩ := Prod.mk.inj (hServes.runWith.symm.trans h)
    exact ⟨made, hServes, rfl⟩
  · rintro ⟨made, hServes, rfl⟩
    exact hServes.runWith

/-- A request is run as `Request.Serves` says, whatever the store does. -/
theorem Request.runWith_iff (request : Request) (config : Config) (settings : Settings)
    (store : Store) (trace final : Trace) (result : Except Failure QueryResponse) :
    (request.run config settings).runWith store trace = (result, final) ↔
      ∃ made, request.Serves config settings store trace.calls made result ∧
        final = trace.after made := by
  unfold run
  cases hCompiled : request.compile config settings with
  | error cause =>
      constructor
      · intro h
        obtain ⟨rfl, rfl⟩ := Prod.mk.inj h
        exact ⟨[], .uncompiled hCompiled, trace.after_nil.symm⟩
      · rintro ⟨made, hServes, rfl⟩
        cases hServes with
        | uncompiled hCause =>
            obtain rfl := Except.error.inj (hCompiled.symm.trans hCause)
            rw [Trace.after_nil]
            rfl
        | compiled hOther _ => cases hCompiled.symm.trans hOther
  | ok compiled =>
      refine Iff.trans CompiledRequest.runWith_eq_iff (exists_congr fun made => ?_)
      refine and_congr_left fun _ => ⟨.compiled hCompiled, fun hServes => ?_⟩
      cases hServes with
      | uncompiled hCause => cases hCompiled.symm.trans hCause
      | compiled hOther hServes =>
          obtain rfl := Except.ok.inj (hCompiled.symm.trans hOther)
          exact hServes

end Runs

/-! ## The limit on the length of statements -/

/-- All statements among some calls are at most so long. -/
def StatementsWithin (limit : Nat) (made : List Call) : Prop :=
  ∀ statement parameters context, Call.query statement parameters context ∈ made →
    statement.length ≤ limit

/-- What a limit does for the statements of a request. -/
structure CompiledRequest.LimitedTo (compiled : CompiledRequest) (limit : Nat) (config : Config)
    (settings : Settings) (names : List String) : Prop where
  /-- A row statement over the limit ends a run before anything is sent, be the aggregate statement
  as short as it may. -/
  tooLong : limit < compiled.rows.text.length → ∀ (store : Store) (trace : Trace),
    (compiled.run config settings names).runWith store trace =
      (.error (.queryTooLong compiled.rows.text.length limit), trace)
  /-- No run ends so for another reason. -/
  onlyTooLong : ∀ (store : Store) (trace : Trace) (actual other : Nat),
    ((compiled.run config settings names).runWith store trace).1 =
        .error (.queryTooLong actual other) →
      limit < compiled.rows.text.length ∧ actual = compiled.rows.text.length ∧ other = limit
  /-- No store is ever sent a statement over the limit just in case the row statement is over it or
  the aggregate statement is not. -/
  statementsWithin : (∀ (store : Store) (trace : Trace) (made : List Call)
      (result : Except Failure QueryResponse),
      (compiled.run config settings names).runWith store trace = (result, trace.after made) →
        StatementsWithin limit made) ↔
    limit < compiled.rows.text.length ∨ compiled.totals.text.length ≤ limit

theorem Failure.ofStoreError_ne_queryTooLong (error : StoreError) (actual limit : Nat) :
    ofStoreError error ≠ queryTooLong actual limit := by
  unfold ofStoreError
  split <;> exact Failure.noConfusion

/-- A store that finds nothing and never fails. -/
def Store.vacant : Store := fun _ call =>
  match call with
  | .query .. => .ok []
  | .listScopes _ => .ok []
  | .ping => .ok ()
  | .diagnostics => .ok .null

section Limits

variable {compiled : CompiledRequest} {config : Config} {settings : Settings}
  {names : List String} {store : Store} {history made : List Call}
  {result : Except Failure QueryResponse}

/-- Whatever is sent is one of the two statements, and only if the row statement is short enough. -/
theorem CompiledRequest.Serves.mem
    (h : compiled.Serves config settings names store history made result) {call : Call}
    (hMem : call ∈ made) :
    settings.Allows compiled.rows ∧
      (call = compiled.rows.call config.context ∨ call = compiled.totals.call config.context) := by
  cases h with
  | tooLong _ _ => exact absurd hMem List.not_mem_nil
  | rowsFailed hAllowed hRows => exact ⟨hAllowed, .inl (hRows.eq_call hMem)⟩
  | totalsFailed hAllowed hRows hTotals | answered hAllowed hRows hTotals =>
      refine ⟨hAllowed, ?_⟩
      rcases List.mem_append.1 hMem with hMem | hMem
      · exact .inl (hRows.eq_call hMem)
      · exact .inr (hTotals.eq_call hMem)

/-- A run that ends with a statement being too long has met the limit at the row statement. -/
theorem CompiledRequest.Serves.eq_of_queryTooLong {actual limit : Nat}
    (h : compiled.Serves config settings names store history made result)
    (hResult : result = .error (.queryTooLong actual limit)) :
    settings.queryLengthLimit = some limit ∧ limit < compiled.rows.text.length ∧
      actual = compiled.rows.text.length := by
  cases h with
  | tooLong hLimit hLength =>
      obtain ⟨rfl, rfl⟩ := Failure.queryTooLong.inj (Except.error.inj hResult)
      exact ⟨hLimit, hLength, rfl⟩
  | rowsFailed _ _ | totalsFailed _ _ _ =>
      exact absurd (Except.error.inj hResult) (Failure.ofStoreError_ne_queryTooLong _ _ _)
  | answered _ _ _ => cases hResult

/-- A store that never fails is sent every statement that is not empty. -/
theorem CompiledRequest.exists_serves_vacant (compiled : CompiledRequest) (config : Config)
    (names : List String) (hAllowed : settings.Allows compiled.rows)
    (hTotals : compiled.totals.text ≠ "") :
    ∃ made result, compiled.Serves config settings names .vacant [] made result ∧
      compiled.totals.call config.context ∈ made := by
  obtain ⟨made, hRows⟩ :
      ∃ made, compiled.rows.Asked .vacant config.context [] made (.ok []) := by
    by_cases h : compiled.rows.text = ""
    · exact ⟨_, .unsent h⟩
    · exact ⟨_, .sent h⟩
  exact ⟨_, _, .answered hAllowed hRows (.sent hTotals),
    List.mem_append_right _ (List.mem_singleton_self _)⟩

end Limits

/-- What a limit on the length of statements is good for. -/
theorem CompiledRequest.limitedTo (compiled : CompiledRequest) (limit : Nat) (config : Config)
    (debuggingTags : Bool) (names : List String) :
    compiled.LimitedTo limit config ⟨debuggingTags, some limit⟩ names := by
  let settings : Settings := ⟨debuggingTags, some limit⟩
  have hAllowed : settings.Allows compiled.rows ↔ compiled.rows.text.length ≤ limit := by
    simp [Settings.Allows, settings]
  constructor
  · intro hLength store trace
    have hServes : compiled.Serves config settings names store trace.calls [] _ :=
      .tooLong rfl hLength
    rw [hServes.runWith, Trace.after_nil]
  · intro store trace actual other h
    obtain ⟨made, hServes, -⟩ := CompiledRequest.runWith_eq_iff.1 (Prod.ext h rfl)
    obtain ⟨hLimit, hLength, hActual⟩ := hServes.eq_of_queryTooLong rfl
    obtain rfl := Option.some.inj hLimit
    exact ⟨hLength, hActual, rfl⟩
  · constructor
    · intro h
      rcases Nat.lt_or_ge limit compiled.rows.text.length with hLength | hLength
      · exact .inl hLength
      refine .inr (Nat.le_of_not_lt fun hLong => ?_)
      have hTotals : compiled.totals.text ≠ "" := by
        intro hEmpty
        simp [hEmpty] at hLong
      obtain ⟨made, result, hServes, hMem⟩ :=
        compiled.exists_serves_vacant config names (hAllowed.2 hLength) hTotals
      have hWithin := h .vacant .empty made result hServes.runWith
      exact Nat.not_lt.2 (hWithin _ _ _ hMem) hLong
    · intro hLengths store trace made result h statement parameters context hMem
      obtain ⟨made', hServes, hTrace⟩ := CompiledRequest.runWith_eq_iff.1 h
      obtain rfl := Trace.after_inj.1 hTrace
      obtain ⟨hRows, hCall⟩ := hServes.mem hMem
      have hShort : compiled.rows.text.length ≤ limit := hAllowed.1 hRows
      have hTotals := hLengths.resolve_left (Nat.not_lt.2 hShort)
      rcases hCall with hCall | hCall
      · obtain ⟨rfl, -, -⟩ := Call.query.inj hCall
        exact hShort
      · obtain ⟨rfl, -, -⟩ := Call.query.inj hCall
        exact hTotals

end N1qlConnector
