import N1qlConnector.Proofs.Run.Inference
import N1qlConnector.Proofs.Run.Plans

/-!
# What a store may do to an attempt

Whatever is attempted, a store can spoil it at any call, and then nothing else should come of it than
the store's error. Two properties of attempts say so and hold of every chain of steps that has them:
`Attempt.Surfaces`, of an attempt that ends with the first error of a call that matters to it and
makes no call after that, and `Attempt.Conduct`, of one that may also be refused before it makes any
call at all. What does not matter must not spoil an attempt either, which is `Attempt.Passes`.

Which calls matter is a parameter, since an inference that fails is passed over. A second parameter
bounds the calls that are made. Both are predicates on calls, and what is shown of a step for any
of them need not be shown again for a particular attempt.

## Main results

* `Attempt.Surfaces.bind` : two steps that surface errors do so one after the other.
* `Request.conduct_run`, `Request.conduct_explain`, `RawRequest.surfaces_run`,
  `Config.surfaces_inferSchema` : what each kind of request does with errors.
* `Config.passes_inferSchema` : the inference of tables succeeds once the scopes are listed.
-/

namespace N1qlConnector

open Statement

/-! ## Answers that are errors -/

/-- The error in an answer. -/
def StoreError.of? {α : Type} : Except StoreError α → Option StoreError
  | .error error => some error
  | .ok _ => none

/-- The error that a call is answered with, if it is. -/
def Call.error? : (call : Call) → call.Answer → Option StoreError
  | .query .., answer => StoreError.of? answer
  | .listScopes _, answer => StoreError.of? answer
  | .ping, answer => StoreError.of? answer
  | .diagnostics, answer => StoreError.of? answer

/-- The error that a store answers a call with, given the calls before. -/
def Store.error? (store : Store) (history : List Call) (call : Call) : Option StoreError :=
  call.error? (store history call)

/-- Of some calls made one after the other none fails that matters. -/
def Store.Spares (store : Store) (surfaced : Call → Prop) (history made : List Call) : Prop :=
  ∀ before call after, made = before ++ call :: after → surfaced call →
    store.error? (history ++ before) call = none

namespace Store

variable {store : Store} {surfaced : Call → Prop} {history made more : List Call} {call : Call}

theorem spares_nil (store : Store) (surfaced : Call → Prop) (history : List Call) :
    store.Spares surfaced history [] := by
  intro before call after hSplit
  exact absurd hSplit.symm (by simp)

theorem spares_singleton (h : store.error? history call = none) :
    store.Spares surfaced history [call] := by
  intro before other after hSplit _
  cases before with
  | nil =>
      obtain ⟨rfl, -⟩ := List.cons.inj hSplit
      rwa [List.append_nil]
  | cons first before => simp at hSplit

theorem spares_of_forall_not (h : ∀ call ∈ made, ¬surfaced call) :
    store.Spares surfaced history made := by
  rintro before call after rfl hSurfaced
  exact absurd hSurfaced (h call (List.mem_append_right _ List.mem_cons_self))

theorem Spares.append (h : store.Spares surfaced history made)
    (hMore : store.Spares surfaced (history ++ made) more) :
    store.Spares surfaced history (made ++ more) := by
  intro before call after hSplit hSurfaced
  rcases List.append_eq_append_iff.1 hSplit with ⟨front, rfl, hRest⟩ | ⟨front, hFront, hRest⟩
  · rw [← List.append_assoc]
    exact hMore front call after hRest hSurfaced
  cases front with
  | nil =>
      rw [List.append_nil] at hFront
      subst hFront
      have hFirst := hMore [] call after hRest.symm hSurfaced
      rwa [List.append_nil] at hFirst
  | cons first front =>
      obtain ⟨rfl, -⟩ := List.cons.inj hRest
      exact h before call front hFront hSurfaced

end Store

/-! ## Endings -/

/-- How some calls end an attempt: with a value, if none failed that matters, or at the one that
did, with its error. -/
inductive Store.Ends (store : Store) (surfaced : Call → Prop) (history : List Call) {α : Type} :
    List Call → Except Failure α → Prop
  | answered {made : List Call} {value : α} (h : store.Spares surfaced history made) :
      Ends store surfaced history made (.ok value)
  | failed {made : List Call} {call : Call} {error : StoreError}
      (h : store.Spares surfaced history made) (hSurfaced : surfaced call)
      (hError : store.error? (history ++ made) call = some error) :
      Ends store surfaced history (made ++ [call]) (.error (.ofStoreError error))

namespace Store.Ends

variable {α β : Type} {store : Store} {surfaced : Call → Prop} {history made : List Call}

/-- After calls that spared the attempt it ends as what comes after them does. -/
theorem prepend {more : List Call} {result : Except Failure α}
    (hFirst : store.Spares surfaced history made)
    (h : store.Ends surfaced (history ++ made) more result) :
    store.Ends surfaced history (made ++ more) result := by
  cases h with
  | answered hMore => exact .answered (hFirst.append hMore)
  | failed hMore hSurfaced hError =>
      rw [← List.append_assoc]
      refine .failed (hFirst.append hMore) hSurfaced ?_
      rwa [← List.append_assoc]

theorem map (f : α → β) {result : Except Failure α} (h : store.Ends surfaced history made result) :
    store.Ends surfaced history made (result.map f) := by
  cases h with
  | answered hSpares => exact .answered hSpares
  | failed hSpares hSurfaced hError => exact .failed hSpares hSurfaced hError

/-- A call that matters and fails is the last one, and its error is the result. -/
theorem eq_of_error {result : Except Failure α} {before after : List Call} {call : Call}
    {error : StoreError} (h : store.Ends surfaced history (before ++ call :: after) result)
    (hSurfaced : surfaced call) (hError : store.error? (history ++ before) call = some error) :
    after = [] ∧ result = .error (.ofStoreError error) := by
  generalize hMade : before ++ call :: after = made at h
  cases h with
  | answered hSpares =>
      cases (hSpares before call after hMade.symm hSurfaced).symm.trans hError
  | @failed made last _ hSpares _ hLast =>
      rcases List.eq_nil_or_concat after with rfl | ⟨middle, final, rfl⟩
      · obtain ⟨rfl, hCall⟩ := List.append_inj' hMade rfl
        obtain ⟨rfl, -⟩ := List.cons.inj hCall
        obtain rfl := Option.some.inj (hLast.symm.trans hError)
        exact ⟨rfl, rfl⟩
      · rw [List.concat_eq_append, ← List.cons_append, ← List.append_assoc] at hMade
        obtain ⟨rfl, -⟩ := List.append_inj' hMade rfl
        cases (hSpares before call middle rfl hSurfaced).symm.trans hError

end Store.Ends

/-! ## Attempts that surface errors -/

/-- An attempt makes allowed calls only and ends with the first error that matters. -/
def Attempt.Surfaces {α : Type} (attempt : Attempt α) (allowed surfaced : Call → Prop) : Prop :=
  ∀ store trace, ∃ made, (attempt.runWith store trace).2.calls = trace.calls ++ made ∧
    (∀ call ∈ made, allowed call) ∧
    store.Ends surfaced trace.calls made (attempt.runWith store trace).1

/-- A failure that lies with the request. -/
inductive Failure.IsRefusal : Failure → Prop
  | compile (cause : CompileError) : IsRefusal (.compile cause)
  | queryTooLong (actual limit : Nat) : IsRefusal (.queryTooLong actual limit)

/-- An attempt is refused whatever the store, and makes no call, or it surfaces errors. -/
inductive Attempt.Conduct {α : Type} (attempt : Attempt α) (allowed surfaced : Call → Prop) : Prop
  | refuses {failure : Failure} (hRefusal : failure.IsRefusal)
      (h : ∀ store trace, attempt.runWith store trace = (.error failure, trace))
  | surfaces (h : attempt.Surfaces allowed surfaced)

/-- An attempt that makes a call whose error does not matter succeeds in the end. -/
def Attempt.Passes {α : Type} (attempt : Attempt α) (surfaced : Call → Prop) : Prop :=
  ∀ store trace made, (attempt.runWith store trace).2.calls = trace.calls ++ made →
    ∀ call ∈ made, ¬surfaced call → ∃ value, (attempt.runWith store trace).1 = .ok value

namespace Attempt

variable {α β : Type} {allowed surfaced : Call → Prop}

theorem Passes.of_forall {attempt : Attempt α} (h : ∀ call, surfaced call) :
    attempt.Passes surfaced := by
  intro store trace made hCalls call hMem hNot
  exact absurd (h call) hNot

theorem surfaces_pure (value : α) : (pure value : Attempt α).Surfaces allowed surfaced := by
  intro store trace
  refine ⟨[], (List.append_nil _).symm, fun call hMem => absurd hMem List.not_mem_nil, ?_⟩
  exact .answered (store.spares_nil surfaced trace.calls)

/-- One call, the error of which matters. -/
theorem surfaces_ofAnswer {answer : Session (Except StoreError α)} {call : Call}
    (hAllowed : allowed call) (hSurfaced : surfaced call)
    (hCalls : ∀ store trace, (answer.runWith store trace).2.calls = trace.calls ++ [call])
    (hError : ∀ store trace,
      store.error? trace.calls call = StoreError.of? (answer.runWith store trace).1) :
    (ofAnswer answer).Surfaces allowed surfaced := by
  intro store trace
  refine ⟨[call], ?_, fun other hMem => List.mem_singleton.1 hMem ▸ hAllowed, ?_⟩
  · rw [runWith_ofAnswer]
    exact hCalls store trace
  have hFound := hError store trace
  rw [runWith_ofAnswer]
  cases hAnswer : (answer.runWith store trace).1 with
  | ok value =>
      rw [hAnswer] at hFound
      exact .answered (Store.spares_singleton hFound)
  | error error =>
      rw [hAnswer] at hFound
      have hEnds := @Store.Ends.failed store surfaced trace.calls α [] call error
        (store.spares_nil _ _) hSurfaced (by rwa [List.append_nil])
      exact hEnds

/-- The calls of two steps come one after the other, and the second one is not taken after an
error. -/
theorem Surfaces.bind {first : Attempt α} {next : α → Attempt β}
    (hFirst : first.Surfaces allowed surfaced)
    (hNext : ∀ value, (next value).Surfaces allowed surfaced) :
    (first >>= next).Surfaces allowed surfaced := by
  intro store trace
  obtain ⟨made, hCalls, hAllowed, hEnds⟩ := hFirst store trace
  rw [runWith_bind]
  rcases hRun : first.runWith store trace with ⟨result, middle⟩
  rw [hRun] at hCalls hEnds
  cases hEnds with
  | failed hSpares hSurfaced hError => exact ⟨_, hCalls, hAllowed, .failed hSpares hSurfaced hError⟩
  | @answered made value hSpares =>
      obtain ⟨more, hMoreCalls, hMoreAllowed, hMoreEnds⟩ := hNext value store middle
      refine ⟨made ++ more, ?_, ?_, ?_⟩
      · rw [← List.append_assoc, ← hCalls]
        exact hMoreCalls
      · intro call hMem
        rcases List.mem_append.1 hMem with hMem | hMem
        · exact hAllowed call hMem
        · exact hMoreAllowed call hMem
      · rw [hCalls] at hMoreEnds
        exact hMoreEnds.prepend hSpares

/-- What is done with a value makes no calls. -/
theorem runWith_map (first : Attempt α) (f : α → β) (store : Store) (trace : Trace) :
    (first >>= fun value => pure (f value)).runWith store trace =
      ((first.runWith store trace).1.map f, (first.runWith store trace).2) := by
  rw [runWith_bind]
  rcases first.runWith store trace with ⟨_ | _, _⟩ <;> rfl

end Attempt

/-! ## The attempts of the connector -/

section Queries

variable {config : Config} {allowed surfaced : Call → Prop}
  (hAllowed : ∀ statement parameters, allowed (.query statement parameters config.context))
  (hSurfaced : ∀ call, surfaced call)

include hAllowed hSurfaced

theorem surfaces_execute (statement : String) (parameters : Parameters) :
    (execute config statement parameters).Surfaces allowed surfaced := by
  unfold execute
  split
  · exact Attempt.surfaces_pure []
  · exact Attempt.surfaces_ofAnswer (hAllowed statement parameters) (hSurfaced _) (fun _ _ => rfl)
      fun _ _ => rfl

/-- A request that is compiled and short enough runs up to the first error. -/
theorem CompiledRequest.conduct_run (compiled : CompiledRequest) (settings : Settings)
    (names : List String) : (compiled.run config settings names).Conduct allowed surfaced := by
  rw [run_eq]
  rcases settings.allows_or compiled.rows with hShort | ⟨limit, hLimit, hLength⟩
  · refine .surfaces fun store trace => ?_
    rw [Attempt.runWith_bind_ok (Settings.runWith_checkLength_of_allows hShort store trace)]
    have hRows := surfaces_execute hAllowed hSurfaced compiled.rows.text compiled.rows.parameters
    have hTotals := surfaces_execute hAllowed hSurfaced compiled.totals.text
      compiled.totals.parameters
    have hBoth := hRows.bind fun rows => hTotals.bind fun totals =>
      Attempt.surfaces_pure (QueryResponse.ofAnswers names rows totals)
    exact hBoth store trace
  · refine .refuses (.queryTooLong compiled.rows.text.length limit) fun store trace => ?_
    exact Attempt.runWith_bind_error
      (Settings.runWith_checkLength_of_lt hLimit hLength store trace) _

theorem Request.conduct_run (request : Request) (settings : Settings) :
    (request.run config settings).Conduct allowed surfaced := by
  unfold Request.run
  cases request.compile config settings with
  | error cause => exact .refuses (.compile cause) fun _ _ => rfl
  | ok compiled => exact compiled.conduct_run hAllowed hSurfaced settings _

theorem Prepared.surfaces_explainEach (statements : List Prepared) :
    (Prepared.explainEach config statements).Surfaces allowed surfaced := by
  induction statements with
  | nil => exact Attempt.surfaces_pure []
  | cons statement rest ih =>
      refine Attempt.Surfaces.bind ?_ fun plan => ih.bind fun plans => Attempt.surfaces_pure _
      unfold Prepared.explain
      split
      · exact Attempt.surfaces_pure []
      · exact (surfaces_execute hAllowed hSurfaced _ _).bind fun plan => Attempt.surfaces_pure _

theorem Request.conduct_explain (request : Request) (settings : Settings) :
    (request.explain config settings).Conduct allowed surfaced := by
  rw [Request.explain_eq]
  cases request.compile config settings with
  | error cause => exact .refuses (.compile cause) fun _ _ => rfl
  | ok compiled =>
      have hLines := Prepared.surfaces_explainEach hAllowed hSurfaced
        [compiled.rows, compiled.totals]
      exact .surfaces (hLines.bind fun lines => Attempt.surfaces_pure
        (ExplainResponse.mk (compiled.rows.text ++ " " ++ compiled.totals.text) ("" :: lines)))

theorem RawRequest.surfaces_run (request : RawRequest) :
    (request.run config).Surfaces allowed surfaced :=
  (surfaces_execute hAllowed hSurfaced _ _).bind fun _ => Attempt.surfaces_pure _

end Queries

section Tables

variable {config : Config} {allowed surfaced : Call → Prop}

/-- Only that the scopes cannot be listed ends the inference of tables. -/
theorem Config.surfaces_inferSchema (hAllowed : allowed (.listScopes config.bucket))
    (hInference : ∀ place, allowed (config.inference place))
    (hListing : surfaced (.listScopes config.bucket))
    (hPassed : ∀ place, ¬surfaced (config.inference place)) :
    config.inferSchema.Surfaces allowed surfaced := by
  intro store trace
  cases hScopes : store trace.calls (.listScopes config.bucket) with
  | error error =>
      rw [Config.runWith_inferSchema_of_error hScopes]
      refine ⟨[.listScopes config.bucket], rfl,
        fun call hMem => List.mem_singleton.1 hMem ▸ hAllowed, ?_⟩
      exact @Store.Ends.failed store surfaced trace.calls _ [] _ error (store.spares_nil _ _)
        hListing (by rw [List.append_nil]; exact congrArg StoreError.of? hScopes)
  | ok scopes =>
      obtain ⟨made, added, hInfers⟩ := config.exists_infers store
        (trace.calls ++ [.listScopes config.bucket]) [] (ScopeListing.pairs scopes)
      rw [hInfers.runWith_inferSchema hScopes]
      refine ⟨.listScopes config.bucket :: made, rfl, ?_, .answered ?_⟩
      · intro call hMem
        rcases List.mem_cons.1 hMem with rfl | hMem
        · exact hAllowed
        · obtain ⟨place, rfl⟩ := hInfers.eq_inference hMem
          exact hInference place
      · have hFirst : store.Spares surfaced trace.calls [.listScopes config.bucket] :=
          Store.spares_singleton (congrArg StoreError.of? hScopes)
        refine hFirst.append (Store.spares_of_forall_not fun call hMem => ?_)
        obtain ⟨place, rfl⟩ := hInfers.eq_inference hMem
        exact hPassed place

/-- Once the scopes are listed there are tables to answer with, whatever becomes of them. -/
theorem Config.passes_inferSchema (hListing : surfaced (.listScopes config.bucket)) :
    config.inferSchema.Passes surfaced := by
  intro store trace made hCalls call hMem hNot
  cases hScopes : store trace.calls (.listScopes config.bucket) with
  | error error =>
      rw [Config.runWith_inferSchema_of_error hScopes] at hCalls
      obtain rfl := List.append_cancel_left hCalls
      obtain rfl := List.mem_singleton.1 hMem
      exact absurd hListing hNot
  | ok scopes =>
      obtain ⟨_, _, hInfers⟩ := config.exists_infers store
        (trace.calls ++ [.listScopes config.bucket]) [] (ScopeListing.pairs scopes)
      exact ⟨_, congrArg Prod.fst (hInfers.runWith_inferSchema hScopes)⟩

end Tables

end N1qlConnector
