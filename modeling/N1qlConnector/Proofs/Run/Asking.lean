import N1qlConnector.Run

/-!
# Asking a store, one statement at a time

An attempt is a chain of steps. It ends at the first step that fails, and what a store was asked by
then stays in the trace. To follow a chain it is enough to know of each step how it ends and which
calls it makes; `runWith_bind_ok` and `runWith_bind_error` put two steps together.

All that is known of a store is that it answers, so its answers cannot be computed but only named.
`Prepared.Asked` relates the calls that are made for one statement to the answer: none and no rows
for an empty statement, one and whatever the store says for any other.

## Main results

* `Prepared.Asked.runWith` : what `execute` does with a statement.
-/

namespace N1qlConnector

open Statement

/-- A trace after further calls, all of which ran statements. -/
def Trace.after (trace : Trace) (made : List Call) : Trace :=
  ⟨trace.calls ++ made, trace.timed + made.length⟩

namespace Trace

@[simp] theorem after_nil (trace : Trace) : trace.after [] = trace := by
  simp [after]

@[simp] theorem after_after (trace : Trace) (made more : List Call) :
    (trace.after made).after more = trace.after (made ++ more) := by
  simp [after, Nat.add_assoc]

/-- What was done since is told by the trace. -/
theorem after_inj {trace : Trace} {made more : List Call} :
    trace.after made = trace.after more ↔ made = more := by
  constructor
  · intro h
    have hCalls : (trace.after made).calls = (trace.after more).calls := by rw [h]
    exact List.append_cancel_left hCalls
  · rintro rfl
    rfl

end Trace

/-! ## Chains of steps -/

namespace Session

variable {α β : Type} {store : Store} {trace : Trace}

@[simp] theorem runWith_pure (value : α) :
    runWith (pure value) store trace = (value, trace) := rfl

theorem runWith_bind (first : Session α) (next : α → Session β) (store : Store) (trace : Trace) :
    runWith (first >>= next) store trace =
      runWith (next (runWith first store trace).1) store (runWith first store trace).2 := rfl

theorem runWith_map (f : α → β) (session : Session α) (store : Store) (trace : Trace) :
    runWith (f <$> session) store trace =
      (f (runWith session store trace).1, (runWith session store trace).2) := rfl

theorem runWith_call (made : Call) (store : Store) (trace : Trace) :
    runWith (call made) store trace =
      (store trace.calls made, ⟨trace.calls ++ [made], trace.timed⟩) := rfl

end Session

namespace Attempt

variable {α β : Type} {store : Store} {trace middle : Trace} {first : Attempt α}

@[simp] theorem runWith_pure (value : α) :
    (pure value : Attempt α).runWith store trace = (.ok value, trace) := rfl

theorem runWith_bind (first : Attempt α) (next : α → Attempt β) (store : Store) (trace : Trace) :
    (first >>= next).runWith store trace =
      match first.runWith store trace with
      | (.ok value, middle) => (next value).runWith store middle
      | (.error failure, middle) => (.error failure, middle) := by
  show ExceptT.bindCont next (first.runWith store trace).1 store (first.runWith store trace).2 = _
  rcases first.runWith store trace with ⟨_ | _, _⟩ <;> rfl

/-- An error that a store reports is a failure, and its answer is an answer. -/
theorem runWith_ofAnswer (answer : Session (Except StoreError α)) (store : Store) (trace : Trace) :
    (ofAnswer answer).runWith store trace =
      ((answer.runWith store trace).1.mapError .ofStoreError, (answer.runWith store trace).2) := by
  show Session.runWith (answer >>= _) store trace = _
  rw [Session.runWith_bind]
  rcases answer.runWith store trace with ⟨_ | _, _⟩ <;> rfl

/-- A session that knows of no failures. -/
theorem runWith_liftM (session : Session α) (store : Store) (trace : Trace) :
    (liftM session : Attempt α).runWith store trace =
      (.ok (Session.runWith session store trace).1, (Session.runWith session store trace).2) := rfl

/-- After a step that succeeds, the rest goes on from where it left the store. -/
theorem runWith_bind_ok {value : α} (h : first.runWith store trace = (.ok value, middle))
    (next : α → Attempt β) :
    (first >>= next).runWith store trace = (next value).runWith store middle := by
  rw [runWith_bind, h]

/-- A step that fails is the last one. -/
theorem runWith_bind_error {failure : Failure}
    (h : first.runWith store trace = (.error failure, middle)) (next : α → Attempt β) :
    (first >>= next).runWith store trace = (.error failure, middle) := by
  rw [runWith_bind, h]

end Attempt

/-! ## Statements -/

namespace Prepared

/-- The call that runs a statement. -/
def call (statement : Prepared) (context : String) : Call :=
  .query statement.text statement.parameters context

/-- What a store that has got certain calls before is asked for one statement, and what comes of it.
An empty statement has no rows and is not sent. -/
inductive Asked (statement : Prepared) (store : Store) (context : String) (history : List Call) :
    List Call → Except StoreError (List Json) → Prop
  | unsent (h : statement.text = "") : Asked statement store context history [] (.ok [])
  | sent (h : statement.text ≠ "") :
      Asked statement store context history [statement.call context]
        (store history (statement.call context))

variable {statement : Prepared} {store : Store} {context : String} {history : List Call}

/-- Whatever the statement and the store, something comes of it. -/
theorem exists_asked (statement : Prepared) (store : Store) (context : String)
    (history : List Call) : ∃ made answer, statement.Asked store context history made answer := by
  by_cases h : statement.text = ""
  · exact ⟨[], .ok [], .unsent h⟩
  · exact ⟨_, _, .sent h⟩

/-- Nothing is sent but the statement, verbatim, with its own parameters. -/
theorem Asked.eq_call {made : List Call} {answer : Except StoreError (List Json)}
    (h : statement.Asked store context history made answer) {call : Call} (hMem : call ∈ made) :
    call = statement.call context := by
  cases h with
  | unsent _ => exact absurd hMem List.not_mem_nil
  | sent _ => exact List.mem_singleton.1 hMem

end Prepared

/-- What `execute` does with a statement. -/
theorem Prepared.Asked.runWith {statement : Prepared} {store : Store} {config : Config}
    {made : List Call} {answer : Except StoreError (List Json)} (trace : Trace)
    (h : statement.Asked store config.context trace.calls made answer) :
    (execute config statement.text statement.parameters).runWith store trace =
      (answer.mapError .ofStoreError, trace.after made) := by
  unfold execute
  cases h with
  | unsent hEmpty =>
      rw [if_pos (String.isEmpty_iff.2 hEmpty), Trace.after_nil]
      rfl
  | sent hNe =>
      rw [if_neg (mt String.isEmpty_iff.1 hNe)]
      exact Attempt.runWith_ofAnswer ..

end N1qlConnector
